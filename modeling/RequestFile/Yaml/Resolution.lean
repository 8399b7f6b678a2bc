import RequestFile.Text.Digits

/-!
This module contains the scalars that a YAML reader takes for something else than text when they
stand without quotation marks: booleans, null, numbers in several bases and in sexagesimal places,
dates, and the two special keys.
-/

namespace RequestFile.Yaml

def isRun (p : Char → Bool) (text : List Char) : Bool :=
  !text.isEmpty && text.all p

def unsigned : List Char → List Char
  | '+' :: rest => rest
  | '-' :: rest => rest
  | text => text

def isDigitOrUnderscore (c : Char) : Bool :=
  c.isDigit || c == '_'

def isDigits : List Char → Bool
  | c :: rest => c.isDigit && rest.all isDigitOrUnderscore
  | [] => false

def isPositive : List Char → Bool
  | c :: rest => c.isDigit && c != '0' && rest.all isDigitOrUnderscore
  | [] => false

def isPlace : List Char → Bool
  | [a] => a.isDigit
  | [a, b] => '0' ≤ a && a ≤ '5' && b.isDigit
  | _ => false

def splitAt (separator : Char) : List Char → List (List Char)
  | [] => [[]]
  | c :: rest =>
    if c = separator then
      [] :: splitAt separator rest
    else
      match splitAt separator rest with
      | part :: parts => (c :: part) :: parts
      | [] => [[c]]

def isSexagesimal (isFirst : List Char → Bool) (text : List Char) : Bool :=
  match splitAt ':' text with
  | first :: place :: places => isFirst first && (place :: places).all isPlace
  | _ => false

def isInteger (text : List Char) : Bool :=
  let text := unsigned text
  let based :=
    match text with
    | '0' :: 'b' :: rest => isRun (fun c => c == '0' || c == '1' || c == '_') rest
    | '0' :: 'x' :: rest => isRun (fun c => Text.isHexadecimalDigit c || c == '_') rest
    | '0' :: rest => rest.all fun c => ('0' ≤ c && c ≤ '7') || c == '_'
    | _ => false
  based || isPositive text || isSexagesimal isPositive text

def isExponent : List Char → Bool
  | [] => true
  | e :: sign :: digits =>
    (e == 'e' || e == 'E') && (sign == '+' || sign == '-') && isRun Char.isDigit digits
  | _ => false

def isFloat (text : List Char) : Bool :=
  let whole := (unsigned text).takeWhile (· != '.')
  match (unsigned text).dropWhile (· != '.') with
  | [] => false
  | _ :: fraction =>
    let digits := fraction.takeWhile isDigitOrUnderscore
    let exponent := fraction.dropWhile isDigitOrUnderscore
    (isDigits whole && isExponent exponent)
      || (isSexagesimal isDigits whole && exponent.isEmpty)
      || (whole.isEmpty && unsigned text == text && isDigits digits && isExponent exponent)
      || (whole.isEmpty && ["inf", "Inf", "INF"].contains (String.ofList fraction))
      || (whole.isEmpty && unsigned text == text
        && ["nan", "NaN", "NAN"].contains (String.ofList fraction))

def dropDigits (least : Nat) (text : List Char) : Option (List Char) :=
  match text with
  | a :: b :: rest =>
    if a.isDigit && b.isDigit then some rest
    else if a.isDigit && least ≤ 1 then some (b :: rest)
    else none
  | [a] => if a.isDigit && least ≤ 1 then some [] else none
  | [] => none

def dropChar (c : Char) : List Char → Option (List Char)
  | d :: rest => if c = d then some rest else none
  | [] => none

def isOffset (text : List Char) : Bool :=
  match text.dropWhile fun c => c == ' ' || c == '\t' with
  | [] => text.isEmpty
  | ['Z'] => true
  | sign :: rest =>
    (sign == '+' || sign == '-') &&
      match dropDigits 1 rest with
      | none => false
      | some [] => true
      | some rest => ((dropChar ':' rest).bind (dropDigits 2)) == some []

def dropSeparator (text : List Char) : Option (List Char) :=
  match text with
  | c :: rest =>
    if c == 'T' || c == 't' then some rest
    else if c == ' ' || c == '\t' then
      some (rest.dropWhile fun c => c == ' ' || c == '\t')
    else none
  | [] => none

def isTimestamp (text : List Char) : Bool :=
  let year := ((dropDigits 2 text).bind (dropDigits 2)).bind (dropChar '-')
  let plain := ((year.bind (dropDigits 2)).bind (dropChar '-')).bind (dropDigits 2)
  -- Only with a time may months and days have a single digit.
  let timed := do
    let rest ← year
    let rest ← dropDigits 1 rest
    let rest ← dropChar '-' rest
    let rest ← dropDigits 1 rest
    let rest ← dropSeparator rest
    let rest ← dropDigits 1 rest
    let rest ← dropChar ':' rest
    let rest ← dropDigits 2 rest
    let rest ← dropChar ':' rest
    let rest ← dropDigits 2 rest
    match rest with
    | '.' :: fraction => return fraction.dropWhile Char.isDigit
    | rest => return rest
  plain == some [] || (timed.map isOffset).getD false

def readsAsText (text : List Char) : Bool :=
  let words := ["yes", "Yes", "YES", "no", "No", "NO", "true", "True", "TRUE", "false", "False",
    "FALSE", "on", "On", "ON", "off", "Off", "OFF", "", "~", "null", "Null", "NULL", "<<", "="]
  !(words.contains (String.ofList text) || isInteger text || isFloat text || isTimestamp text)

end RequestFile.Yaml
