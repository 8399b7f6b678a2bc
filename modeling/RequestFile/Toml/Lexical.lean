import RequestFile.Calendar
import RequestFile.Decimal.Limit
import RequestFile.Text.Digits
import RequestFile.Toml.Tree

/-!
This module contains the lexical elements of TOML: blank space and comments, keys, strings, numbers,
dates and times. A reader takes a text and gives what it read from the front together with the rest,
or nothing if the front is not what it reads. Where numbers are read there is a second way to fail.
-/

namespace RequestFile.Toml

abbrev Reader (α : Type) := List Char → Option (α × List Char)

def isBlank (c : Char) : Bool :=
  c == ' ' || c == '\t'

def isForbidden (c : Char) : Bool :=
  (c.toNat < 0x20 && c != '\t') || c.toNat == 0x7F

def skipBlank (text : List Char) : List Char :=
  text.dropWhile isBlank

def skipComment : List Char → Option (List Char)
  | '#' :: rest =>
    let comment := rest.takeWhile (· != '\n')
    if comment.any isForbidden then none else some (rest.dropWhile (· != '\n'))
  | text => some text

def skipFiller (text : List Char) : Option (List Char) :=
  go false text
where
  go (inComment : Bool) : List Char → Option (List Char)
    | [] => some []
    | c :: rest =>
      if inComment then
        if c == '\n' then go false rest
        else if isForbidden c then none
        else go true rest
      else if isBlank c || c == '\n' then go false rest
      else if c == '#' then go true rest
      else some (c :: rest)

def oneOf (p : Char → Bool) : Reader Char
  | c :: rest => if p c then some (c, rest) else none
  | [] => none

def dropWord (word text : List Char) : Option (List Char) :=
  word.isPrefixOf? text

def shortEscape? : Char → Option Char
  | 'b' => some '\x08'
  | 't' => some '\t'
  | 'n' => some '\n'
  | 'f' => some '\x0c'
  | 'r' => some '\r'
  | '"' => some '"'
  | '\\' => some '\\'
  | _ => none

def numberedChar? (digits : List Char) : Option Char :=
  let n := Text.ofDigits 16 digits
  if digits.all Text.isHexadecimalDigit && decide n.isValidChar then some (Char.ofNat n) else none

def spareMarks (mark : Char) : List Char → List Char × List Char
  | a :: b :: rest =>
    if a = mark then
      if b = mark then ([mark, mark], rest) else ([mark], b :: rest)
    else
      ([], a :: b :: rest)
  | [a] => if a = mark then ([mark], []) else ([], [a])
  | [] => ([], [])

/--
Read the rest of a string with escapes, after the opening marks. With `trimming`, blank space and
line ends are passed over because a backslash stood at the end of a line.
-/
def escapedRest (multiline : Bool) (text : List Char) : Option (List Char × List Char) :=
  go false text
where
  cons (c : Char) (read : Option (List Char × List Char)) : Option (List Char × List Char) :=
    read.map fun (value, rest) => (c :: value, rest)
  go (trimming : Bool) : List Char → Option (List Char × List Char)
    | [] => none
    | '"' :: rest =>
      if multiline then
        match rest with
        | '"' :: '"' :: rest => some (spareMarks '"' rest)
        | rest => cons '"' (go false rest)
      else
        some ([], rest)
    | '\\' :: 'u' :: a :: b :: c :: d :: rest =>
      (numberedChar? [a, b, c, d]).bind fun char => cons char (go false rest)
    | '\\' :: 'U' :: a :: b :: c :: d :: e :: f :: g :: h :: rest =>
      (numberedChar? [a, b, c, d, e, f, g, h]).bind fun char => cons char (go false rest)
    | '\\' :: c :: rest =>
      match shortEscape? c with
      | some char => cons char (go false rest)
      | none =>
        -- The backslash itself is dropped; what is passed over begins with `c`.
        if multiline && endsLine (c :: rest) then go true (c :: rest) else none
    | c :: rest =>
      if trimming && (isBlank c || c == '\n') then go true rest
      else if isForbidden c && !(multiline && c == '\n') then none
      else cons c (go false rest)
  endsLine (text : List Char) : Bool :=
    match skipBlank text with
    | [] => true
    | c :: _ => c == '\n'

def plainRest (text : List Char) : Option (List Char × List Char) :=
  let value := text.takeWhile (· != '\'')
  match text.dropWhile (· != '\'') with
  | _ :: rest => if value.any isForbidden then none else some (value, rest)
  | [] => none

def plainLinesRest : List Char → Option (List Char × List Char)
  | [] => none
  | '\'' :: '\'' :: '\'' :: rest => some (spareMarks '\'' rest)
  | c :: rest =>
    if isForbidden c && c != '\n' then none
    else (plainLinesRest rest).map fun (value, rest) => (c :: value, rest)

def skipFirstLineEnd : List Char → List Char
  | '\n' :: rest => rest
  | text => text

def anyString : Reader (List Char)
  | '"' :: '"' :: '"' :: rest => escapedRest true (skipFirstLineEnd rest)
  | '"' :: rest => escapedRest false rest
  | '\'' :: '\'' :: '\'' :: rest => plainLinesRest (skipFirstLineEnd rest)
  | '\'' :: rest => plainRest rest
  | _ => none

def isBareKeyChar (c : Char) : Bool :=
  c.isAlphanum || c == '-' || c == '_'

def keyPart : Reader String
  | '"' :: rest => (escapedRest false rest).map fun (value, rest) => (String.ofList value, rest)
  | '\'' :: rest => (plainRest rest).map fun (value, rest) => (String.ofList value, rest)
  | text =>
    let part := text.takeWhile isBareKeyChar
    if part.isEmpty then none else some (String.ofList part, text.dropWhile isBareKeyChar)

def key (text : List Char) : Option (Key × List Char) :=
  -- Each part takes at least one character.
  go text.length [] text
where
  go (fuel : Nat) (path : List String) (text : List Char) : Option (Key × List Char) :=
    match fuel with
    | 0 => none
    | fuel + 1 => do
      let (part, rest) ← keyPart text
      match skipBlank rest with
      | '.' :: rest => go fuel (path ++ [part]) (skipBlank rest)
      | rest => return (⟨path, part⟩, rest)

def digits (p : Char → Bool) : List Char → List Char × List Char
  | [] => ([], [])
  | c :: rest =>
    if p c then
      let (more, rest) := further p rest
      (c :: more, rest)
    else
      ([], c :: rest)
where
  further (p : Char → Bool) : List Char → List Char × List Char
    | '_' :: c :: rest =>
      if p c then
        let (more, rest) := further p rest
        (c :: more, rest)
      else
        ([], '_' :: c :: rest)
    | c :: rest =>
      if p c then
        let (more, rest) := further p rest
        (c :: more, rest)
      else
        ([], c :: rest)
    | [] => ([], [])

def basedInteger (base : Nat) (p : Char → Bool) (text : List Char) : Option (Value × List Char) :=
  match digits p text with
  | ([], _) => none
  | (ds, rest) => some (.integer (Text.ofDigits base ds), rest)

def sign : List Char → Bool × List Char
  | '+' :: rest => (false, rest)
  | '-' :: rest => (true, rest)
  | text => (false, text)

def wholePart : Reader (List Char)
  -- Digits behind a zero are left over, and nothing else can be read from them.
  | '0' :: rest => some (['0'], rest)
  | text =>
    match digits Char.isDigit text with
    | ([], _) => none
    | (ds, rest) => some (ds, rest)

def fractionPart : List Char → Option (List Char) × List Char
  | '.' :: rest =>
    match digits Char.isDigit rest with
    | ([], _) => (none, '.' :: rest)
    | (ds, rest) => (some ds, rest)
  | text => (none, text)

def exponentPart : List Char → Option Int × List Char
  | [] => (none, [])
  | c :: rest =>
    if c == 'e' || c == 'E' then
      let (negative, after) := sign rest
      match digits Char.isDigit after with
      | ([], _) => (none, c :: rest)
      | (ds, after) =>
        let n : Int := Text.ofDigits 10 ds
        (some (if negative then -n else n), after)
    else
      (none, c :: rest)

inductive Fault where
  | malformed
  | overlong
  deriving DecidableEq, Repr

def expect {α : Type} : Option α → Except Fault α
  | some x => .ok x
  | none => .error .malformed

@[simp]
theorem expect_eq_ok_iff {α : Type} {read : Option α} {x : α} :
    expect read = .ok x ↔ read = some x := by
  cases read <;> simp [expect]

def decimalNumber (text : List Char) : Except Fault (Value × List Char) := do
  let (negative, unsigned) := sign text
  let (whole, rest) ← expect (wholePart unsigned)
  let (fraction, rest) := fractionPart rest
  let (exponent, rest) := exponentPart rest
  if fraction.isNone && exponent.isNone then
    -- Only integers are limited: the digits of a float are not.
    if Decimal.maxDigits < whole.length then
      .error .overlong
    else
      let n : Int := Text.ofDigits 10 whole
      return (.integer (if negative then -n else n), rest)
  else
    let fraction := fraction.getD []
    let scientific : Decimal.Scientific :=
      ⟨Text.ofDigits 10 (whole ++ fraction), exponent.getD 0 - fraction.length⟩
    return (.float (scientific.toFloat negative), rest)

def specialFloat (text : List Char) : Option (Value × List Char) :=
  let (negative, unsigned) := sign text
  match dropWord "inf".toList unsigned with
  | some rest => some (.float (if negative then -(1.0 / 0.0) else 1.0 / 0.0), rest)
  | none =>
    match dropWord "nan".toList unsigned with
    | some rest => some (.float (0.0 / 0.0), rest)
    | none => none

def number : List Char → Except Fault (Value × List Char)
  | '0' :: 'x' :: rest => expect (basedInteger 16 Text.isHexadecimalDigit rest)
  | '0' :: 'o' :: rest => expect (basedInteger 8 (fun c => '0' ≤ c && c ≤ '7') rest)
  | '0' :: 'b' :: rest => expect (basedInteger 2 (fun c => c == '0' || c == '1') rest)
  | text =>
    match decimalNumber text with
    | .error .malformed => expect (specialFloat text)
    | read => read

def twoDigits : Reader Nat
  | a :: b :: rest =>
    if a.isDigit && b.isDigit then some (Text.ofDigits 10 [a, b], rest) else none
  | _ => none

def microseconds : List Char → Nat × List Char
  | '.' :: c :: rest =>
    if c.isDigit then
      let ds := ((c :: rest).takeWhile Char.isDigit).take 6
      (Text.ofDigits 10 (ds ++ List.replicate (6 - ds.length) '0'),
        (c :: rest).dropWhile Char.isDigit)
    else
      (0, '.' :: c :: rest)
  | text => (0, text)

def timeOfDay (text : List Char) : Option (TimeOfDay × List Char) := do
  let (hour, rest) ← twoDigits text
  let (_, rest) ← oneOf (· == ':') rest
  let (minute, rest) ← twoDigits rest
  let (_, rest) ← oneOf (· == ':') rest
  let (second, rest) ← twoDigits rest
  guard (hour < 24 ∧ minute < 60 ∧ second < 60)
  let (microsecond, rest) := microseconds rest
  return (⟨hour, minute, second, microsecond⟩, rest)

def offset : Reader Int
  | c :: rest =>
    if c == 'Z' || c == 'z' then
      some (0, rest)
    else if c == '+' || c == '-' then do
      let (hours, rest) ← twoDigits rest
      let (_, rest) ← oneOf (· == ':') rest
      let (minutes, rest) ← twoDigits rest
      guard (hours < 24 ∧ minutes < 60)
      let total : Int := hours * 60 + minutes
      return (if c == '-' then -total else total, rest)
    else
      none
  | [] => none

def date (text : List Char) : Option (Date × List Char) := do
  let (century, rest) ← twoDigits text
  let (year, rest) ← twoDigits rest
  let (_, rest) ← oneOf (· == '-') rest
  let (month, rest) ← twoDigits rest
  let (_, rest) ← oneOf (· == '-') rest
  let (day, rest) ← twoDigits rest
  return (⟨century * 100 + year, month, day⟩, rest)

def dateTime (text : List Char) : Option (Value × List Char) := do
  let (date, rest) ← date text
  guard date.isValid
  let timed := do
    let (_, rest) ← oneOf (fun c => c == 'T' || c == 't' || c == ' ') rest
    timeOfDay rest
  match timed with
  | none => return (.date date, rest)
  | some (time, rest) =>
    match offset rest with
    | none => return (.dateTime ⟨date, time, none⟩, rest)
    | some (minutes, rest) => return (.dateTime ⟨date, time, some minutes⟩, rest)

def plainValue (text : List Char) : Except Fault (Value × List Char) :=
  match dropWord "true".toList text with
  | some rest => .ok (.boolean true, rest)
  | none =>
    match dropWord "false".toList text with
    | some rest => .ok (.boolean false, rest)
    | none =>
      -- What is spelled as a date is no number, even if the date does not exist.
      if (date text).isSome then
        expect (dateTime text)
      else
        match timeOfDay text with
        | some (time, rest) => .ok (.time time, rest)
        | none => number text

end RequestFile.Toml
