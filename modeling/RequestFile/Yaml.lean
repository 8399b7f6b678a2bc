import RequestFile.Json
import RequestFile.Yaml.Pen

/-!
This module contains the YAML form of JSON values, in block style: the members of an object and the
items of an array stand on lines of their own, two columns further in for each level. An array that
is the value of a key is not indented further than the key.
-/

namespace RequestFile.Yaml

def floatText (x : Float) : List Char :=
  if x.isFinite then
    let text := (Decimal.text x).toList
    if text.contains '.' || !text.contains 'e' then
      text
    else
      text.takeWhile (· != 'e') ++ ".0".toList ++ text.dropWhile (· != 'e')
  else if x.isNaN then
    ".nan".toList
  else if x < 0 then
    "-.inf".toList
  else
    ".inf".toList

mutual

def write (pen : Pen) (column : Nat) (inMapping : Bool) : Json → Pen
  | .null => pen.plain (column + 2) true "null".toList
  | .boolean b => pen.plain (column + 2) true (if b then "true".toList else "false".toList)
  | .integer n => pen.plain (column + 2) true (toString n).toList
  | .float x => pen.plain (column + 2) true (floatText x)
  | .text s => pen.scalar (column + 2) false s.toList
  | .array [] => (pen.indicator '[' true).indicator ']' false
  -- Behind a dash the array starts on the line of the dash, and then it is indented.
  | .array (item :: items) =>
    writeItems pen (if inMapping && !pen.indention then column else column + 2) (item :: items)
  | .object [] => (pen.indicator '\x7b' true).indicator '\x7d' false
  | .object (member :: members) => writeMembers pen (column + 2) (member :: members)

def writeItems (pen : Pen) (column : Nat) : List Json → Pen
  | [] => pen
  | item :: items =>
    let pen := (pen.indent column).openIndicator '-'
    writeItems (write pen column false item) column items

def writeMembers (pen : Pen) (column : Nat) : List (String × Json) → Pen
  | [] => pen
  | (key, v) :: members =>
    let pen := pen.indent column
    let pen :=
      if isSimpleKey key.toList then
        (pen.scalar (column + 2) true key.toList).indicator ':' false
      else
        let pen := (pen.openIndicator '?').scalar (column + 2) false key.toList
        (pen.indent column).openIndicator ':'
    writeMembers (write pen column true v) column members

end

def print (json : Json) : String :=
  -- The outermost collection is not indented.
  let pen :=
    match json with
    | .array (item :: items) => writeItems .start 0 (item :: items)
    | .object (member :: members) => writeMembers .start 0 (member :: members)
    | json => write .start 0 false json
  String.ofList pen.text

end RequestFile.Yaml
