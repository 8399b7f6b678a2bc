import RequestFile.Decimal.Layout
import RequestFile.Decimal.Limit
import RequestFile.Text.Digits

/-!
This module contains JSON values and their printed form: two spaces of indentation for each level,
every item and member on a line of its own.
-/

namespace RequestFile

inductive Json where
  | null
  | boolean (b : Bool)
  | integer (n : Int)
  | float (x : Float)
  | text (s : String)
  | array (items : List Json)
  | object (members : List (String × Json))

namespace Json

def escapeChar (c : Char) : List Char :=
  if c = '"' then ['\\', '"']
  else if c = '\\' then ['\\', '\\']
  else if c = '\n' then ['\\', 'n']
  else if c = '\r' then ['\\', 'r']
  else if c = '\t' then ['\\', 't']
  else if c = '\x08' then ['\\', 'b']
  else if c = '\x0c' then ['\\', 'f']
  else if c.toNat < 0x20 then '\\' :: 'u' :: Text.hexadecimal 4 c.toNat
  else [c]

def quote (s : List Char) : List Char :=
  '"' :: s.flatMap escapeChar ++ ['"']

def newline (level : Nat) : List Char :=
  '\n' :: List.replicate (2 * level) ' '

mutual

def write (level : Nat) : Json → List Char
  | null => "null".toList
  | boolean b => if b then "true".toList else "false".toList
  | integer n => (toString n).toList
  | float x => (Decimal.text x).toList
  | text s => quote s.toList
  | array [] => ['[', ']']
  | array (item :: items) =>
    '[' :: newline (level + 1) ++ write (level + 1) item ++ writeItems (level + 1) items
      ++ newline level ++ [']']
  | object [] => ['\x7b', '\x7d']
  | object ((key, v) :: members) =>
    '\x7b' :: newline (level + 1) ++ quote key.toList ++ ':' :: ' ' :: write (level + 1) v
      ++ writeMembers (level + 1) members ++ newline level ++ ['\x7d']

def writeItems (level : Nat) : List Json → List Char
  | [] => []
  | item :: items => ',' :: newline level ++ write level item ++ writeItems level items

def writeMembers (level : Nat) : List (String × Json) → List Char
  | [] => []
  | (key, v) :: members =>
    ',' :: newline level ++ quote key.toList ++ ':' :: ' ' :: write level v
      ++ writeMembers level members

end

def print (json : Json) : String :=
  String.ofList (json.write 0)

mutual

def hasOverlong : Json → Bool
  | integer n => Decimal.isOverlong n
  | array items => hasOverlongItem items
  | object members => hasOverlongMember members
  | _ => false

def hasOverlongItem : List Json → Bool
  | [] => false
  | item :: items => hasOverlong item || hasOverlongItem items

def hasOverlongMember : List (String × Json) → Bool
  | [] => false
  | (_, v) :: members => hasOverlong v || hasOverlongMember members

end

mutual

def writeInline : Json → List Char
  | array items => '[' :: writeInlineItems items ++ [']']
  | object members => '\x7b' :: writeInlineMembers members ++ ['\x7d']
  | scalar => write 0 scalar

def writeInlineItems : List Json → List Char
  | [] => []
  | [item] => writeInline item
  | item :: items => writeInline item ++ ',' :: ' ' :: writeInlineItems items

def writeInlineMembers : List (String × Json) → List Char
  | [] => []
  | [(key, v)] => quote key.toList ++ ':' :: ' ' :: writeInline v
  | (key, v) :: members =>
    quote key.toList ++ ':' :: ' ' :: writeInline v ++ ',' :: ' ' :: writeInlineMembers members

end

def printInline (json : Json) : String :=
  String.ofList json.writeInline

end Json

end RequestFile
