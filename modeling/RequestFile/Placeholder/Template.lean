import RequestFile.Text.Space

/-!
This module contains texts with placeholders. A placeholder is a name between two pairs of braces; a
name has at least one character, and neither braces nor whitespace in it. A text is read from left to
right as a sequence of pieces, each of them a placeholder or a single character.
-/

namespace RequestFile.Placeholder

def isNameChar (c : Char) : Bool :=
  c != '\x7b' && c != '\x7d' && !Text.isSpace c

def isName (name : List Char) : Bool :=
  !name.isEmpty && name.all isNameChar

def token (name : List Char) : List Char :=
  '\x7b' :: '\x7b' :: name ++ ['\x7d', '\x7d']

/--
The name of the placeholder at the front of a text, if there is one. The name ends at the first
character that may not stand in a name, so there is no choice in where it ends.
-/
def nameAt? : List Char → Option (List Char)
  | '\x7b' :: '\x7b' :: rest =>
    let name := rest.takeWhile isNameChar
    if isName name && ['\x7d', '\x7d'].isPrefixOf (rest.dropWhile isNameChar) then
      some name
    else
      none
  | _ => none

inductive Piece where
  | char (c : Char)
  | placeholder (name : List Char)
  deriving DecidableEq, Repr

namespace Piece

def substitute (values : List Char → Option (List Char)) : Piece → List Char
  | char c => [c]
  | placeholder name => (values name).getD (token name)

def name? : Piece → Option (List Char)
  | char _ => none
  | placeholder name => some name

end Piece

def pieces (text : List Char) : List Piece :=
  go 0 text
where
  go (skip : Nat) : List Char → List Piece
    | [] => []
    | c :: rest =>
      match skip with
      -- This character belongs to a placeholder that is already read.
      | skip + 1 => go skip rest
      | 0 =>
        match nameAt? (c :: rest) with
        -- The name and four braces belong to the placeholder, and the first brace is `c`.
        | some name => .placeholder name :: go (name.length + 3) rest
        | none => .char c :: go 0 rest

def substitute (values : List Char → Option (List Char)) (text : List Char) : List Char :=
  (pieces text).flatMap (Piece.substitute values)

def names (text : List Char) : List (List Char) :=
  ((pieces text).filterMap Piece.name?).eraseDups

def namesOf (text : String) : List String :=
  (names text.toList).map String.ofList

def tokenOf (name : String) : String :=
  String.ofList (token name.toList)

end RequestFile.Placeholder
