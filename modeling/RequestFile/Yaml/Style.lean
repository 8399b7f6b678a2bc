import RequestFile.Yaml.Resolution

/-!
This module contains the choice between the three ways in which a text is written in YAML: plain,
between single quotation marks, or between double quotation marks.
-/

namespace RequestFile.Yaml

inductive Style where
  | plain
  | singleQuoted
  | doubleQuoted
  deriving DecidableEq, Repr

def isBreak (c : Char) : Bool :=
  c == '\n' || c.toNat == 0x85 || c.toNat == 0x2028 || c.toNat == 0x2029

def isSeparator (c : Char) : Bool :=
  c == ' ' || c == '\t' || c == '\r' || c.toNat == 0 || isBreak c

def isSpecial (c : Char) : Bool :=
  let n := c.toNat
  !(c == '\n' || (0x20 ≤ n && n ≤ 0x7E) || n == 0x85 || (0xA0 ≤ n && n ≤ 0xD7FF)
    || (0xE000 ≤ n && n ≤ 0xFFFD && n != 0xFEFF) || (0x10000 ≤ n && n < 0x10FFFF))

def hasNeighbours (p q : Char → Bool) (text : List Char) : Bool :=
  (text.zip (text.drop 1)).any fun (a, b) => p a && q b

def startsAsIndicator (text : List Char) : Bool :=
  match text with
  | [] => false
  | c :: rest =>
    "---".toList.isPrefixOf text || "...".toList.isPrefixOf text
      || "#,[]\x7b\x7d&*!|>'\"%@`".toList.contains c
      || ("?:-".toList.contains c && (rest.head?.map isSeparator).getD true)

def holdsIndicator (text : List Char) : Bool :=
  hasNeighbours (· == ':') isSeparator text || text.getLast? == some ':'
    || hasNeighbours isSeparator (· == '#') text

def chooseStyle (simpleKey : Bool) (text : List Char) : Style :=
  let breaks := text.any isBreak
  let blank := fun c => c == ' ' || isBreak c
  let special := text.any isSpecial || hasNeighbours (· == ' ') isBreak text
  let breakBeforeSpace := hasNeighbours isBreak (· == ' ') text
  let edges := (text.head?.map blank).getD false || (text.getLast?.map blank).getD false
  let plain := readsAsText text && !edges && !breakBeforeSpace && !special && !breaks
    && !startsAsIndicator text && !holdsIndicator text
  if plain then .plain
  else if !special && !breakBeforeSpace && !(simpleKey && breaks) then .singleQuoted
  else .doubleQuoted

def isSimpleKey (text : List Char) : Bool :=
  -- The tag of texts, five characters, counts with the text although it is not written.
  text.length + 5 < 128 && !text.isEmpty && !text.any isBreak

end RequestFile.Yaml
