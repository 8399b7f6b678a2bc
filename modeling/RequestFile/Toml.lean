import RequestFile.Text.Newline
import RequestFile.Toml.Lexical

/-!
This module contains the reader of TOML documents. Each statement is carried out on a tree before the
next one is read, and each entry of an inline table before the next entry, so that a document is refused
for the first reason in it.
-/

namespace RequestFile.Toml

mutual

/--
Read a value. The fuel bounds the number of values, items and entries still to be read; twice the
length of the text is more than enough, because each of them takes a character.
-/
def value (fuel : Nat) (text : List Char) : Except Fault (Value × List Char) :=
  match fuel with
  | 0 => .error .malformed
  | fuel + 1 =>
    match text with
    | '[' :: rest => do
      let (items, rest) ← arrayItems fuel rest
      return (.array items, rest)
    | '{' :: rest => do
      let (entries, rest) ←
        match skipBlank rest with
        | '}' :: rest => .ok ([], rest)
        | rest => inlineEntries fuel [] rest
      return (.table (Node.toEntries entries), rest)
    | c :: _ =>
      if c == '"' || c == '\'' then do
        let (s, rest) ← expect (anyString text)
        return (.text (String.ofList s), rest)
      else
        plainValue text
    | [] => .error .malformed

def arrayItems (fuel : Nat) (text : List Char) : Except Fault (List Value × List Char) :=
  match fuel with
  | 0 => .error .malformed
  | fuel + 1 => do
    match ← expect (skipFiller text) with
    | ']' :: rest => return ([], rest)
    | text =>
      let (item, rest) ← value fuel text
      match ← expect (skipFiller rest) with
      | ']' :: rest => return ([item], rest)
      | ',' :: rest =>
        let (items, rest) ← arrayItems fuel rest
        return (item :: items, rest)
      | _ => .error .malformed

def inlineEntries (fuel : Nat) (entries : Entries) (text : List Char) :
    Except Fault (Entries × List Char) :=
  match fuel with
  | 0 => .error .malformed
  | fuel + 1 => do
    let (key, rest) ← expect (key text)
    let (_, rest) ← expect (oneOf (· == '=') rest)
    let (v, rest) ← value fuel (skipBlank rest)
    let entries ← expect (entries.writeInline key v)
    match skipBlank rest with
    | '}' :: rest => return (entries, rest)
    | ',' :: rest => inlineEntries fuel entries (skipBlank rest)
    | _ => .error .malformed

end

def statement : List Char → Except Fault (Statement × List Char)
  | '[' :: '[' :: rest => do
    let (key, rest) ← expect (key (skipBlank rest))
    let rest ← expect (dropWord "]]".toList rest)
    return (.nextHeader key, rest)
  | '[' :: rest => do
    let (key, rest) ← expect (key (skipBlank rest))
    let rest ← expect (dropWord "]".toList rest)
    return (.header key, rest)
  | text => do
    let (key, rest) ← expect (key text)
    let (_, rest) ← expect (oneOf (· == '=') rest)
    let (v, rest) ← value (2 * text.length + 2) (skipBlank rest)
    return (.assignment key v, rest)

def assembly (text : List Char) : Except Fault Assembly :=
  go (text.length + 1) .empty text
where
  go (fuel : Nat) (a : Assembly) (text : List Char) : Except Fault Assembly :=
    match fuel with
    | 0 => .error .malformed
    | fuel + 1 =>
      match skipBlank text with
      | [] => .ok a
      | '\n' :: rest => go fuel a rest
      | '#' :: rest => do
        let rest ← expect (skipComment ('#' :: rest))
        go fuel a rest
      | text => do
        let (s, rest) ← statement text
        let a ← expect (a.step s)
        match ← expect (skipComment (skipBlank rest)) with
        | [] => .ok a
        | '\n' :: rest => go fuel a rest
        | _ => .error .malformed

def read (text : String) : Except Fault (Fields Value) :=
  (assembly (Text.joinLineEnds text.toList)).map fun a => Node.toEntries a.entries

end RequestFile.Toml
