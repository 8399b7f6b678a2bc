import RequestFile.Fields
import RequestFile.Text.Space

/-!
This module contains files of assignments: one `NAME=VALUE` a line, the name perhaps after the word
`export`, the value perhaps in quotation marks, and comments behind number signs. A line that cannot
be read is passed over and reported. In a value, a name in braces behind a dollar sign stands for what
that name was given before, in the file or in the environment. All lines end in a line feed.
-/

namespace RequestFile.Settings

abbrev Assignments := Fields (Option String)

namespace Assignments

def isInlineSpace (c : Char) : Bool :=
  Text.isSpace c && c != '\n'

def skipSpace (text : List Char) : List Char :=
  text.dropWhile isInlineSpace

def skipExport (text : List Char) : List Char :=
  match "export".toList.isPrefixOf? text with
  | some (c :: rest) => if isInlineSpace c then skipSpace rest else text
  | _ => text

def skipLine (text : List Char) : List Char :=
  (text.dropWhile (· != '\n')).drop 1

def name? : List Char → Option (List Char × List Char)
  | '\'' :: rest =>
    let name := rest.takeWhile (· != '\'')
    match name, rest.dropWhile (· != '\'') with
    | [], _ | _, [] => none
    | name, _ :: rest => some (name, rest)
  | text =>
    let isPart := fun c => c != '=' && c != '#' && !Text.isSpace c
    let name := text.takeWhile isPart
    if name.isEmpty then none else some (name, text.dropWhile isPart)

def quoted? (mark : Char) : List Char → Option (List Char × List Char)
  | [] => none
  | '\\' :: c :: rest =>
    (quoted? mark rest).map fun (value, after) => ('\\' :: c :: value, after)
  | c :: rest =>
    if c = mark then some ([], rest)
    else (quoted? mark rest).map fun (value, after) => (c :: value, after)

def escape? : Char → Option Char
  | 'a' => some '\x07'
  | 'b' => some '\x08'
  | 'f' => some '\x0c'
  | 'n' => some '\n'
  | 'r' => some '\r'
  | 't' => some '\t'
  | 'v' => some '\x0b'
  | '\\' => some '\\'
  | '\'' => some '\''
  | '"' => some '"'
  | _ => none

def plainEscape? : Char → Option Char
  | '\\' => some '\\'
  | '\'' => some '\''
  | _ => none

def unescape (escape? : Char → Option Char) : List Char → List Char
  | [] => []
  | '\\' :: c :: rest =>
    match escape? c with
    | some char => char :: unescape escape? rest
    -- Before any other character the backslash stands for itself.
    | none => '\\' :: unescape escape? (c :: rest)
  | c :: rest => c :: unescape escape? rest

def cutComment : List Char → List Char
  | [] => []
  | c :: rest =>
    -- A number sign begins a comment only behind whitespace.
    if Text.isSpace c && ((rest.dropWhile Text.isSpace).head? == some '#') then []
    else c :: cutComment rest

def value? (text : List Char) : Option (List Char × List Char) :=
  match skipSpace text with
  | '\'' :: rest => (quoted? '\'' rest).map fun (value, rest) => (unescape plainEscape? value, rest)
  | '"' :: rest => (quoted? '"' rest).map fun (value, rest) => (unescape escape? value, rest)
  | _ =>
    -- The whitespace counts here: behind it a number sign begins a comment at once.
    let value := skipSpace (cutComment (text.takeWhile (· != '\n')))
    some (Text.trimRight value, text.dropWhile (· != '\n'))

def lineEnd? (text : List Char) : Option (List Char) :=
  let text :=
    match skipSpace text with
    | '#' :: rest => rest.dropWhile (· != '\n')
    | _ => text
  match skipSpace text with
  | [] => some []
  | c :: rest => if c = '\n' then some rest else none

def line (text : List Char) :
    Except (List Char) (Option (String × Option (List Char)) × List Char) :=
  let text := skipExport text
  let finish (binding : Option (String × Option (List Char))) (rest : List Char) :=
    match lineEnd? rest with
    | some rest => .ok (binding, rest)
    | none => .error (skipLine rest)
  match text with
  | '#' :: _ => finish none text
  | _ =>
    match name? text with
    | none => .error (skipLine text)
    | some (name, rest) =>
      match skipSpace rest with
      | '=' :: rest =>
        match value? rest with
        | none => .error (skipLine rest)
        | some (value, rest) => finish (some (String.ofList name, some value)) rest
      | rest => finish (some (String.ofList name, none)) rest

/--
What is found in a file: a name with its value, or a line that cannot be read, given by its number. A
line is counted together with the blank lines before it, from the first of them on.
-/
inductive Finding where
  | assigned (name : String) (value : Option (List Char))
  | unreadable (number : Nat)
  deriving DecidableEq, Repr

def findings (text : List Char) : List Finding :=
  -- Each line takes at least one character.
  go (text.length + 1) 1 text
where
  go (fuel number : Nat) (text : List Char) : List Finding :=
    match fuel, text.dropWhile Text.isSpace with
    | 0, _ | _, [] => []
    | fuel + 1, visible =>
      let next (rest : List Char) : Nat := number + (text.count '\n' - rest.count '\n')
      match line visible with
      | .error rest => .unreadable number :: go fuel (next rest) rest
      | .ok (none, rest) => go fuel (next rest) rest
      | .ok (some (name, value), rest) => .assigned name value :: go fuel (next rest) rest

def unreadableLines (text : List Char) : List Nat :=
  (findings text).filterMap fun
    | .unreadable number => some number
    | .assigned .. => none

def reference? (text : List Char) : Option (List Char × List Char × List Char) :=
  let name := text.takeWhile fun c => c != '\x7d' && c != ':'
  match text.dropWhile fun c => c != '\x7d' && c != ':' with
  | '\x7d' :: rest => some (name, [], rest)
  | ':' :: '-' :: rest =>
    match rest.dropWhile (· != '\x7d') with
    | _ :: after => some (name, rest.takeWhile (· != '\x7d'), after)
    | [] => none
  | _ => none

def expand (known : String → Option (Option String)) (text : List Char) : List Char :=
  go text.length text
where
  go (fuel : Nat) (text : List Char) : List Char :=
    match fuel, text with
    | _, [] => []
    | 0, text => text
    | fuel + 1, c :: rest =>
      match c, rest with
      | '$', '\x7b' :: inner =>
        match reference? inner with
        | some (name, default, after) =>
          let value :=
            match known (String.ofList name) with
            | some value => (value.getD "").toList
            | none => default
          value ++ go fuel after
        | none => c :: go fuel rest
      | _, _ => c :: go fuel rest

def read (env : List (String × String)) (text : List Char) : Assignments :=
  (findings text).foldl (fun known finding =>
    match finding with
    | .unreadable _ => known
    | .assigned name value =>
      -- What the file says wins over the environment, even that a name has no value.
      let lookup := fun name =>
        match Fields.get? name known with
        | some value => some value
        | none => (Fields.get? name (Fields.ofList env)).map some
      Fields.put name (value.map fun value => String.ofList (expand lookup value)) known) []

end Assignments

end RequestFile.Settings
