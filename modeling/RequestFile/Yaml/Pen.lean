import RequestFile.Yaml.Style

/-!
This module contains a pen that writes scalars and indicators and knows how far it is on the line.
Lines that grow beyond eighty columns are folded where a reader will put them together again.
-/

namespace RequestFile.Yaml

/--
A pen: what it wrote, the last character first, the column it is at, whether it has just written
whitespace, and whether it has written nothing but indentation and indicators on the line.
-/
structure Pen where
  written : List Char
  column : Nat
  whitespace : Bool
  indention : Bool

namespace Pen

def start : Pen := ⟨[], 0, true, true⟩

def text (pen : Pen) : List Char :=
  pen.written.reverse

def width : Nat := 80

def put (pen : Pen) (text : List Char) : Pen :=
  { pen with written := text.reverse ++ pen.written, column := pen.column + text.length }

def breakLine (pen : Pen) (c : Char) : Pen :=
  ⟨c :: pen.written, 0, true, true⟩

def indent (pen : Pen) (column : Nat) : Pen :=
  let pen :=
    if !pen.indention || pen.column > column || (pen.column == column && !pen.whitespace) then
      pen.breakLine '\n'
    else
      pen
  if pen.column < column then
    { pen.put (List.replicate (column - pen.column) ' ') with whitespace := true }
  else
    pen

def indicator (pen : Pen) (mark : Char) (needsWhitespace : Bool) : Pen :=
  let pen := pen.put (if pen.whitespace || !needsWhitespace then [mark] else [' ', mark])
  { pen with whitespace := false, indention := false }

def openIndicator (pen : Pen) (mark : Char) : Pen :=
  { pen.indicator mark true with indention := pen.indention }

def leaveStart (pen : Pen) : Pen :=
  { pen with whitespace := false, indention := false }

def runs (text : List Char) : List (List Char) :=
  text.splitBy fun a b => (a == ' ') == (b == ' ') && isBreak a == isBreak b

def plain (pen : Pen) (column : Nat) (fold : Bool) (text : List Char) : Pen :=
  let pen := if pen.whitespace then pen else pen.put [' ']
  (runs text).foldl (fun pen run =>
    if run == [' '] && fold && pen.column > width then (pen.indent column).leaveStart
    else pen.put run) pen.leaveStart

def breaks (pen : Pen) (column : Nat) (run : List Char) : Pen :=
  -- A reader takes a single line feed for a space.
  let pen := if run.head? == some '\n' then pen.breakLine '\n' else pen
  (run.foldl breakLine pen).indent column

def singleQuoted (pen : Pen) (column : Nat) (fold : Bool) (text : List Char) : Pen :=
  let all := runs text
  let pen := all.zipIdx.foldl (fun pen (run, index) =>
    if run.any isBreak then
      pen.breaks column run
    else if run == [' '] && fold && pen.column > width && index != 0 && index + 1 != all.length then
      pen.indent column
    else
      pen.put (run.flatMap fun c => if c == '\'' then ['\'', '\''] else [c])) (pen.indicator '\'' true)
  pen.indicator '\'' false

def escape? (c : Char) : Option (List Char) :=
  let n := c.toNat
  let short (letter : Char) := some ['\\', letter]
  if c == '"' || c == '\\' then short c
  else if (0x20 ≤ n && n ≤ 0x7E) || (0xA0 ≤ n && n ≤ 0xD7FF && n != 0x2028 && n != 0x2029)
    || (0xE000 ≤ n && n ≤ 0xFFFD && n != 0xFEFF) then none
  else match n with
  | 0x00 => short '0'
  | 0x07 => short 'a'
  | 0x08 => short 'b'
  | 0x09 => short 't'
  | 0x0A => short 'n'
  | 0x0B => short 'v'
  | 0x0C => short 'f'
  | 0x0D => short 'r'
  | 0x1B => short 'e'
  | 0x85 => short 'N'
  | 0x2028 => short 'L'
  | 0x2029 => short 'P'
  | _ =>
    if n ≤ 0xFF then some ('\\' :: 'x' :: Text.hexadecimalUpper 2 n)
    else if n ≤ 0xFFFF then some ('\\' :: 'u' :: Text.hexadecimalUpper 4 n)
    else some ('\\' :: 'U' :: Text.hexadecimalUpper 8 n)

def breakQuoted (pen : Pen) (column : Nat) (rest : List Char) : Pen :=
  -- The backslash at the end keeps a reader from seeing a space, and the one before a space at the
  -- start of the next line keeps that space.
  let pen := ((pen.put ['\\']).indent column).leaveStart
  if rest.head? == some ' ' then pen.put ['\\'] else pen

def doubleQuoted (pen : Pen) (column : Nat) (fold : Bool) (text : List Char) : Pen :=
  (go (pen.indicator '"' true) [] true text).indicator '"' false
where
  go (pen : Pen) (pending : List Char) (first : Bool) : List Char → Pen
    | [] => pen.put pending
    | c :: rest =>
      let inside := fold && !first && !rest.isEmpty
      match escape? c with
      | some escaped =>
        let pen := (pen.put pending).put escaped
        -- The column may be one beyond the width: the next character is not counted yet.
        if inside && pen.column > width + 1 then
          go (pen.breakQuoted column rest) [] false rest
        else
          go pen [] false rest
      | none =>
        if inside && (c == ' ' || pending.isEmpty) && pen.column + pending.length > width then
          go ((pen.put pending).breakQuoted column (c :: rest)) [c] false rest
        else
          go pen (pending ++ [c]) false rest

def scalar (pen : Pen) (column : Nat) (simpleKey : Bool) (text : List Char) : Pen :=
  match chooseStyle simpleKey text with
  | .plain => pen.plain column (!simpleKey) text
  | .singleQuoted => pen.singleQuoted column (!simpleKey) text
  | .doubleQuoted => pen.doubleQuoted column (!simpleKey) text

end Pen

end RequestFile.Yaml
