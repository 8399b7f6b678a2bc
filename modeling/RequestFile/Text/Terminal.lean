import RequestFile.Text.Newline

/-!
This module contains the form in which text is printed where no terminal reads it: without control
sequences, and with plain line ends.
-/

namespace RequestFile.Text

def afterSequence? (text : List Char) : Option (List Char) :=
  let isParameter := fun (c : Char) => '0' ≤ c && c ≤ '?'
  let isBetween := fun (c : Char) => ' ' ≤ c && c ≤ '/'
  match (text.dropWhile isParameter).dropWhile isBetween with
  | c :: rest => if '@' ≤ c && c ≤ '~' then some rest else none
  | [] => none

def stripSequences (text : List Char) : List Char :=
  go 0 text
where
  go (skip : Nat) : List Char → List Char
    | [] => []
    | c :: rest =>
      match skip with
      | skip + 1 => go skip rest
      | 0 =>
        let kept := c :: go 0 rest
        if c == '\x1b' then
          match rest with
          | '[' :: inner =>
            match afterSequence? inner with
            -- What is skipped are the bracket and all that belongs to the sequence.
            | some after => go (rest.length - after.length) rest
            | none => kept
          | _ => kept
        else
          kept

def printedLine (text : String) : String :=
  String.ofList (joinLineEnds (stripSequences text.toList ++ ['\n']))

end RequestFile.Text
