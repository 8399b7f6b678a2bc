/-!
This module contains literal replacement: every occurrence of a pattern in a text, found from left
to right and without overlap, gives way to a value. The inserted values are not searched again.
-/

namespace RequestFile.Text

def replace (pattern value text : List Char) : List Char :=
  if pattern.isEmpty then everywhere text else go 0 text
where
  everywhere : List Char → List Char
    | [] => value
    | c :: rest => value ++ c :: everywhere rest
  go (skip : Nat) : List Char → List Char
    | [] => []
    | c :: rest =>
      match skip with
      | skip + 1 => go skip rest
      | 0 =>
        if pattern.isPrefixOf (c :: rest) then
          -- The first character of the occurrence is `c` itself.
          value ++ go (pattern.length - 1) rest
        else
          c :: go 0 rest

@[simp]
theorem replace.go_nil (pattern value : List Char) (skip : Nat) :
    replace.go pattern value skip [] = [] := by
  simp [replace.go]

@[simp]
theorem replace_nil {pattern : List Char} (value : List Char) (h : pattern ≠ []) :
    replace pattern value [] = [] := by
  simp [replace, h]

def replaceString (pattern value text : String) : String :=
  String.ofList (replace pattern.toList value.toList text.toList)

end RequestFile.Text
