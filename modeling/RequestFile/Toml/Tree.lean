import RequestFile.Value

/-!
This module contains the tree that grows while a TOML document is read. Each table remembers how it
came to be, because that decides who may add to it: a header may open a table once, dotted keys may
only enter tables that no header opened and that were not made by dotted keys of an earlier section,
and the values of inline tables and arrays are closed.
-/

namespace RequestFile.Toml

inductive Standing where
  | implied
  | opened
  | dotted (part : Nat)
  deriving DecidableEq, Repr

/--
What stands at a key: a value that nothing can be added to, a table, or an array of tables of which
only the last table can still grow.
-/
inductive Node where
  | closed (value : Value)
  | branch (standing : Standing) (entries : List (String × Node))
  | series (earlier : List Value) (current : List (String × Node))

structure Key where
  path : List String
  name : String
  deriving DecidableEq, Repr

namespace Node

mutual

def toValue : Node → Value
  | closed v => v
  | branch _ entries => .table (toEntries entries)
  | series earlier current => .array (earlier ++ [.table (toEntries current)])

def toEntries : List (String × Node) → List (String × Value)
  | [] => []
  | (key, node) :: rest => (key, toValue node) :: toEntries rest

end

end Node

abbrev Entries := List (String × Node)

namespace Entries

def update (key : String) (change : Option Node → Option Node) : Entries → Option Entries
  | [] => (change none).map fun node => [(key, node)]
  | (k, node) :: rest =>
    if k = key then
      (change (some node)).map fun node => (k, node) :: rest
    else
      (update key change rest).map ((k, node) :: ·)

def descend (path : List String) (change : Entries → Option Entries) (entries : Entries) :
    Option Entries :=
  match path with
  | [] => change entries
  | key :: path =>
    entries.update key fun
      -- Tables on the way that are missing are made.
      | none => (descend path change []).map (.branch .implied)
      | some (.branch standing inner) => (descend path change inner).map (.branch standing)
      | some (.series earlier current) => (descend path change current).map (.series earlier)
      | some (.closed _) => none

def openTable (key : Key) (entries : Entries) : Option Entries :=
  entries.descend key.path fun table =>
    table.update key.name fun
      | none => some (.branch .opened [])
      | some (.branch .implied inner) => some (.branch .opened inner)
      | some _ => none

def openNext (key : Key) (entries : Entries) : Option Entries :=
  entries.descend key.path fun table =>
    table.update key.name fun
      | none => some (.series [] [])
      | some (.series earlier current) =>
        some (.series (earlier ++ [.table (Node.toEntries current)]) [])
      | some _ => none

def assign (part : Nat) (path : List String) (name : String) (value : Value) (entries : Entries) :
    Option Entries :=
  match path with
  | [] =>
    entries.update name fun
      | none => some (.closed value)
      | some _ => none
  | key :: path =>
    entries.update key fun
      | none => (assign part path name value []).map (.branch (.dotted part))
      -- A table that a header only passed becomes one of this section.
      | some (.branch .implied inner) =>
        (assign part path name value inner).map (.branch (.dotted part))
      | some (.branch (.dotted other) inner) =>
        if other = part then
          (assign part path name value inner).map (.branch (.dotted part))
        else
          none
      | some _ => none

def writeInline (key : Key) (value : Value) (entries : Entries) : Option Entries :=
  -- All keys of an inline table belong to one section.
  assign 0 key.path key.name value entries

end Entries

inductive Statement where
  | header (key : Key)
  | nextHeader (key : Key)
  | assignment (key : Key) (value : Value)

structure Assembly where
  entries : Entries
  target : List String
  part : Nat

namespace Assembly

def empty : Assembly := ⟨[], [], 0⟩

def step (a : Assembly) : Statement → Option Assembly
  | .header key => do
    let entries ← a.entries.openTable key
    return ⟨entries, key.path ++ [key.name], a.part + 1⟩
  -- The path of a table in an array leads to the last table, which is the one just begun.
  | .nextHeader key => do
    let entries ← a.entries.openNext key
    return ⟨entries, key.path ++ [key.name], a.part + 1⟩
  | .assignment key value => do
    let entries ← a.entries.descend a.target (Entries.assign a.part key.path key.name value)
    return { a with entries }

end Assembly

end RequestFile.Toml
