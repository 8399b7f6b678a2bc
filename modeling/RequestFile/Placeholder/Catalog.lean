import RequestFile.Fields
import RequestFile.Placeholder.Location

/-!
This module contains catalogs: for each placeholder name, in the order in which the names were added,
the distinct places where it stands, in the order in which these were added.
-/

namespace RequestFile.Placeholder

structure Catalog where
  entries : Fields (List Location)
  deriving DecidableEq, Repr

namespace Catalog

def empty : Catalog := ⟨[]⟩

def addLocation (location : Location) (locations : List Location) : List Location :=
  if location ∈ locations then locations else locations ++ [location]

def add (location : Location) (name : String) (catalog : Catalog) : Catalog :=
  ⟨go catalog.entries⟩
where
  go : Fields (List Location) → Fields (List Location)
    | [] => [(name, [location])]
    | (n, locations) :: rest =>
      if n = name then (n, addLocation location locations) :: rest else (n, locations) :: go rest

def addAll (location : Location) (names : List String) (catalog : Catalog) : Catalog :=
  names.foldl (fun catalog name => catalog.add location name) catalog

def get (name : String) (catalog : Catalog) : List Location :=
  (Fields.get? name catalog.entries).getD []

def names (catalog : Catalog) : List String :=
  Fields.keys catalog.entries

def size (catalog : Catalog) : Nat :=
  catalog.entries.length

def contains (name : String) (catalog : Catalog) : Bool :=
  name ∈ catalog.names

def description (catalog : Catalog) : String :=
  let entry (name : String) (locations : List Location) :=
    Text.Quoted.text name ++ ": [" ++ String.intercalate ", " (locations.map Location.description)
      ++ "]"
  "Placeholders(\x7b" ++ String.intercalate ", " (catalog.entries.map fun (n, ls) => entry n ls)
    ++ "\x7d)"

end Catalog

end RequestFile.Placeholder
