import RequestFile.Toml.Tree

/-!
This module contains what the tree of a TOML document keeps while it grows: in every table each key
stands once, and nothing in it is null.
-/

namespace RequestFile

/--
A value that a TOML document can hold: it has no null in it, and the keys of each table are distinct.
-/
inductive Value.IsToml : Value → Prop where
  | text (s : String) : IsToml (text s)
  | integer (n : Int) : IsToml (integer n)
  | float (x : Float) : IsToml (float x)
  | boolean (b : Bool) : IsToml (boolean b)
  | dateTime (t : DateTime) : IsToml (dateTime t)
  | date (d : Date) : IsToml (date d)
  | time (t : TimeOfDay) : IsToml (time t)
  | array {items : List Value} (hitems : ∀ item ∈ items, IsToml item) : IsToml (array items)
  | table {entries : List (String × Value)} (hkeys : (entries.map Prod.fst).Nodup)
    (hentries : ∀ entry ∈ entries, IsToml entry.2) : IsToml (table entries)

theorem Value.IsToml.keys {table : Fields Value} (h : (Value.table table).IsToml)
    : (Fields.keys table).Nodup := by
  cases h with
  | table hkeys _ => exact hkeys

theorem Value.IsToml.of_mem {table : Fields Value} (h : (Value.table table).IsToml)
    {entry : String × Value} (hentry : entry ∈ table) : entry.2.IsToml := by
  cases h with
  | table _ hentries => exact hentries entry hentry

theorem Value.IsToml.of_get? {table : Fields Value} (h : (Value.table table).IsToml) {key : String}
    {v : Value} (hv : Fields.get? key table = some v) : v.IsToml :=
  h.of_mem (Fields.mem_of_get?_eq_some hv)

theorem Value.IsToml.ne_null {v : Value} (h : v.IsToml) : v ≠ .null := by
  rintro rfl
  cases h

namespace Toml

inductive Node.IsToml : Node → Prop where
  | closed {v : Value} (hv : v.IsToml) : IsToml (closed v)
  | branch (standing : Standing) {entries : List (String × Node)}
    (hkeys : (entries.map Prod.fst).Nodup) (hentries : ∀ entry ∈ entries, IsToml entry.2)
    : IsToml (branch standing entries)
  | series {earlier : List Value} {current : List (String × Node)}
    (hearlier : ∀ v ∈ earlier, v.IsToml) (hkeys : (current.map Prod.fst).Nodup)
    (hcurrent : ∀ entry ∈ current, IsToml entry.2) : IsToml (series earlier current)

structure Entries.IsToml (entries : Entries) : Prop where
  keys : (entries.map Prod.fst).Nodup
  nodes : ∀ entry ∈ entries, entry.2.IsToml

namespace Node

theorem toEntries_eq_map (entries : List (String × Node))
    : toEntries entries = entries.map fun entry => (entry.1, entry.2.toValue) := by
  induction entries with
  | nil => rfl
  | cons entry rest ih => rw [toEntries, ih, List.map_cons]

theorem map_fst_toEntries (entries : List (String × Node))
    : (toEntries entries).map Prod.fst = entries.map Prod.fst := by
  simp [toEntries_eq_map]

theorem isToml_table_toEntries {entries : List (String × Node)}
    (hkeys : (entries.map Prod.fst).Nodup) (hentries : ∀ entry ∈ entries, entry.2.toValue.IsToml)
    : (Value.table (toEntries entries)).IsToml := by
  apply Value.IsToml.table
  · rwa [map_fst_toEntries]
  · intro entry hentry
    rw [toEntries_eq_map, List.mem_map] at hentry
    rcases hentry with ⟨entry, hmem, rfl⟩
    exact hentries entry hmem

theorem isToml_toValue {node : Node} (h : node.IsToml) : node.toValue.IsToml := by
  induction h with
  | closed hv => exact hv
  | branch standing hkeys _ ih => exact isToml_table_toEntries hkeys ih
  | series hearlier hkeys _ ih =>
    apply Value.IsToml.array
    intro item hitem
    rw [List.mem_append, List.mem_singleton] at hitem
    cases hitem with
    | inl hitem => exact hearlier item hitem
    | inr heq =>
      rw [heq]
      exact isToml_table_toEntries hkeys ih

end Node

namespace Entries

theorem isToml_nil : IsToml [] := ⟨by simp, by simp⟩

theorem IsToml.branch {entries : Entries} (h : entries.IsToml) (standing : Standing)
    : (Node.branch standing entries).IsToml :=
  .branch standing h.keys h.nodes

theorem IsToml.series {earlier : List Value} {current : Entries}
    (hearlier : ∀ v ∈ earlier, v.IsToml) (h : current.IsToml)
    : (Node.series earlier current).IsToml :=
  .series hearlier h.keys h.nodes

theorem IsToml.toTable {entries : Entries} (h : entries.IsToml)
    : (Value.table (Node.toEntries entries)).IsToml :=
  Node.isToml_toValue (h.branch .opened)

theorem map_fst_update {key : String} {change : Option Node → Option Node}
    {entries entries' : Entries} (h : entries.update key change = some entries')
    : entries'.map Prod.fst
        =
      if key ∈ entries.map Prod.fst then entries.map Prod.fst
      else entries.map Prod.fst ++ [key] := by
  induction entries generalizing entries' with
  | nil =>
    simp only [update, Option.map_eq_some_iff] at h
    rcases h with ⟨node, _, rfl⟩
    rfl
  | cons entry rest ih =>
    rw [update] at h
    split at h
    · next heq =>
      simp only [Option.map_eq_some_iff] at h
      rcases h with ⟨node, _, rfl⟩
      simp [heq]
    · next hne =>
      simp only [Option.map_eq_some_iff] at h
      rcases h with ⟨rest', hrest, rfl⟩
      have hkey : key ≠ entry.1 := Ne.symm hne
      rw [List.map_cons, ih hrest]
      simp only [List.map_cons, List.mem_cons, hkey, false_or]
      split <;> rfl

theorem nodes_update {key : String} {change : Option Node → Option Node}
    {entries entries' : Entries} (hentries : ∀ entry ∈ entries, entry.2.IsToml)
    (hchange : ∀ old new, (∀ node, old = some node → node.IsToml) → change old = some new →
      new.IsToml)
    (h : entries.update key change = some entries') : ∀ entry ∈ entries', entry.2.IsToml := by
  induction entries generalizing entries' with
  | nil =>
    simp only [update, Option.map_eq_some_iff] at h
    rcases h with ⟨node, hnode, rfl⟩
    intro entry hentry
    rw [List.mem_singleton] at hentry
    rw [hentry]
    exact hchange none node (by simp) hnode
  | cons entry rest ih =>
    have hrest : ∀ entry ∈ rest, entry.2.IsToml := fun other hother => hentries other (by simp [hother])
    have hfirst : entry.2.IsToml := hentries entry (by simp)
    rw [update] at h
    split at h
    · simp only [Option.map_eq_some_iff] at h
      rcases h with ⟨node, hnode, rfl⟩
      intro other hother
      rw [List.mem_cons] at hother
      cases hother with
      | inl heq =>
        rw [heq]
        apply hchange (some entry.2) node _ hnode
        intro old hold
        rwa [← Option.some.inj hold]
      | inr hother => exact hrest other hother
    · simp only [Option.map_eq_some_iff] at h
      rcases h with ⟨rest', hupdate, rfl⟩
      intro other hother
      rw [List.mem_cons] at hother
      cases hother with
      | inl heq => rwa [heq]
      | inr hother => exact ih hrest hupdate other hother

theorem isToml_update {key : String} {change : Option Node → Option Node}
    {entries entries' : Entries} (hentries : entries.IsToml)
    (hchange : ∀ old new, (∀ node, old = some node → node.IsToml) → change old = some new →
      new.IsToml)
    (h : entries.update key change = some entries') : entries'.IsToml := by
  constructor
  · rw [map_fst_update h]
    split
    · exact hentries.keys
    · next hnew => exact List.nodup_append.mpr ⟨hentries.keys, by simp, by grind⟩
  · exact nodes_update hentries.nodes hchange h

theorem isToml_descend {path : List String} {change : Entries → Option Entries}
    {entries entries' : Entries} (hentries : entries.IsToml)
    (hchange : ∀ table table' : Entries, table.IsToml → change table = some table' → table'.IsToml)
    (h : entries.descend path change = some entries') : entries'.IsToml := by
  induction path generalizing entries entries' with
  | nil => exact hchange entries entries' hentries h
  | cons key path ih =>
    -- A table that is missing on the way begins empty, so the induction covers it too.
    apply isToml_update hentries _ h
    intro old new hold hnew
    cases old with
    | none =>
      rcases Option.map_eq_some_iff.mp hnew with ⟨inner, hinner, rfl⟩
      exact (ih isToml_nil hinner).branch .implied
    | some node =>
      have hnode := hold node rfl
      cases hnode with
      | closed hv => simp at hnew
      | branch standing hkeys hnodes =>
        rcases Option.map_eq_some_iff.mp hnew with ⟨inner, hinner, rfl⟩
        exact (ih ⟨hkeys, hnodes⟩ hinner).branch standing
      | series hearlier hkeys hcurrent =>
        rcases Option.map_eq_some_iff.mp hnew with ⟨inner, hinner, rfl⟩
        exact (ih ⟨hkeys, hcurrent⟩ hinner).series hearlier

theorem isToml_openTable {key : Key} {entries entries' : Entries} (hentries : entries.IsToml)
    (h : entries.openTable key = some entries') : entries'.IsToml := by
  apply isToml_descend hentries _ h
  intro table table' htable hchange
  apply isToml_update htable _ hchange
  intro old new hold hnew
  split at hnew
  · cases hnew
    exact isToml_nil.branch .opened
  · cases hnew
    cases hold _ rfl with
    | branch _ hkeys hnodes => exact .branch .opened hkeys hnodes
  · cases hnew

theorem isToml_openNext {key : Key} {entries entries' : Entries} (hentries : entries.IsToml)
    (h : entries.openNext key = some entries') : entries'.IsToml := by
  apply isToml_descend hentries _ h
  intro table table' htable hchange
  apply isToml_update htable _ hchange
  intro old new hold hnew
  split at hnew
  · cases hnew
    exact isToml_nil.series (by simp)
  · cases hnew
    cases hold _ rfl with
    | series hearlier hkeys hcurrent =>
      have hcurrent : Entries.IsToml _ := ⟨hkeys, hcurrent⟩
      apply isToml_nil.series
      intro v hv
      rw [List.mem_append, List.mem_singleton] at hv
      cases hv with
      | inl hv => exact hearlier v hv
      | inr heq =>
        rw [heq]
        exact hcurrent.toTable
  · cases hnew

theorem isToml_assign {part : Nat} {path : List String} {name : String} {value : Value}
    {entries entries' : Entries} (hentries : entries.IsToml) (hvalue : value.IsToml)
    (h : entries.assign part path name value = some entries') : entries'.IsToml := by
  induction path generalizing entries entries' with
  | nil =>
    apply isToml_update hentries _ h
    intro old new hold hnew
    split at hnew
    · cases hnew
      exact .closed hvalue
    · cases hnew
  | cons key path ih =>
    apply isToml_update hentries _ h
    intro old new hold hnew
    split at hnew
    · rcases Option.map_eq_some_iff.mp hnew with ⟨inner, hinner, rfl⟩
      exact (ih isToml_nil hinner).branch _
    · rcases Option.map_eq_some_iff.mp hnew with ⟨inner, hinner, rfl⟩
      cases hold _ rfl with
      | branch _ hkeys hnodes => exact (ih ⟨hkeys, hnodes⟩ hinner).branch _
    · split at hnew
      · rcases Option.map_eq_some_iff.mp hnew with ⟨inner, hinner, rfl⟩
        cases hold _ rfl with
        | branch _ hkeys hnodes => exact (ih ⟨hkeys, hnodes⟩ hinner).branch _
      · cases hnew
    · cases hnew

theorem isToml_writeInline {key : Key} {value : Value} {entries entries' : Entries}
    (hentries : entries.IsToml) (hvalue : value.IsToml)
    (h : entries.writeInline key value = some entries') : entries'.IsToml :=
  isToml_assign hentries hvalue h

end Entries

def Statement.IsToml : Statement → Prop
  | assignment _ value => value.IsToml
  | _ => True

namespace Assembly

theorem isToml_step {a a' : Assembly} {s : Statement} (ha : a.entries.IsToml) (hs : s.IsToml)
    (h : a.step s = some a') : a'.entries.IsToml := by
  cases s with
  | header key =>
    rcases Option.bind_eq_some_iff.mp h with ⟨entries, hopen, hnext⟩
    cases hnext
    exact Entries.isToml_openTable ha hopen
  | nextHeader key =>
    rcases Option.bind_eq_some_iff.mp h with ⟨entries, hopen, hnext⟩
    cases hnext
    exact Entries.isToml_openNext ha hopen
  | assignment key value =>
    rcases Option.bind_eq_some_iff.mp h with ⟨entries, hdescend, hnext⟩
    cases hnext
    apply Entries.isToml_descend ha _ hdescend
    intro table table' htable hassign
    exact Entries.isToml_assign htable hs hassign

end Assembly

end Toml

end RequestFile
