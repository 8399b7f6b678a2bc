import Mathlib.Data.Finset.Card
import Mathlib.Data.List.Induction
import RequestFile.Proofs.Placeholder.Discovery

/-!
This module contains catalogs as the result of additions made one after another. Names stand in the
order in which they were first added, and the places of a name in the order in which they were first
added to it, whatever was added in between. An addition that was made before leaves a catalog as it is,
so a history in which a step is repeated has the same result.
-/

namespace RequestFile

section FirstOccurrences

variable {α β : Type} [BEq α] [LawfulBEq α]

theorem eraseDups_concat (l : List α) (a : α)
    : (l ++ [a]).eraseDups = if a ∈ l then l.eraseDups else l.eraseDups ++ [a] := by
  rw [List.eraseDups_append]
  split
  · next hmem => simp [List.removeAll, hmem]
  · next hnew => simp [List.removeAll, hnew, List.eraseDups_cons]

/--
A list of the things in another one, each once, in the order in which they first stand there.
-/
structure ListsFirsts (all firsts : List α) : Prop where
  mem_iff : ∀ a, a ∈ firsts ↔ a ∈ all
  ordered : firsts.Pairwise fun a b => all.idxOf a < all.idxOf b

omit [LawfulBEq α] in
theorem ListsFirsts.nodup {all firsts : List α} (h : ListsFirsts all firsts) : firsts.Nodup := by
  apply h.ordered.imp
  rintro a b hlt rfl
  exact lt_irrefl _ hlt

theorem pairwise_idxOf_eraseDups (l : List α)
    : l.eraseDups.Pairwise fun a b => l.idxOf a < l.idxOf b := by
  -- From the right, because an appended thing leaves the first places of all others as they are.
  induction l using List.reverseRecOn with
  | nil => exact List.Pairwise.nil
  | append_singleton l a ih =>
    have hkept : l.eraseDups.Pairwise fun x y => (l ++ [a]).idxOf x < (l ++ [a]).idxOf y := by
      apply ih.imp_of_mem
      intro x y hx hy hlt
      rw [List.mem_eraseDups] at hx hy
      rwa [List.idxOf_append_of_mem hx, List.idxOf_append_of_mem hy]
    rw [eraseDups_concat]
    split
    · exact hkept
    · next hnew =>
      rw [List.pairwise_append]
      refine ⟨hkept, List.pairwise_singleton _ _, ?_⟩
      intro x hx y hy
      rw [List.mem_eraseDups] at hx
      rw [List.mem_singleton.mp hy, List.idxOf_append_of_mem hx, List.idxOf_append_of_notMem hnew]
      exact Nat.lt_add_right _ (List.idxOf_lt_length_of_mem hx)

theorem listsFirsts_eraseDups (l : List α) : ListsFirsts l l.eraseDups := by
  constructor
  · intro a
    exact List.mem_eraseDups
  · exact pairwise_idxOf_eraseDups l

theorem nodup_eraseDups (l : List α) : l.eraseDups.Nodup :=
  (listsFirsts_eraseDups l).nodup

theorem eraseDups_eraseDups (l : List α) : l.eraseDups.eraseDups = l.eraseDups := by
  induction l using List.reverseRecOn with
  | nil => rfl
  | append_singleton l a ih =>
    rw [eraseDups_concat]
    split
    · exact ih
    · next hnew =>
      rw [eraseDups_concat, ih, if_neg]
      rwa [List.mem_eraseDups]

theorem eraseDups_append_eraseDups (first second : List α)
    : (first.eraseDups ++ second.eraseDups).eraseDups = (first ++ second).eraseDups := by
  induction second using List.reverseRecOn with
  | nil => simpa using eraseDups_eraseDups first
  | append_singleton second a ih =>
    rw [← List.append_assoc, eraseDups_concat (first ++ second), eraseDups_concat second, ← ih]
    by_cases hmem : a ∈ second
    · simp [hmem]
    · rw [if_neg hmem, ← List.append_assoc, eraseDups_concat]
      simp [hmem]

theorem eraseDups_flatMap_eraseDups (f : β → List α) (l : List β)
    : (l.flatMap fun b => (f b).eraseDups).eraseDups = (l.flatMap f).eraseDups := by
  induction l with
  | nil => rfl
  | cons b l ih =>
    rw [List.flatMap_cons, List.flatMap_cons]
    rw [← eraseDups_append_eraseDups, eraseDups_eraseDups, ih, eraseDups_append_eraseDups]

theorem eraseDups_map [BEq β] [LawfulBEq β] {f : α → β} (hf : f.Injective) (l : List α)
    : (l.map f).eraseDups = l.eraseDups.map f := by
  induction l using List.reverseRecOn with
  | nil => rfl
  | append_singleton l a ih =>
    rw [List.map_append, List.map_singleton, eraseDups_concat, eraseDups_concat, ih]
    simp only [List.mem_map_of_injective hf]
    split <;> simp

theorem ListsFirsts.length_eq [DecidableEq β] {all firsts : List β} (h : ListsFirsts all firsts)
    : firsts.length = all.toFinset.card := by
  rw [← List.toFinset_card_of_nodup h.nodup]
  congr 1
  ext a
  rw [List.mem_toFinset, List.mem_toFinset, h.mem_iff]

end FirstOccurrences

namespace Placeholder.Location

inductive Kind where
  | url
  | header
  | query
  | form
  | body
  deriving DecidableEq, Repr

def kind : Location → Kind
  | url => .url
  | header _ => .header
  | query _ => .query
  | form _ => .form
  | body => .body

def key? : Location → Option String
  | header key | query key | form key => some key
  | url | body => none

theorem eq_iff_kind_and_key {place other : Location}
    : place = other ↔ place.kind = other.kind ∧ place.key? = other.key? := by
  constructor
  · rintro rfl
    exact ⟨rfl, rfl⟩
  · rintro ⟨hkind, hkey⟩
    cases place <;> cases other <;> simp_all [kind, key?]

end Placeholder.Location

namespace Placeholder.Catalog

variable {catalog : Catalog} {location : Location} {name other : String}

theorem names_add
    : (catalog.add location name).names
        =
      if name ∈ catalog.names then catalog.names else catalog.names ++ [name] :=
  keys_add_go catalog.entries

theorem get_add
    : (catalog.add location name).get other
        =
      if other = name then addLocation location (catalog.get other) else catalog.get other :=
  get?_add_go catalog.entries

def ofAdditions (additions : List (Location × String)) : Catalog :=
  additions.foldl (fun catalog addition => catalog.add addition.1 addition.2) .empty

theorem ofAdditions_concat (additions : List (Location × String)) (addition : Location × String)
    : ofAdditions (additions ++ [addition])
        =
      (ofAdditions additions).add addition.1 addition.2 := by
  simp [ofAdditions]

theorem names_ofAdditions (additions : List (Location × String))
    : (ofAdditions additions).names = (additions.map Prod.snd).eraseDups := by
  induction additions using List.reverseRecOn with
  | nil => rfl
  | append_singleton additions addition ih =>
    rw [ofAdditions_concat, names_add, ih, List.map_append, List.map_singleton, eraseDups_concat]
    simp only [List.mem_eraseDups]

theorem get_ofAdditions (additions : List (Location × String)) (name : String)
    : (ofAdditions additions).get name
        =
      ((additions.filter fun addition => addition.2 = name).map Prod.fst).eraseDups := by
  induction additions using List.reverseRecOn with
  | nil => rfl
  | append_singleton additions addition ih =>
    rw [ofAdditions_concat, get_add, ih, List.filter_append, List.map_append]
    by_cases hname : addition.2 = name
    · simp [hname, addLocation, eraseDups_concat]
    · simp [hname, Ne.symm hname]

theorem mem_names_ofAdditions_iff {additions : List (Location × String)}
    : name ∈ (ofAdditions additions).names ↔ ∃ place, (place, name) ∈ additions := by
  rw [names_ofAdditions, List.mem_eraseDups, List.mem_map]
  simp

theorem mem_get_ofAdditions_iff {additions : List (Location × String)}
    : location ∈ (ofAdditions additions).get name ↔ (location, name) ∈ additions := by
  rw [get_ofAdditions, List.mem_eraseDups, List.mem_map]
  simp

theorem isDistinct_ofAdditions (additions : List (Location × String))
    : (ofAdditions additions).IsDistinct := by
  induction additions using List.reverseRecOn with
  | nil => exact isDistinct_empty
  | append_singleton additions addition ih =>
    rw [ofAdditions_concat]
    exact ih.add

theorem IsDistinct.entries_eq (h : catalog.IsDistinct)
    : catalog.entries = catalog.names.map fun name => (name, catalog.get name) := by
  have hentry : ∀ entry ∈ catalog.entries, entry = (entry.1, catalog.get entry.1) := by
    rintro ⟨name, locations⟩ hmem
    unfold get
    rw [Fields.get?_eq_some_of_mem h.names hmem]
    rfl
  calc catalog.entries
      = catalog.entries.map id := (List.map_id _).symm
    _ = catalog.entries.map fun entry => (entry.1, catalog.get entry.1) :=
      List.map_congr_left hentry
    _ = catalog.names.map fun name => (name, catalog.get name) := by
      rw [Catalog.names, Fields.keys, List.map_map, Function.comp_def]

structure Records (additions : List (Location × String)) (catalog : Catalog) : Prop where
  names : ListsFirsts (additions.map Prod.snd) catalog.names
  entries : catalog.entries = catalog.names.map fun name => (name, catalog.get name)
  places : ∀ name,
    ListsFirsts ((additions.filter fun addition => addition.2 = name).map Prod.fst)
      (catalog.get name)
  unknown : ∀ name, catalog.get name = [] ↔ ∀ place, (place, name) ∉ additions
  size : catalog.size = (additions.map Prod.snd).toFinset.card
  contains : ∀ name, catalog.contains name = true ↔ ∃ place, (place, name) ∈ additions

theorem size_eq_length_names : catalog.size = catalog.names.length := by
  simp [size, names, Fields.keys]

theorem records_ofAdditions (additions : List (Location × String))
    : Records additions (ofAdditions additions) := by
  have hnames : ListsFirsts (additions.map Prod.snd) (ofAdditions additions).names := by
    rw [names_ofAdditions]
    exact listsFirsts_eraseDups _
  constructor
  case names => exact hnames
  case entries => exact (isDistinct_ofAdditions additions).entries_eq
  case places =>
    intro name
    rw [get_ofAdditions]
    exact listsFirsts_eraseDups _
  case unknown =>
    intro name
    simp only [List.eq_nil_iff_forall_not_mem, mem_get_ofAdditions_iff]
  case size => rw [size_eq_length_names, hnames.length_eq]
  case contains =>
    intro name
    rw [contains, decide_eq_true_iff, mem_names_ofAdditions_iff]

theorem add_go_of_mem {entries : Fields (List Location)}
    (h : location ∈ (Fields.get? name entries).getD []) : add.go location name entries = entries := by
  induction entries with
  | nil => simp [Fields.get?] at h
  | cons entry rest ih =>
    rcases entry with ⟨n, locations⟩
    rw [Fields.get?] at h
    rw [add.go]
    split
    · next hn =>
      rw [if_pos hn, Option.getD_some] at h
      rw [addLocation, if_pos h]
    · next hn =>
      rw [if_neg hn] at h
      rw [ih h]

theorem add_of_mem_get (h : location ∈ catalog.get name) : catalog.add location name = catalog := by
  unfold add
  rw [add_go_of_mem h]

theorem ofAdditions_append_of_subset {additions again : List (Location × String)}
    (h : again ⊆ additions) : ofAdditions (additions ++ again) = ofAdditions additions := by
  induction again using List.reverseRecOn with
  | nil => rw [List.append_nil]
  | append_singleton again addition ih =>
    rw [List.append_subset, List.cons_subset] at h
    rw [← List.append_assoc, ofAdditions_concat, ih h.1]
    apply add_of_mem_get
    rw [mem_get_ofAdditions_iff]
    exact h.2.1

theorem ofAdditions_append (first second : List (Location × String))
    : ofAdditions (first ++ second)
        =
      second.foldl (fun catalog addition => catalog.add addition.1 addition.2)
        (ofAdditions first) := by
  rw [ofAdditions, List.foldl_append, ofAdditions]

inductive Step where
  | add (location : Location) (name : String)
  | addAll (location : Location) (names : List String)
  deriving DecidableEq, Repr

namespace Step

def apply (catalog : Catalog) : Step → Catalog
  | add location name => catalog.add location name
  | addAll location names => catalog.addAll location names

def additions : Step → List (Location × String)
  | add location name => [(location, name)]
  | addAll location names => names.map fun name => (location, name)

theorem apply_eq_foldl (step : Step)
    : step.apply catalog
        =
      step.additions.foldl (fun catalog addition => catalog.add addition.1 addition.2) catalog := by
  cases step with
  | add location name => rfl
  | addAll location names => simp only [apply, additions, Catalog.addAll, List.foldl_map]

end Step

def ofHistory (steps : List Step) : Catalog :=
  steps.foldl Step.apply .empty

theorem ofHistory_eq_ofAdditions (steps : List Step)
    : ofHistory steps = ofAdditions (steps.flatMap Step.additions) := by
  simp only [ofHistory, ofAdditions, List.foldl_flatMap, ← Step.apply_eq_foldl]

theorem ofHistory_append_cons_of_mem {earlier after : List Step} {step : Step} (h : step ∈ earlier)
    : ofHistory (earlier ++ step :: after) = ofHistory (earlier ++ after) := by
  have hagain : step.additions ⊆ earlier.flatMap Step.additions :=
    fun _ hmem => List.mem_flatMap.mpr ⟨step, h, hmem⟩
  simp only [ofHistory_eq_ofAdditions, List.flatMap_append, List.flatMap_cons]
  rw [← List.append_assoc, ofAdditions_append, ofAdditions_append_of_subset hagain]
  rw [← ofAdditions_append]

/--
Whatever is added to an empty catalog, one by one or several names at once and in whatever order, it
lists the names that were added, each once, in the order in which they were first added, and with each
name the places that were added for it, each once, in the order in which they were first added for it.
Places are told apart by their kinds and by their keys as spelled. No names add nothing, and a step
that is repeated anywhere later adds nothing.
-/
theorem history_exact
    : (∀ steps, Records (steps.flatMap Step.additions) (ofHistory steps))
      ∧ (∀ place other : Location,
        place = other ↔ place.kind = other.kind ∧ place.key? = other.key?)
      ∧ (∀ before location after,
        ofHistory (before ++ .addAll location [] :: after) = ofHistory (before ++ after))
      ∧ ∀ before step between after,
        ofHistory (before ++ step :: between ++ step :: after)
          =
        ofHistory (before ++ step :: between ++ after) := by
  refine ⟨?_, fun _ _ => Location.eq_iff_kind_and_key, ?_, ?_⟩
  · intro steps
    rw [ofHistory_eq_ofAdditions]
    exact records_ofAdditions _
  · intro before location after
    rw [ofHistory_eq_ofAdditions, ofHistory_eq_ofAdditions]
    simp [Step.additions]
  · intro before step between after
    apply ofHistory_append_cons_of_mem
    simp

example
    : ((((empty.addAll .url ["b", "a"]).add (.header "X") "a").addAll .body []).add (.header "x") "a"
        |>.addAll .url ["a", "b"]).entries
        =
      [("b", [.url]), ("a", [.url, .header "X", .header "x"])] := by
  decide

end Placeholder.Catalog

namespace Request

open Placeholder

variable {r : Request}

theorem catalog_eq_ofAdditions
    : r.catalog
        =
      Catalog.ofAdditions
        (r.sites.flatMap fun site => (namesOf site.2).map fun name => (site.1, name)) := by
  simp only [catalog, Catalog.addAll, Catalog.ofAdditions, List.foldl_flatMap, List.foldl_map]

end Request

end RequestFile
