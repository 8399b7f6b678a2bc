import RequestFile.Fields

/-!
This module contains changes of the first element of each key in a list. A change of the value that
one look-up finds is such a change, and several of them one after another are one of them again,
because none of them moves an element or touches its key.
-/

namespace RequestFile

variable {α κ : Type} [DecidableEq κ] {key : α → κ}

def IsFirst (key : α → κ) (xs : List α) (x : α) : Prop :=
  xs.find? (fun y => key y = key x) = some x

theorem isFirst_and_key_iff {xs : List α} {x : α} {k : κ}
    : IsFirst key xs x ∧ key x = k ↔ xs.find? (fun y => key y = k) = some x := by
  constructor
  · rintro ⟨h, rfl⟩
    exact h
  · intro h
    have hkey : key x = k := by simpa using List.find?_some h
    subst hkey
    exact ⟨h, rfl⟩

theorem mem_of_isFirst {xs : List α} {x : α} (h : IsFirst key xs x) : x ∈ xs :=
  List.mem_of_find?_eq_some h

def onKey (key : α → κ) (k : κ) (f : α → α) (x : α) : α :=
  if key x = k then f x else x

def offKey (key : α → κ) (k : κ) (f : α → α) (x : α) : α :=
  if key x = k then x else f x

def mapFirsts (key : α → κ) (f : α → α) : List α → List α
  | [] => []
  | x :: rest => f x :: mapFirsts key (offKey key (key x) f) rest

@[simp]
theorem mapFirsts_nil (f : α → α) : mapFirsts key f [] = [] := rfl

theorem mapFirsts_cons (f : α → α) (x : α) (rest : List α)
    : mapFirsts key f (x :: rest) = f x :: mapFirsts key (offKey key (key x) f) rest := rfl

theorem key_offKey {f : α → α} (hf : ∀ x, key (f x) = key x) (k : κ) (x : α)
    : key (offKey key k f x) = key x := by
  unfold offKey
  split
  · rfl
  · exact hf x

theorem offKey_comp {f : α → α} (hf : ∀ x, key (f x) = key x) (g : α → α) (k : κ)
    : offKey key k g ∘ offKey key k f = offKey key k (g ∘ f) := by
  funext x
  by_cases h : key x = k <;> simp [offKey, h, hf]

theorem offKey_onKey_self (f : α → α) (k : κ) : offKey key k (onKey key k f) = id := by
  funext x
  by_cases h : key x = k <;> simp [offKey, onKey, h]

theorem offKey_onKey_of_ne {k k' : κ} (hne : k' ≠ k) (f : α → α)
    : offKey key k' (onKey key k f) = onKey key k f := by
  funext x
  by_cases h : key x = k' <;> simp [offKey, onKey, h, hne]

@[simp]
theorem offKey_id (k : κ) : offKey key k id = id := by
  funext x
  simp [offKey]

@[simp]
theorem mapFirsts_id (xs : List α) : mapFirsts key id xs = xs := by
  induction xs with
  | nil => rfl
  | cons x rest ih => simp [mapFirsts_cons, ih]

theorem mapFirsts_onKey_cons (k : κ) (f : α → α) (x : α) (rest : List α)
    : mapFirsts key (onKey key k f) (x :: rest)
        =
      if key x = k then f x :: rest else x :: mapFirsts key (onKey key k f) rest := by
  rw [mapFirsts_cons]
  by_cases h : key x = k
  · simp [h, onKey, offKey_onKey_self]
  · simp [h, onKey, offKey_onKey_of_ne]

theorem mapFirsts_mapFirsts {f : α → α} (hf : ∀ x, key (f x) = key x) (g : α → α) (xs : List α)
    : mapFirsts key g (mapFirsts key f xs) = mapFirsts key (g ∘ f) xs := by
  induction xs generalizing f g with
  | nil => rfl
  | cons x rest ih =>
    rw [mapFirsts_cons, mapFirsts_cons, mapFirsts_cons, hf]
    rw [ih (key_offKey hf _), offKey_comp hf]
    rfl

theorem find?_mapFirsts {f : α → α} (hf : ∀ x, key (f x) = key x) (k : κ) (xs : List α)
    : (mapFirsts key f xs).find? (fun x => key x = k) = (xs.find? fun x => key x = k).map f := by
  induction xs generalizing f with
  | nil => rfl
  | cons x rest ih =>
    rw [mapFirsts_cons]
    by_cases h : key x = k
    · simp [h, hf]
    · simp only [List.find?_cons, hf, h, decide_false]
      rw [ih (key_offKey hf _)]
      cases hfind : rest.find? fun x => key x = k with
      | none => rfl
      | some y =>
        have hy : key y = k := by simpa using List.find?_some hfind
        have hne : key y ≠ key x := by
          rw [hy]
          exact Ne.symm h
        simp [offKey, hne]

theorem isFirst_mapFirsts_iff {f : α → α} (hf : ∀ x, key (f x) = key x) {xs : List α} {y : α}
    : IsFirst key (mapFirsts key f xs) y ↔ ∃ x, IsFirst key xs x ∧ f x = y := by
  unfold IsFirst
  rw [find?_mapFirsts hf, Option.map_eq_some_iff]
  constructor
  · rintro ⟨x, hx, rfl⟩
    rw [hf] at hx
    exact ⟨x, hx, rfl⟩
  · rintro ⟨x, hx, rfl⟩
    rw [hf]
    exact ⟨x, hx, rfl⟩

theorem mapFirsts_congr {f g : α → α} {xs : List α} (h : ∀ x, IsFirst key xs x → f x = g x)
    : mapFirsts key f xs = mapFirsts key g xs := by
  induction xs generalizing f g with
  | nil => rfl
  | cons x rest ih =>
    rw [mapFirsts_cons, mapFirsts_cons, h x (by simp [IsFirst])]
    congr 1
    apply ih
    intro y hy
    unfold offKey
    split
    · rfl
    · next hne =>
      apply h
      simpa [IsFirst, Ne.symm hne] using hy

theorem mem_mapFirsts {f : α → α} {xs : List α} {y : α} (h : y ∈ mapFirsts key f xs)
    : (∃ x, IsFirst key xs x ∧ f x = y) ∨ y ∈ xs := by
  induction xs generalizing f with
  | nil => simp at h
  | cons x rest ih =>
    rw [mapFirsts_cons, List.mem_cons] at h
    cases h with
    | inl heq => exact .inl ⟨x, by simp [IsFirst], heq.symm⟩
    | inr hmem =>
      cases ih hmem with
      | inl hfirst =>
        rcases hfirst with ⟨z, hz, rfl⟩
        unfold offKey
        split
        · exact .inr (List.mem_cons_of_mem _ (mem_of_isFirst hz))
        · next hne => exact .inl ⟨z, by simpa [IsFirst, Ne.symm hne] using hz, rfl⟩
      | inr hy => exact .inr (List.mem_cons_of_mem _ hy)

theorem map_mapFirsts {β : Type} {f : α → α} {g : α → β} (h : ∀ x, g (f x) = g x) (xs : List α)
    : (mapFirsts key f xs).map g = xs.map g := by
  induction xs generalizing f with
  | nil => rfl
  | cons x rest ih =>
    have hrest : ∀ y, g (offKey key (key x) f y) = g y := by
      intro y
      unfold offKey
      split
      · rfl
      · exact h y
    rw [mapFirsts_cons, List.map_cons, List.map_cons, ih hrest, h]

theorem keys_mapFirsts {β : Type} {f : String × β → String × β} (h : ∀ entry, (f entry).1 = entry.1)
    (fields : Fields β) : Fields.keys (mapFirsts Prod.fst f fields) = Fields.keys fields :=
  map_mapFirsts h fields

theorem mapFirsts_eq_map {xs : List α} (hnodup : (xs.map key).Nodup) (f : α → α)
    : mapFirsts key f xs = xs.map f := by
  induction xs generalizing f with
  | nil => rfl
  | cons x rest ih =>
    rw [List.map_cons, List.nodup_cons] at hnodup
    rw [mapFirsts_cons, List.map_cons, ih hnodup.2]
    congr 1
    apply List.map_congr_left
    intro y hy
    have hne : key y ≠ key x := by
      intro heq
      apply hnodup.1
      rw [← heq]
      exact List.mem_map_of_mem hy
    simp [offKey, hne]

theorem isFirst_of_mem {xs : List α} (hnodup : (xs.map key).Nodup) {x : α} (h : x ∈ xs)
    : IsFirst key xs x := by
  induction xs with
  | nil => simp at h
  | cons y rest ih =>
    rw [List.map_cons, List.nodup_cons] at hnodup
    rw [List.mem_cons] at h
    unfold IsFirst
    cases h with
    | inl heq => simp [heq]
    | inr hmem =>
      have hne : key y ≠ key x := by
        intro heq
        apply hnodup.1
        rw [heq]
        exact List.mem_map_of_mem hmem
      rw [List.find?_cons_of_neg (by simpa using hne)]
      exact ih hnodup.2 hmem

theorem Fields.get?_mapFirsts {α : Type} (f : String → α → α) (key : String) (fields : Fields α)
    : get? key (mapFirsts Prod.fst (fun entry => (entry.1, f entry.1 entry.2)) fields)
        =
      (get? key fields).map (f key) := by
  let change := fun entry : String × α => (entry.1, f entry.1 entry.2)
  have hfind : (mapFirsts Prod.fst change fields).find? (fun entry => entry.1 = key)
      = (fields.find? fun entry => entry.1 = key).map change :=
    find?_mapFirsts (f := change) (fun _ => rfl) key fields
  rw [get?_eq_find?, get?_eq_find?, hfind, Option.map_map, Option.map_map]
  cases hentry : fields.find? fun entry => entry.1 = key with
  | none => rfl
  | some entry =>
    have hkey : entry.1 = key := by simpa using List.find?_some hentry
    rw [← hkey]
    rfl

theorem Fields.modify_eq_mapFirsts {β : Type} (k : String) (f : β → β) (fields : Fields β)
    : Fields.modify k f fields
        =
      mapFirsts Prod.fst (onKey Prod.fst k fun entry => (entry.1, f entry.2)) fields := by
  induction fields with
  | nil => rfl
  | cons entry rest ih =>
    rw [mapFirsts_onKey_cons, Fields.modify, ih]

end RequestFile
