/-!
This module contains ordered tables: lists of keys with values in which a key that is written again
keeps its first place and takes the last value.
-/

namespace RequestFile

/--
Keys with values in the order in which the keys were first written.
-/
abbrev Fields (α : Type) := List (String × α)

namespace Fields

variable {α β : Type}

def keys (fields : Fields α) : List String :=
  fields.map Prod.fst

def get? (key : String) : Fields α → Option α
  | [] => none
  | (k, v) :: rest => if k = key then some v else get? key rest

def put (key : String) (value : α) : Fields α → Fields α
  | [] => [(key, value)]
  | (k, v) :: rest => if k = key then (k, value) :: rest else (k, v) :: put key value rest

def ofList (entries : List (String × α)) : Fields α :=
  entries.foldl (fun fields (key, value) => put key value fields) []

def mapValues (f : α → β) (fields : Fields α) : Fields β :=
  fields.map fun (key, value) => (key, f value)

def mapValuesM {ε : Type} (f : α → Except ε β) (fields : Fields α) : Except ε (Fields β) :=
  fields.mapM fun (key, value) => do return (key, ← f value)

def modify (key : String) (f : α → α) : Fields α → Fields α
  | [] => []
  | (k, v) :: rest => if k = key then (k, f v) :: rest else (k, v) :: modify key f rest

@[simp]
theorem keys_nil : keys ([] : Fields α) = [] := rfl

@[simp]
theorem keys_cons (entry : String × α) (rest : Fields α) :
    keys (entry :: rest) = entry.1 :: keys rest := rfl

theorem mem_of_get?_eq_some {key : String} {value : α} {fields : Fields α}
    (h : get? key fields = some value) : (key, value) ∈ fields := by
  induction fields with
  | nil => simp [get?] at h
  | cons entry rest ih =>
    rw [get?] at h
    split at h
    · next heq =>
      cases h
      simp [← heq]
    · exact List.mem_cons_of_mem _ (ih h)

theorem get?_eq_some_of_mem {key : String} {value : α} {fields : Fields α}
    (hkeys : (keys fields).Nodup) (h : (key, value) ∈ fields) : get? key fields = some value := by
  induction fields with
  | nil => simp at h
  | cons entry rest ih =>
    rw [keys_cons, List.nodup_cons] at hkeys
    rw [get?]
    rw [List.mem_cons] at h
    cases h with
    | inl heq => simp [← heq]
    | inr hmem =>
      have hne : entry.1 ≠ key := by
        intro heq
        apply hkeys.1
        rw [heq]
        exact List.mem_map_of_mem hmem
      rw [if_neg hne]
      exact ih hkeys.2 hmem

theorem get?_append (key : String) (first second : Fields α) :
    get? key (first ++ second) = (get? key first).or (get? key second) := by
  induction first with
  | nil => rfl
  | cons entry rest ih =>
    rw [List.cons_append, get?, get?, ih]
    split <;> rfl

theorem get?_eq_find? (key : String) (fields : Fields α)
    : get? key fields = (fields.find? fun entry => entry.1 = key).map Prod.snd := by
  induction fields with
  | nil => rfl
  | cons entry rest ih =>
    rw [get?, List.find?_cons, ih]
    by_cases h : entry.1 = key <;> simp [h]

theorem get?_eq_none_iff {key : String} {fields : Fields α}
    : get? key fields = none ↔ key ∉ keys fields := by
  induction fields with
  | nil => simp [get?]
  | cons entry rest ih =>
    rw [get?, keys_cons, List.mem_cons, not_or, ← ih]
    split
    · next heq => simp [heq]
    · next hne => simp [Ne.symm hne]

theorem isSome_get?_iff {key : String} {fields : Fields α}
    : (get? key fields).isSome = true ↔ key ∈ keys fields := by
  rw [Option.isSome_iff_ne_none, ne_eq, get?_eq_none_iff, Decidable.not_not]

theorem eq_singleton_of_get? {key : String} {value : α} {fields : Fields α}
    (hkeys : (keys fields).Nodup) (hvalue : get? key fields = some value)
    (h : ∀ k ∈ keys fields, k = key) : fields = [(key, value)] := by
  cases fields with
  | nil => simp [get?] at hvalue
  | cons entry rest =>
    have hentry : entry.1 = key := h entry.1 (by simp)
    rw [get?, if_pos hentry, Option.some.injEq] at hvalue
    cases rest with
    | nil => rw [← hentry, ← hvalue]
    | cons other rest =>
      have hother : other.1 = key := h other.1 (by simp)
      simp [hentry, hother] at hkeys

theorem keys_put (key : String) (value : α) (fields : Fields α) :
    keys (put key value fields) = if key ∈ keys fields then keys fields else keys fields ++ [key] := by
  induction fields with
  | nil => simp [put]
  | cons entry rest ih =>
    obtain ⟨k, v⟩ := entry
    by_cases h : k = key
    · simp [put, h]
    · have h' : key ≠ k := fun e => h e.symm
      simp only [put, h, if_false, keys_cons, ih, List.mem_cons, h', false_or]
      split <;> simp

theorem mem_keys_put_iff {key k : String} {value : α} {fields : Fields α}
    : k ∈ keys (put key value fields) ↔ k ∈ keys fields ∨ k = key := by
  rw [keys_put]
  split
  · next hmem =>
    constructor
    · exact .inl
    · rintro (hk | rfl)
      · exact hk
      · exact hmem
  · simp

theorem mem_keys_ofList_iff {k : String} {entries : List (String × α)}
    : k ∈ keys (ofList entries) ↔ k ∈ entries.map Prod.fst := by
  suffices h : ∀ fields : Fields α,
      k ∈ keys (entries.foldl (fun fields (key, value) => put key value fields) fields)
        ↔
      k ∈ keys fields ∨ k ∈ entries.map Prod.fst from
    (h []).trans (by simp)
  induction entries with
  | nil => simp
  | cons entry rest ih =>
    intro fields
    rw [List.foldl_cons, ih, mem_keys_put_iff, List.map_cons, List.mem_cons, or_assoc]

end Fields

end RequestFile
