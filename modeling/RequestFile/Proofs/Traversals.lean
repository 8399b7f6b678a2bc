import Mathlib.Data.List.Forall2
import RequestFile.Checked
import RequestFile.Fields

/-!
This module contains lists that are related item by item, and traversals that can fail: what a traversal
makes of a list is related to it item by item.
-/

namespace RequestFile

variable {ε α β : Type}

theorem forall₂_congr_of_mem {R S : α → β → Prop} {xs : List α} {ys : List β}
    (h : ∀ x ∈ xs, ∀ y, R x y ↔ S x y) : List.Forall₂ R xs ys ↔ List.Forall₂ S xs ys := by
  induction xs generalizing ys with
  | nil => simp
  | cons x rest ih =>
    have hrest (ys : List β) : List.Forall₂ R rest ys ↔ List.Forall₂ S rest ys :=
      ih fun y hy => h y (by simp [hy])
    simp only [List.forall₂_cons_left_iff, h x (by simp), hrest]

theorem exists_forall₂_iff {R : α → β → Prop} {motive : β → Prop} {xs : List α}
    : (∃ ys, List.Forall₂ R xs ys ∧ ∀ y ∈ ys, motive y) ↔ ∀ x ∈ xs, ∃ y, R x y ∧ motive y := by
  induction xs with
  | nil => simp
  | cons x rest ih =>
    rw [List.forall_mem_cons, ← ih]
    constructor
    · rintro ⟨_, hxs, hys⟩
      rcases List.forall₂_cons_left_iff.mp hxs with ⟨y, ys, hx, hrest, rfl⟩
      rw [List.forall_mem_cons] at hys
      exact ⟨⟨y, hx, hys.1⟩, ys, hrest, hys.2⟩
    · rintro ⟨⟨y, hx, hy⟩, ys, hrest, hys⟩
      exact ⟨y :: ys, .cons hx hrest, List.forall_mem_cons.mpr ⟨hy, hys⟩⟩

theorem exists_left_of_forall₂ {R : α → β → Prop} {xs : List α} {ys : List β}
    (h : List.Forall₂ R xs ys) {y : β} (hy : y ∈ ys) : ∃ x ∈ xs, R x y := by
  induction h with
  | nil => simp at hy
  | cons hxy _ ih =>
    rw [List.mem_cons] at hy
    cases hy with
    | inl heq => exact ⟨_, List.mem_cons_self, heq ▸ hxy⟩
    | inr hy =>
      rcases ih hy with ⟨x, hx, hR⟩
      exact ⟨x, List.mem_cons_of_mem _ hx, hR⟩

theorem exists_right_of_forall₂ {R : α → β → Prop} {xs : List α} {ys : List β}
    (h : List.Forall₂ R xs ys) {x : α} (hx : x ∈ xs) : ∃ y ∈ ys, R x y :=
  exists_left_of_forall₂ (R := flip R) h.flip hx

theorem map_eq_map_some_iff {f : α → Option β} {xs : List α} {ys : List β}
    : xs.map f = ys.map some ↔ List.Forall₂ (fun x y => f x = some y) xs ys := by
  rw [← List.forall₂_eq_eq_eq, List.forall₂_map_left_iff, List.forall₂_map_right_iff]

theorem Checked.each_eq_ok_iff {check : α → Checked ε β} {xs : List α} {ys : List β}
    : Checked.each check xs = .ok ys ↔ List.Forall₂ (fun x y => check x = .ok y) xs ys := by
  induction xs generalizing ys with
  | nil => simp [Checked.each, eq_comm]
  | cons x rest ih =>
    rw [Checked.each, Except.map_eq_ok_iff, List.forall₂_cons_left_iff]
    constructor
    · rintro ⟨⟨y, others⟩, hboth, rfl⟩
      rw [Checked.both_eq_ok_iff, ih] at hboth
      exact ⟨y, others, hboth.1, hboth.2, rfl⟩
    · rintro ⟨y, others, hy, hothers, rfl⟩
      refine ⟨(y, others), ?_, rfl⟩
      rw [Checked.both_eq_ok_iff, ih]
      exact ⟨hy, hothers⟩

theorem mapM_eq_ok_iff {f : α → Except ε β} {xs : List α} {ys : List β}
    : xs.mapM f = .ok ys ↔ List.Forall₂ (fun x y => f x = .ok y) xs ys := by
  induction xs generalizing ys with
  | nil => cases ys <;> simp [pure, Except.pure]
  | cons x rest ih =>
    rw [List.mapM_cons, Except.bind_eq_ok_iff, List.forall₂_cons_left_iff]
    simp only [Except.bind_eq_ok_iff, ih, pure, Except.pure, Except.ok.injEq]
    constructor
    · rintro ⟨y, hy, others, hothers, rfl⟩
      exact ⟨y, others, hy, hothers, rfl⟩
    · rintro ⟨y, others, hy, hothers, rfl⟩
      exact ⟨y, hy, others, hothers, rfl⟩

theorem exists_mapM_iff {f : α → Except ε β} {xs : List α}
    : (∃ ys, xs.mapM f = .ok ys) ↔ ∀ x ∈ xs, ∃ y, f x = .ok y := by
  have h : (∃ ys, List.Forall₂ (fun x y => f x = .ok y) xs ys ∧ ∀ y ∈ ys, True) ↔ _ :=
    exists_forall₂_iff
  simpa [mapM_eq_ok_iff] using h

theorem mapM_congr {f g : α → Except ε β} {xs : List α} (h : ∀ x ∈ xs, f x = g x)
    : xs.mapM f = xs.mapM g := by
  induction xs with
  | nil => rfl
  | cons x rest ih =>
    rw [List.forall_mem_cons] at h
    rw [List.mapM_cons, List.mapM_cons, h.1, ih h.2]

namespace Fields

variable {table : Fields α} {fields : Fields β}

theorem mapValuesM_eq_ok_iff {f : α → Except ε β}
    : mapValuesM f table = .ok fields
        ↔
      List.Forall₂ (fun entry field => entry.1 = field.1 ∧ f entry.2 = .ok field.2) table fields := by
  rw [mapValuesM, mapM_eq_ok_iff]
  apply forall₂_congr_of_mem
  intro entry _ field
  rw [Except.bind_eq_ok_iff]
  constructor
  · rintro ⟨x, hx, heq⟩
    cases heq
    exact ⟨rfl, hx⟩
  · rintro ⟨hkey, hx⟩
    exact ⟨field.2, hx, by rw [hkey]; rfl⟩

theorem exists_mapValuesM_iff {f : α → Except ε β}
    : (∃ fields, mapValuesM f table = .ok fields) ↔ ∀ entry ∈ table, ∃ y, f entry.2 = .ok y := by
  rw [mapValuesM, exists_mapM_iff]
  simp [Except.bind_eq_ok_iff, pure, Except.pure]

theorem mapValuesM_congr {f g : α → Except ε β} (h : ∀ entry ∈ table, f entry.2 = g entry.2)
    : mapValuesM f table = mapValuesM g table := by
  apply mapM_congr
  intro entry hentry
  dsimp only
  rw [h entry hentry]

theorem keys_eq_of_forall₂ {R : String × α → String × β → Prop}
    (hkey : ∀ entry field, R entry field → entry.1 = field.1) (h : List.Forall₂ R table fields)
    : keys fields = keys table := by
  induction h with
  | nil => rfl
  | cons hentry _ ih => rw [keys_cons, keys_cons, ih, hkey _ _ hentry]

theorem keys_of_mapValuesM {f : α → Except ε β} (h : mapValuesM f table = .ok fields)
    : keys fields = keys table :=
  keys_eq_of_forall₂ (fun _ _ h => h.1) (mapValuesM_eq_ok_iff.mp h)

theorem get?_of_mapValuesM {f : α → Except ε β} (h : mapValuesM f table = .ok fields) {key : String}
    {x : α} (hx : get? key table = some x) : ∃ y, get? key fields = some y ∧ f x = .ok y := by
  rw [mapValuesM_eq_ok_iff] at h
  induction h with
  | nil => cases hx
  | @cons entry field _ _ hentry _ ih =>
    rw [get?] at hx ⊢
    rw [← hentry.1]
    split at hx
    · next heq =>
      cases hx
      exact ⟨field.2, if_pos heq, hentry.2⟩
    · next hne =>
      rw [if_neg hne]
      exact ih hx

end Fields

end RequestFile
