import Mathlib.Data.Prod.Lex
import Mathlib.Order.Bounds.Basic
import RequestFile.Proofs.Placeholder.Histories

/-!
This module contains where the tokens of a request stand: in which of its texts, and where in it. A
scan of the texts meets every token at its own position, so the catalog lists the names in the order of
their first tokens, and the places of a name in the order of the texts that mention it.
-/

namespace RequestFile

section FirstPlaces

variable {P α : Type} [LinearOrder P] {found : List (P × α)} {a b : α}

theorem pair_sublist_concat_iff {c : α} {l : List α}
    : [a, b].Sublist (l ++ [c]) ↔ [a, b].Sublist l ∨ a ∈ l ∧ b = c := by
  have hreverse : [b, a].Sublist l.reverse ↔ [a, b].Sublist l := by
    rw [← List.reverse_sublist]
    simp
  rw [← List.reverse_sublist]
  simp [List.sublist_cons_iff, hreverse, and_comm]

theorem pair_sublist_eraseDups_concat_iff [BEq α] [LawfulBEq α] {c : α} {l : List α}
    : [a, b].Sublist (l ++ [c]).eraseDups
        ↔
      [a, b].Sublist l.eraseDups ∨ a ∈ l ∧ b = c ∧ b ∉ l := by
  rw [eraseDups_concat]
  split
  · next hmem =>
    have hnot : ¬ (b = c ∧ b ∉ l) := by
      rintro ⟨rfl, hnew⟩
      exact hnew hmem
    simp only [hnot, and_false, or_false]
  · next hnew =>
    rw [pair_sublist_concat_iff, List.mem_eraseDups]
    apply or_congr_right
    apply and_congr_right
    intro _
    exact ⟨fun h => ⟨h, h ▸ hnew⟩, And.left⟩

theorem isLeast_concat_iff {last place : P} {c : α} (hlast : ∀ x ∈ found, x.1 < last)
    : IsLeast {place | (place, a) ∈ found ++ [(last, c)]} place
        ↔
      IsLeast {place | (place, a) ∈ found} place
        ∨ place = last ∧ a = c ∧ a ∉ found.map Prod.snd := by
  simp only [IsLeast, lowerBounds, Set.mem_ofPred_eq, List.mem_append, List.mem_singleton,
    Prod.mk.injEq]
  constructor
  · rintro ⟨hmem | ⟨rfl, rfl⟩, hle⟩
    · exact .inl ⟨hmem, fun _ hother => hle (.inl hother)⟩
    · refine .inr ⟨rfl, rfl, ?_⟩
      intro hfound
      rcases List.mem_map.mp hfound with ⟨⟨other, _⟩, hother, rfl⟩
      exact (hlast _ hother).not_ge (hle (.inl hother))
  · rintro (⟨hmem, hle⟩ | ⟨rfl, rfl, hnew⟩)
    · refine ⟨.inl hmem, ?_⟩
      rintro other (hother | ⟨rfl, _⟩)
      · exact hle hother
      · exact (hlast _ hmem).le
    · refine ⟨.inr ⟨rfl, rfl⟩, ?_⟩
      rintro other (hother | ⟨rfl, _⟩)
      · exact absurd (List.mem_map_of_mem (f := Prod.snd) hother) hnew
      · exact le_rfl

theorem exists_isLeast_iff (hfound : found.Pairwise fun x y => x.1 < y.1)
    : (∃ place, IsLeast {place | (place, a) ∈ found} place) ↔ a ∈ found.map Prod.snd := by
  induction found using List.reverseRecOn with
  | nil => simp [IsLeast]
  | append_singleton found last ih =>
    rw [List.pairwise_append] at hfound
    simp only [isLeast_concat_iff fun x hx => hfound.2.2 x hx last (by simp), exists_or,
      exists_eq_left, ih hfound.1]
    simp only [List.map_append, List.map_singleton, List.mem_append, List.mem_singleton]
    tauto

theorem pair_sublist_eraseDups_iff [BEq α] [LawfulBEq α]
    (hfound : found.Pairwise fun x y => x.1 < y.1)
    : [a, b].Sublist (found.map Prod.snd).eraseDups
        ↔
      ∃ p q, IsLeast {place | (place, a) ∈ found} p ∧ IsLeast {place | (place, b) ∈ found} q
        ∧ p < q := by
  -- From the right, because the last place is beyond all others: it is the first place of a thing
  -- only if this thing was not found before.
  induction found using List.reverseRecOn with
  | nil => simp [IsLeast]
  | append_singleton found last ih =>
    rw [List.pairwise_append] at hfound
    have hlast : ∀ x ∈ found, x.1 < last.1 := fun x hx => hfound.2.2 x hx last (by simp)
    have hbefore {c : α} {place : P} (h : IsLeast {place | (place, c) ∈ found} place)
        : place < last.1 := hlast _ h.1
    rw [List.map_append, List.map_singleton, pair_sublist_eraseDups_concat_iff, ih hfound.1]
    rw [← exists_isLeast_iff hfound.1]
    simp only [isLeast_concat_iff hlast]
    constructor
    · rintro (⟨p, q, hp, hq, hlt⟩ | ⟨⟨p, hp⟩, hb, hnew⟩)
      · exact ⟨p, q, .inl hp, .inl hq, hlt⟩
      · exact ⟨p, last.1, .inl hp, .inr ⟨rfl, hb, hnew⟩, hbefore hp⟩
    · rintro ⟨p, q, hp | ⟨rfl, _⟩, hq | ⟨rfl, hb, hnew⟩, hlt⟩
      · exact .inl ⟨p, q, hp, hq, hlt⟩
      · exact .inr ⟨⟨p, hp⟩, hb, hnew⟩
      · exact absurd hlt (hbefore hq).not_gt
      · exact absurd hlt (lt_irrefl _)

end FirstPlaces

namespace Placeholder

def shift (distance : Nat) (found : Nat × List Char) : Nat × List Char :=
  (found.1 + distance, found.2)

def positions : List Piece → List (Nat × List Char)
  | [] => []
  | .char _ :: rest => (positions rest).map (shift 1)
  | .placeholder name :: rest => (0, name) :: (positions rest).map (shift (token name).length)

theorem map_snd_map_shift (distance : Nat) (found : List (Nat × List Char))
    : (found.map (shift distance)).map Prod.snd = found.map Prod.snd := by
  rw [List.map_map]
  rfl

theorem map_snd_positions (ps : List Piece)
    : (positions ps).map Prod.snd = ps.filterMap Piece.name? := by
  induction ps with
  | nil => rfl
  | cons piece ps ih =>
    cases piece with
    | char c => rw [positions, map_snd_map_shift, ih]; rfl
    | placeholder name => rw [positions, List.map_cons, map_snd_map_shift, ih]; rfl

theorem pairwise_positions (ps : List Piece)
    : (positions ps).Pairwise fun a b => a.1 < b.1 := by
  have hshift (distance : Nat) {found : List (Nat × List Char)}
      (h : found.Pairwise fun a b => a.1 < b.1)
      : (found.map (shift distance)).Pairwise fun a b => a.1 < b.1 :=
    List.pairwise_map.mpr (h.imp fun hlt => Nat.add_lt_add_right hlt distance)
  induction ps with
  | nil => exact .nil
  | cons piece ps ih =>
    cases piece with
    | char c => exact hshift 1 ih
    | placeholder name =>
      rw [positions, List.pairwise_cons]
      refine ⟨?_, hshift _ ih⟩
      intro found hfound
      rcases List.mem_map.mp hfound with ⟨before, _, rfl⟩
      simp only [shift, length_token]
      omega

theorem mem_map_shift_iff {distance i : Nat} {name : List Char} {found : List (Nat × List Char)}
    : (i, name) ∈ found.map (shift distance) ↔ ∃ j, i = j + distance ∧ (j, name) ∈ found := by
  simp only [List.mem_map, Prod.exists, shift, Prod.mk.injEq]
  constructor
  · rintro ⟨j, other, hmem, rfl, rfl⟩
    exact ⟨j, rfl, hmem⟩
  · rintro ⟨j, rfl, hmem⟩
    exact ⟨j, name, hmem, rfl, rfl⟩

theorem not_token_prefix_drop_of_forall_ne {name s : List Char} (hs : ∀ c ∈ s, c ≠ '\x7b')
    (rest : List Char) {i : Nat} (hi : i < s.length) : ¬ token name <+: (s ++ rest).drop i := by
  rw [List.drop_append_of_le_length hi.le, List.drop_eq_getElem_cons hi, List.cons_append]
  exact not_token_prefix_cons_of_ne (hs _ (List.getElem_mem hi))

theorem token_prefix_drop_token_append {name other : List Char} (hname : isName name = true)
    (hother : isName other = true) (rest : List Char) (i : Nat)
    : token name <+: (token other ++ rest).drop i
        ↔
      i = 0 ∧ name = other
        ∨ ∃ j, i = j + (token other).length ∧ token name <+: rest.drop j := by
  constructor
  · intro hbegin
    by_cases hend : (token other).length ≤ i
    · right
      refine ⟨i - (token other).length, (Nat.sub_add_cancel hend).symm, ?_⟩
      rwa [List.drop_append, List.drop_eq_nil_of_le hend, List.nil_append] at hbegin
    · left
      rw [Nat.not_le, length_token] at hend
      -- Behind the first brace stands a brace that begins no token, and then the name has no brace.
      match i with
      | 0 => exact ⟨rfl, (token_prefix_token_append hname hother rest).mp hbegin⟩
      | 1 => exact absurd hbegin (not_token_prefix_cons hname (nameAt?_second_brace hother rest))
      | i + 2 =>
        refine absurd hbegin (not_token_prefix_drop_of_forall_ne (forall_ne_of_isName hother) rest ?_)
        simp only [List.length_append, List.length_cons, List.length_nil]
        omega
  · rintro (⟨rfl, rfl⟩ | ⟨j, rfl, hbegin⟩)
    · exact List.prefix_append _ _
    · rwa [Nat.add_comm, List.drop_length_add_append]

theorem isName_of_mem_positions {text name : List Char} {i : Nat}
    (h : (i, name) ∈ positions (pieces text)) : isName name = true := by
  have hfound : name ∈ (pieces text).filterMap Piece.name? := by
    rw [← map_snd_positions]
    exact List.mem_map_of_mem (f := Prod.snd) h
  exact isName_of_mem_names (List.mem_eraseDups.mpr hfound)

theorem mem_positions_iff {text name : List Char} (hname : isName name = true) {i : Nat}
    : (i, name) ∈ positions (pieces text) ↔ token name <+: text.drop i := by
  induction text using scanInduction generalizing i with
  | nil => simp [positions, token]
  | char c rest hat ih =>
    rw [pieces_cons hat, positions, mem_map_shift_iff]
    cases i with
    | zero => simpa using not_token_prefix_cons hname hat
    | succ i => simp [ih]
  | token other rest hother ih =>
    rw [pieces_token_append hother, positions, List.mem_cons, mem_map_shift_iff, Prod.mk.injEq]
    rw [token_prefix_drop_token_append hname hother]
    simp only [ih]

/--
A valid name has a token in one of the texts: the first number says in which text, the second where in
it. The text counts first when such places are compared.
-/
def StandsAt (texts : List String) (name : String) (place : Nat ×ₗ Nat) : Prop :=
  isName name.toList = true
    ∧ ∃ text, texts[(ofLex place).1]? = some text
      ∧ token name.toList <+: text.toList.drop (ofLex place).2

def foundIn (texts : List String) : List ((Nat ×ₗ Nat) × String) :=
  texts.zipIdx.flatMap fun (text, number) =>
    (positions (pieces text.toList)).map fun (i, name) => (toLex (number, i), String.ofList name)

theorem mem_foundIn_iff {texts : List String} {name : String} {place : Nat ×ₗ Nat}
    : (place, name) ∈ foundIn texts ↔ StandsAt texts name place := by
  simp only [foundIn, List.mem_flatMap, List.mem_map, Prod.exists, Prod.mk.injEq,
    List.mem_zipIdx_iff_getElem?]
  constructor
  · rintro ⟨text, number, htext, i, found, hmem, rfl, rfl⟩
    have hname := isName_of_mem_positions hmem
    simp only [StandsAt, String.toList_ofList, ofLex_toLex]
    exact ⟨hname, text, htext, (mem_positions_iff hname).mp hmem⟩
  · rintro ⟨hname, text, htext, hbegin⟩
    exact ⟨text, _, htext, _, name.toList, (mem_positions_iff hname).mpr hbegin, rfl,
      String.ofList_toList⟩

theorem pairwise_foundIn (texts : List String)
    : (foundIn texts).Pairwise fun a b => a.1 < b.1 := by
  rw [foundIn, List.pairwise_flatMap]
  constructor
  · rintro ⟨text, number⟩ _
    rw [List.pairwise_map]
    refine (pairwise_positions _).imp ?_
    intro a b hlt
    exact Prod.Lex.toLex_lt_toLex.mpr (.inr ⟨rfl, hlt⟩)
  · have hnumbers : texts.zipIdx.Pairwise fun a b => a.2 < b.2 := by
      rw [← List.pairwise_map, List.zipIdx_map_snd]
      exact List.pairwise_lt_range'
    refine hnumbers.imp ?_
    intro a b hlt x hx y hy
    rcases List.mem_map.mp hx with ⟨_, _, rfl⟩
    rcases List.mem_map.mp hy with ⟨_, _, rfl⟩
    exact Prod.Lex.toLex_lt_toLex.mpr (.inl hlt)

theorem namesOf_eq (text : String)
    : namesOf text
        =
      ((positions (pieces text.toList)).map fun found => String.ofList found.2).eraseDups := by
  have hinjective : Function.Injective String.ofList := fun _ _ h => String.ofList_injective h
  have hmap : (positions (pieces text.toList)).map (fun found => String.ofList found.2)
      = ((pieces text.toList).filterMap Piece.name?).map String.ofList := by
    rw [← map_snd_positions, List.map_map]
    rfl
  rw [hmap, eraseDups_map hinjective]
  rfl

theorem nodup_namesOf (text : String) : (namesOf text).Nodup := by
  rw [namesOf_eq]
  exact nodup_eraseDups _

theorem eraseDups_map_snd_foundIn (texts : List String)
    : ((foundIn texts).map Prod.snd).eraseDups = (texts.flatMap namesOf).eraseDups := by
  have hmap : (foundIn texts).map Prod.snd
      = texts.flatMap fun text =>
        (positions (pieces text.toList)).map fun found => String.ofList found.2 := by
    rw [foundIn, List.map_flatMap]
    conv => rhs; rw [← List.zipIdx_map_fst 0 texts, List.flatMap_map]
    simp only [List.map_map]
    rfl
  rw [hmap, ← eraseDups_flatMap_eraseDups, funext namesOf_eq]

end Placeholder

namespace Placeholder

def Mentions (text name : String) : Prop :=
  isName name.toList = true ∧ token name.toList <:+: text.toList

instance (text name : String) : Decidable (Mentions text name) :=
  inferInstanceAs (Decidable (_ ∧ _))

theorem mentions_iff {text name : String} : Mentions text name ↔ name ∈ namesOf text :=
  mem_namesOf_iff.symm

end Placeholder

namespace Request

open Placeholder

variable {r : Request} {name other : String}

theorem names_catalog : r.catalog.names = (r.sites.flatMap fun site => namesOf site.2).eraseDups := by
  rw [catalog_eq_ofAdditions, Catalog.names_ofAdditions, List.map_flatMap]
  simp

theorem filter_additions (site : Location × String) (name : String)
    : ((namesOf site.2).map fun name => (site.1, name)).filter (fun addition => addition.2 = name)
        =
      if Mentions site.2 name then [(site.1, name)] else [] := by
  have hfilter : (namesOf site.2).filter (· == name)
      = if Mentions site.2 name then [name] else [] := by
    rw [List.filter_beq, (nodup_namesOf site.2).count]
    simp only [mentions_iff]
    split <;> rfl
  have hcomp : (fun addition : Location × String => decide (addition.2 = name)) ∘ (site.1, ·)
      = (· == name) := rfl
  rw [List.filter_map, hcomp, hfilter]
  split <;> rfl

theorem get_catalog
    : r.catalog.get name
        =
      ((r.sites.filter fun site => Mentions site.2 name).map Prod.fst).eraseDups := by
  rw [catalog_eq_ofAdditions, Catalog.get_ofAdditions, List.filter_flatMap]
  simp only [filter_additions]
  congr 1
  induction r.sites with
  | nil => rfl
  | cons site rest ih =>
    rw [List.flatMap_cons, List.map_append, ih, List.filter_cons]
    split
    · next hmentions => simp [hmentions]
    · next hsilent => simp [hsilent]

theorem pair_sublist_names_catalog_iff
    : [name, other].Sublist r.catalog.names
        ↔
      ∃ p q, IsLeast {place | StandsAt (r.sites.map Prod.snd) name place} p
        ∧ IsLeast {place | StandsAt (r.sites.map Prod.snd) other place} q
        ∧ p < q := by
  rw [names_catalog, ← List.flatMap_map, ← eraseDups_map_snd_foundIn]
  rw [pair_sublist_eraseDups_iff (pairwise_foundIn _)]
  simp only [mem_foundIn_iff]

/--
The catalog of a request lists the names that its texts mention, each once, in the order in which
their tokens first occur, text by text and then from left to right. With each name it lists the places
of all texts that mention it, each once, in the order of the texts.
-/
theorem catalog_exact (r : Request)
    : (∀ name, r.catalog.contains name = true ↔ ∃ site ∈ r.sites, Mentions site.2 name)
      ∧ (∀ name, r.catalog.get name
        = ((r.sites.filter fun site => Mentions site.2 name).map Prod.fst).eraseDups)
      ∧ r.catalog.names.Nodup
      ∧ ∀ name other, [name, other].Sublist r.catalog.names ↔
        ∃ p q, IsLeast {place | StandsAt (r.sites.map Prod.snd) name place} p
          ∧ IsLeast {place | StandsAt (r.sites.map Prod.snd) other place} q
          ∧ p < q := by
  refine ⟨?_, fun _ => get_catalog, isDistinct_catalog.names, fun _ _ => pair_sublist_names_catalog_iff⟩
  intro name
  simp only [Catalog.contains, decide_eq_true_iff, mem_names_catalog_iff, mentions_iff]

end Request

end RequestFile
