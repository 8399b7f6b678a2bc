import RequestFile.Proofs.Rendering.Passes

/-!
This module contains how rendering factors: each field of a request is rewritten by the names that
have a value and a place leading to that field, in the order of the catalog, whatever happens to the
other fields.
-/

namespace RequestFile

namespace Placeholder

def replaceEach (pairs : List (String × String)) (text : List Char) : List Char :=
  pairs.foldl (fun text pair => Text.replace (token pair.1.toList) pair.2.toList text) text

def VisibleThroughout : List (String × String) → List Char → Prop
  | [], _ => True
  | (name, value) :: rest, text =>
    Grammar.isFieldValue text = true
      ∧ Grammar.isFieldValue (Text.replace (token name.toList) value.toList text) = true
      ∧ VisibleThroughout rest (Text.replace (token name.toList) value.toList text)

section Pairs

variable {pairs : List (String × String)} {text : List Char}

theorem replaceEach_append (first second : List (String × String)) (text : List Char)
    : replaceEach (first ++ second) text = replaceEach second (replaceEach first text) := by
  unfold replaceEach
  rw [List.foldl_append]

theorem visibleThroughout_append {first second : List (String × String)}
    : VisibleThroughout (first ++ second) text
        ↔
      VisibleThroughout first text ∧ VisibleThroughout second (replaceEach first text) := by
  induction first generalizing text with
  | nil =>
    simp only [List.nil_append, VisibleThroughout, true_and]
    rfl
  | cons pair rest ih =>
    simp only [List.cons_append, VisibleThroughout, ih, and_assoc]
    rfl

theorem isFieldValue_replaceEach (hvisible : VisibleThroughout pairs text)
    (htext : Grammar.isFieldValue text = true)
    : Grammar.isFieldValue (replaceEach pairs text) = true := by
  induction pairs generalizing text with
  | nil => exact htext
  | cons pair rest ih => exact ih hvisible.2.2 hvisible.2.1

theorem decode_encode_replaceEach {h : Header} (hvisible : VisibleThroughout pairs h.valueText)
    : Text.Latin1.decode (Text.Latin1.encode (replaceEach pairs h.valueText))
        =
      replaceEach pairs h.valueText := by
  cases pairs with
  | nil =>
    -- A header that no value goes to may hold any bytes.
    show Text.Latin1.decode (Text.Latin1.encode h.valueText) = h.valueText
    rw [Header.valueText, Text.Latin1.encode_decode]
  | cons pair rest =>
    apply Grammar.decode_encode_of_isFieldValue
    exact isFieldValue_replaceEach hvisible hvisible.1

end Pairs

namespace Catalog

def valuedAt (values : Fields String) (here : Location → Bool) (catalog : Catalog) :
    List (String × String) :=
  catalog.entries.flatMap fun (name, locations) =>
    match Fields.get? name values with
    | none => []
    | some value => (locations.filter here).map fun _ => (name, value)

variable {values : Fields String} {catalog : Catalog}

theorem filter_passes (here : Location → Bool)
    : ((catalog.passes values).filter fun p => here p.location).map (fun p => (p.pattern, p.value))
        =
      (catalog.valuedAt values here).map fun pair => (tokenOf pair.1, pair.2) := by
  unfold passes valuedAt
  rw [List.filter_flatMap, List.map_flatMap, List.map_flatMap]
  congr 1
  funext ⟨name, locations⟩
  cases hvalue : Fields.get? name values with
  | none => simp [hvalue]
  | some value => simp [hvalue, List.filter_map, Function.comp_def]

theorem valuedAt_eq_nil_iff {here : Location → Bool}
    : catalog.valuedAt values here = [] ↔ ∀ p ∈ catalog.passes values, here p.location = false := by
  rw [← List.map_eq_nil_iff, ← filter_passes, List.map_eq_nil_iff, List.filter_eq_nil_iff]
  simp

end Catalog

end Placeholder

namespace Request

def rewrite (f : (Placeholder.Location → Bool) → List Char → List Char) (r : Request) : Request :=
  r.change (fun here s => String.ofList (f here s.toList))
    fun h => { h with value := Text.Latin1.encode (f h.isAt h.valueText) }

end Request

namespace Pass

open Placeholder

theorem foldl_apply (ps : List Pass) (s : String)
    : ps.foldl (fun s p => p.apply s) s
        =
      String.ofList (ps.foldl (fun text p => p.replace text) s.toList) := by
  induction ps generalizing s with
  | nil => simp
  | cons p ps ih =>
    rw [List.foldl_cons, List.foldl_cons, ih]
    simp [apply, replace, Text.replaceString]

theorem foldl_rewrite {ps : List Pass} {h : Header} (hvisible : StaysVisible ps h.valueText)
    : ps.foldl (fun h p => p.rewrite h) h
        =
      { h with
        value := Text.Latin1.encode (ps.foldl (fun text p => p.replace text) h.valueText) } := by
  induction ps generalizing h with
  | nil => simp [Header.valueText]
  | cons p ps ih =>
    rw [List.foldl_cons, List.foldl_cons]
    have hrest : StaysVisible ps (p.rewrite h).valueText := by
      rw [valueText_rewrite hvisible.1]
      exact hvisible.2
    rw [ih hrest, valueText_rewrite hvisible.1]
    rfl

section Pairs

variable {ps : List Pass} {pairs : List (String × String)}

theorem foldl_replace
    (h : ps.map (fun p => (p.pattern, p.value)) = pairs.map fun pair => (tokenOf pair.1, pair.2))
    (text : List Char)
    : ps.foldl (fun text p => p.replace text) text = replaceEach pairs text := by
  induction ps generalizing pairs text with
  | nil =>
    cases pairs with
    | nil => rfl
    | cons pair pairs => simp at h
  | cons p ps ih =>
    cases pairs with
    | nil => simp at h
    | cons pair pairs =>
      simp only [List.map_cons, List.cons.injEq, Prod.mk.injEq] at h
      rw [List.foldl_cons, ih h.2]
      simp [replaceEach, replace, h.1, tokenOf]

theorem staysVisible_iff
    (h : ps.map (fun p => (p.pattern, p.value)) = pairs.map fun pair => (tokenOf pair.1, pair.2))
    (text : List Char) : StaysVisible ps text ↔ VisibleThroughout pairs text := by
  induction ps generalizing pairs text with
  | nil =>
    cases pairs with
    | nil => rfl
    | cons pair pairs => simp at h
  | cons p ps ih =>
    cases pairs with
    | nil => simp at h
    | cons pair pairs =>
      simp only [List.map_cons, List.cons.injEq, Prod.mk.injEq] at h
      rw [StaysVisible, ih h.2, VisibleThroughout]
      simp [IsVisible, replace, h.1, tokenOf, and_assoc]

end Pairs

end Pass

namespace Request

open Placeholder

variable {catalog : Catalog} {values : Fields String} {r r' : Request}

theorem form_iff
    : (∀ p ∈ catalog.passes values, ∀ key, p.location = .form key → r.body.isForm = true)
        ↔
      r.body.isForm = true ∨ ∀ key, catalog.valuedAt values (· == .form key) = [] := by
  by_cases hform : r.body.isForm = true
  · simp [hform]
  · simp only [hform, Catalog.valuedAt_eq_nil_iff]
    grind

theorem fitTogether_iff
    : Pass.FitTogether (catalog.passes values) r
        ↔
      (r.body.isForm = true ∨ ∀ key, catalog.valuedAt values (· == .form key) = [])
        ∧ ∀ h, IsFirst Header.foldedName r.headers h →
          VisibleThroughout (catalog.valuedAt values h.isAt) h.valueText := by
  unfold Pass.FitTogether
  rw [form_iff]
  simp only [Pass.staysVisible_iff (Catalog.filter_passes _)]

theorem change_passes
    (hheaders : ∀ h, IsFirst Header.foldedName r.headers h →
      VisibleThroughout (catalog.valuedAt values h.isAt) h.valueText)
    : r.change (Pass.runText (catalog.passes values)) (Pass.runHeader (catalog.passes values))
        =
      r.rewrite fun here => replaceEach (catalog.valuedAt values here) := by
  have htext (here : Location → Bool) (s : String)
      : Pass.runText (catalog.passes values) here s
          =
        String.ofList (replaceEach (catalog.valuedAt values here) s.toList) := by
    unfold Pass.runText
    rw [Pass.foldl_apply, Pass.foldl_replace (Catalog.filter_passes here)]
  unfold change rewrite change
  simp only [htext]
  congr 1
  · apply mapFirsts_congr
    intro h hfirst
    have hvisible := (Pass.staysVisible_iff (Catalog.filter_passes h.isAt) _).mpr (hheaders h hfirst)
    unfold Pass.runHeader
    rw [Pass.foldl_rewrite hvisible, Pass.foldl_replace (Catalog.filter_passes h.isAt)]
  · congr 1
    funext here s
    exact htext here s

theorem render_eq_rewrite
    (hform : r.body.isForm = true ∨ ∀ key, catalog.valuedAt values (· == .form key) = [])
    (hheaders : ∀ h, IsFirst Header.foldedName r.headers h →
      VisibleThroughout (catalog.valuedAt values h.isAt) h.valueText)
    : r.render catalog values
        =
      .ok (r.rewrite fun here => replaceEach (catalog.valuedAt values here)) := by
  unfold render
  rw [Pass.foldlM_applyRequest_eq_ok_iff, fitTogether_iff]
  exact ⟨⟨hform, hheaders⟩, change_passes hheaders⟩

theorem of_render_eq_ok (h : r.render catalog values = .ok r')
    : (r.body.isForm = true ∨ ∀ key, catalog.valuedAt values (· == .form key) = [])
        ∧ (∀ h, IsFirst Header.foldedName r.headers h →
          VisibleThroughout (catalog.valuedAt values h.isAt) h.valueText)
        ∧ r' = r.rewrite fun here => replaceEach (catalog.valuedAt values here) := by
  unfold render at h
  rw [Pass.foldlM_applyRequest_eq_ok_iff, fitTogether_iff] at h
  rcases h with ⟨⟨hform, hheaders⟩, rfl⟩
  exact ⟨hform, hheaders, change_passes hheaders⟩

/--
Rendering succeeds if and only if no value asks for a form field of a body that is no form and each
first header gets through its own replacements, and then each field has gone through its own
replacements.
-/
theorem render_eq_ok_iff
    : r.render catalog values = .ok r'
        ↔
      (r.body.isForm = true ∨ ∀ key, catalog.valuedAt values (· == .form key) = [])
        ∧ (∀ h, IsFirst Header.foldedName r.headers h →
          VisibleThroughout (catalog.valuedAt values h.isAt) h.valueText)
        ∧ r' = r.rewrite fun here => replaceEach (catalog.valuedAt values here) := by
  constructor
  · exact of_render_eq_ok
  · rintro ⟨hform, hheaders, rfl⟩
    exact render_eq_rewrite hform hheaders

end Request

end RequestFile
