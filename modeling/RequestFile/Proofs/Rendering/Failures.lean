import RequestFile.Proofs.Document.Requests
import RequestFile.Proofs.Rendering.Discovered

/-!
This module contains when rendering with the discovered catalog cannot fail. A replacement brings in
no characters but those of the text and of the value, so visible text stays visible as long as the
values that are put into headers are visible, whatever placeholders of each other they contain.
-/

namespace RequestFile

theorem Grammar.isFieldValue_replace {pattern value text : List Char}
    (hvalue : isFieldValue value = true) (htext : isFieldValue text = true)
    : isFieldValue (Text.replace pattern value text) = true := by
  unfold isFieldValue at *
  rw [List.all_eq_true] at *
  intro c hc
  cases Text.mem_of_mem_replace hc with
  | inl hmem => exact hvalue c hmem
  | inr hmem => exact htext c hmem

theorem Placeholder.visibleThroughout_of_isFieldValue {pairs : List (String × String)}
    {text : List Char} (hpairs : ∀ pair ∈ pairs, Grammar.isFieldValue pair.2.toList = true)
    (htext : Grammar.isFieldValue text = true) : VisibleThroughout pairs text := by
  induction pairs generalizing text with
  | nil => trivial
  | cons pair rest ih =>
    rw [List.forall_mem_cons] at hpairs
    have hnext : Grammar.isFieldValue
        (Text.replace (token pair.1.toList) pair.2.toList text) = true :=
      Grammar.isFieldValue_replace hpairs.1 htext
    exact ⟨htext, hnext, ih hpairs.2 hnext⟩

namespace Request

variable {r : Request} {values : Fields String}

theorem render_catalog_ne_notAForm (key kind : String)
    : r.render r.catalog values ≠ .error (.notAForm key kind) := by
  intro herror
  have hheader := header?_of_render_catalog_eq_error herror
  simp [RenderError.header?] at hheader

theorem exists_render_catalog (hheaders : ∀ h ∈ r.headers, Grammar.isFieldValue h.valueText = true)
    (hvalues : ∀ name value, Fields.get? name values = some value →
      (∃ header, .header header ∈ r.catalog.get name) → Grammar.isFieldValue value.toList = true)
    : ∃ r', r.render r.catalog values = .ok r' := by
  simp only [render_catalog_eq_ok_iff, exists_and_left, exists_eq, and_true]
  intro h hfirst
  apply Placeholder.visibleThroughout_of_isFieldValue
  · intro pair hpair
    rcases mem_valuedAt_catalog_iff.mp hpair with ⟨hvalue, location, hlocation, hat⟩
    apply hvalues pair.1 pair.2 hvalue
    -- The values that go into a header are values of names with a place in a header.
    cases location with
    | header name => exact ⟨name, hlocation⟩
    | _ => simp [Header.isAt] at hat
  · exact hheaders h (mem_of_isFirst hfirst)

end Request

theorem Document.exists_render {text : String} {d : Document} {r : Request}
    {values : Fields String} (hdocument : ofText text = .ok d) (hr : d.toRequest = .ok r)
    (hvalues : ∀ name value, Fields.get? name values = some value →
      (∃ header, .header header ∈ r.catalog.get name) → Grammar.isFieldValue value.toList = true)
    : ∃ r', r.render r.catalog values = .ok r' := by
  rcases exists_ofTable_of_ofText hdocument with ⟨root, hroot, htable⟩
  exact Request.exists_render_catalog (isWellFormed_of_ofTable hroot htable hr).headerValues hvalues

end RequestFile
