import RequestFile.Document.Reading
import RequestFile.Proofs.Placeholder.Discovery
import RequestFile.Proofs.Rendering.Simultaneous

/-!
This module contains rendering with the catalog that was discovered in the request. All its places
lead to fields of the request, so a form field is only asked for where there is a form.
-/

namespace RequestFile

open Placeholder

theorem Body.isForm_of_mem_sites {body : Body} {key text : String}
    (h : (.form key, text) ∈ body.sites) : body.isForm = true := by
  cases body with
  | formData fields => rfl
  | formUrlencoded fields => rfl
  | _ => simp [sites] at h

theorem Placeholder.Catalog.valuedAt_single {catalog : Catalog} (h : catalog.IsDistinct)
    {name value : String} (here : Location → Bool)
    : catalog.valuedAt [(name, value)] here
        =
      ((catalog.get name).filter here).map fun _ => (name, value) := by
  have hnames : (Fields.keys catalog.entries).Nodup := h.names
  unfold valuedAt get
  generalize catalog.entries = entries at hnames
  induction entries with
  | nil => rfl
  | cons entry rest ih =>
    rcases entry with ⟨n, locations⟩
    rw [Fields.keys_cons, List.nodup_cons] at hnames
    rw [List.flatMap_cons, ih hnames.2, Fields.get?]
    by_cases hn : n = name
    · rw [hn] at hnames
      simp [hn, Fields.get?, Fields.get?_eq_none_iff.mpr hnames.1]
    · simp [hn, Ne.symm hn, Fields.get?]

namespace Request

variable {r : Request} {values : Fields String} {here : Location → Bool}

theorem isForm_of_mem_get_catalog {key name : String} (h : .form key ∈ r.catalog.get name)
    : r.body.isForm = true := by
  rcases mem_get_catalog_iff.mp h with ⟨text, hsite, _⟩
  exact Body.isForm_of_mem_sites (form_mem_sites_iff.mp hsite)

theorem mem_valuedAt_catalog_iff {pair : String × String}
    : pair ∈ r.catalog.valuedAt values here
        ↔
      Fields.get? pair.1 values = some pair.2
        ∧ ∃ location ∈ r.catalog.get pair.1, here location = true := by
  rw [Catalog.mem_valuedAt_iff]
  apply and_congr_right
  intro _
  simp only [Catalog.mem_get_iff isDistinct_catalog]
  constructor
  · rintro ⟨locations, hentry, location, hlocation, hhere⟩
    exact ⟨location, ⟨locations, hentry, hlocation⟩, hhere⟩
  · rintro ⟨location, ⟨locations, hentry, hlocation⟩, hhere⟩
    exact ⟨locations, hentry, location, hlocation, hhere⟩

theorem get?_valuedAt_catalog (name : String)
    : Fields.get? name (r.catalog.valuedAt values here)
        =
      if (r.catalog.get name).any here then Fields.get? name values else none := by
  have hmem (value : String)
      : (name, value) ∈ r.catalog.valuedAt values here
          ↔
        Fields.get? name values = some value ∧ (r.catalog.get name).any here = true := by
    rw [mem_valuedAt_catalog_iff, List.any_eq_true]
  cases hget : Fields.get? name (r.catalog.valuedAt values here) with
  | some value =>
    have hfound := (hmem value).mp (Fields.mem_of_get?_eq_some hget)
    rw [if_pos hfound.2, hfound.1]
  | none =>
    split
    · next hany =>
      cases hvalue : Fields.get? name values with
      | none => rfl
      | some value =>
        have hkey := List.mem_map_of_mem (f := Prod.fst) ((hmem value).mpr ⟨hvalue, hany⟩)
        exact absurd hkey (Fields.get?_eq_none_iff.mp hget)
    · rfl

theorem arePlain_catalog (hvalues : ∀ entry ∈ values, '\x7b' ∉ entry.2.toList)
    (here : Location → Bool) : ArePlain (r.catalog.valuedAt values here) := by
  apply Catalog.arePlain_valuedAt _ hvalues
  intro name hname
  exact isName_of_mem_names_catalog hname

theorem form_catalog
    : r.body.isForm = true ∨ ∀ key, r.catalog.valuedAt values (· == .form key) = [] := by
  by_cases hform : r.body.isForm = true
  · exact .inl hform
  · right
    intro key
    rw [List.eq_nil_iff_forall_not_mem]
    intro pair hpair
    rcases (mem_valuedAt_catalog_iff.mp hpair).2 with ⟨location, hlocation, hhere⟩
    rw [beq_iff_eq] at hhere
    rw [hhere] at hlocation
    exact hform (isForm_of_mem_get_catalog hlocation)

theorem header?_of_render_catalog_eq_error {error : RenderError}
    (h : r.render r.catalog values = .error error) : error.header?.isSome = true :=
  header?_of_render_eq_error h form_catalog

theorem render_of_forall_get?_eq_none {catalog : Catalog}
    (h : ∀ name ∈ catalog.names, Fields.get? name values = none)
    : r.render catalog values = .ok r := by
  have hpasses : catalog.passes values = [] := by
    rw [Catalog.passes, List.flatMap_eq_nil_iff]
    rintro ⟨name, locations⟩ hentry
    simp only [h name (List.mem_map_of_mem hentry)]
  rw [render, hpasses]
  rfl

theorem render_catalog_eq_ok_iff {r' : Request}
    : r.render r.catalog values = .ok r'
        ↔
      (∀ h, IsFirst Header.foldedName r.headers h →
        VisibleThroughout (r.catalog.valuedAt values h.isAt) h.valueText)
        ∧ r' = r.rewrite fun here => replaceEach (r.catalog.valuedAt values here) := by
  constructor
  · intro h
    exact (of_render_eq_ok h).2
  · rintro ⟨hheaders, rfl⟩
    exact render_eq_rewrite form_catalog hheaders

end Request

theorem Document.exists_render_of_test (text : String) (values : Fields String)
    (test : Document → Request → Request → Bool)
    (h : ((ofText text).toOption.any fun d => d.toRequest.toOption.any fun r =>
      (r.render r.catalog values).toOption.any (test d r)) = true)
    : ∃ d r r', ofText text = .ok d ∧ d.toRequest = .ok r
        ∧ r.render r.catalog values = .ok r' ∧ test d r r' = true := by
  obtain ⟨d, hdocument, hrequest⟩ := Except.exists_of_test _ _ h
  obtain ⟨r, hr, hrendered⟩ := Except.exists_of_test _ _ hrequest
  obtain ⟨r', hrender, htest⟩ := Except.exists_of_test _ _ hrendered
  exact ⟨d, r, r', hdocument, hr, hrender, htest⟩

end RequestFile
