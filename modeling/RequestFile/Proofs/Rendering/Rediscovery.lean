import RequestFile.Proofs.Document.Requests
import RequestFile.Proofs.Rendering.Sites

/-!
This module contains what is discovered in a request after rendering. Discovery looks into every
header, but rendering only into the first of each name, so a name with a value can be left over in a
header that stands behind another spelling of its name. Nowhere else is it left over.
-/

namespace RequestFile

open Placeholder

namespace Body

variable {body : Body}

theorem exists_of_mem_sites_change {onText : (Location → Bool) → String → String}
    (hkeys : body.formKeys.Nodup) {site : Location × String} (h : site ∈ (body.change onText).sites)
    : site.1 = .body ∧ site ∈ body.sites
        ∨ ∃ key text, (.form key, text) ∈ body.sites
          ∧ site = (.form key, onText (· == .form key) text) := by
  cases body with
  | formData fields =>
    rw [change, mapFirsts_eq_map hkeys, sites, List.map_map, List.mem_map] at h
    rcases h with ⟨⟨key, part⟩, hentry, rfl⟩
    refine .inr ⟨key, part.content, List.mem_map_of_mem hentry, ?_⟩
    cases part <;> rfl
  | formUrlencoded fields =>
    rw [change, mapFirsts_eq_map hkeys, sites, List.map_map, List.mem_map] at h
    rcases h with ⟨entry, hentry, rfl⟩
    exact .inr ⟨entry.1, entry.2, List.mem_map_of_mem hentry, rfl⟩
  | raw content mime =>
    have hsite : site ∈ (raw content mime).sites := h
    rw [sites, List.mem_singleton] at hsite
    exact .inl ⟨by rw [hsite], h⟩
  | _ => simp [change, sites] at h

end Body

namespace Request

variable {r : Request} {values : Fields String} {name : String}

section Supplied

variable {here : Location → Bool} {location : Location} {text : List Char}

theorem valueIn_catalog_ne_none (hsite : (location, String.ofList text) ∈ r.sites)
    (hhere : here location = true) (hname : name ∈ Fields.keys values)
    (hoccurs : name.toList ∈ names text)
    : valueIn (r.catalog.valuedAt values here) name.toList ≠ none := by
  have hnamesOf : name ∈ namesOf (String.ofList text) := by
    rwa [mem_namesOf_iff, String.toList_ofList, ← mem_names_iff]
  have hany : (r.catalog.get name).any here = true :=
    List.any_eq_true.mpr ⟨location, mem_get_catalog_iff.mpr ⟨_, hsite, hnamesOf⟩, hhere⟩
  rw [valueIn, String.ofList_toList, Ne, Option.map_eq_none_iff, get?_valuedAt_catalog]
  rw [if_pos hany, Fields.get?_eq_none_iff]
  exact not_not_intro hname

theorem not_token_infix_substitute (hvalues : ∀ entry ∈ values, '\x7b' ∉ entry.2.toList)
    (hsite : (location, String.ofList text) ∈ r.sites) (hhere : here location = true)
    (hclean : Placeholder.IsClean text) (hname : name ∈ Fields.keys values)
    (hvalid : isName name.toList = true)
    : ¬ token name.toList <:+:
        Placeholder.substitute (valueIn (r.catalog.valuedAt values here)) text := by
  intro hinfix
  have hoccurs := mem_names_iff.mpr ⟨hvalid, hinfix⟩
  rw [mem_names_substitute (arePlain_catalog hvalues here).isPlain hclean] at hoccurs
  exact valueIn_catalog_ne_none hsite hhere hname hoccurs.1 hoccurs.2

end Supplied

structure IsFreeOf (name : String) (r : Request) : Prop where
  url : ¬ token name.toList <:+: r.url.toList
  headers : ∀ h, IsFirst Header.foldedName r.headers h → ¬ token name.toList <:+: h.valueText
  queryParams : ∀ entry ∈ r.queryParams, ¬ token name.toList <:+: entry.2.toList
  form : ∀ text ∈ r.body.formTexts, ¬ token name.toList <:+: text.toList

theorem isFreeOf_substitute (hkeys : r.HasDistinctKeys) (hclean : r.IsClean)
    (hvalues : ∀ entry ∈ values, '\x7b' ∉ entry.2.toList)
    (hvisible : ∀ h, IsFirst Header.foldedName r.headers h →
      VisibleThroughout (r.catalog.valuedAt values h.isAt) h.valueText)
    (hname : name ∈ Fields.keys values) (hvalid : isName name.toList = true)
    : (r.substitute r.catalog values).IsFreeOf name := by
  constructor
  · have hsite : (.url, String.ofList r.url.toList) ∈ r.sites := by
      rw [String.ofList_toList]
      exact mem_sites_iff.mpr (.inl rfl)
    simp only [substitute, rewrite, change, String.toList_ofList]
    exact not_token_infix_substitute hvalues hsite (by simp) hclean.url hname hvalid
  · intro h hfirst
    simp only [substitute, rewrite, change] at hfirst
    rw [isFirst_mapFirsts_iff (by intro h; rfl)] at hfirst
    rcases hfirst with ⟨h, hfirst, rfl⟩
    have hmem := mem_of_isFirst hfirst
    have hsite : (.header (String.ofList h.nameText), String.ofList h.valueText) ∈ r.sites :=
      mem_sites_iff.mpr (.inr (.inl ⟨h, hmem, rfl⟩))
    have hhere : h.isAt (.header (String.ofList h.nameText)) = true := by
      rw [Header.isAt_header, String.toList_ofList, Header.foldedName]
    rw [Header.valueText, decode_encode_substitute (arePlain_catalog hvalues h.isAt)
      (hclean.headers h hmem) (hvisible h hfirst)]
    exact not_token_infix_substitute hvalues hsite hhere (hclean.headers h hmem) hname hvalid
  · intro entry hentry
    simp only [substitute, rewrite, change, mapFirsts_eq_map hkeys.queryParams] at hentry
    rcases List.mem_map.mp hentry with ⟨entry, hmem, rfl⟩
    have hsite : (.query entry.1, String.ofList entry.2.toList) ∈ r.sites := by
      rw [String.ofList_toList]
      exact mem_sites_iff.mpr (.inr (.inr (.inl ⟨entry, hmem, rfl⟩)))
    rw [String.toList_ofList]
    exact not_token_infix_substitute hvalues hsite (by simp) (hclean.queryParams entry hmem) hname
      hvalid
  · intro text htext
    simp only [substitute, rewrite, change] at htext
    rcases Body.mem_formTexts_iff.mp htext with ⟨key, hchanged⟩
    rcases Body.exists_of_mem_sites_change hkeys.form hchanged with ⟨hbody, _⟩ | ⟨_, text, hmem, heq⟩
    · cases hbody
    · cases heq
      have hsite : (.form key, String.ofList text.toList) ∈ r.sites := by
        rw [String.ofList_toList]
        exact mem_sites_iff.mpr (.inr (.inr (.inr hmem)))
      have htextClean := hclean.form text (Body.mem_formTexts_iff.mpr ⟨key, hmem⟩)
      rw [String.toList_ofList]
      exact not_token_infix_substitute hvalues hsite (by simp) htextClean hname hvalid

theorem location_of_isFreeOf {location : Location} (hfree : r.IsFreeOf name)
    (hplace : location ∈ r.catalog.get name)
    : location = .body
        ∨ ∃ h ∈ r.headers, location = .header (String.ofList h.nameText)
          ∧ ¬ IsFirst Header.foldedName r.headers h := by
  rcases mem_get_catalog_iff.mp hplace with ⟨text, hsite, hname⟩
  have htoken := (mem_namesOf_iff.mp hname).2
  rcases mem_sites_iff.mp hsite with heq | ⟨h, hmem, heq⟩ | ⟨entry, hmem, heq⟩ | hmem
  · cases heq
    exact absurd htoken hfree.url
  · cases heq
    rw [String.toList_ofList] at htoken
    refine .inr ⟨h, hmem, rfl, ?_⟩
    intro hfirst
    exact hfree.headers h hfirst htoken
  · cases heq
    exact absurd htoken (hfree.queryParams entry hmem)
  · cases Body.eq_body_or_mem_formTexts hmem with
    | inl hbody => exact .inl hbody
    | inr hform => exact absurd htoken (hfree.form text hform)

theorem mem_names_catalog_of_substitute (hclean : r.IsClean) {catalog : Catalog}
    (hplain : ∀ here, ArePlain (catalog.valuedAt values here))
    (hvisible : ∀ h, IsFirst Header.foldedName r.headers h →
      VisibleThroughout (catalog.valuedAt values h.isAt) h.valueText)
    (hname : name ∈ (r.substitute catalog values).catalog.names) : name ∈ r.catalog.names := by
  rcases mem_names_catalog_iff.mp hname with ⟨site', hsite', hoccurs⟩
  have hsites := forall₂_sites_substitute hclean hplain hvisible
  rcases exists_left_of_forall₂ hsites hsite' with ⟨site, hsite, hrewrites⟩
  rw [mem_names_catalog_iff]
  refine ⟨site, hsite, ?_⟩
  exact hrewrites.mem_namesOf (fun here => (hplain here).isPlain) (hclean.of_mem_sites hsite) hoccurs

end Request

namespace Document

/--
Whatever is rendered from a document, a name with a value is discovered again only in raw content or
in a header that is not the first of its name, and no name is discovered that was not there before.
-/
theorem rediscovery {text : String} {d : Document} {r : Request} {values : Fields String}
    {r' : Request} (hdocument : ofText text = .ok d) (hr : d.toRequest = .ok r)
    (hclean : r.IsClean) (hvalues : ∀ entry ∈ values, '\x7b' ∉ entry.2.toList)
    (hrender : r.render r.catalog values = .ok r')
    : (∀ name ∈ Fields.keys values, ∀ location ∈ r'.catalog.get name,
        location = .body
          ∨ ∃ h ∈ r'.headers, location = .header (String.ofList h.nameText)
            ∧ ¬ IsFirst Header.foldedName r'.headers h)
      ∧ (∀ name ∈ Fields.keys values, isName name.toList = true → r'.IsFreeOf name)
      ∧ ∀ name ∈ r'.catalog.names, name ∈ r.catalog.names := by
  have hkeys := hasDistinctKeys_of_ofText hdocument hr
  have hplain := Request.arePlain_catalog (r := r) hvalues
  rcases Request.of_render_eq_ok hrender with ⟨_, hvisible, heq⟩
  rw [Request.rewrite_replaceEach hclean hplain] at heq
  subst heq
  have hfree : ∀ name ∈ Fields.keys values, isName name.toList = true →
      (r.substitute r.catalog values).IsFreeOf name := by
    intro name hname hvalid
    exact Request.isFreeOf_substitute hkeys hclean hvalues hvisible hname hvalid
  refine ⟨?_, hfree, ?_⟩
  · intro name hname location hlocation
    have hvalid : isName name.toList = true := by
      rcases Request.mem_get_catalog_iff.mp hlocation with ⟨text, _, hoccurs⟩
      exact (mem_namesOf_iff.mp hoccurs).1
    exact Request.location_of_isFreeOf (hfree name hname hvalid) hlocation
  · intro name hname
    exact Request.mem_names_catalog_of_substitute hclean hplain hvisible hname

theorem rediscovery_form
    : ∃ d r r', ofText "[http]\nurl = 'u'\n[body.form-data]\nk = \x7b text = '\x7b\x7ba\x7d\x7d' \x7d"
          = .ok d
        ∧ d.toRequest = .ok r
        ∧ r.render r.catalog [("a", "v")] = .ok r'
        ∧ r'.IsFreeOf "a" := by
  obtain ⟨d, r, r', hdocument, hr, hrender, hclean⟩ := exists_render_of_test
    "[http]\nurl = 'u'\n[body.form-data]\nk = \x7b text = '\x7b\x7ba\x7d\x7d' \x7d" [("a", "v")]
    (fun _ r _ => decide r.IsClean) (by decide +kernel)
  have hfree := (rediscovery hdocument hr (of_decide_eq_true hclean) (by decide) hrender).2.1
  exact ⟨d, r, r', hdocument, hr, hrender, hfree "a" (by decide) (by decide)⟩

theorem rediscovery_shadowed
    : ∃ d r r', ofText "[http]\nurl = 'u'\n[headers]\nA = '1'\na = '\x7b\x7bb\x7d\x7d'" = .ok d
        ∧ d.toRequest = .ok r
        ∧ r.IsClean
        ∧ r.render r.catalog [("b", "v")] = .ok r'
        ∧ .header "a" ∈ r'.catalog.get "b" := by
  obtain ⟨d, r, r', hdocument, hr, hrender, hfacts⟩ := exists_render_of_test
    "[http]\nurl = 'u'\n[headers]\nA = '1'\na = '\x7b\x7bb\x7d\x7d'" [("b", "v")]
    (fun _ r r' => decide (r.IsClean ∧ .header "a" ∈ r'.catalog.get "b"))
    (by decide +kernel)
  have hfacts := of_decide_eq_true hfacts
  exact ⟨d, r, r', hdocument, hr, hfacts.1, hrender, hfacts.2⟩

end Document

end RequestFile
