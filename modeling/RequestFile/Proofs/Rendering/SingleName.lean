import RequestFile.Proofs.Document.Requests
import RequestFile.Proofs.Rendering.Discovered

/-!
This module contains rendering of a single name. If no two fields of a request share a name or key,
discovery and rendering together replace the token of the name everywhere, once in each field, and
leave all else alone, whatever braces stand in the texts or in the value.
-/

namespace RequestFile

open Placeholder

def Header.mapText (f : List Char → List Char) (h : Header) : Header :=
  { h with value := Text.Latin1.encode (f h.valueText) }

def Body.mapTexts (f : String → String) : Body → Body
  | formData fields => formData (Fields.mapValues (FormPart.mapContent f) fields)
  | formUrlencoded fields => formUrlencoded (Fields.mapValues f fields)
  | body => body

theorem Body.eq_of_mem_sites {body : Body} (hkeys : body.formKeys.Nodup) {key text other : String}
    (h : (.form key, text) ∈ body.sites) (hother : (.form key, other) ∈ body.sites)
    : text = other := by
  cases body with
  | formData fields =>
    simp only [sites, List.mem_map, Prod.mk.injEq, Location.form.injEq] at h hother
    rcases h with ⟨entry, hmem, rfl, rfl⟩
    rcases hother with ⟨entry', hmem', hkey, rfl⟩
    rw [List.inj_on_of_nodup_map hkeys hmem' hmem hkey]
  | formUrlencoded fields =>
    simp only [sites, List.mem_map, Prod.mk.injEq, Location.form.injEq] at h hother
    rcases h with ⟨entry, hmem, rfl, rfl⟩
    rcases hother with ⟨entry', hmem', hkey, rfl⟩
    rw [List.inj_on_of_nodup_map hkeys hmem' hmem hkey]
  | _ => simp [sites] at h

namespace Request

def mapTexts (f : List Char → List Char) (r : Request) : Request :=
  let onText (s : String) := String.ofList (f s.toList)
  { r with
    url := onText r.url
    headers := r.headers.map (Header.mapText f)
    queryParams := Fields.mapValues onText r.queryParams
    body := r.body.mapTexts onText }

variable {r : Request} {here : Location → Bool} {site : Location × String} {name value : String}

structure LeadsTo (r : Request) (here : Location → Bool) (site : Location × String) : Prop where
  mem : site ∈ r.sites
  iff : ∀ other ∈ r.sites, here other.1 = true ↔ other = site

theorem leadsTo_url : r.LeadsTo (· == .url) (.url, r.url) := by
  constructor
  · exact url_mem_sites_iff.mpr rfl
  · rintro ⟨place, text⟩ hother
    rw [beq_iff_eq]
    constructor
    · rintro rfl
      rw [url_mem_sites_iff.mp hother]
    · intro heq
      cases heq
      rfl

theorem leadsTo_header (hheaders : (r.headers.map Header.foldedName).Nodup) {h : Header}
    (hmem : h ∈ r.headers)
    : r.LeadsTo h.isAt (.header (String.ofList h.nameText), String.ofList h.valueText) := by
  constructor
  · exact header_mem_sites_iff.mpr ⟨h, hmem, rfl, rfl⟩
  · rintro ⟨place, text⟩ hother
    constructor
    · intro hhere
      cases place with
      | header place =>
        rcases header_mem_sites_iff.mp hother with ⟨h', hmem', rfl, rfl⟩
        rw [Header.isAt_header, String.toList_ofList] at hhere
        rw [List.inj_on_of_nodup_map hheaders hmem hmem' hhere]
      | _ => simp [Header.isAt] at hhere
    · intro heq
      cases heq
      rw [Header.isAt_header, String.toList_ofList]
      rfl

theorem leadsTo_query (hkeys : r.HasDistinctKeys) {entry : String × String}
    (hmem : entry ∈ r.queryParams)
    : r.LeadsTo (· == .query entry.1) (.query entry.1, entry.2) := by
  constructor
  · exact query_mem_sites_iff.mpr hmem
  · rintro ⟨place, text⟩ hother
    rw [beq_iff_eq]
    constructor
    · rintro rfl
      have heq := List.inj_on_of_nodup_map hkeys.queryParams (query_mem_sites_iff.mp hother) hmem rfl
      rw [← heq]
    · intro heq
      cases heq
      rfl

theorem leadsTo_form (hkeys : r.HasDistinctKeys) {key text : String}
    (hmem : (.form key, text) ∈ r.body.sites)
    : r.LeadsTo (· == .form key) (.form key, text) := by
  constructor
  · exact form_mem_sites_iff.mpr hmem
  · rintro ⟨place, other⟩ hother
    rw [beq_iff_eq]
    constructor
    · rintro rfl
      rw [Body.eq_of_mem_sites hkeys.form (form_mem_sites_iff.mp hother) hmem]
    · intro heq
      cases heq
      rfl

theorem LeadsTo.mem_get_catalog_iff (hname : isName name.toList = true) (h : r.LeadsTo here site)
    : site.1 ∈ r.catalog.get name ↔ token name.toList <:+: site.2.toList := by
  rw [Request.mem_get_catalog_iff]
  constructor
  · rintro ⟨text, hsite, htext⟩
    have heq := (h.iff _ hsite).mp ((h.iff _ h.mem).mpr rfl)
    rw [← heq]
    exact (mem_namesOf_iff.mp htext).2
  · intro htoken
    exact ⟨site.2, h.mem, mem_namesOf_iff.mpr ⟨hname, htoken⟩⟩

theorem valuedAt_catalog (hname : isName name.toList = true) (h : r.LeadsTo here site)
    : r.catalog.valuedAt [(name, value)] here
        =
      if token name.toList <:+: site.2.toList then [(name, value)] else [] := by
  have honly : ∀ location ∈ r.catalog.get name, here location = (location == site.1) := by
    intro location hlocation
    rcases mem_get_catalog_iff.mp hlocation with ⟨text, hsite, _⟩
    rw [Bool.eq_iff_iff, beq_iff_eq]
    constructor
    · intro hhere
      rw [← (h.iff _ hsite).mp hhere]
    · rintro rfl
      exact (h.iff _ h.mem).mpr rfl
  rw [Catalog.valuedAt_single isDistinct_catalog, List.filter_congr honly, List.filter_beq]
  rw [(Catalog.nodup_get isDistinct_catalog).count]
  simp only [h.mem_get_catalog_iff hname]
  split <;> rfl

theorem replaceEach_valuedAt_catalog (hname : isName name.toList = true)
    (h : r.LeadsTo here site)
    : replaceEach (r.catalog.valuedAt [(name, value)] here) site.2.toList
        =
      Text.replace (token name.toList) value.toList site.2.toList := by
  rw [valuedAt_catalog hname h]
  split
  · rfl
  · next hnone =>
    rw [Text.replace_of_not_infix (token_ne_nil _) hnone]
    rfl

def IsSpoiledBy (name value : String) (h : Header) : Prop :=
  token name.toList <:+: h.valueText
    ∧ ¬ (Grammar.isFieldValue h.valueText = true
      ∧ Grammar.isFieldValue
        (Text.replace (token name.toList) value.toList h.valueText) = true)

theorem visibleThroughout_valuedAt_catalog (hname : isName name.toList = true)
    (hheaders : (r.headers.map Header.foldedName).Nodup) {h : Header} (hmem : h ∈ r.headers)
    : VisibleThroughout (r.catalog.valuedAt [(name, value)] h.isAt) h.valueText
        ↔
      ¬ IsSpoiledBy name value h := by
  unfold IsSpoiledBy
  rw [valuedAt_catalog hname (leadsTo_header hheaders hmem), String.toList_ofList]
  by_cases htoken : token name.toList <:+: h.valueText
  · simp [htoken, VisibleThroughout]
  · simp [htoken, VisibleThroughout]

theorem change_eq_mapTexts {f : (Location → Bool) → List Char → List Char}
    {g : List Char → List Char} {body : Body} (hkeys : body.formKeys.Nodup)
    (h : ∀ key text, (.form key, text) ∈ body.sites →
      f (· == .form key) text.toList = g text.toList)
    : (body.change fun here s => String.ofList (f here s.toList))
        =
      body.mapTexts fun s => String.ofList (g s.toList) := by
  cases body with
  | formData fields =>
    rw [Body.change, mapFirsts_eq_map hkeys, Body.mapTexts]
    congr 1
    apply List.map_congr_left
    rintro ⟨key, part⟩ hmem
    have hcontent := h key part.content (List.mem_map_of_mem hmem)
    cases part with
    | text value =>
      dsimp only [FormPart.content, FormPart.mapContent] at hcontent ⊢
      rw [hcontent]
    | file path =>
      dsimp only [FormPart.content, FormPart.mapContent] at hcontent ⊢
      rw [hcontent]
  | formUrlencoded fields =>
    rw [Body.change, mapFirsts_eq_map hkeys, Body.mapTexts]
    congr 1
    apply List.map_congr_left
    intro entry hmem
    rw [h entry.1 entry.2 (List.mem_map_of_mem hmem)]
  | _ => rfl

theorem rewrite_eq_mapTexts (hheaders : (r.headers.map Header.foldedName).Nodup)
    (hkeys : r.HasDistinctKeys) {f : (Location → Bool) → List Char → List Char}
    {g : List Char → List Char}
    (h : ∀ here site, r.LeadsTo here site → f here site.2.toList = g site.2.toList)
    : r.rewrite f = r.mapTexts g := by
  unfold rewrite change mapTexts
  rw [mapFirsts_eq_map hheaders, mapFirsts_eq_map hkeys.queryParams]
  rw [change_eq_mapTexts hkeys.form fun key text hmem => h _ _ (leadsTo_form hkeys hmem)]
  congr 1
  · have hurl : f (· == .url) r.url.toList = g r.url.toList := h _ _ leadsTo_url
    dsimp only
    rw [hurl]
  · apply List.map_congr_left
    intro header hmem
    have hheader := h _ _ (leadsTo_header hheaders hmem)
    rw [String.toList_ofList] at hheader
    rw [hheader, Header.mapText]
  · apply List.map_congr_left
    intro entry hmem
    have hentry : f (· == .query entry.1) entry.2.toList = g entry.2.toList :=
      h _ _ (leadsTo_query hkeys hmem)
    dsimp only
    rw [hentry]

/--
Rendering a single name fails over a header if and only if the value spoils a header. Otherwise the
token of the name is replaced in all fields, and values that hold the token again are left as they are.
-/
theorem render_eq_mapTexts (hheaders : (r.headers.map Header.foldedName).Nodup)
    (hkeys : r.HasDistinctKeys) (hname : isName name.toList = true)
    : ((∃ error, r.render r.catalog [(name, value)] = .error error ∧ error.header?.isSome = true)
        ↔
      ∃ h ∈ r.headers, IsSpoiledBy name value h)
        ∧ ((¬ ∃ h ∈ r.headers, IsSpoiledBy name value h) →
          r.render r.catalog [(name, value)]
            =
          .ok (r.mapTexts (Text.replace (token name.toList) value.toList))) := by
  have hok : (¬ ∃ h ∈ r.headers, IsSpoiledBy name value h) →
      r.render r.catalog [(name, value)]
        = .ok (r.mapTexts (Text.replace (token name.toList) value.toList)) := by
    intro hnone
    rw [render_catalog_eq_ok_iff]
    constructor
    · intro h hfirst
      have hmem := mem_of_isFirst hfirst
      rw [visibleThroughout_valuedAt_catalog hname hheaders hmem]
      exact fun hspoiled => hnone ⟨h, hmem, hspoiled⟩
    · symm
      apply rewrite_eq_mapTexts hheaders hkeys
      intro here site hsite
      exact replaceEach_valuedAt_catalog hname hsite
  refine ⟨?_, hok⟩
  constructor
  · rintro ⟨error, herror, _⟩
    by_contra hnone
    rw [hok hnone] at herror
    cases herror
  · rintro ⟨h, hmem, hspoiled⟩
    cases hrender : r.render r.catalog [(name, value)] with
    | error error => exact ⟨error, rfl, header?_of_render_catalog_eq_error hrender⟩
    | ok r' =>
      have hvisible := (of_render_eq_ok hrender).2.1 h (isFirst_of_mem hheaders hmem)
      exact absurd hspoiled ((visibleThroughout_valuedAt_catalog hname hheaders hmem).mp hvisible)

theorem render_eq_mapTexts_nested
    : let r : Request :=
        { method := "GET", url := "\x7b\x7b\x7bn\x7d\x7d\x7d\x7b\x7bn", httpVersion := "HTTP/1.1"
          metadata := [], headers := [Header.ofText "X" "<\x7b\x7bn\x7d\x7d>"]
          queryParams := [("k", "\x7b\x7bn\x7d\x7d\x7b\x7bn\x7d\x7d")], vars := []
          body := .formData [("f", .file "\x7b\x7bm\x7d\x7d")] }
      (∃ r', r.render r.catalog [("n", "\x7b\x7bn\x7d\x7d.")] = .ok r'
          ∧ r'.url = "\x7b\x7b\x7bn\x7d\x7d.\x7d\x7b\x7bn"
          ∧ r'.queryParams = [("k", "\x7b\x7bn\x7d\x7d.\x7b\x7bn\x7d\x7d.")])
        ∧ ∃ error, r.render r.catalog [("n", "\n")] = .error error
          ∧ error.header?.isSome = true := by
  intro r
  have hheaders : (r.headers.map Header.foldedName).Nodup := by decide
  have hkeys : r.HasDistinctKeys := ⟨by decide, by decide⟩
  constructor
  · have hnone : ¬ ∃ h ∈ r.headers, IsSpoiledBy "n" "\x7b\x7bn\x7d\x7d." h := by
      rintro ⟨h, hmem, hspoiled⟩
      rw [List.mem_singleton.mp hmem] at hspoiled
      exact hspoiled.2 (by decide)
    exact ⟨_, (render_eq_mapTexts hheaders hkeys (by decide)).2 hnone, by decide, by decide⟩
  · exact (render_eq_mapTexts hheaders hkeys (by decide)).1.mpr
      ⟨_, List.mem_singleton_self _, by decide, by decide⟩

end Request

end RequestFile
