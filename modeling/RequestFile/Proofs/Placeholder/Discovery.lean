import Mathlib.Data.List.Nodup
import RequestFile.Placeholder.Discovery
import RequestFile.Proofs.Placeholder.Scanning

/-!
This module contains what the catalog of a request lists: a name at a place if and only if the name
occurs in a text that is searched under this place.
-/

namespace RequestFile

namespace Placeholder

theorem mem_namesOf_iff {name text : String}
    : name ∈ namesOf text ↔ isName name.toList = true ∧ token name.toList <:+: text.toList := by
  unfold namesOf
  rw [← mem_names_iff, List.mem_map]
  constructor
  · rintro ⟨name, hname, rfl⟩
    rwa [String.toList_ofList]
  · intro hname
    exact ⟨name.toList, hname, String.ofList_toList⟩

end Placeholder

namespace Placeholder.Catalog

variable {catalog : Catalog} {location place : Location} {name other : String}

theorem mem_addLocation_iff {locations : List Location}
    : place ∈ addLocation location locations ↔ place ∈ locations ∨ place = location := by
  unfold addLocation
  split
  · next hmem =>
    constructor
    · exact .inl
    · rintro (hplace | rfl)
      · exact hplace
      · exact hmem
  · simp

theorem get?_add_go (entries : Fields (List Location))
    : (Fields.get? other (add.go location name entries)).getD []
        =
      if other = name then addLocation location ((Fields.get? other entries).getD [])
      else (Fields.get? other entries).getD [] := by
  induction entries with
  | nil =>
    rw [add.go]
    by_cases hother : other = name
    · simp [Fields.get?, addLocation, hother]
    · simp [Fields.get?, hother, Ne.symm hother]
  | cons entry rest ih =>
    rcases entry with ⟨n, locations⟩
    rw [add.go]
    by_cases hn : n = name
    · by_cases hother : other = name
      · simp [Fields.get?, hn, hother]
      · simp [Fields.get?, hn, hother, Ne.symm hother]
    · rw [if_neg hn, Fields.get?, Fields.get?]
      by_cases hn' : n = other
      · have hother : other ≠ name := by rwa [← hn']
        simp [hn', hother]
      · simp [hn', ih]

theorem mem_get_add_iff
    : place ∈ (catalog.add location name).get other
        ↔
      place ∈ catalog.get other ∨ place = location ∧ other = name := by
  unfold get add
  rw [get?_add_go]
  by_cases hother : other = name
  · simp [hother, mem_addLocation_iff]
  · simp [hother]

theorem mem_names_add_iff
    : other ∈ (catalog.add location name).names ↔ other ∈ catalog.names ∨ other = name := by
  unfold names add
  induction catalog.entries with
  | nil => simp [add.go]
  | cons entry rest ih =>
    rcases entry with ⟨n, locations⟩
    rw [add.go]
    split
    · next hn =>
      rw [Fields.keys_cons, Fields.keys_cons, List.mem_cons]
      grind
    · rw [Fields.keys_cons, Fields.keys_cons, List.mem_cons, List.mem_cons, ih, or_assoc]

theorem mem_get_addAll_iff {names : List String}
    : place ∈ (catalog.addAll location names).get other
        ↔
      place ∈ catalog.get other ∨ place = location ∧ other ∈ names := by
  unfold addAll
  induction names generalizing catalog with
  | nil => simp
  | cons name rest ih =>
    rw [List.foldl_cons, ih, mem_get_add_iff, List.mem_cons]
    grind

theorem mem_names_addAll_iff {names : List String}
    : other ∈ (catalog.addAll location names).names ↔ other ∈ catalog.names ∨ other ∈ names := by
  unfold addAll
  induction names generalizing catalog with
  | nil => simp
  | cons name rest ih => rw [List.foldl_cons, ih, mem_names_add_iff, List.mem_cons, or_assoc]

theorem exists_mem_entries_of_mem_get (h : place ∈ catalog.get name)
    : ∃ locations, (name, locations) ∈ catalog.entries ∧ place ∈ locations := by
  unfold get at h
  cases hget : Fields.get? name catalog.entries with
  | none => simp [hget] at h
  | some locations =>
    rw [hget] at h
    exact ⟨locations, Fields.mem_of_get?_eq_some hget, h⟩

structure IsDistinct (catalog : Catalog) : Prop where
  names : catalog.names.Nodup
  locations : ∀ entry ∈ catalog.entries, entry.2.Nodup

theorem isDistinct_empty : empty.IsDistinct := by
  constructor
  · exact List.nodup_nil
  · simp [empty]

theorem nodup_addLocation {locations : List Location} (h : locations.Nodup)
    : (addLocation location locations).Nodup := by
  unfold addLocation
  split
  · exact h
  · next hnew => simpa using h.concat hnew

theorem keys_add_go (entries : Fields (List Location))
    : Fields.keys (add.go location name entries)
        =
      if name ∈ Fields.keys entries then Fields.keys entries else Fields.keys entries ++ [name] := by
  induction entries with
  | nil => rfl
  | cons entry rest ih =>
    rw [add.go]
    by_cases h : entry.1 = name
    · simp [h]
    · rw [if_neg h, Fields.keys_cons, ih, Fields.keys_cons]
      simp only [List.mem_cons, Ne.symm h, false_or]
      split <;> rfl

theorem nodup_locations_add_go {entries : Fields (List Location)}
    (h : ∀ entry ∈ entries, entry.2.Nodup)
    : ∀ entry ∈ add.go location name entries, entry.2.Nodup := by
  induction entries with
  | nil => simp [add.go]
  | cons entry rest ih =>
    rw [List.forall_mem_cons] at h
    rw [add.go]
    split
    · rw [List.forall_mem_cons]
      exact ⟨nodup_addLocation h.1, h.2⟩
    · rw [List.forall_mem_cons]
      exact ⟨h.1, ih h.2⟩

theorem IsDistinct.add (h : catalog.IsDistinct) : (catalog.add location name).IsDistinct := by
  constructor
  · unfold Catalog.names Catalog.add
    rw [keys_add_go]
    split
    · exact h.names
    · next hnew => simpa using h.names.concat hnew
  · exact nodup_locations_add_go h.locations

theorem IsDistinct.addAll {names : List String} (h : catalog.IsDistinct)
    : (catalog.addAll location names).IsDistinct := by
  unfold Catalog.addAll
  induction names generalizing catalog with
  | nil => exact h
  | cons name rest ih =>
    rw [List.foldl_cons]
    exact ih h.add

theorem mem_get_iff (h : catalog.IsDistinct)
    : place ∈ catalog.get name
        ↔
      ∃ locations, (name, locations) ∈ catalog.entries ∧ place ∈ locations := by
  constructor
  · exact exists_mem_entries_of_mem_get
  · rintro ⟨locations, hentry, hplace⟩
    unfold get
    rw [Fields.get?_eq_some_of_mem h.names hentry]
    exact hplace

theorem nodup_get (h : catalog.IsDistinct) : (catalog.get name).Nodup := by
  unfold get
  cases hget : Fields.get? name catalog.entries with
  | none => exact List.nodup_nil
  | some locations => exact h.locations _ (Fields.mem_of_get?_eq_some hget)

end Placeholder.Catalog

namespace Request

open Placeholder

variable {r : Request} {location : Location} {name : String}

theorem mem_get_catalog_iff
    : location ∈ r.catalog.get name ↔ ∃ text, (location, text) ∈ r.sites ∧ name ∈ namesOf text := by
  suffices h : ∀ sites : List (Location × String), ∀ catalog : Catalog,
      location ∈ (sites.foldl (fun catalog site => catalog.addAll site.1 (namesOf site.2))
        catalog).get name
        ↔
      location ∈ catalog.get name ∨ ∃ text, (location, text) ∈ sites ∧ name ∈ namesOf text by
    have hempty : location ∉ Catalog.empty.get name := by simp [Catalog.empty, Catalog.get, Fields.get?]
    have := h r.sites .empty
    rwa [or_iff_right hempty] at this
  intro sites
  induction sites with
  | nil => simp
  | cons site rest ih =>
    intro catalog
    rcases site with ⟨place, text⟩
    rw [List.foldl_cons, ih, Catalog.mem_get_addAll_iff, or_assoc]
    apply or_congr_right
    constructor
    · rintro (⟨rfl, hname⟩ | ⟨other, hother, hname⟩)
      · exact ⟨text, by simp, hname⟩
      · exact ⟨other, by simp [hother], hname⟩
    · rintro ⟨other, hother, hname⟩
      rw [List.mem_cons] at hother
      cases hother with
      | inl heq =>
        cases heq
        exact .inl ⟨rfl, hname⟩
      | inr hother => exact .inr ⟨other, hother, hname⟩

theorem mem_names_catalog_iff
    : name ∈ r.catalog.names ↔ ∃ site ∈ r.sites, name ∈ namesOf site.2 := by
  suffices h : ∀ sites : List (Location × String), ∀ catalog : Catalog,
      name ∈ (sites.foldl (fun catalog site => catalog.addAll site.1 (namesOf site.2)) catalog).names
        ↔
      name ∈ catalog.names ∨ ∃ site ∈ sites, name ∈ namesOf site.2 by
    have hempty : name ∉ Catalog.empty.names := by simp [Catalog.empty, Catalog.names]
    have := h r.sites .empty
    rwa [or_iff_right hempty] at this
  intro sites
  induction sites with
  | nil => simp
  | cons site rest ih =>
    intro catalog
    rw [List.foldl_cons, ih, Catalog.mem_names_addAll_iff, or_assoc]
    simp

theorem isDistinct_catalog : r.catalog.IsDistinct := by
  suffices h : ∀ sites : List (Location × String), ∀ catalog : Catalog, catalog.IsDistinct →
      (sites.foldl (fun catalog site => catalog.addAll site.1 (namesOf site.2)) catalog).IsDistinct from
    h r.sites .empty Catalog.isDistinct_empty
  intro sites
  induction sites with
  | nil => exact fun _ h => h
  | cons site rest ih =>
    intro catalog h
    rw [List.foldl_cons]
    exact ih _ h.addAll

theorem mem_sites_iff {site : Location × String}
    : site ∈ r.sites
        ↔
      site = (.url, r.url)
        ∨ (∃ h ∈ r.headers, (.header (String.ofList h.nameText), String.ofList h.valueText) = site)
        ∨ (∃ entry ∈ r.queryParams, (.query entry.1, entry.2) = site)
        ∨ site ∈ r.body.sites := by
  simp [sites]

theorem location_of_mem_body_sites {site : Location × String} (h : site ∈ r.body.sites)
    : site.1 = .body ∨ ∃ key, site.1 = .form key := by
  cases hbody : r.body with
  | formData fields =>
    rw [hbody] at h
    rcases List.mem_map.mp h with ⟨entry, _, rfl⟩
    exact .inr ⟨entry.1, rfl⟩
  | formUrlencoded fields =>
    rw [hbody] at h
    rcases List.mem_map.mp h with ⟨entry, _, rfl⟩
    exact .inr ⟨entry.1, rfl⟩
  | raw content mime =>
    rw [hbody] at h
    rw [List.mem_singleton.mp h]
    exact .inl rfl
  | _ => simp [hbody, Body.sites] at h

theorem url_mem_sites_iff {text : String} : (.url, text) ∈ r.sites ↔ text = r.url := by
  have hbody : (.url, text) ∉ r.body.sites := fun h => by simpa using location_of_mem_body_sites h
  simp [mem_sites_iff, hbody]

theorem header_mem_sites_iff {text : String}
    : (.header name, text) ∈ r.sites
        ↔
      ∃ h ∈ r.headers, String.ofList h.nameText = name ∧ String.ofList h.valueText = text := by
  have hbody : (.header name, text) ∉ r.body.sites :=
    fun h => by simpa using location_of_mem_body_sites h
  simp [mem_sites_iff, hbody]

theorem query_mem_sites_iff {key text : String}
    : (.query key, text) ∈ r.sites ↔ (key, text) ∈ r.queryParams := by
  have hbody : (.query key, text) ∉ r.body.sites :=
    fun h => by simpa using location_of_mem_body_sites h
  simp [mem_sites_iff, hbody]

theorem form_mem_sites_iff {key text : String}
    : (.form key, text) ∈ r.sites ↔ (.form key, text) ∈ r.body.sites := by
  simp [mem_sites_iff]

theorem isName_of_mem_names_catalog (h : name ∈ r.catalog.names) : isName name.toList = true := by
  rcases mem_names_catalog_iff.mp h with ⟨site, _, hname⟩
  exact (mem_namesOf_iff.mp hname).1

end Request

end RequestFile
