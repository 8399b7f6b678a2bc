import RequestFile.Proofs.Document.Checks
import RequestFile.Proofs.Rendering.Discovered

/-!
This module contains what is searched in a rewritten request. The texts stand one for one, and at the
same places, for those that were searched before: each of them is the old text, or the old text
rewritten. The content of a raw body is never rewritten.
-/

namespace RequestFile

open Placeholder

section Lists

variable {α κ : Type} [DecidableEq κ] {key : α → κ}

theorem forall₂_mapFirsts {R : α → α → Prop} {f : α → α} {xs : List α}
    (hfirst : ∀ x, IsFirst key xs x → R x (f x)) (hother : ∀ x ∈ xs, R x x)
    : List.Forall₂ R xs (mapFirsts key f xs) := by
  induction xs generalizing f with
  | nil => exact .nil
  | cons x rest ih =>
    rw [List.forall_mem_cons] at hother
    rw [mapFirsts_cons]
    apply List.Forall₂.cons
    · exact hfirst x (by simp [IsFirst])
    · apply ih _ hother.2
      intro y hy
      unfold offKey
      split
      · exact hother.2 y (mem_of_isFirst hy)
      · next hne =>
        apply hfirst
        simpa [IsFirst, Ne.symm hne] using hy

end Lists

def RewritesSite (f : (Location → Bool) → List Char → List Char) (site site' : Location × String) :
    Prop :=
  site' = site
    ∨ site.1 ≠ .body ∧ ∃ here, site' = (site.1, String.ofList (f here site.2.toList))

variable {f : (Location → Bool) → List Char → List Char}

theorem RewritesSite.place_eq {site site' : Location × String} (h : RewritesSite f site site')
    : site'.1 = site.1 := by
  rcases h with rfl | ⟨_, here, rfl⟩
  · rfl
  · rfl

section Substitute

variable {values : (Location → Bool) → List Char → Option (List Char)}
variable {site site' : Location × String} {name : String}

theorem RewritesSite.mem_namesOf (hplain : ∀ here, IsPlain (values here))
    (hclean : site.1 ≠ .body → Placeholder.IsClean site.2.toList)
    (h : RewritesSite (fun here => Placeholder.substitute (values here)) site site')
    (hname : name ∈ namesOf site'.2) : name ∈ namesOf site.2 := by
  rcases h with rfl | ⟨hplace, here, rfl⟩
  · exact hname
  · rw [mem_namesOf_iff, ← mem_names_iff, String.toList_ofList] at hname
    rw [mem_names_substitute (hplain here) (hclean hplace)] at hname
    rw [mem_namesOf_iff, ← mem_names_iff]
    exact hname.1

theorem RewritesSite.mem_namesOf_iff (hplain : ∀ here, IsPlain (values here))
    (hclean : site.1 ≠ .body → Placeholder.IsClean site.2.toList)
    (h : RewritesSite (fun here => Placeholder.substitute (values here)) site site')
    (hname : ∀ here, values here name.toList = none)
    : name ∈ namesOf site'.2 ↔ name ∈ namesOf site.2 := by
  constructor
  · exact h.mem_namesOf hplain hclean
  · intro hoccurs
    rcases h with rfl | ⟨hplace, here, rfl⟩
    · exact hoccurs
    · rw [Placeholder.mem_namesOf_iff, ← mem_names_iff] at hoccurs
      rw [Placeholder.mem_namesOf_iff, ← mem_names_iff, String.toList_ofList]
      rw [mem_names_substitute (hplain here) (hclean hplace)]
      exact ⟨hoccurs, hname here⟩

end Substitute

namespace Body

variable {body : Body}

theorem mem_formTexts_iff {text : String}
    : text ∈ body.formTexts ↔ ∃ key, (.form key, text) ∈ body.sites := by
  cases body <;> simp [formTexts, sites, eq_comm, and_comm]

theorem eq_body_or_mem_formTexts {site : Location × String} (h : site ∈ body.sites)
    : site.1 = .body ∨ site.2 ∈ body.formTexts := by
  cases body with
  | formData fields =>
    rcases List.mem_map.mp h with ⟨entry, hentry, rfl⟩
    exact .inr (List.mem_map_of_mem hentry)
  | formUrlencoded fields =>
    rcases List.mem_map.mp h with ⟨entry, hentry, rfl⟩
    exact .inr (List.mem_map_of_mem hentry)
  | raw content mime =>
    rw [sites, List.mem_singleton] at h
    rw [h]
    exact .inl rfl
  | _ => simp [sites] at h

end Body

theorem Body.forall₂_sites_change (body : Body)
    : List.Forall₂ (RewritesSite f) body.sites
        (body.change fun here s => String.ofList (f here s.toList)).sites := by
  cases body with
  | formData fields =>
    rw [change, sites, sites, List.forall₂_map_left_iff, List.forall₂_map_right_iff]
    apply forall₂_mapFirsts
    · rintro ⟨key, part⟩ _
      refine .inr ⟨by simp, (· == .form key), ?_⟩
      cases part <;> rfl
    · exact fun _ _ => .inl rfl
  | formUrlencoded fields =>
    rw [change, sites, sites, List.forall₂_map_left_iff, List.forall₂_map_right_iff]
    apply forall₂_mapFirsts
    · exact fun entry _ => .inr ⟨by simp, (· == .form entry.1), rfl⟩
    · exact fun _ _ => .inl rfl
  | raw content mime => exact .cons (.inl rfl) .nil
  | _ => exact .nil

namespace Request

variable {r : Request}

theorem forall₂_sites_rewrite
    (hheaders : ∀ h, IsFirst Header.foldedName r.headers h →
      Text.Latin1.decode (Text.Latin1.encode (f h.isAt h.valueText)) = f h.isAt h.valueText)
    : List.Forall₂ (RewritesSite f) r.sites (r.rewrite f).sites := by
  have hheader : List.Forall₂ (RewritesSite f)
      (r.headers.map fun h => (.header (String.ofList h.nameText), String.ofList h.valueText))
      ((r.rewrite f).headers.map fun h =>
        (.header (String.ofList h.nameText), String.ofList h.valueText)) := by
    rw [List.forall₂_map_left_iff, List.forall₂_map_right_iff]
    apply forall₂_mapFirsts
    · intro h hfirst
      refine .inr ⟨by simp, h.isAt, ?_⟩
      have hvalue : Header.valueText
          { h with value := Text.Latin1.encode (f h.isAt h.valueText) } = f h.isAt h.valueText :=
        hheaders h hfirst
      rw [hvalue, String.toList_ofList]
      rfl
    · exact fun _ _ => .inl rfl
  have hquery : List.Forall₂ (RewritesSite f)
      (r.queryParams.map fun entry => (.query entry.1, entry.2))
      ((r.rewrite f).queryParams.map fun entry => (.query entry.1, entry.2)) := by
    rw [List.forall₂_map_left_iff, List.forall₂_map_right_iff]
    apply forall₂_mapFirsts
    · exact fun entry _ => .inr ⟨by simp, (· == .query entry.1), rfl⟩
    · exact fun _ _ => .inl rfl
  have hurl : RewritesSite f (.url, r.url) (.url, (r.rewrite f).url) :=
    .inr ⟨by simp, (· == .url), rfl⟩
  have hbody := Body.forall₂_sites_change (f := f) r.body
  exact List.rel_append (List.rel_append (.cons hurl hheader) hquery) hbody

theorem isClean_iff_sites
    : r.IsClean ↔ ∀ site ∈ r.sites, site.1 ≠ .body → Placeholder.IsClean site.2.toList := by
  constructor
  · intro hclean site hsite hplace
    rcases mem_sites_iff.mp hsite with rfl | ⟨h, hmem, rfl⟩ | ⟨entry, hmem, rfl⟩ | hmem
    · exact hclean.url
    · rw [String.toList_ofList]
      exact hclean.headers h hmem
    · exact hclean.queryParams entry hmem
    · exact hclean.form _ ((Body.eq_body_or_mem_formTexts hmem).resolve_left hplace)
  · intro hsites
    constructor
    · exact hsites _ (url_mem_sites_iff.mpr rfl) (by simp)
    · intro h hmem
      have hheader := hsites _ (header_mem_sites_iff.mpr ⟨h, hmem, rfl, rfl⟩) (by simp)
      rwa [String.toList_ofList] at hheader
    · exact fun entry hmem => hsites _ (query_mem_sites_iff.mpr hmem) (by simp)
    · intro text htext
      rcases Body.mem_formTexts_iff.mp htext with ⟨key, hmem⟩
      exact hsites _ (form_mem_sites_iff.mpr hmem) (by simp)

theorem IsClean.of_mem_sites (hclean : r.IsClean) {site : Location × String} (hsite : site ∈ r.sites)
    : site.1 ≠ .body → Placeholder.IsClean site.2.toList :=
  isClean_iff_sites.mp hclean site hsite

theorem decode_encode_substitute {pairs : List (String × String)} {h : Header}
    (hplain : ArePlain pairs) (hclean : Placeholder.IsClean h.valueText)
    (hvisible : VisibleThroughout pairs h.valueText)
    : Text.Latin1.decode (Text.Latin1.encode (Placeholder.substitute (valueIn pairs) h.valueText))
        =
      Placeholder.substitute (valueIn pairs) h.valueText := by
  rw [← replaceEach_eq_substitute hplain hclean]
  exact decode_encode_replaceEach hvisible

theorem forall₂_sites_substitute {catalog : Catalog} {values : Fields String} (hclean : r.IsClean)
    (hplain : ∀ here, ArePlain (catalog.valuedAt values here))
    (hvisible : ∀ h, IsFirst Header.foldedName r.headers h →
      VisibleThroughout (catalog.valuedAt values h.isAt) h.valueText)
    : List.Forall₂
        (RewritesSite fun here => Placeholder.substitute (valueIn (catalog.valuedAt values here)))
        r.sites (r.substitute catalog values).sites := by
  apply forall₂_sites_rewrite
  intro h hfirst
  have htext := hclean.headers h (mem_of_isFirst hfirst)
  exact decode_encode_substitute (hplain h.isAt) htext (hvisible h hfirst)

end Request

end RequestFile
