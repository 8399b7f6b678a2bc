import RequestFile.Proofs.Rendering.Sites

/-!
This module contains rendering in stages. In a request whose double braces occur as tokens only, values
without opening braces may be put in some at a time: discovery finds the names that are left where it
found them before, so the last stage leaves what all values at once would have left.
-/

namespace RequestFile

namespace Placeholder

section Pairs

variable {pairs pairs' : List (String × String)} {text : List Char}

theorem eq_nil_iff_valueIn : pairs = [] ↔ ∀ name, valueIn pairs name = none := by
  constructor
  · rintro rfl name
    rfl
  · intro h
    rw [List.eq_nil_iff_forall_not_mem]
    intro pair hpair
    have hnone := h pair.1.toList
    rw [valueIn, String.ofList_toList, Option.map_eq_none_iff, Fields.get?_eq_none_iff] at hnone
    exact hnone (List.mem_map_of_mem hpair)

theorem ArePlain.append (h : ArePlain pairs) (h' : ArePlain pairs') : ArePlain (pairs ++ pairs') := by
  intro pair hpair
  rw [List.mem_append] at hpair
  exact hpair.elim (h pair) (h' pair)

theorem replaceEach_congr (h : ArePlain pairs) (h' : ArePlain pairs')
    (hvalues : valueIn pairs = valueIn pairs') (hclean : IsClean text)
    : replaceEach pairs text = replaceEach pairs' text := by
  rw [replaceEach_eq_substitute h hclean, replaceEach_eq_substitute h' hclean, hvalues]

theorem visibleThroughout_congr (h : ArePlain pairs) (h' : ArePlain pairs')
    (hvalues : valueIn pairs = valueIn pairs') (hclean : IsClean text)
    : VisibleThroughout pairs text ↔ VisibleThroughout pairs' text := by
  have hnil : pairs = [] ↔ pairs' = [] := by rw [eq_nil_iff_valueIn, eq_nil_iff_valueIn, hvalues]
  rw [visibleThroughout_iff h hclean, visibleThroughout_iff h' hclean, Ne, hnil, hvalues]

end Pairs

end Placeholder

open Placeholder

namespace Request

variable {r : Request}

theorem rewrite_rewrite {f g : (Location → Bool) → List Char → List Char}
    (hheaders : ∀ h, IsFirst Header.foldedName r.headers h →
      Text.Latin1.decode (Text.Latin1.encode (f h.isAt h.valueText)) = f h.isAt h.valueText)
    : (r.rewrite f).rewrite g = r.rewrite fun here text => g here (f here text) := by
  unfold rewrite
  rw [change_change (by intro h; rfl)]
  simp only [Function.comp_def, String.toList_ofList]
  unfold change
  congr 1
  apply mapFirsts_congr
  intro h hfirst
  have hvalue : Header.valueText
      { h with value := Text.Latin1.encode (f h.isAt h.valueText) } = f h.isAt h.valueText :=
    hheaders h hfirst
  rw [hvalue]
  rfl

theorem isFirst_headers_rewrite_iff {f : (Location → Bool) → List Char → List Char} {h' : Header}
    : IsFirst Header.foldedName (r.rewrite f).headers h'
        ↔
      ∃ h, IsFirst Header.foldedName r.headers h
        ∧ { h with value := Text.Latin1.encode (f h.isAt h.valueText) } = h' :=
  isFirst_mapFirsts_iff (by intro h; rfl)

section Stages

variable {first second : Fields String} {here : Location → Bool}

theorem valueIn_valuedAt_append
    : valueIn (r.catalog.valuedAt first here ++ r.catalog.valuedAt second here)
        =
      valueIn (r.catalog.valuedAt (first ++ second) here) := by
  funext chars
  unfold valueIn
  rw [Fields.get?_append, get?_valuedAt_catalog, get?_valuedAt_catalog, get?_valuedAt_catalog]
  rw [Fields.get?_append]
  split <;> rfl

section Texts

variable (hvalues : ∀ entry ∈ first ++ second, '\x7b' ∉ entry.2.toList) {text : List Char}
  (hclean : Placeholder.IsClean text)

include hvalues hclean

theorem visibleThroughout_valuedAt_append
    : VisibleThroughout (r.catalog.valuedAt (first ++ second) here) text
        ↔
      VisibleThroughout (r.catalog.valuedAt first here) text
        ∧ VisibleThroughout (r.catalog.valuedAt second here)
          (replaceEach (r.catalog.valuedAt first here) text) := by
  rw [List.forall_mem_append] at hvalues
  have hfirst := arePlain_catalog (r := r) hvalues.1 here
  have hsecond := arePlain_catalog (r := r) hvalues.2 here
  have hall := arePlain_catalog (r := r) (List.forall_mem_append.mpr hvalues) here
  rw [← visibleThroughout_append]
  exact visibleThroughout_congr hall (hfirst.append hsecond) valueIn_valuedAt_append.symm hclean

theorem replaceEach_valuedAt_append
    : replaceEach (r.catalog.valuedAt (first ++ second) here) text
        =
      replaceEach (r.catalog.valuedAt second here)
        (replaceEach (r.catalog.valuedAt first here) text) := by
  rw [List.forall_mem_append] at hvalues
  have hfirst := arePlain_catalog (r := r) hvalues.1 here
  have hsecond := arePlain_catalog (r := r) hvalues.2 here
  have hall := arePlain_catalog (r := r) (List.forall_mem_append.mpr hvalues) here
  rw [← replaceEach_append]
  exact replaceEach_congr hall (hfirst.append hsecond) valueIn_valuedAt_append.symm hclean

theorem isClean_replaceEach_valuedAt
    : Placeholder.IsClean (replaceEach (r.catalog.valuedAt first here) text) := by
  have hfirst := arePlain_catalog (r := r) (List.forall_mem_append.mp hvalues).1 here
  rw [replaceEach_eq_substitute hfirst hclean]
  exact isClean_substitute hfirst.isPlain hclean

end Texts

variable (hclean : r.IsClean) (hvalues : ∀ entry ∈ first ++ second, '\x7b' ∉ entry.2.toList)
  (hvisible : ∀ h, IsFirst Header.foldedName r.headers h →
    VisibleThroughout (r.catalog.valuedAt first h.isAt) h.valueText)

include hclean hvalues hvisible

theorem mem_get_catalog_substitute_iff {name : String} (hname : Fields.get? name first = none)
    {location : Location}
    : location ∈ (r.substitute r.catalog first).catalog.get name
        ↔
      location ∈ r.catalog.get name := by
  have hplain := arePlain_catalog (r := r) (List.forall_mem_append.mp hvalues).1
  have hsites := forall₂_sites_substitute hclean hplain hvisible
  have hnone (here : Location → Bool)
      : valueIn (r.catalog.valuedAt first here) name.toList = none := by
    rw [valueIn, String.ofList_toList, get?_valuedAt_catalog, hname, ite_self]
    rfl
  have hnames {site site' : Location × String} (hsite : site ∈ r.sites)
      (h : RewritesSite
        (fun here => Placeholder.substitute (valueIn (r.catalog.valuedAt first here))) site site')
      : name ∈ namesOf site'.2 ↔ name ∈ namesOf site.2 :=
    h.mem_namesOf_iff (fun here => (hplain here).isPlain) (hclean.of_mem_sites hsite) hnone
  rw [mem_get_catalog_iff, mem_get_catalog_iff]
  constructor
  · rintro ⟨text', hsite', hoccurs⟩
    rcases exists_left_of_forall₂ hsites hsite' with ⟨⟨place, text⟩, hsite, hrewrites⟩
    have hplace : location = place := hrewrites.place_eq
    rw [hplace]
    exact ⟨text, hsite, (hnames hsite hrewrites).mp hoccurs⟩
  · rintro ⟨text, hsite, hoccurs⟩
    rcases exists_right_of_forall₂ hsites hsite with ⟨⟨place, text'⟩, hsite', hrewrites⟩
    have hplace : place = location := hrewrites.place_eq
    rw [← hplace]
    exact ⟨text', hsite', (hnames hsite hrewrites).mpr hoccurs⟩

theorem valueIn_rediscovered (hdisjoint : ∀ name ∈ Fields.keys first, name ∉ Fields.keys second)
    : valueIn ((r.substitute r.catalog first).catalog.valuedAt second here)
        =
      valueIn (r.catalog.valuedAt second here) := by
  have hget (name : String)
      : Fields.get? name ((r.substitute r.catalog first).catalog.valuedAt second here)
          =
        Fields.get? name (r.catalog.valuedAt second here) := by
    rw [get?_valuedAt_catalog, get?_valuedAt_catalog]
    cases hname : Fields.get? name first with
    | none =>
      have hany : ((r.substitute r.catalog first).catalog.get name).any here
          = (r.catalog.get name).any here := by
        rw [Bool.eq_iff_iff, List.any_eq_true, List.any_eq_true]
        simp only [mem_get_catalog_substitute_iff hclean hvalues hvisible hname]
      rw [hany]
    | some value =>
      -- The second stage has no value for a name of the first.
      have hkey := List.mem_map_of_mem (f := Prod.fst) (Fields.mem_of_get?_eq_some hname)
      rw [Fields.get?_eq_none_iff.mpr (hdisjoint name hkey), ite_self, ite_self]
  funext name
  unfold valueIn
  rw [hget]

section Second

variable (hdisjoint : ∀ name ∈ Fields.keys first, name ∉ Fields.keys second)

include hdisjoint

theorem replaceEach_rediscovered {text : List Char} (htext : Placeholder.IsClean text)
    : replaceEach ((r.substitute r.catalog first).catalog.valuedAt second here)
        (replaceEach (r.catalog.valuedAt first here) text)
        =
      replaceEach (r.catalog.valuedAt (first ++ second) here) text := by
  have hsecond := (List.forall_mem_append.mp hvalues).2
  rw [replaceEach_valuedAt_append hvalues htext]
  exact replaceEach_congr (arePlain_catalog hsecond here) (arePlain_catalog hsecond here)
    (valueIn_rediscovered hclean hvalues hvisible hdisjoint)
    (isClean_replaceEach_valuedAt hvalues htext)

theorem visibleThroughout_rediscovered {text : List Char} (htext : Placeholder.IsClean text)
    (hfirst : VisibleThroughout (r.catalog.valuedAt first here) text)
    : VisibleThroughout ((r.substitute r.catalog first).catalog.valuedAt second here)
        (replaceEach (r.catalog.valuedAt first here) text)
        ↔
      VisibleThroughout (r.catalog.valuedAt (first ++ second) here) text := by
  have hsecond := (List.forall_mem_append.mp hvalues).2
  rw [visibleThroughout_valuedAt_append hvalues htext, and_iff_right hfirst]
  exact visibleThroughout_congr (arePlain_catalog hsecond here) (arePlain_catalog hsecond here)
    (valueIn_rediscovered hclean hvalues hvisible hdisjoint)
    (isClean_replaceEach_valuedAt hvalues htext)

theorem forall_headers_substitute_iff
    : (∀ h', IsFirst Header.foldedName (r.substitute r.catalog first).headers h' →
        VisibleThroughout ((r.substitute r.catalog first).catalog.valuedAt second h'.isAt)
          h'.valueText)
        ↔
      ∀ h, IsFirst Header.foldedName r.headers h →
        VisibleThroughout (r.catalog.valuedAt (first ++ second) h.isAt) h.valueText := by
  have hfirst (h' : Header)
      : IsFirst Header.foldedName (r.substitute r.catalog first).headers h'
          ↔
        ∃ h, IsFirst Header.foldedName r.headers h ∧ { h with
          value := Text.Latin1.encode (replaceEach (r.catalog.valuedAt first h.isAt) h.valueText) }
            = h' := by
    rw [← rewrite_replaceEach hclean (arePlain_catalog (List.forall_mem_append.mp hvalues).1)]
    exact isFirst_headers_rewrite_iff
  have hheader {h : Header} (hmem : IsFirst Header.foldedName r.headers h)
      : VisibleThroughout ((r.substitute r.catalog first).catalog.valuedAt second h.isAt)
          (Text.Latin1.decode (Text.Latin1.encode
            (replaceEach (r.catalog.valuedAt first h.isAt) h.valueText)))
          ↔
        VisibleThroughout (r.catalog.valuedAt (first ++ second) h.isAt) h.valueText := by
    rw [decode_encode_replaceEach (hvisible h hmem)]
    exact visibleThroughout_rediscovered hclean hvalues hvisible hdisjoint
      (hclean.headers h (mem_of_isFirst hmem)) (hvisible h hmem)
  constructor
  · intro hsecond h hmem
    exact (hheader hmem).mp (hsecond _ ((hfirst _).mpr ⟨h, hmem, rfl⟩))
  · intro hall h' hmem'
    rcases (hfirst h').mp hmem' with ⟨h, hmem, rfl⟩
    exact (hheader hmem).mpr (hall h hmem)

theorem render_substitute_iff {r' : Request}
    : (r.substitute r.catalog first).render (r.substitute r.catalog first).catalog second = .ok r'
        ↔
      r.render r.catalog (first ++ second) = .ok r' := by
  have hrewrite := rewrite_replaceEach hclean
    (arePlain_catalog (r := r) (List.forall_mem_append.mp hvalues).1)
  have hresult : ((r.substitute r.catalog first).rewrite fun here =>
        replaceEach ((r.substitute r.catalog first).catalog.valuedAt second here))
      = r.rewrite fun here => replaceEach (r.catalog.valuedAt (first ++ second) here) := by
    calc (r.substitute r.catalog first).rewrite _
      _ = (r.rewrite fun here => replaceEach (r.catalog.valuedAt first here)).rewrite fun here =>
          replaceEach ((r.substitute r.catalog first).catalog.valuedAt second here) := by
        rw [hrewrite]
      _ = r.rewrite fun here text =>
          replaceEach ((r.substitute r.catalog first).catalog.valuedAt second here)
            (replaceEach (r.catalog.valuedAt first here) text) := by
        apply rewrite_rewrite
        intro h hfirst
        exact decode_encode_replaceEach (hvisible h hfirst)
      _ = r.rewrite fun here => replaceEach (r.catalog.valuedAt (first ++ second) here) := by
        apply rewrite_congr _ hclean
        intro here text htext
        exact replaceEach_rediscovered hclean hvalues hvisible hdisjoint htext
  rw [render_catalog_eq_ok_iff, render_catalog_eq_ok_iff, hresult]
  rw [forall_headers_substitute_iff hclean hvalues hvisible hdisjoint]

end Second

end Stages

/--
To render with some values, discover again, and render with the other values succeeds if and only if
rendering with all values at once does, and the result is the same. Only headers can be in the way.
-/
theorem render_stages {first second : Fields String} (hclean : r.IsClean)
    (hvalues : ∀ entry ∈ first ++ second, '\x7b' ∉ entry.2.toList)
    (hdisjoint : ∀ name ∈ Fields.keys first, name ∉ Fields.keys second)
    : (∀ r', (r.render r.catalog first >>= fun next => next.render next.catalog second) = .ok r'
        ↔
      r.render r.catalog (first ++ second) = .ok r')
        ∧ ∀ error,
          (r.render r.catalog first >>= fun next => next.render next.catalog second) = .error error
            ∨ r.render r.catalog (first ++ second) = .error error →
          error.header?.isSome = true := by
  have hrewrite := rewrite_replaceEach hclean
    (arePlain_catalog (r := r) (List.forall_mem_append.mp hvalues).1)
  constructor
  · intro r'
    rw [Except.bind_eq_ok_iff]
    constructor
    · rintro ⟨next, hnext, hrender⟩
      rcases render_catalog_eq_ok_iff.mp hnext with ⟨hvisible, heq⟩
      rw [hrewrite] at heq
      rw [heq] at hrender
      exact (render_substitute_iff hclean hvalues hvisible hdisjoint).mp hrender
    · intro hrender
      have hvisible (h : Header) (hfirst : IsFirst Header.foldedName r.headers h)
          : VisibleThroughout (r.catalog.valuedAt first h.isAt) h.valueText := by
        have hall := (render_catalog_eq_ok_iff.mp hrender).1 h hfirst
        have htext := hclean.headers h (mem_of_isFirst hfirst)
        exact ((visibleThroughout_valuedAt_append hvalues htext).mp hall).1
      refine ⟨r.substitute r.catalog first, ?_, ?_⟩
      · rw [render_catalog_eq_ok_iff]
        exact ⟨hvisible, hrewrite.symm⟩
      · exact (render_substitute_iff hclean hvalues hvisible hdisjoint).mpr hrender
  · rintro error (herror | herror)
    · rw [Except.bind_eq_error_iff] at herror
      rcases herror with herror | ⟨next, _, herror⟩
      · exact header?_of_render_catalog_eq_error herror
      · exact header?_of_render_catalog_eq_error herror
    · exact header?_of_render_catalog_eq_error herror

theorem render_stages_duplicates
    : let r : Request :=
        { method := "GET", url := "\x7b\x7bx\x7d\x7d\x7b\x7by\x7d\x7d", httpVersion := "HTTP/1.1"
          metadata := []
          headers := [Header.ofText "A" "\x7b\x7bx\x7d\x7d", Header.ofText "a" "\x7b\x7by\x7d\x7d"]
          queryParams := [("k", "\x7b\x7by\x7d\x7d"), ("k", "\x7b\x7bx\x7d\x7d")], vars := []
          body := .empty }
      ∃ r', (r.render r.catalog [("x", "1")] >>= fun next => next.render next.catalog [("y", "2")])
          = .ok r'
        ∧ r'.url = "12"
        ∧ r'.headers = [Header.ofText "A" "1", Header.ofText "a" "\x7b\x7by\x7d\x7d"]
        ∧ r'.queryParams = [("k", "2"), ("k", "\x7b\x7bx\x7d\x7d")] := by
  intro r
  obtain ⟨r', hrender, htest⟩ := Except.exists_of_test
    (r.render r.catalog ([("x", "1")] ++ [("y", "2")]))
    (fun r' => decide (r'.url = "12"
      ∧ r'.headers = [Header.ofText "A" "1", Header.ofText "a" "\x7b\x7by\x7d\x7d"]
      ∧ r'.queryParams = [("k", "2"), ("k", "\x7b\x7bx\x7d\x7d")])) (by decide +kernel)
  have hvalues : ∀ entry ∈ [("x", "1")] ++ [("y", "2")], '\x7b' ∉ entry.2.toList := by decide
  have hdisjoint : ∀ name ∈ Fields.keys [("x", "1")], name ∉ Fields.keys [("y", "2")] := by decide
  have hstages := render_stages (r := r) (by decide) hvalues hdisjoint
  exact ⟨r', (hstages.1 r').mpr hrender, of_decide_eq_true htest⟩

end Request

end RequestFile
