import RequestFile.Proofs.Placeholder.Clean
import RequestFile.Proofs.Rendering.Factoring

/-!
This module contains rendering as one simultaneous substitution. In a request whose double braces
occur as tokens only, values without opening braces can go into each field all at once, and a header
has to be visible text only before the first and after the last of them.
-/

namespace RequestFile

namespace Placeholder

def valueIn (pairs : List (String × String)) (name : List Char) : Option (List Char) :=
  (Fields.get? (String.ofList name) pairs).map String.toList

def ArePlain (pairs : List (String × String)) : Prop :=
  ∀ pair ∈ pairs, isName pair.1.toList = true ∧ '\x7b' ∉ pair.2.toList

section Pairs

variable {pairs : List (String × String)} {text : List Char}

theorem ArePlain.tail {pair : String × String} (h : ArePlain (pair :: pairs)) : ArePlain pairs := by
  intro other hother
  exact h other (by simp [hother])

theorem ArePlain.isPlain (h : ArePlain pairs)
    : IsPlain (valueIn pairs) := by
  intro name value hvalue
  rcases Option.map_eq_some_iff.mp hvalue with ⟨found, hfound, rfl⟩
  exact (h _ (Fields.mem_of_get?_eq_some hfound)).2

theorem substitute_none (text : List Char) : substitute (fun _ => none) text = text := by
  induction text using scanInduction with
  | nil => rfl
  | char c rest hat ih => rw [substitute_cons hat, ih]
  | token name rest hname ih =>
    rw [substitute_token_append hname, ih]
    rfl

theorem valueIn_nil : valueIn [] = fun _ => none := rfl

theorem valueIn_cons (pair : String × String) (pairs : List (String × String))
    : valueIn (pair :: pairs)
        =
      fun name => (only pair.1.toList pair.2.toList name).or (valueIn pairs name) := by
  funext name
  unfold valueIn only
  rw [Fields.get?]
  by_cases h : name = pair.1.toList
  · simp [h]
  · have hne : pair.1 ≠ String.ofList name := by
      intro heq
      apply h
      rw [heq, String.toList_ofList]
    simp [h, hne]

theorem replaceEach_cons (h : ArePlain (pair :: pairs)) (text : List Char)
    : replaceEach (pair :: pairs) text
        =
      replaceEach pairs (substitute (only pair.1.toList pair.2.toList) text) := by
  have hname := (h pair (by simp)).1
  unfold replaceEach
  rw [List.foldl_cons, replace_token hname]

theorem replaceEach_eq_substitute (h : ArePlain pairs) (hclean : IsClean text)
    : replaceEach pairs text = substitute (valueIn pairs) text := by
  induction pairs generalizing text with
  | nil =>
    rw [valueIn_nil, substitute_none]
    rfl
  | cons pair pairs ih =>
    have hplain : IsPlain (only pair.1.toList pair.2.toList) := isPlain_only (h pair (by simp)).2
    rw [replaceEach_cons h, ih h.tail (isClean_substitute hplain hclean)]
    rw [substitute_substitute hplain hclean, valueIn_cons]

theorem isFieldValue_substitute {values later : List Char → Option (List Char)}
    (hbefore : Grammar.isFieldValue text = true)
    (hafter : Grammar.isFieldValue
      (substitute (fun name => (values name).or (later name)) text) = true)
    : Grammar.isFieldValue (substitute values text) = true := by
  unfold Grammar.isFieldValue at *
  rw [List.all_eq_true] at *
  intro c hc
  cases mem_or_mem_substitute_of_mem hc with
  | inl hc => exact hbefore c hc
  | inr hc => exact hafter c hc

theorem visibleThroughout_iff (h : ArePlain pairs) (hclean : IsClean text)
    : VisibleThroughout pairs text
        ↔
      pairs ≠ [] →
        Grammar.isFieldValue text = true
          ∧ Grammar.isFieldValue (substitute (valueIn pairs) text) = true := by
  induction pairs generalizing text with
  | nil => simp [VisibleThroughout]
  | cons pair pairs ih =>
    have hplain : IsPlain (only pair.1.toList pair.2.toList) := isPlain_only (h pair (by simp)).2
    have hnext := isClean_substitute hplain hclean
    rw [VisibleThroughout, replace_token (h pair (by simp)).1, ih h.tail hnext]
    rw [substitute_substitute hplain hclean, valueIn_cons]
    simp only [ne_eq, reduceCtorEq, not_false_eq_true, true_imp_iff]
    constructor
    · rintro ⟨hbefore, hbetween, hrest⟩
      refine ⟨hbefore, ?_⟩
      by_cases hpairs : pairs = []
      · simpa [hpairs, valueIn_nil] using hbetween
      · exact (hrest hpairs).2
    · rintro ⟨hbefore, hafter⟩
      -- What stands in between has only characters of the first and of the last text.
      have hbetween := isFieldValue_substitute hbefore hafter
      exact ⟨hbefore, hbetween, fun _ => ⟨hbetween, hafter⟩⟩

end Pairs

namespace Catalog

variable {catalog : Catalog} {values : Fields String}

theorem mem_valuedAt_iff {here : Location → Bool} {pair : String × String}
    : pair ∈ catalog.valuedAt values here
        ↔
      Fields.get? pair.1 values = some pair.2
        ∧ ∃ locations, (pair.1, locations) ∈ catalog.entries
          ∧ ∃ location ∈ locations, here location = true := by
  unfold valuedAt
  rw [List.mem_flatMap]
  constructor
  · rintro ⟨⟨name, locations⟩, hentry, hpair⟩
    cases hvalue : Fields.get? name values with
    | none => simp [hvalue] at hpair
    | some value =>
      simp only [hvalue, List.mem_map, List.mem_filter] at hpair
      rcases hpair with ⟨location, hlocation, rfl⟩
      exact ⟨hvalue, locations, hentry, location, hlocation⟩
  · rintro ⟨hvalue, locations, hentry, location, hlocation⟩
    refine ⟨_, hentry, ?_⟩
    simp only [hvalue, List.mem_map, List.mem_filter]
    exact ⟨location, hlocation, trivial⟩

theorem arePlain_valuedAt (hnames : ∀ name ∈ catalog.names, isName name.toList = true)
    (hvalues : ∀ entry ∈ values, '\x7b' ∉ entry.2.toList) (here : Location → Bool)
    : ArePlain (catalog.valuedAt values here) := by
  intro pair hpair
  rcases mem_valuedAt_iff.mp hpair with ⟨hvalue, locations, hentry, _⟩
  constructor
  · apply hnames
    exact List.mem_map_of_mem hentry
  · exact hvalues _ (Fields.mem_of_get?_eq_some hvalue)

end Catalog

end Placeholder

def Body.formTexts : Body → List String
  | formData fields => fields.map fun entry => entry.2.content
  | formUrlencoded fields => fields.map Prod.snd
  | _ => []

structure Request.IsClean (r : Request) : Prop where
  url : Placeholder.IsClean r.url.toList
  headers : ∀ h ∈ r.headers, Placeholder.IsClean h.valueText
  queryParams : ∀ entry ∈ r.queryParams, Placeholder.IsClean entry.2.toList
  form : ∀ text ∈ r.body.formTexts, Placeholder.IsClean text.toList

theorem Request.isClean_iff {r : Request}
    : r.IsClean
        ↔
      Placeholder.IsClean r.url.toList
        ∧ (∀ h ∈ r.headers, Placeholder.IsClean h.valueText)
        ∧ (∀ entry ∈ r.queryParams, Placeholder.IsClean entry.2.toList)
        ∧ ∀ text ∈ r.body.formTexts, Placeholder.IsClean text.toList :=
  ⟨fun ⟨url, headers, queryParams, form⟩ => ⟨url, headers, queryParams, form⟩,
    fun ⟨url, headers, queryParams, form⟩ => ⟨url, headers, queryParams, form⟩⟩

instance (r : Request) : Decidable r.IsClean :=
  decidable_of_iff _ Request.isClean_iff.symm

namespace Request

open Placeholder

variable {r : Request}

section Rewrite

variable {f g : (Location → Bool) → List Char → List Char}

theorem change_body_congr (h : ∀ here text, Placeholder.IsClean text → f here text = g here text)
    {body : Body} (hclean : ∀ text ∈ body.formTexts, Placeholder.IsClean text.toList)
    : (body.change fun here s => String.ofList (f here s.toList))
        =
      body.change fun here s => String.ofList (g here s.toList) := by
  cases body with
  | formData fields =>
    simp only [Body.change]
    congr 1
    apply mapFirsts_congr
    rintro ⟨key, part⟩ hfirst
    have hcontent : Placeholder.IsClean part.content.toList :=
      hclean _ (List.mem_map_of_mem (f := fun entry => entry.2.content) (mem_of_isFirst hfirst))
    cases part with
    | text value => simp only [FormPart.mapContent, h _ value.toList hcontent]
    | file path => simp only [FormPart.mapContent, h _ path.toList hcontent]
  | formUrlencoded fields =>
    simp only [Body.change]
    congr 1
    apply mapFirsts_congr
    intro entry hfirst
    rw [h _ _ (hclean _ (List.mem_map_of_mem (mem_of_isFirst hfirst)))]
  | _ => rfl

theorem rewrite_congr (h : ∀ here text, Placeholder.IsClean text → f here text = g here text)
    (hclean : r.IsClean) : r.rewrite f = r.rewrite g := by
  unfold rewrite change
  congr 1
  · dsimp only
    rw [h _ _ hclean.url]
  · apply mapFirsts_congr
    intro header hfirst
    rw [h _ _ (hclean.headers header (mem_of_isFirst hfirst))]
  · apply mapFirsts_congr
    intro entry hfirst
    dsimp only
    rw [h _ _ (hclean.queryParams entry (mem_of_isFirst hfirst))]
  · exact change_body_congr h hclean.form

end Rewrite

def substitute (catalog : Catalog) (values : Fields String) (r : Request) : Request :=
  r.rewrite fun here => Placeholder.substitute (valueIn (catalog.valuedAt values here))

variable {catalog : Catalog} {values : Fields String}

def Spoils (catalog : Catalog) (values : Fields String) (h : Header) : Prop :=
  catalog.valuedAt values h.isAt ≠ []
    ∧ ¬ (Grammar.isFieldValue h.valueText = true
      ∧ Grammar.isFieldValue
        (Placeholder.substitute (valueIn (catalog.valuedAt values h.isAt)) h.valueText) = true)

theorem not_spoils_iff (hclean : r.IsClean)
    (hplain : ∀ here, ArePlain (catalog.valuedAt values here))
    : (¬ ∃ h, IsFirst Header.foldedName r.headers h ∧ Spoils catalog values h)
        ↔
      ∀ h, IsFirst Header.foldedName r.headers h →
        VisibleThroughout (catalog.valuedAt values h.isAt) h.valueText := by
  rw [not_exists]
  apply forall_congr'
  intro h
  rw [not_and]
  apply imp_congr_right
  intro hfirst
  rw [visibleThroughout_iff (hplain _) (hclean.headers h (mem_of_isFirst hfirst))]
  unfold Spoils
  rw [not_and_not_right]

theorem rewrite_replaceEach (hclean : r.IsClean)
    (hplain : ∀ here, ArePlain (catalog.valuedAt values here))
    : (r.rewrite fun here => replaceEach (catalog.valuedAt values here))
        =
      r.substitute catalog values := by
  apply rewrite_congr _ hclean
  intro here text htext
  exact replaceEach_eq_substitute (hplain here) htext

theorem header?_of_render_eq_error {error : RenderError}
    (h : r.render catalog values = .error error)
    (hform : r.body.isForm = true ∨ ∀ key, catalog.valuedAt values (· == .form key) = [])
    : error.header?.isSome = true :=
  Pass.header?_of_foldlM_applyRequest_eq_error h (form_iff.mpr hform)

/--
Rendering fails over a header if and only if a value goes to the first header of some name and this
header is not visible text both before and after the substitution. Otherwise rendering is the
substitution.
-/
theorem render_eq_substitute (hclean : r.IsClean)
    (hnames : ∀ name ∈ catalog.names, isName name.toList = true)
    (hvalues : ∀ entry ∈ values, '\x7b' ∉ entry.2.toList)
    (hform : r.body.isForm = true ∨ ∀ key, catalog.valuedAt values (· == .form key) = [])
    : ((∃ error, r.render catalog values = .error error ∧ error.header?.isSome = true)
        ↔
      ∃ h, IsFirst Header.foldedName r.headers h ∧ Spoils catalog values h)
        ∧ ((¬ ∃ h, IsFirst Header.foldedName r.headers h ∧ Spoils catalog values h) →
          r.render catalog values = .ok (r.substitute catalog values)) := by
  have hplain := Catalog.arePlain_valuedAt hnames hvalues
  have hok : (¬ ∃ h, IsFirst Header.foldedName r.headers h ∧ Spoils catalog values h) →
      r.render catalog values = .ok (r.substitute catalog values) := by
    intro hnone
    rw [render_eq_rewrite hform ((not_spoils_iff hclean hplain).mp hnone)]
    rw [rewrite_replaceEach hclean hplain]
  refine ⟨?_, hok⟩
  constructor
  · rintro ⟨error, herror, _⟩
    by_contra hnone
    rw [hok hnone] at herror
    cases herror
  · intro hsome
    cases hrender : r.render catalog values with
    | error error => exact ⟨error, rfl, header?_of_render_eq_error hrender hform⟩
    | ok r' =>
      have hvisible := (of_render_eq_ok hrender).2.1
      exact absurd hsome ((not_spoils_iff hclean hplain).mpr hvisible)

theorem render_eq_substitute_adjacent
    : let r : Request :=
        { method := "GET", url := "\x7b\x7ba\x7d\x7d\x7b\x7bb\x7d\x7d", httpVersion := "HTTP/1.1"
          metadata := [], headers := [Header.ofText "X" "<\x7b\x7bb\x7d\x7d>"], queryParams := []
          vars := [], body := .empty }
      let catalog : Catalog := ⟨[("b", [.url, .header "x"]), ("a", [.url])]⟩
      let values := [("a", ""), ("b", "v")]
      r.render catalog values = .ok (r.substitute catalog values)
        ∧ (r.substitute catalog values).url = "v"
        ∧ (r.substitute catalog values).headers = [Header.ofText "X" "<v>"] := by
  intro r catalog values
  have hclean : r.IsClean := by decide
  have hnone : ¬ ∃ h, IsFirst Header.foldedName r.headers h ∧ Spoils catalog values h := by
    rintro ⟨h, hfirst, hspoils⟩
    have hmem := List.mem_singleton.mp (mem_of_isFirst hfirst)
    subst hmem
    exact hspoils.2 (by decide)
  refine ⟨(render_eq_substitute hclean (by decide) (by decide) (.inr ?_)).2 hnone, ?_, ?_⟩
  · intro key
    rfl
  · decide
  · decide

end Request

end RequestFile
