import RequestFile.Checked
import RequestFile.Placeholder.Rendering
import RequestFile.Proofs.Rendering.Firsts

/-!
This module contains what a sequence of passes does to a request. A pass changes the one field that
its place leads to and nothing else, so a sequence of passes comes down to a change of each field by
the passes whose places lead to it, and it succeeds if and only if all the passes over each header
meet visible text and the passes over forms meet a form.
-/

namespace RequestFile

namespace Header

def foldedName (h : Header) : List Char :=
  Text.lowercase h.nameText

def isAt (h : Header) : Placeholder.Location → Bool
  | .header name => Text.sameIgnoringCase h.nameText name.toList
  | _ => false

theorem isAt_header {h : Header} {name : String}
    : h.isAt (.header name) = true ↔ h.foldedName = Text.lowercase name.toList := by
  simp [isAt, foldedName, Text.sameIgnoringCase]

end Header

namespace Body

def isForm : Body → Bool
  | formData _ | formUrlencoded _ => true
  | _ => false

def change (onText : (Placeholder.Location → Bool) → String → String) : Body → Body
  | formData fields =>
    formData (mapFirsts Prod.fst
      (fun entry => (entry.1, entry.2.mapContent (onText (· == .form entry.1)))) fields)
  | formUrlencoded fields =>
    formUrlencoded (mapFirsts Prod.fst
      (fun entry => (entry.1, onText (· == .form entry.1) entry.2)) fields)
  | body => body

end Body

namespace Request

/--
Change every field that places can lead to: the url, the first header of each name, the first query
parameter of each key, the form fields. The texts outside of headers are changed according to the
places that lead to them.
-/
def change (onText : (Placeholder.Location → Bool) → String → String) (onHeader : Header → Header)
    (r : Request) : Request :=
  { r with
    url := onText (· == .url) r.url
    headers := mapFirsts Header.foldedName onHeader r.headers
    queryParams := mapFirsts Prod.fst
      (fun entry => (entry.1, onText (· == .query entry.1) entry.2)) r.queryParams
    body := r.body.change onText }

end Request

namespace FormPart

theorem mapContent_mapContent (f g : String → String) (part : FormPart)
    : (part.mapContent f).mapContent g = part.mapContent (g ∘ f) := by
  cases part <;> rfl

@[simp]
theorem mapContent_id (part : FormPart) : mapContent (fun s => s) part = part := by
  cases part <;> rfl

end FormPart

section Change

variable {onText onText' : (Placeholder.Location → Bool) → String → String}
variable {onHeader onHeader' : Header → Header}

@[simp]
theorem Body.isForm_change (body : Body) : (body.change onText).isForm = body.isForm := by
  cases body <;> rfl

theorem Body.change_change (body : Body)
    : (body.change onText).change onText' = body.change fun here => onText' here ∘ onText here := by
  cases body with
  | formData fields =>
    simp only [Body.change]
    rw [mapFirsts_mapFirsts (by simp)]
    congr 2
    funext entry
    simp [FormPart.mapContent_mapContent]
  | formUrlencoded fields =>
    simp only [Body.change]
    rw [mapFirsts_mapFirsts (by simp)]
    rfl
  | _ => rfl

theorem Request.change_change (hname : ∀ h, (onHeader h).name = h.name) (r : Request)
    : (r.change onText onHeader).change onText' onHeader'
        =
      r.change (fun here => onText' here ∘ onText here) (onHeader' ∘ onHeader) := by
  have hkey : ∀ h, (onHeader h).foldedName = h.foldedName := by
    intro h
    simp [Header.foldedName, Header.nameText, hname]
  simp only [Request.change]
  rw [mapFirsts_mapFirsts hkey, mapFirsts_mapFirsts (by simp), Body.change_change]
  rfl

theorem Body.change_id (body : Body) : (body.change fun _ s => s) = body := by
  cases body with
  | formData fields =>
    simp only [Body.change, FormPart.mapContent_id]
    exact congrArg _ (mapFirsts_id fields)
  | formUrlencoded fields =>
    simp only [Body.change]
    exact congrArg _ (mapFirsts_id fields)
  | _ => rfl

theorem Request.change_id (r : Request) : (r.change (fun _ s => s) fun h => h) = r := by
  simp only [Request.change, Body.change_id]
  have hheaders : mapFirsts Header.foldedName (fun h => h) r.headers = r.headers := mapFirsts_id _
  have hquery : mapFirsts Prod.fst (fun entry => (entry.1, entry.2)) r.queryParams
      = r.queryParams := mapFirsts_id _
  rw [hheaders, hquery]

end Change

namespace Pass

def replace (p : Pass) (text : List Char) : List Char :=
  Text.replace p.pattern.toList p.value.toList text

def rewrite (p : Pass) (h : Header) : Header :=
  { h with value := Text.Latin1.encode (p.replace h.valueText) }

def onText (p : Pass) (here : Placeholder.Location → Bool) (s : String) : String :=
  if here p.location then p.apply s else s

def onHeader (p : Pass) (h : Header) : Header :=
  if h.isAt p.location then p.rewrite h else h

def IsVisible (p : Pass) (text : List Char) : Prop :=
  Grammar.isFieldValue text = true ∧ Grammar.isFieldValue (p.replace text) = true

def Fits (p : Pass) (r : Request) : Prop :=
  (∀ key, p.location = .form key → r.body.isForm = true) ∧
  ∀ h, IsFirst Header.foldedName r.headers h → h.isAt p.location = true → p.IsVisible h.valueText

theorem applyHeader_eq_ok_iff {p : Pass} {name : String} {h h' : Header}
    : p.applyHeader name h = .ok h' ↔ p.IsVisible h.valueText ∧ p.rewrite h = h' := by
  unfold applyHeader IsVisible rewrite replace
  cases hbefore : Grammar.isFieldValue h.valueText with
  | false => simp
  | true =>
    cases hafter : Grammar.isFieldValue
        (Text.replace p.pattern.toList p.value.toList h.valueText) with
    | false => simp [hafter]
    | true => simp [hafter]

theorem applyHeaders_eq_ok_iff {p : Pass} {name : String} {hs hs' : List Header}
    : p.applyHeaders name hs = .ok hs'
        ↔
      (∀ h, hs.find? (fun h => h.foldedName = Text.lowercase name.toList) = some h →
        p.IsVisible h.valueText) ∧
      mapFirsts Header.foldedName
        (onKey Header.foldedName (Text.lowercase name.toList) p.rewrite) hs = hs' := by
  induction hs generalizing hs' with
  | nil => simp [applyHeaders]
  | cons h rest ih =>
    rw [mapFirsts_onKey_cons, List.find?_cons, applyHeaders]
    by_cases hname : h.foldedName = Text.lowercase name.toList
    · have hsame : Text.sameIgnoringCase h.nameText name.toList = true :=
        Header.isAt_header.mpr hname
      rw [if_pos hsame, if_pos hname, Except.map_eq_ok_iff]
      simp only [applyHeader_eq_ok_iff, hname, decide_true, Option.some.injEq, forall_eq']
      grind
    · have hsame : ¬ Text.sameIgnoringCase h.nameText name.toList = true :=
        fun hsame => hname (Header.isAt_header.mp hsame)
      rw [if_neg hsame, if_neg hname, Except.map_eq_ok_iff]
      simp only [ih, hname, decide_false]
      grind

theorem onHeader_eq_id {p : Pass} (h : ∀ name, p.location ≠ .header name) : p.onHeader = id := by
  funext header
  unfold onHeader
  cases hlocation : p.location with
  | header name => exact absurd hlocation (h name)
  | _ => rfl

theorem onHeader_eq_onKey {p : Pass} {name : String} (h : p.location = .header name)
    : p.onHeader = onKey Header.foldedName (Text.lowercase name.toList) p.rewrite := by
  funext header
  unfold onHeader onKey
  rw [h]
  by_cases hname : header.foldedName = Text.lowercase name.toList
  · rw [if_pos (Header.isAt_header.mpr hname), if_pos hname]
  · rw [if_neg (fun hat => hname (Header.isAt_header.mp hat)), if_neg hname]

theorem onText_of_ne {p : Pass} {location : Placeholder.Location} (h : p.location ≠ location)
    : p.onText (· == location) = fun s => s := by
  funext s
  simp [onText, h]

theorem onText_of_eq {p : Pass} {location : Placeholder.Location} (h : p.location = location)
    : p.onText (· == location) = p.apply := by
  funext s
  simp [onText, h]

section Fields

variable {β : Type} {p : Pass} {place : String → Placeholder.Location}
variable (act : (String → String) → β → β)

theorem mapFirsts_onText_of_eq (hplace : ∀ {k k'}, place k = place k' → k = k')
    (hact : ∀ v, act (fun s => s) v = v) {key : String} (h : p.location = place key)
    (fields : Fields β)
    : mapFirsts Prod.fst (fun entry => (entry.1, act (p.onText (· == place entry.1)) entry.2)) fields
        =
      Fields.modify key (act p.apply) fields := by
  rw [Fields.modify_eq_mapFirsts]
  congr 1
  funext entry
  by_cases hk : entry.1 = key
  · simp [onKey, hk, onText_of_eq h]
  · have hne : p.location ≠ place entry.1 := by
      rw [h]
      exact fun heq => hk (hplace heq).symm
    simp [onKey, hk, onText_of_ne hne, hact]

theorem mapFirsts_onText_of_ne (hact : ∀ v, act (fun s => s) v = v)
    (h : ∀ key, p.location ≠ place key) (fields : Fields β)
    : mapFirsts Prod.fst (fun entry => (entry.1, act (p.onText (· == place entry.1)) entry.2)) fields
        =
      fields := by
  simp only [onText_of_ne (h _), hact]
  exact mapFirsts_id fields

end Fields

theorem change_onText_of_ne {p : Pass} (h : ∀ key, p.location ≠ .form key) (body : Body)
    : body.change p.onText = body := by
  cases body with
  | formData fields =>
    simp only [Body.change]
    rw [mapFirsts_onText_of_ne FormPart.mapContent FormPart.mapContent_id h]
  | formUrlencoded fields =>
    simp only [Body.change]
    rw [mapFirsts_onText_of_ne (fun f => f) (fun _ => rfl) h]
  | _ => rfl

theorem applyForm_eq_ok_iff {p : Pass} {key : String} (h : p.location = .form key)
    {body body' : Body}
    : p.applyForm key body = .ok body' ↔ body.isForm = true ∧ body.change p.onText = body' := by
  have hplace : ∀ {k k'}, Placeholder.Location.form k = .form k' → k = k' := by
    intro k k' heq
    injection heq
  cases body with
  | formData fields =>
    simp only [Body.change, applyForm, applyFormData, Body.isForm, Except.ok.injEq, true_and]
    rw [mapFirsts_onText_of_eq FormPart.mapContent hplace FormPart.mapContent_id h]
  | formUrlencoded fields =>
    simp only [Body.change, applyForm, applyFormUrlencoded, Body.isForm, Except.ok.injEq, true_and]
    rw [mapFirsts_onText_of_eq (fun f => f) hplace (fun _ => rfl) h]
  | _ => simp [applyForm, Body.isForm]

theorem forall_isAt_iff {hs : List Header} {name : String} {motive : Header → Prop}
    : (∀ h, IsFirst Header.foldedName hs h → h.isAt (.header name) = true → motive h)
        ↔
      ∀ h, hs.find? (fun h => h.foldedName = Text.lowercase name.toList) = some h → motive h := by
  simp only [Header.isAt_header, ← isFirst_and_key_iff, and_imp]

theorem applyRequest_eq_ok_iff {p : Pass} {r r' : Request}
    : p.applyRequest r = .ok r' ↔ p.Fits r ∧ r.change p.onText p.onHeader = r' := by
  have hheaders (h : ∀ name, p.location ≠ .header name)
      : mapFirsts Header.foldedName p.onHeader r.headers = r.headers := by
    rw [onHeader_eq_id h, mapFirsts_id]
  have hquery (h : ∀ key, p.location ≠ .query key)
      : mapFirsts Prod.fst (fun entry => (entry.1, p.onText (· == .query entry.1) entry.2))
        r.queryParams = r.queryParams :=
    mapFirsts_onText_of_ne (fun f => f) (fun _ => rfl) h r.queryParams
  have hbody (h : ∀ key, p.location ≠ .form key) : r.body.change p.onText = r.body :=
    change_onText_of_ne h r.body
  unfold applyRequest Fits Request.change
  cases hlocation : p.location with
  | url =>
    rw [onText_of_eq hlocation, hheaders (by simp [hlocation]), hquery (by simp [hlocation])]
    rw [hbody (by simp [hlocation])]
    simp [Header.isAt]
  | header name =>
    rw [onText_of_ne (by simp [hlocation]), onHeader_eq_onKey hlocation]
    rw [hquery (by simp [hlocation]), hbody (by simp [hlocation])]
    rw [Except.map_eq_ok_iff, forall_isAt_iff]
    simp [applyHeaders_eq_ok_iff, and_assoc]
  | query key =>
    rw [onText_of_ne (by simp [hlocation]), hheaders (by simp [hlocation])]
    rw [hbody (by simp [hlocation])]
    rw [mapFirsts_onText_of_eq (fun f => f) (by simp) (fun _ => rfl) hlocation]
    simp [Header.isAt]
  | form key =>
    rw [onText_of_ne (by simp [hlocation]), hheaders (by simp [hlocation])]
    rw [hquery (by simp [hlocation]), Except.map_eq_ok_iff]
    simp [applyForm_eq_ok_iff hlocation, Header.isAt, and_assoc]
  | body =>
    rw [onText_of_ne (by simp [hlocation]), hheaders (by simp [hlocation])]
    rw [hquery (by simp [hlocation]), hbody (by simp [hlocation])]
    simp [Header.isAt]

def StaysVisible : List Pass → List Char → Prop
  | [], _ => True
  | p :: rest, text => p.IsVisible text ∧ StaysVisible rest (p.replace text)

def runText (ps : List Pass) (here : Placeholder.Location → Bool) (s : String) : String :=
  (ps.filter fun p => here p.location).foldl (fun s p => p.apply s) s

def runHeader (ps : List Pass) (h : Header) : Header :=
  (ps.filter fun p => h.isAt p.location).foldl (fun h p => p.rewrite h) h

def FitTogether (ps : List Pass) (r : Request) : Prop :=
  (∀ p ∈ ps, ∀ key, p.location = .form key → r.body.isForm = true) ∧
  ∀ h, IsFirst Header.foldedName r.headers h →
    StaysVisible (ps.filter fun p => h.isAt p.location) h.valueText

@[simp]
theorem name_onHeader (p : Pass) (h : Header) : (p.onHeader h).name = h.name := by
  unfold onHeader
  split <;> rfl

theorem foldedName_onHeader (p : Pass) (h : Header) : (p.onHeader h).foldedName = h.foldedName := by
  simp [Header.foldedName, Header.nameText]

theorem isAt_onHeader (p : Pass) (h : Header) : (p.onHeader h).isAt = h.isAt := by
  funext location
  cases location <;> simp [Header.isAt, Header.nameText]

theorem runText_cons (p : Pass) (ps : List Pass) (here : Placeholder.Location → Bool)
    : runText (p :: ps) here = runText ps here ∘ p.onText here := by
  funext s
  by_cases h : here p.location <;> simp [runText, onText, h]

theorem runHeader_cons (p : Pass) (ps : List Pass)
    : runHeader (p :: ps) = runHeader ps ∘ p.onHeader := by
  funext h
  unfold runHeader
  rw [Function.comp_apply, isAt_onHeader]
  by_cases hat : h.isAt p.location <;> simp [onHeader, hat]

theorem valueText_rewrite {p : Pass} {h : Header} (hvisible : p.IsVisible h.valueText)
    : (p.rewrite h).valueText = p.replace h.valueText :=
  Grammar.decode_encode_of_isFieldValue hvisible.2

theorem fitTogether_cons_iff {p : Pass} {ps : List Pass} {r : Request}
    : FitTogether (p :: ps) r ↔ p.Fits r ∧ FitTogether ps (r.change p.onText p.onHeader) := by
  have hheaders (h : Header)
      : StaysVisible ((p :: ps).filter fun p => h.isAt p.location) h.valueText
          ↔
        (h.isAt p.location = true → p.IsVisible h.valueText) ∧
          StaysVisible (ps.filter fun q => (p.onHeader h).isAt q.location)
            (p.onHeader h).valueText := by
    rw [isAt_onHeader]
    by_cases hat : h.isAt p.location
    · rw [List.filter_cons, if_pos hat, StaysVisible]
      simp only [onHeader, hat, if_true, true_imp_iff]
      constructor
      · rintro ⟨hvisible, hrest⟩
        rw [valueText_rewrite hvisible]
        exact ⟨hvisible, hrest⟩
      · rintro ⟨hvisible, hrest⟩
        rw [valueText_rewrite hvisible] at hrest
        exact ⟨hvisible, hrest⟩
    · rw [List.filter_cons, if_neg hat]
      simp [onHeader, hat]
  have hfirst (h : Header)
      : IsFirst Header.foldedName (r.change p.onText p.onHeader).headers h
          ↔
        ∃ h', IsFirst Header.foldedName r.headers h' ∧ p.onHeader h' = h :=
    isFirst_mapFirsts_iff (foldedName_onHeader p)
  have hform : (r.change p.onText p.onHeader).body.isForm = r.body.isForm :=
    Body.isForm_change r.body
  simp only [FitTogether, Fits, hheaders, hfirst, hform]
  grind

theorem foldlM_applyRequest_eq_ok_iff {ps : List Pass} {r r' : Request}
    : ps.foldlM (fun r p => p.applyRequest r) r = .ok r'
        ↔
      FitTogether ps r ∧ r.change (runText ps) (runHeader ps) = r' := by
  -- What the first pass leaves is again a change of each field, so changes compose along the run.
  induction ps generalizing r with
  | nil =>
    have hid : r.change (runText []) (runHeader []) = r := Request.change_id r
    simp [FitTogether, StaysVisible, hid, pure, Except.pure]
  | cons p ps ih =>
    rw [List.foldlM_cons, Except.bind_eq_ok_iff, fitTogether_cons_iff]
    have hrun : r.change (runText (p :: ps)) (runHeader (p :: ps))
        = (r.change p.onText p.onHeader).change (runText ps) (runHeader ps) := by
      rw [Request.change_change (name_onHeader p), runHeader_cons]
      simp only [← runText_cons]
    rw [hrun]
    simp only [ih, applyRequest_eq_ok_iff]
    grind

theorem header?_of_applyHeaders_eq_error {p : Pass} {name : String} {hs : List Header}
    {error : RenderError} (h : p.applyHeaders name hs = .error error)
    : error.header? = some name := by
  induction hs with
  | nil => simp [applyHeaders] at h
  | cons header rest ih =>
    rw [applyHeaders] at h
    split at h
    · rw [Except.map_eq_error_iff] at h
      unfold applyHeader at h
      split at h
      · cases h
        rfl
      · dsimp only at h
        split at h
        · cases h
          rfl
        · cases h
    · rw [Except.map_eq_error_iff] at h
      exact ih h

theorem header?_of_applyRequest_eq_error {p : Pass} {r : Request} {error : RenderError}
    (h : p.applyRequest r = .error error)
    (hform : ∀ key, p.location = .form key → r.body.isForm = true)
    : error.header?.isSome = true := by
  unfold applyRequest at h
  cases hlocation : p.location with
  | header name =>
    simp only [hlocation, Except.map_eq_error_iff] at h
    simp [header?_of_applyHeaders_eq_error h]
  | form key =>
    have hbody := hform key hlocation
    simp only [hlocation, Except.map_eq_error_iff] at h
    cases hcases : r.body with
    | formData fields => simp [hcases, applyForm] at h
    | formUrlencoded fields => simp [hcases, applyForm] at h
    | _ => simp [hcases, Body.isForm] at hbody
  | _ => simp [hlocation] at h

theorem header?_of_foldlM_applyRequest_eq_error {ps : List Pass} {r : Request}
    {error : RenderError} (h : ps.foldlM (fun r p => p.applyRequest r) r = .error error)
    (hform : ∀ p ∈ ps, ∀ key, p.location = .form key → r.body.isForm = true)
    : error.header?.isSome = true := by
  induction ps generalizing r with
  | nil => simp [pure, Except.pure] at h
  | cons p ps ih =>
    rw [List.foldlM_cons, Except.bind_eq_error_iff] at h
    cases h with
    | inl h => exact header?_of_applyRequest_eq_error h (hform p (by simp))
    | inr h =>
      rcases h with ⟨next, hnext, hrest⟩
      rcases applyRequest_eq_ok_iff.mp hnext with ⟨_, rfl⟩
      apply ih hrest
      intro q hq key hkey
      have hisForm : (r.change p.onText p.onHeader).body.isForm = r.body.isForm :=
        Body.isForm_change r.body
      rw [hisForm]
      exact hform q (by simp [hq]) key hkey

end Pass

end RequestFile
