import Mathlib.Data.List.Nodup
import RequestFile.Proofs.Document.Acceptance

/-!
This module contains when a problem is a genuine one: its path leads through the document to the value
that it is about, and this value breaks the rule that is named, which is in force at this place. All
problems that are reported of a document are genuine, and no two of them have the same path.
-/

namespace RequestFile.Document

open Grammar

def valueAt? : List String → Value → Option Value
  | [], v => some v
  | key :: path, .table entries => (Fields.get? key entries).bind (valueAt? path)
  | _ :: _, _ => none

def formDataKeys : List String :=
  ["form_data", "form-data", "multipart_form_data", "multipart-form-data"]

def bodySpellings : List (String × List String) :=
  [("raw", ["raw", "text"]),
    ("binary", ["binary", "file"]),
    ("form_data", formDataKeys),
    ("form_urlencoded", ["form_urlencoded", "form-urlencoded", "x-www-form-urlencoded"])]

def bodiesIn (table : Fields Value) : List String :=
  (bodySpellings.filter fun kind => kind.2.any fun key => key ∈ Fields.keys table).map Prod.fst

inductive IsRequired : List String → String → Prop where
  | http : IsRequired [] "http"
  | url : IsRequired ["http"] "url"

inductive IsUnknown : List String → Fields Value → String → Prop where
  | noSpelling {table : Fields Value} {key : String} (h : ∀ kind ∈ bodySpellings, key ∉ kind.2)
    : IsUnknown ["body"] table key
  | secondSpelling {table : Fields Value} {kind first key : String} {before after : List String}
    (hkind : (kind, before ++ key :: after) ∈ bodySpellings) (hfirst : first ∈ before)
    (hthere : first ∈ Fields.keys table) : IsUnknown ["body"] table key
  | noPart {table : Fields Value} {spelling name key : String} (hspelling : spelling ∈ formDataKeys)
    (htext : key ≠ "text") (hfile : key ≠ "file") : IsUnknown ["body", spelling, name] table key

inductive InForce : List String → Cause → Prop where
  | http : InForce ["http"] .notHttpTable
  | url : InForce ["http", "url"] .notText
  | methodText : InForce ["http", "method"] .notText
  | method (s : String) : InForce ["http", "method"] (.badMethod s)
  | version : InForce ["http", "version"] .unknownVersion
  | queryParams {key : String} (hkey : key ∈ ["query_params", "queryparams", "query-params"])
    : InForce [key] .notTable
  | headers : InForce ["headers"] .notTable
  | headerText (name : String) : InForce ["headers", name] .notText
  | headerName (name : String) : InForce ["headers"] (.badHeaderName name)
  | headerValue (name value : String) : InForce ["headers"] (.badHeaderValue name value)
  | metadata : InForce ["metadata"] .notTable
  | vars : InForce ["variables"] .notTable
  | body : InForce ["body"] .notBodyTable
  | oneBody (kinds : List String) : InForce ["body"] (.severalBodies kinds)
  | content {key : String} (hkey : key ∈ ["raw", "text", "binary", "file"])
    : InForce ["body", key] .notText
  | formData {key : String} (hkey : key ∈ formDataKeys) : InForce ["body", key] .notTable
  | formUrlencoded {key : String}
    (hkey : key ∈ ["form_urlencoded", "form-urlencoded", "x-www-form-urlencoded"])
    : InForce ["body", key] .notTable
  | part {key : String} (hkey : key ∈ formDataKeys) (name : String)
    : InForce ["body", key, name] .notFormFieldTable
  | onePart {key : String} (hkey : key ∈ formDataKeys) (name : String)
    : InForce ["body", key, name] .notOneOfTextAndFile
  | partFile {key : String} (hkey : key ∈ formDataKeys) (name : String)
    : InForce ["body", key, name, "file"] .notText

inductive Breaks : Value → Cause → Prop where
  | notText {v : Value} (h : ∀ s, v ≠ .text s) : Breaks v .notText
  | notTable {v : Value} (h : ¬ IsTable v) : Breaks v .notTable
  | notHttpTable {v : Value} (h : ¬ IsTable v) : Breaks v .notHttpTable
  | notBodyTable {v : Value} (h : ¬ IsTable v) : Breaks v .notBodyTable
  | notFormFieldTable {v : Value} (h : ¬ IsTable v) : Breaks v .notFormFieldTable
  | unknownVersion {v : Value}
    (h : ∀ s ∈ ["HTTP/0.9", "HTTP/1.0", "HTTP/1.1", "HTTP/2", "HTTP/3"], v ≠ .text s)
    : Breaks v .unknownVersion
  | badMethod {s : String} (h : ¬ isToken s = true) : Breaks (.text s) (.badMethod s)
  | badHeaderName {table : Fields Value} {name s : String}
    (hentry : Fields.get? name table = some (.text s)) (h : ¬ isToken name = true)
    : Breaks (.table table) (.badHeaderName name)
  | badHeaderValue {table : Fields Value} {name s : String}
    (hentry : Fields.get? name table = some (.text s)) (h : ¬ isFieldValue s.toList = true)
    : Breaks (.table table) (.badHeaderValue name s)
  | severalBodies {table : Fields Value} (h : 1 < (bodiesIn table).length)
    : Breaks (.table table) (.severalBodies (bodiesIn table))
  | notOneOfTextAndFile {table : Fields Value}
    (h : "text" ∈ Fields.keys table ↔ "file" ∈ Fields.keys table)
    : Breaks (.table table) .notOneOfTextAndFile

/--
A problem that a document really has, at the place that is named.
-/
inductive IsGenuine (root : Fields Value) : Problem → Prop where
  | missing {place : List String} {table : Fields Value} {key : String}
    (hplace : valueAt? place (.table root) = some (.table table))
    (hkey : Fields.get? key table = none) (hrule : IsRequired place key)
    : IsGenuine root ⟨place ++ [key], .missing⟩
  | unknownKey {place : List String} {table : Fields Value} {key : String} {v : Value}
    (hplace : valueAt? place (.table root) = some (.table table))
    (hkey : Fields.get? key table = some v) (hrule : IsUnknown place table key)
    : IsGenuine root ⟨place ++ [key], .unknownKey⟩
  | value {path : List String} {cause : Cause} {v : Value}
    (hpath : valueAt? path (.table root) = some v) (hrule : InForce path cause)
    (hv : Breaks v cause) : IsGenuine root ⟨path, cause⟩

variable {root : Fields Value} {path : List String} {K K' : String → Prop} {α β : Type}

theorem valueAt?_append (path path' : List String) (v : Value)
    : valueAt? (path ++ path') v = (valueAt? path v).bind (valueAt? path') := by
  induction path generalizing v with
  | nil => rfl
  | cons key path ih =>
    cases v with
    | table entries =>
      rw [List.cons_append, valueAt?, valueAt?, Option.bind_assoc]
      congr 1
      funext v
      exact ih v
    | _ => rfl

theorem valueAt?_root {key : String} {v : Value} (h : Fields.get? key root = some v)
    : valueAt? [key] (.table root) = some v := by
  rw [valueAt?, h]
  rfl

theorem valueAt?_concat {v w : Value} {table : Fields Value} {key : String}
    (h : valueAt? path v = some (.table table)) (hkey : Fields.get? key table = some w)
    : valueAt? (path ++ [key]) v = some w := by
  rw [valueAt?_append, h, Option.bind_some, valueAt?, hkey]
  rfl

/--
What a check of the table at a path may report: genuine problems, at least one if it fails, each with a
path of its own, and all of them at certain keys of the table or below.
-/
structure Reports (root : Fields Value) (path : List String) (K : String → Prop)
    (c : Checked Problem α) : Prop where
  ne_nil : c ≠ .error []
  isGenuine : ∀ p ∈ c.problems, IsGenuine root p
  below : ∀ p ∈ c.problems, ∃ key rest, K key ∧ p.path = path ++ key :: rest
  nodup : (c.problems.map Problem.path).Nodup

namespace Reports

theorem ok (x : α) : Reports root path K (.ok x : Checked Problem α) :=
  ⟨by simp, by simp, by simp, by simp⟩

theorem fail {key : String} {cause : Cause} (h : IsGenuine root ⟨path ++ [key], cause⟩)
    : Reports root path (· = key) (fail (path ++ [key]) cause : Checked Problem α) := by
  refine ⟨by simp [Document.fail], ?_, ?_, by simp [Document.fail]⟩
  · simpa [Document.fail] using h
  · simp [Document.fail]

theorem mono {c : Checked Problem α} (h : Reports root path K c) (hK : ∀ key, K key → K' key)
    : Reports root path K' c := by
  refine ⟨h.ne_nil, h.isGenuine, ?_, h.nodup⟩
  intro p hp
  obtain ⟨key, rest, hkey, hpath⟩ := h.below p hp
  exact ⟨key, rest, hK key hkey, hpath⟩

theorem lift {c : Checked Problem α} {key : String} (h : Reports root (path ++ [key]) K c)
    : Reports root path (· = key) c := by
  refine ⟨h.ne_nil, h.isGenuine, ?_, h.nodup⟩
  intro p hp
  obtain ⟨inner, rest, _, hpath⟩ := h.below p hp
  exact ⟨key, inner :: rest, rfl, by simpa using hpath⟩

theorem map {c : Checked Problem α} (f : α → β) (h : Reports root path K c)
    : Reports root path K (Except.map f c : Checked Problem β) := by
  cases c with
  | ok x => exact ok (f x)
  | error es => exact ⟨by simpa [Except.map] using h.ne_nil, h.isGenuine, h.below, h.nodup⟩

theorem bind {c : Checked Problem α} {f : α → Checked Problem β} (h : Reports root path K c)
    (hf : ∀ x, c = .ok x → Reports root path K (f x)) : Reports root path K (c >>= f) := by
  cases c with
  | ok x => exact hf x rfl
  | error es =>
    have herror : ((.error es : Checked Problem α) >>= f) = .error es := rfl
    rw [herror]
    exact ⟨by simpa using h.ne_nil, h.isGenuine, h.below, h.nodup⟩

theorem both {a : Checked Problem α} {b : Checked Problem β} (ha : Reports root path K a)
    (hb : Reports root path K' b) (hdisjoint : ∀ key, K key → ¬ K' key)
    : Reports root path (fun key => K key ∨ K' key) (Checked.both a b) := by
  refine ⟨?_, ?_, ?_, ?_⟩
  · cases a with
    | error es =>
      have hes : es ≠ [] := fun h => ha.ne_nil (by rw [h])
      cases b <;> simp [Checked.both, hes]
    | ok x =>
      cases b with
      | error es =>
        have hes : es ≠ [] := fun h => hb.ne_nil (by rw [h])
        simp [Checked.both, hes]
      | ok y => simp [Checked.both]
  · intro p hp
    rw [Checked.problems_both, List.mem_append] at hp
    exact hp.elim (ha.isGenuine p) (hb.isGenuine p)
  · intro p hp
    rw [Checked.problems_both, List.mem_append] at hp
    cases hp with
    | inl hp =>
      obtain ⟨key, rest, hkey, hpath⟩ := ha.below p hp
      exact ⟨key, rest, .inl hkey, hpath⟩
    | inr hp =>
      obtain ⟨key, rest, hkey, hpath⟩ := hb.below p hp
      exact ⟨key, rest, .inr hkey, hpath⟩
  · rw [Checked.problems_both, List.map_append, List.nodup_append]
    refine ⟨ha.nodup, hb.nodup, ?_⟩
    intro _ hfirst _ hsecond heq
    obtain ⟨p, hp, rfl⟩ := List.mem_map.mp hfirst
    obtain ⟨q, hq, rfl⟩ := List.mem_map.mp hsecond
    obtain ⟨key, rest, hkey, hpath⟩ := ha.below p hp
    obtain ⟨key', rest', hkey', hpath'⟩ := hb.below q hq
    rw [hpath, hpath', List.append_cancel_left_eq, List.cons.injEq] at heq
    exact hdisjoint key hkey (heq.1 ▸ hkey')

end Reports

variable {table : Fields Value} {key : String} {v : Value}

theorem reports_checkEntries {check : String → Value → Checked Problem α} {table : Fields Value}
    (hkeys : (Fields.keys table).Nodup)
    (h : ∀ entry ∈ table, Reports root path (· = entry.1) (check entry.1 entry.2))
    : Reports root path (· ∈ Fields.keys table) (checkEntries check table) := by
  induction table with
  | nil => exact .ok []
  | cons entry rest ih =>
    rw [Fields.keys_cons, List.nodup_cons] at hkeys
    rw [List.forall_mem_cons] at h
    have hrest : Reports root path (· ∈ Fields.keys rest) (checkEntries check rest) :=
      ih hkeys.2 h.2
    have hboth := (h.1.map fun x => (entry.1, x)).both hrest fun key hkey => hkey ▸ hkeys.1
    exact (hboth.map _).mono fun key hkey => by simpa using hkey

theorem reports_checkText (hv : valueAt? (path ++ [key]) (.table root) = some v)
    (hrule : InForce (path ++ [key]) .notText)
    : Reports root path (· = key) (checkText (path ++ [key]) v) := by
  cases v with
  | text s => exact .ok s
  | _ => exact .fail (.value hv hrule (.notText (by simp)))

theorem reports_checkTable {cause : Cause} (hv : valueAt? (path ++ [key]) (.table root) = some v)
    (hrule : InForce (path ++ [key]) cause) (hbreaks : ∀ v, ¬ IsTable v → Breaks v cause)
    : Reports root path (· = key) (checkTable (path ++ [key]) cause v) := by
  cases v with
  | table entries => exact .ok entries
  | _ => exact .fail (.value hv hrule (hbreaks _ (by simp [IsTable])))

theorem reports_checkOptionalTable (hrule : InForce [key] .notTable)
    : Reports root [] (· = key) (checkOptionalTable key root) := by
  unfold checkOptionalTable
  cases hv : Fields.get? key root with
  | none => exact .ok []
  | some v => exact reports_checkTable (valueAt?_root hv) hrule fun _ => .notTable

theorem reports_checkOptional {check : List String → Value → Checked Problem α}
    {entry : Option (String × Value)}
    (h : ∀ key v, entry = some (key, v) → Reports root path K (check (path ++ [key]) v))
    : Reports root path K (checkOptional path check entry) := by
  unfold checkOptional
  split
  · exact .ok none
  · exact .ok none
  · next key v _ => exact (h key v rfl).map some

theorem reports_checkKnownKeys {known : List String}
    (htable : valueAt? path (.table root) = some (.table table))
    (hkeys : (Fields.keys table).Nodup)
    (hrule : ∀ key ∈ Fields.keys table, key ∉ known → IsUnknown path table key)
    : Reports root path (· ∉ known) (checkKnownKeys path known table) := by
  unfold checkKnownKeys
  split
  · exact .ok ()
  · next hne =>
    have hunknown : ∀ key ∈ (Fields.keys table).filter fun key => key ∉ known,
        key ∈ Fields.keys table ∧ key ∉ known := by
      simp
    refine ⟨by simpa using hne, ?_, ?_, ?_⟩
    · intro p hp
      obtain ⟨key, hkey, rfl⟩ := List.mem_map.mp hp
      obtain ⟨hthere, hnot⟩ := hunknown key hkey
      obtain ⟨v, hv⟩ := Option.isSome_iff_exists.mp (Fields.isSome_get?_iff.mpr hthere)
      exact .unknownKey htable hv (hrule key hthere hnot)
    · intro p hp
      obtain ⟨key, hkey, rfl⟩ := List.mem_map.mp hp
      exact ⟨key, [], (hunknown key hkey).2, rfl⟩
    · rw [Checked.problems_error, List.map_map]
      refine List.Nodup.map ?_ (hkeys.filter _)
      intro key key' heq
      simpa using heq

theorem Http.reports_checkMethod (hv : valueAt? ["http", "method"] (.table root) = some v)
    : Reports root ["http"] (· = "method") (checkMethod ["http", "method"] v) := by
  refine Reports.bind (reports_checkText hv .methodText) ?_
  intro s hs
  rw [checkText_eq_ok_iff] at hs
  subst hs
  split
  · exact .ok _
  · next hnot => exact Reports.fail (.value hv (.method s) (.badMethod hnot))

theorem Http.reports_checkVersion (hv : valueAt? ["http", "version"] (.table root) = some v)
    : Reports root ["http"] (· = "version") (checkVersion ["http", "version"] v) := by
  cases v with
  | text s =>
    cases hfound : HttpVersion.ofText? s with
    | some version =>
      simp only [checkVersion, hfound]
      exact .ok version
    | none =>
      simp only [checkVersion, hfound]
      refine Reports.fail (.value hv .version (.unknownVersion ?_))
      rintro _ hs ⟨⟩
      obtain ⟨version, rfl⟩ := mem_versions_iff.mp hs
      rw [HttpVersion.ofText?, List.find?_eq_none] at hfound
      exact hfound version (by cases version <;> simp [HttpVersion.all]) (by simp)
  | _ => exact Reports.fail (.value hv .version (.unknownVersion (by simp)))

theorem Http.reports_check : Reports root [] (· = "http") (check root) := by
  unfold check
  cases hroot : Fields.get? "http" root with
  | none => exact Reports.fail (.missing rfl hroot .http)
  | some v =>
    have hv : valueAt? ["http"] (.table root) = some v := valueAt?_root hroot
    refine Reports.bind (reports_checkTable hv .http fun _ => .notHttpTable) ?_
    intro table htable
    rw [checkTable_eq_ok_iff] at htable
    subst htable
    extract_lets url method version
    have hurl : Reports root ["http"] (· = "url") url := by
      unfold url
      cases hget : Fields.get? "url" table with
      | none => exact Reports.fail (.missing hv hget .url)
      | some w => exact reports_checkText (valueAt?_concat hv hget) .url
    have hmethod : Reports root ["http"] (· = "method") method := by
      unfold method
      cases hget : Fields.get? "method" table with
      | none => exact .ok _
      | some w => exact reports_checkMethod (valueAt?_concat hv hget)
    have hversion : Reports root ["http"] (· = "version") version := by
      unfold version
      cases hget : Fields.get? "version" table with
      | none => exact .ok _
      | some w => exact reports_checkVersion (valueAt?_concat hv hget)
    refine Reports.lift (Reports.bind (hurl.both (hmethod.both hversion ?_) ?_) ?_)
    · rintro _ rfl
      decide
    · rintro _ rfl
      decide
    · exact fun read _ => .ok _

theorem reports_checkQueryParams
    : Reports root [] (· ∈ queryParamsSpellings) (checkQueryParams root) := by
  unfold checkQueryParams
  split
  · exact .ok none
  · next key v hfound =>
    obtain ⟨hkey, hv⟩ := findUnder?_eq_some_iff hfound
    have htable : Reports root [] (· = key) (checkTable [key] .notTable v) :=
      reports_checkTable (valueAt?_root hv) (.queryParams hkey) fun _ => .notTable
    exact (htable.map some).mono fun _ heq => heq ▸ hkey

theorem reports_headers {table : Fields Value} (htable : (Value.table table).IsToml)
    (hv : valueAt? ["headers"] (.table root) = some (.table table)) {headers : Fields String}
    (hheaders : table = Fields.mapValues .text headers)
    : Reports root [] (· = "headers")
        (match headers.findSome? fun (name, value) => headerCause? name value with
          | none => pure headers
          | some cause => fail ["headers"] cause) := by
  split
  · exact .ok headers
  · next cause hcause =>
    obtain ⟨⟨name, value⟩, hmem, hcause⟩ := List.exists_of_findSome?_eq_some hcause
    have hget : Fields.get? name table = some (.text value) := by
      apply Fields.get?_eq_some_of_mem htable.keys
      rw [hheaders]
      exact List.mem_map_of_mem hmem
    apply Reports.fail
    unfold headerCause? at hcause
    by_cases hname : isToken name = true
    · by_cases hvalue : isFieldValue value.toList = true
      · simp [hname, hvalue] at hcause
      · simp only [hname, hvalue, Bool.not_true, Bool.not_false, if_true] at hcause
        cases hcause
        exact .value hv (.headerValue name value) (.badHeaderValue hget hvalue)
    · simp only [hname, Bool.not_false, if_true] at hcause
      cases hcause
      exact .value hv (.headerName name) (.badHeaderName hget hname)

theorem reports_checkHeaders (hroot : (Value.table root).IsToml)
    : Reports root [] (· = "headers") (checkHeaders root) := by
  unfold checkHeaders
  refine (reports_checkOptionalTable .headers).bind ?_
  intro table htable
  rw [checkOptionalTable_eq_ok_iff] at htable
  obtain ⟨-, rfl⟩ | hget := htable
  · exact .ok []
  have hv : valueAt? ["headers"] (.table root) = some (.table table) :=
    valueAt?_root hget
  have htoml : (Value.table table).IsToml := hroot.of_get? hget
  refine Reports.bind (Reports.lift (reports_checkEntries htoml.keys ?_)) ?_
  · intro entry hentry
    have hentry' := Fields.get?_eq_some_of_mem htoml.keys hentry
    exact reports_checkText (valueAt?_concat hv hentry') (.headerText entry.1)
  · intro headers hheaders
    rw [checkEntries_checkText_eq_ok_iff] at hheaders
    exact reports_headers htoml hv hheaders

theorem isSome_findUnder? (spellings : List String) (table : Fields Value)
    : (findUnder? spellings table).isSome = spellings.any fun key => key ∈ Fields.keys table := by
  unfold findUnder?
  rw [List.isSome_findSome?]
  congr 1
  funext key
  rw [Option.isSome_map, Bool.eq_iff_iff, Fields.isSome_get?_iff, decide_eq_true_eq]

theorem isSome_of_checkOptional {check : List String → Value → Checked Problem α}
    {entry : Option (String × Value)} (hnull : ∀ key, entry ≠ some (key, .null)) {found : Option α}
    (h : checkOptional path check entry = .ok found) : found.isSome = entry.isSome := by
  obtain ⟨rfl, rfl⟩ | ⟨key, v, x, rfl, -, rfl⟩ := (checkOptional_eq_ok_iff hnull).mp h
  · rfl
  · rfl

theorem FormField.reports_check {spelling name : String}
    (hspelling : spelling ∈ Body.formDataSpellings)
    (hv : valueAt? ["body", spelling, name] (.table root) = some v) (htoml : v.IsToml)
    : Reports root ["body", spelling] (· = name) (check ["body", spelling, name] v) := by
  unfold check
  refine Reports.bind (reports_checkTable hv (.part hspelling name) fun _ => .notFormFieldTable) ?_
  intro table htable
  rw [checkTable_eq_ok_iff] at htable
  subst htable
  have hnull (key : String) : Fields.get? key table ≠ some .null :=
    fun heq => (htoml.of_get? heq).ne_null rfl
  extract_lets text file
  have htext : text.isSome = true ↔ "text" ∈ Fields.keys table := by
    rw [← Fields.isSome_get?_iff]
    unfold text
    split
    · next heq => simp [heq]
    · next heq => exact absurd heq (hnull "text")
    · next heq => simp [heq]
  have hfile : Reports root ["body", spelling, name] (· = "file") file := by
    apply reports_checkOptional
    intro key w hw
    obtain ⟨w, hget, heq⟩ := Option.map_eq_some_iff.mp hw
    cases heq
    exact reports_checkText (valueAt?_concat hv hget) (.partFile hspelling name)
  have hknown : Reports root ["body", spelling, name] (· ∉ ["text", "file"])
      (checkKnownKeys ["body", spelling, name] ["text", "file"] table) := by
    apply reports_checkKnownKeys hv htoml.keys
    intro key _ hkey
    simp only [List.mem_cons, List.not_mem_nil, or_false, not_or] at hkey
    exact .noPart hspelling hkey.1 hkey.2
  refine Reports.bind (Reports.lift (hfile.both hknown ?_)) ?_
  · rintro _ rfl
    decide
  · rintro ⟨found, _⟩ hfound
    rw [Checked.both_eq_ok_iff] at hfound
    have hsome := isSome_of_checkOptional (by simp [hnull]) hfound.1
    dsimp only at hsome ⊢
    split
    · next hone =>
      refine Reports.fail (.value hv (.onePart hspelling name) (.notOneOfTextAndFile ?_))
      rw [← htext, hone, hsome, Option.isSome_map, Fields.isSome_get?_iff]
    · exact .ok _

namespace Body

theorem reports_checkFormData {spelling : String} (hspelling : spelling ∈ formDataSpellings)
    (hv : valueAt? ["body", spelling] (.table root) = some v) (htoml : v.IsToml)
    : Reports root ["body"] (· = spelling) (checkFormData ["body", spelling] v) := by
  unfold checkFormData
  refine Reports.bind (reports_checkTable hv (.formData hspelling) fun _ => .notTable) ?_
  intro table htable
  rw [checkTable_eq_ok_iff] at htable
  subst htable
  apply Reports.lift
  apply reports_checkEntries htoml.keys
  intro entry hentry
  have hget := Fields.get?_eq_some_of_mem htoml.keys hentry
  exact FormField.reports_check hspelling (valueAt?_concat hv hget) (htoml.of_mem hentry)

theorem present_eq_bodiesIn {table : Fields Value} {body : Body}
    (hraw : body.raw.isSome = (findUnder? rawSpellings table).isSome)
    (hbinary : body.binary.isSome = (findUnder? binarySpellings table).isSome)
    (hformData : body.formData.isSome = (findUnder? formDataSpellings table).isSome)
    (hformUrlencoded : body.formUrlencoded.isSome
      = (findUnder? formUrlencodedSpellings table).isSome)
    : body.present = bodiesIn table := by
  have hfour : bodiesIn table
      = ([("raw", rawSpellings), ("binary", binarySpellings), ("form_data", formDataSpellings),
          ("form_urlencoded", formUrlencodedSpellings)].filter fun kind =>
        (findUnder? kind.2 table).isSome).map Prod.fst := by
    simp only [isSome_findUnder?]
    rfl
  rw [hfour]
  simp only [present, hraw, hbinary, hformData, hformUrlencoded, List.filter_cons, List.filter_nil]
  cases (findUnder? rawSpellings table).isSome <;>
  cases (findUnder? binarySpellings table).isSome <;>
  cases (findUnder? formDataSpellings table).isSome <;>
  cases (findUnder? formUrlencodedSpellings table).isSome <;>
  rfl

theorem mem_takenKeys_iff {table : Fields Value} {key : String}
    : key ∈ takenKeys table
        ↔
      ∃ spellings ∈ bodySpellings.map Prod.snd, ∃ v, findUnder? spellings table = some (key, v) := by
  have htaken : takenKeys table
      = ((bodySpellings.map Prod.snd).map fun spellings => findUnder? spellings table).filterMap
        fun entry => entry.map Prod.fst := rfl
  rw [htaken, List.mem_filterMap]
  constructor
  · rintro ⟨entry, hentry, hkey⟩
    obtain ⟨spellings, hspellings, rfl⟩ := List.mem_map.mp hentry
    obtain ⟨⟨key, v⟩, hfound, rfl⟩ := Option.map_eq_some_iff.mp hkey
    exact ⟨spellings, hspellings, v, hfound⟩
  · rintro ⟨spellings, hspellings, v, hfound⟩
    exact ⟨_, List.mem_map_of_mem hspellings, by rw [hfound]; rfl⟩

theorem isUnknown_of_not_mem_takenKeys {table : Fields Value} {key : String}
    (hkey : key ∈ Fields.keys table) (hnot : key ∉ takenKeys table)
    : IsUnknown ["body"] table key := by
  by_cases hspelling : ∃ kind ∈ bodySpellings, key ∈ kind.2
  · obtain ⟨⟨kind, spellings⟩, hkind, hmem⟩ := hspelling
    have hsome : (findUnder? spellings table).isSome = true := by
      rw [isSome_findUnder?, List.any_eq_true]
      exact ⟨key, hmem, by simpa using hkey⟩
    obtain ⟨⟨first, v⟩, hfound⟩ := Option.isSome_iff_exists.mp hsome
    have hfirst := mem_takenKeys_iff.mpr ⟨_, List.mem_map_of_mem hkind, v, hfound⟩
    obtain ⟨before, spelling, after, rfl, hentry, hbefore⟩ := List.findSome?_eq_some_iff.mp hfound
    obtain ⟨w, hget, heq⟩ := Option.map_eq_some_iff.mp hentry
    cases heq
    rw [List.mem_append, List.mem_cons] at hmem
    obtain hmem | rfl | hmem := hmem
    · have hnone := hbefore key hmem
      rw [Option.map_eq_none_iff, Fields.get?_eq_none_iff] at hnone
      exact absurd hkey hnone
    · exact absurd hfirst hnot
    · obtain ⟨middle, rest, rfl⟩ := List.append_of_mem hmem
      have hkind' : (kind, (before ++ first :: middle) ++ key :: rest) ∈ bodySpellings := by
        simpa using hkind
      have hthere : first ∈ Fields.keys table := Fields.isSome_get?_iff.mp (by rw [hget]; rfl)
      exact .secondSpelling hkind' (List.mem_append_right _ List.mem_cons_self) hthere
  · exact .noSpelling fun kind hkind hmem => hspelling ⟨kind, hkind, hmem⟩

theorem reports_spelling {table : Fields Value} {spellings : List String}
    (hspellings : spellings ∈ bodySpellings.map Prod.snd)
    {check : List String → Value → Checked Problem α}
    (h : ∀ key ∈ spellings, ∀ w, Fields.get? key table = some w →
      Reports root ["body"] (· = key) (check ["body", key] w))
    : Reports root ["body"] (fun key => key ∈ takenKeys table ∧ key ∈ spellings)
        (checkOptional ["body"] check (findUnder? spellings table)) := by
  apply reports_checkOptional
  intro key w hw
  obtain ⟨hkey, hget⟩ := findUnder?_eq_some_iff hw
  refine (h key hkey w hget).mono ?_
  rintro _ rfl
  exact ⟨mem_takenKeys_iff.mpr ⟨spellings, hspellings, w, hw⟩, hkey⟩

theorem reports_check (hv : valueAt? ["body"] (.table root) = some v) (htoml : v.IsToml)
    : Reports root [] (· = "body") (check ["body"] v) := by
  unfold check
  refine Reports.bind (reports_checkTable hv .body fun _ => .notBodyTable) ?_
  intro table htable
  rw [checkTable_eq_ok_iff] at htable
  subst htable
  have hnull := findUnder?_ne_null htoml
  have hraw : Reports root ["body"] (fun key => key ∈ takenKeys table ∧ key ∈ rawSpellings)
      (checkOptional ["body"] checkText (findUnder? rawSpellings table)) :=
    reports_spelling (by decide) fun key hkey w hget =>
      reports_checkText (valueAt?_concat hv hget) (.content (List.mem_append_left _ hkey))
  have hbinary : Reports root ["body"] (fun key => key ∈ takenKeys table ∧ key ∈ binarySpellings)
      (checkOptional ["body"] checkText (findUnder? binarySpellings table)) :=
    reports_spelling (by decide) fun key hkey w hget =>
      reports_checkText (valueAt?_concat hv hget) (.content (List.mem_append_right rawSpellings hkey))
  have hformData : Reports root ["body"] (fun key => key ∈ takenKeys table ∧ key ∈ formDataSpellings)
      (checkOptional ["body"] checkFormData (findUnder? formDataSpellings table)) :=
    reports_spelling (by decide) fun key hkey w hget =>
      reports_checkFormData hkey (valueAt?_concat hv hget) (htoml.of_get? hget)
  have hformUrlencoded : Reports root ["body"]
      (fun key => key ∈ takenKeys table ∧ key ∈ formUrlencodedSpellings)
      (checkOptional ["body"] (fun path => checkTable path .notTable)
        (findUnder? formUrlencodedSpellings table)) :=
    reports_spelling (by decide) fun key hkey w hget =>
      reports_checkTable (valueAt?_concat hv hget) (.formUrlencoded hkey) fun _ => .notTable
  have hknown : Reports root ["body"] (· ∉ takenKeys table)
      (checkKnownKeys ["body"] (takenKeys table) table) :=
    reports_checkKnownKeys hv htoml.keys fun key => isUnknown_of_not_mem_takenKeys
  refine Reports.bind (Reports.lift (hraw.both (hbinary.both (hformData.both
    (hformUrlencoded.both hknown ?_) ?_) ?_) ?_)) ?_
  · tauto
  · intro key hkey
    have := not_mem_of_mem_formDataSpellings key hkey.2
    tauto
  · intro key hkey
    have := not_mem_of_mem_binarySpellings key hkey.2
    tauto
  · intro key hkey
    have := not_mem_of_mem_rawSpellings key hkey.2
    tauto
  · rintro ⟨raw, binary, formData, formUrlencoded, _⟩ h
    simp only [Checked.both_eq_ok_iff] at h
    dsimp only
    have hpresent : present ⟨raw, binary, formData, formUrlencoded⟩ = bodiesIn table := by
      apply present_eq_bodiesIn
      · exact isSome_of_checkOptional (hnull _) h.1
      · exact isSome_of_checkOptional (hnull _) h.2.1
      · exact isSome_of_checkOptional (hnull _) h.2.2.1
      · exact isSome_of_checkOptional (hnull _) h.2.2.2.1
    rw [hpresent]
    split
    · next hseveral => exact Reports.fail (.value hv (.oneBody _) (.severalBodies hseveral))
    · exact .ok _

end Body

theorem reports_checkBody (hroot : (Value.table root).IsToml)
    : Reports root [] (· = "body") (checkBody root) := by
  unfold checkBody
  cases hget : Fields.get? "body" root with
  | none => exact .ok _
  | some v => exact Body.reports_check (valueAt?_root hget) (hroot.of_get? hget)

theorem reports_check (hroot : (Value.table root).IsToml)
    : ∃ K, Reports root [] K (check root) := by
  unfold check
  refine ⟨_, Reports.bind (Http.reports_check.both (reports_checkQueryParams.both
    ((reports_checkHeaders hroot).both ((reports_checkOptionalTable .metadata).both
      ((reports_checkOptionalTable .vars).both (reports_checkBody hroot) ?_) ?_) ?_) ?_) ?_)
    fun read _ => .ok _⟩ <;> simp [queryParamsSpellings]

theorem ofTable_eq_illFormed_iff {problems : List Problem}
    : ofTable root = .error (.illFormed problems) ↔ check root = .error problems := by
  unfold ofTable
  cases check root with
  | error found => simp
  | ok d =>
    dsimp only
    cases d.checkTypes <;> simp

/--
A document that is refused for its structure has problems: every one that is reported is genuine, and
no place is reported twice.
-/
theorem problems_genuine (hroot : (Value.table root).IsToml) {problems : List Problem}
    (h : ofTable root = .error (.illFormed problems))
    : problems ≠ []
        ∧ (∀ p ∈ problems, IsGenuine root p)
        ∧ (problems.map Problem.path).Nodup := by
  rw [ofTable_eq_illFormed_iff] at h
  obtain ⟨K, hreports⟩ := reports_check hroot
  rw [h] at hreports
  refine ⟨?_, hreports.isGenuine, hreports.nodup⟩
  rintro rfl
  exact hreports.ne_nil rfl

theorem problems_genuine_four
    : let root : Fields Value :=
        [("body", .table [("text", .integer 1), ("raw", .text "r"),
            ("form-data", .table [("f", .table [("text", .boolean true), ("file", .text "p")])])]),
          ("headers", .table [("A", .text "1"), ("b c", .text "2")]),
          ("http", .table [("method", .text "GET")])]
      let problems : List Problem :=
        [⟨["http", "url"], .missing⟩, ⟨["headers"], .badHeaderName "b c"⟩,
          ⟨["body", "form-data", "f"], .notOneOfTextAndFile⟩, ⟨["body", "text"], .unknownKey⟩]
      ofTable root = .error (.illFormed problems) ∧ ∀ p ∈ problems, IsGenuine root p := by
  intro root problems
  have h : ofTable root = .error (.illFormed problems) := rfl
  refine ⟨h, (problems_genuine ?_ h).2.1⟩
  apply Value.IsToml.table (by decide)
  simp only [root, List.forall_mem_cons]
  refine ⟨.table (by decide) ?_, .table (by decide) ?_, .table (by decide) ?_, by simp⟩
  · simp only [List.forall_mem_cons]
    refine ⟨.integer 1, .text "r", .table (by decide) ?_, by simp⟩
    simp only [List.forall_mem_cons]
    refine ⟨.table (by decide) ?_, by simp⟩
    simp only [List.forall_mem_cons]
    exact ⟨.boolean true, .text "p", by simp⟩
  · simp only [List.forall_mem_cons]
    exact ⟨.text "1", .text "2", by simp⟩
  · simpa using Value.IsToml.text "GET"

end RequestFile.Document
