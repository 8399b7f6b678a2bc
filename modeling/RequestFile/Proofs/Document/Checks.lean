import RequestFile.Document.Structure
import RequestFile.Document.Types
import RequestFile.Proofs.Toml.Trees
import RequestFile.Proofs.Traversals

/-!
This module contains what each check of a document accepts, and what it reads from what it accepts.
There is one lemma for each check; nothing else needs to look into it.
-/

namespace RequestFile

namespace Document

@[simp]
theorem fail_ne_ok {α : Type} (path : List String) (cause : Cause) (x : α)
    : (fail path cause : Checked Problem α) ≠ .ok x := by
  simp [fail]

theorem checkText_eq_ok_iff {path : List String} {v : Value} {s : String}
    : checkText path v = .ok s ↔ v = .text s := by
  cases v <;> simp [checkText]

theorem checkTable_eq_ok_iff {path : List String} {cause : Cause} {v : Value}
    {table : Fields Value} : checkTable path cause v = .ok table ↔ v = .table table := by
  cases v <;> simp [checkTable]

theorem checkEntries_eq_ok_iff {α : Type} {check : String → Value → Checked Problem α}
    {table : Fields Value} {fields : Fields α}
    : checkEntries check table = .ok fields
        ↔
      List.Forall₂ (fun entry field => entry.1 = field.1 ∧ check entry.1 entry.2 = .ok field.2)
        table fields := by
  unfold checkEntries
  rw [Checked.each_eq_ok_iff]
  have hentry : (fun (entry : String × Value) (field : String × α) =>
        (check entry.1 entry.2).map (fun x => (entry.1, x)) = .ok field)
      = fun entry field => entry.1 = field.1 ∧ check entry.1 entry.2 = .ok field.2 := by
    funext entry field
    rw [Except.map_eq_ok_iff, eq_iff_iff]
    constructor
    · rintro ⟨x, hx, rfl⟩
      exact ⟨rfl, hx⟩
    · rintro ⟨hkey, hx⟩
      exact ⟨field.2, hx, by rw [hkey]⟩
  rw [← hentry]

theorem checkOptionalTable_eq_ok_iff {key : String} {root table : Fields Value}
    : checkOptionalTable key root = .ok table
        ↔
      Fields.get? key root = none ∧ table = [] ∨ Fields.get? key root = some (.table table) := by
  unfold checkOptionalTable
  cases hget : Fields.get? key root with
  | none => simp [eq_comm]
  | some v => simp [checkTable_eq_ok_iff]

theorem checkKnownKeys_eq_ok_iff {path known : List String} {table : Fields Value}
    : checkKnownKeys path known table = .ok () ↔ ∀ key ∈ Fields.keys table, key ∈ known := by
  have hnil : (Fields.keys table).filter (fun key => key ∉ known) = []
      ↔ ∀ key ∈ Fields.keys table, key ∈ known := by
    simp [List.filter_eq_nil_iff]
  unfold checkKnownKeys
  rw [← hnil]
  split
  · next heq => simp only [heq]
  · next hne => simpa using hne

namespace Http

theorem checkMethod_eq_ok_iff {path : List String} {v : Value} {method : String}
    : checkMethod path v = .ok method
        ↔
      ∃ s, v = .text s ∧ Grammar.isToken s = true
        ∧ method = String.ofList (s.toList.map Char.toUpper) := by
  unfold checkMethod
  rw [Except.bind_eq_ok_iff]
  apply exists_congr
  intro s
  rw [checkText_eq_ok_iff]
  apply and_congr_right
  intro _
  by_cases htoken : Grammar.isToken s = true
  · simp [htoken, pure, Except.pure, eq_comm]
  · rw [if_neg htoken]
    simp [htoken]

theorem checkVersion_eq_ok_iff {path : List String} {v : Value} {version : HttpVersion}
    : checkVersion path v = .ok version ↔ v = .text version.text := by
  cases v with
  | text s =>
    simp only [checkVersion]
    constructor
    · intro h
      cases hfound : HttpVersion.ofText? s with
      | none => simp [hfound] at h
      | some found =>
        rw [hfound] at h
        cases h
        unfold HttpVersion.ofText? at hfound
        have htext := List.find?_some hfound
        rw [beq_iff_eq] at htext
        rw [htext]
    · intro h
      cases h
      cases version <;> rfl
  | _ => simp [checkVersion]

structure Reads (table : Fields Value) (http : Http) : Prop where
  url : Fields.get? "url" table = some (.text http.url)
  method : Fields.get? "method" table = none ∧ http.method = "GET"
    ∨ ∃ s, Fields.get? "method" table = some (.text s) ∧ Grammar.isToken s = true
      ∧ http.method = String.ofList (s.toList.map Char.toUpper)
  version : Fields.get? "version" table = none ∧ http.version = .http11
    ∨ Fields.get? "version" table = some (.text http.version.text)

theorem url_eq_ok_iff {table : Fields Value} {url : String}
    : (match Fields.get? "url" table with
      | none => fail ["http", "url"] .missing
      | some v => checkText ["http", "url"] v) = .ok url
        ↔
      Fields.get? "url" table = some (.text url) := by
  cases Fields.get? "url" table <;> simp [checkText_eq_ok_iff]

theorem method_eq_ok_iff {table : Fields Value} {method : String}
    : (match Fields.get? "method" table with
      | none => Except.ok "GET"
      | some v => checkMethod ["http", "method"] v) = .ok method
        ↔
      Fields.get? "method" table = none ∧ method = "GET"
        ∨ ∃ s, Fields.get? "method" table = some (.text s) ∧ Grammar.isToken s = true
          ∧ method = String.ofList (s.toList.map Char.toUpper) := by
  cases Fields.get? "method" table with
  | none => simpa using eq_comm
  | some v => simp [checkMethod_eq_ok_iff]

theorem version_eq_ok_iff {table : Fields Value} {version : HttpVersion}
    : (match Fields.get? "version" table with
      | none => Except.ok HttpVersion.http11
      | some v => checkVersion ["http", "version"] v) = .ok version
        ↔
      Fields.get? "version" table = none ∧ version = .http11
        ∨ Fields.get? "version" table = some (.text version.text) := by
  cases Fields.get? "version" table with
  | none => simpa using eq_comm
  | some v => simp [checkVersion_eq_ok_iff]

theorem check_eq_ok_iff {root : Fields Value} {http : Http}
    : check root = .ok http
        ↔
      ∃ table, Fields.get? "http" root = some (.table table) ∧ Reads table http := by
  unfold check
  cases hroot : Fields.get? "http" root with
  | none => simp
  | some v =>
    dsimp only
    rw [Except.bind_eq_ok_iff]
    apply exists_congr
    intro table
    rw [checkTable_eq_ok_iff, Option.some.injEq]
    apply and_congr_right
    intro _
    rw [Except.bind_eq_ok_iff]
    constructor
    · rintro ⟨⟨url, method, version⟩, hboth, hpure⟩
      rw [Checked.both_eq_ok_iff, Checked.both_eq_ok_iff] at hboth
      cases hpure
      exact ⟨url_eq_ok_iff.mp hboth.1, method_eq_ok_iff.mp hboth.2.1,
        version_eq_ok_iff.mp hboth.2.2⟩
    · rintro ⟨hurl, hmethod, hversion⟩
      refine ⟨(http.url, http.method, http.version), ?_, rfl⟩
      rw [Checked.both_eq_ok_iff, Checked.both_eq_ok_iff]
      exact ⟨url_eq_ok_iff.mpr hurl, method_eq_ok_iff.mpr hmethod, version_eq_ok_iff.mpr hversion⟩

end Http

theorem checkQueryParams_eq_ok_iff {root : Fields Value} {queryParams : Option (Fields Value)}
    : checkQueryParams root = .ok queryParams
        ↔
      findUnder? queryParamsSpellings root = none ∧ queryParams = none
        ∨ ∃ key table, findUnder? queryParamsSpellings root = some (key, .table table)
          ∧ queryParams = some table := by
  unfold checkQueryParams
  cases hentry : findUnder? queryParamsSpellings root with
  | none => simpa using eq_comm
  | some entry =>
    rcases entry with ⟨key, v⟩
    dsimp only
    rw [Except.map_eq_ok_iff]
    simp only [checkTable_eq_ok_iff]
    constructor
    · rintro ⟨table, rfl, rfl⟩
      exact .inr ⟨key, table, rfl, rfl⟩
    · rintro (⟨h, _⟩ | ⟨key', table, heq, rfl⟩)
      · cases h
      · cases heq
        exact ⟨table, rfl, rfl⟩

theorem headerCause?_eq_none_iff {name value : String}
    : headerCause? name value = none
        ↔
      Grammar.isToken name = true ∧ Grammar.isFieldValue value.toList = true := by
  unfold headerCause?
  by_cases hname : Grammar.isToken name = true
  · by_cases hvalue : Grammar.isFieldValue value.toList = true <;> simp [hname, hvalue]
  · simp [hname]

theorem forall₂_text_iff {table : Fields Value} {headers : Fields String}
    : List.Forall₂ (fun entry header => entry.1 = header.1 ∧ entry.2 = .text header.2) table headers
        ↔
      table = Fields.mapValues .text headers := by
  rw [Fields.mapValues]
  induction table generalizing headers with
  | nil => cases headers <;> simp
  | cons entry rest ih =>
    cases headers with
    | nil => simp
    | cons header headers => rw [List.forall₂_cons, ih, List.map_cons, List.cons.injEq, Prod.ext_iff]

theorem checkEntries_checkText_eq_ok_iff {path : String → List String} {table : Fields Value}
    {headers : Fields String}
    : checkEntries (fun name => checkText (path name)) table = .ok headers
        ↔
      table = Fields.mapValues .text headers := by
  rw [checkEntries_eq_ok_iff, ← forall₂_text_iff]
  simp only [checkText_eq_ok_iff]

theorem checkHeaders_eq_ok_iff {root : Fields Value} {headers : Fields String}
    : checkHeaders root = .ok headers
        ↔
      (Fields.get? "headers" root = none ∧ headers = []
        ∨ Fields.get? "headers" root = some (.table (Fields.mapValues .text headers)))
      ∧ ∀ header ∈ headers,
        Grammar.isToken header.1 = true ∧ Grammar.isFieldValue header.2.toList = true := by
  have hcauses : headers.findSome? (fun header => headerCause? header.1 header.2) = none
      ↔ ∀ header ∈ headers,
        Grammar.isToken header.1 = true ∧ Grammar.isFieldValue header.2.toList = true := by
    simp only [List.findSome?_eq_none_iff, headerCause?_eq_none_iff]
  unfold checkHeaders
  rw [Except.bind_eq_ok_iff]
  simp only [checkOptionalTable_eq_ok_iff, Except.bind_eq_ok_iff, checkEntries_checkText_eq_ok_iff]
  constructor
  · rintro ⟨table, htable, found, rfl, h⟩
    cases hfound : found.findSome? fun header => headerCause? header.1 header.2 with
    | none =>
      simp only [hfound] at h
      cases h
      refine ⟨htable.imp (fun h => ⟨h.1, ?_⟩) fun h => h, hcauses.mp hfound⟩
      simpa [Fields.mapValues] using h.2
    | some cause => simp [hfound] at h
  · rintro ⟨htable, hheaders⟩
    refine ⟨_, ?_, headers, rfl, ?_⟩
    · refine htable.imp (fun h => ⟨h.1, ?_⟩) fun h => h
      simp [Fields.mapValues, h.2]
    · simp only [hcauses.mpr hheaders]
      rfl

theorem check_eq_ok_iff {root : Fields Value} {d : Document}
    : check root = .ok d
        ↔
      Http.check root = .ok d.http
        ∧ checkQueryParams root = .ok d.queryParams
        ∧ checkHeaders root = .ok d.headers
        ∧ checkOptionalTable "metadata" root = .ok d.metadata
        ∧ checkOptionalTable "variables" root = .ok d.vars
        ∧ checkBody root = .ok d.body := by
  unfold check
  rw [Except.bind_eq_ok_iff]
  simp only [Checked.both_eq_ok_iff]
  constructor
  · rintro ⟨read, h, hd⟩
    cases hd
    exact h
  · intro h
    exact ⟨(d.http, d.queryParams, d.headers, d.metadata, d.vars, d.body), h, rfl⟩

theorem checkFlat_eq_ok_iff {field : String} {v : Value}
    : checkFlat field v = .ok () ↔ v.isFlat = true := by
  have hnone : offender? v = none ↔ v.isFlat = true := by
    simp [offender?, Value.isFlat]
  unfold checkFlat
  rw [← hnone]
  cases offender? v <;> simp

theorem checkTypes_eq_ok_iff {d : Document}
    : d.checkTypes = .ok () ↔ ∀ site ∈ d.flatSites, site.2.isFlat = true := by
  unfold checkTypes
  induction d.flatSites with
  | nil => simp [pure, Except.pure]
  | cons site rest ih =>
    rw [List.forM_eq_forM, List.forM_cons, Except.bind_eq_ok_iff, List.forall_mem_cons]
    constructor
    · rintro ⟨_, hfirst, hrest⟩
      exact ⟨checkFlat_eq_ok_iff.mp hfirst, ih.mp hrest⟩
    · rintro ⟨hfirst, hrest⟩
      exact ⟨(), checkFlat_eq_ok_iff.mpr hfirst, ih.mpr hrest⟩

end Document

end RequestFile
