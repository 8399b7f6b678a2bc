import RequestFile.Document.Reading
import RequestFile.Proofs.Document.Bodies
import RequestFile.Proofs.Toml.Reading

/-!
This module contains the grammar of request files, and that a document is accepted if and only if it
keeps to the grammar. The grammar says which tables are request files without saying how they are
checked.
-/

namespace RequestFile

namespace Grammar

inductive IsPrimitive : Value → Prop where
  | text (s : String) : IsPrimitive (.text s)
  | integer (n : Int) : IsPrimitive (.integer n)
  | float (x : Float) : IsPrimitive (.float x)
  | boolean (b : Bool) : IsPrimitive (.boolean b)

inductive IsFlat : Value → Prop where
  | primitive {v : Value} (hv : IsPrimitive v) : IsFlat v
  | array {items : List Value} (hitems : ∀ item ∈ items, IsPrimitive item) : IsFlat (.array items)

def IsTable (v : Value) : Prop :=
  ∃ table, v = .table table

def IsFlatTable (v : Value) : Prop :=
  ∃ table, v = .table table ∧ ∀ entry ∈ table, IsFlat entry.2

structure IsHttp (table : Fields Value) : Prop where
  url : ∃ s, Fields.get? "url" table = some (.text s)
  method : ∀ v, Fields.get? "method" table = some v → ∃ s, v = .text s ∧ isToken s = true
  version : ∀ v, Fields.get? "version" table = some v →
    ∃ s ∈ ["HTTP/0.9", "HTTP/1.0", "HTTP/1.1", "HTTP/2", "HTTP/3"], v = .text s

def IsHeaders (v : Value) : Prop :=
  ∃ table, v = .table table ∧ ∀ entry ∈ table,
    isToken entry.1 = true ∧ ∃ s, entry.2 = .text s ∧ isFieldValue s.toList = true

inductive IsPart : Value → Prop where
  | text {v : Value} (hv : IsFlat v) : IsPart (.table [("text", v)])
  | file (path : String) : IsPart (.table [("file", .text path)])

inductive IsBody : Value → Prop where
  | empty : IsBody (.table [])
  | content {key : String} (hkey : key ∈ ["raw", "text", "binary", "file"]) (s : String)
    : IsBody (.table [(key, .text s)])
  | formData {key : String}
    (hkey : key ∈ ["form_data", "form-data", "multipart_form_data", "multipart-form-data"])
    {fields : Fields Value} (hfields : ∀ entry ∈ fields, IsPart entry.2)
    : IsBody (.table [(key, .table fields)])
  | formUrlencoded {key : String}
    (hkey : key ∈ ["form_urlencoded", "form-urlencoded", "x-www-form-urlencoded"]) {v : Value}
    (hv : IsFlatTable v) : IsBody (.table [(key, v)])

/--
The root table of a request file. Only `http` has to be there. Of the spellings of the query
parameters only the first one that is there counts.
-/
structure IsRequestFile (root : Fields Value) : Prop where
  http : ∃ table, Fields.get? "http" root = some (.table table) ∧ IsHttp table
  queryParams : ∀ v,
    ["query_params", "queryparams", "query-params"].findSome? (fun key => Fields.get? key root)
      = some v → IsFlatTable v
  headers : ∀ v, Fields.get? "headers" root = some v → IsHeaders v
  metadata : ∀ v, Fields.get? "metadata" root = some v → IsTable v
  vars : ∀ v, Fields.get? "variables" root = some v → IsTable v
  body : ∀ v, Fields.get? "body" root = some v → IsBody v

theorem isPrimitive_iff {v : Value} : v.isPrimitive = true ↔ IsPrimitive v := by
  constructor
  · intro h
    cases v with
    | text s => exact .text s
    | integer n => exact .integer n
    | float x => exact .float x
    | boolean b => exact .boolean b
    | _ => simp [Value.isPrimitive] at h
  · intro h
    cases h <;> rfl

theorem items_eq_singleton {v : Value} (hv : IsPrimitive v) : v.items = [v] := by
  cases hv <;> rfl

theorem isFlat_iff {v : Value} : v.isFlat = true ↔ IsFlat v := by
  unfold Value.isFlat
  rw [List.all_eq_true]
  simp only [isPrimitive_iff]
  constructor
  · intro h
    cases v with
    | array items => exact .array h
    | _ => exact .primitive (h _ (List.mem_singleton_self _))
  · intro h
    cases h with
    | primitive hv =>
      rw [items_eq_singleton hv]
      simpa using hv
    | array hitems => exact hitems

theorem mem_versions_iff {s : String}
    : s ∈ ["HTTP/0.9", "HTTP/1.0", "HTTP/1.1", "HTTP/2", "HTTP/3"]
        ↔
      ∃ version : HttpVersion, version.text = s := by
  have hall : ["HTTP/0.9", "HTTP/1.0", "HTTP/1.1", "HTTP/2", "HTTP/3"]
      = HttpVersion.all.map HttpVersion.text := rfl
  rw [hall, List.mem_map]
  apply exists_congr
  intro version
  cases version <;> simp [HttpVersion.all]

end Grammar

namespace Document

open Grammar

variable {root : Fields Value}

theorem Http.exists_reads_iff {table : Fields Value} : (∃ http, Reads table http) ↔ IsHttp table := by
  constructor
  · rintro ⟨http, hurl, hmethod, hversion⟩
    refine ⟨⟨_, hurl⟩, ?_, ?_⟩
    · intro v hv
      cases hmethod with
      | inl hnone => simp [hnone.1] at hv
      | inr hsome =>
        rcases hsome with ⟨s, hs, htoken, _⟩
        rw [hs, Option.some.injEq] at hv
        exact ⟨s, hv.symm, htoken⟩
    · intro v hv
      cases hversion with
      | inl hnone => simp [hnone.1] at hv
      | inr hsome =>
        rw [hsome, Option.some.injEq] at hv
        exact ⟨_, mem_versions_iff.mpr ⟨http.version, rfl⟩, hv.symm⟩
  · rintro ⟨⟨url, hurl⟩, hmethod, hversion⟩
    have hmethod' : ∃ method, Fields.get? "method" table = none ∧ method = "GET"
        ∨ ∃ s, Fields.get? "method" table = some (.text s) ∧ isToken s = true
          ∧ method = String.ofList (s.toList.map Char.toUpper) := by
      cases hget : Fields.get? "method" table with
      | none => exact ⟨_, .inl ⟨rfl, rfl⟩⟩
      | some v =>
        rcases hmethod v hget with ⟨s, rfl, htoken⟩
        exact ⟨_, .inr ⟨s, rfl, htoken, rfl⟩⟩
    have hversion' : ∃ version : HttpVersion, Fields.get? "version" table = none ∧ version = .http11
        ∨ Fields.get? "version" table = some (.text version.text) := by
      cases hget : Fields.get? "version" table with
      | none => exact ⟨_, .inl ⟨rfl, rfl⟩⟩
      | some v =>
        rcases hversion v hget with ⟨s, hs, rfl⟩
        rcases mem_versions_iff.mp hs with ⟨version, rfl⟩
        exact ⟨version, .inr rfl⟩
    rcases hmethod' with ⟨method, hmethod'⟩
    rcases hversion' with ⟨version, hversion'⟩
    exact ⟨⟨url, method, version⟩, hurl, hmethod', hversion'⟩

theorem exists_checkHttp_iff
    : (∃ http, Http.check root = .ok http)
        ↔
      ∃ table, Fields.get? "http" root = some (.table table) ∧ IsHttp table := by
  simp only [Http.check_eq_ok_iff, ← Http.exists_reads_iff]
  constructor
  · rintro ⟨http, table, htable, hreads⟩
    exact ⟨table, htable, http, hreads⟩
  · rintro ⟨table, htable, http, hreads⟩
    exact ⟨http, table, htable, hreads⟩

theorem map_snd_findUnder? (spellings : List String) (root : Fields Value)
    : (findUnder? spellings root).map Prod.snd
        =
      spellings.findSome? fun key => Fields.get? key root := by
  unfold findUnder?
  induction spellings with
  | nil => rfl
  | cons spelling rest ih =>
    rw [List.findSome?_cons, List.findSome?_cons, ← ih]
    cases Fields.get? spelling root <;> rfl

theorem exists_checkQueryParams_iff
    : (∃ queryParams, checkQueryParams root = .ok queryParams
        ∧ ∀ entry ∈ queryParams.getD [], entry.2.isFlat = true)
        ↔
      ∀ v, ["query_params", "queryparams", "query-params"].findSome?
        (fun key => Fields.get? key root) = some v → IsFlatTable v := by
  have hfirst := map_snd_findUnder? queryParamsSpellings root
  unfold queryParamsSpellings at hfirst
  simp only [checkQueryParams_eq_ok_iff, ← hfirst, isFlat_iff]
  unfold queryParamsSpellings
  cases findUnder? ["query_params", "queryparams", "query-params"] root with
  | none => simp
  | some entry =>
    rcases entry with ⟨key, v⟩
    simp only [reduceCtorEq, false_and, false_or, Option.some.injEq, Option.map_some, forall_eq']
    constructor
    · rintro ⟨queryParams, ⟨key', table, heq, rfl⟩, hflat⟩
      cases heq
      exact ⟨table, rfl, hflat⟩
    · rintro ⟨table, rfl, hflat⟩
      exact ⟨some table, ⟨key, table, rfl, rfl⟩, hflat⟩

theorem exists_mapValues_text_iff {table : Fields Value} {motive : String × String → Prop}
    : (∃ headers, table = Fields.mapValues .text headers ∧ ∀ header ∈ headers, motive header)
        ↔
      ∀ entry ∈ table, ∃ s, entry.2 = .text s ∧ motive (entry.1, s) := by
  simp only [← forall₂_text_iff, exists_forall₂_iff]
  apply forall₂_congr
  intro entry _
  constructor
  · rintro ⟨⟨name, s⟩, ⟨rfl, hs⟩, h⟩
    exact ⟨s, hs, h⟩
  · rintro ⟨s, hs, h⟩
    exact ⟨(entry.1, s), ⟨rfl, hs⟩, h⟩

theorem exists_checkHeaders_iff
    : (∃ headers, checkHeaders root = .ok headers)
        ↔
      ∀ v, Fields.get? "headers" root = some v → IsHeaders v := by
  simp only [checkHeaders_eq_ok_iff]
  cases hget : Fields.get? "headers" root with
  | none => simp
  | some v =>
    simp only [reduceCtorEq, false_and, false_or, Option.some.injEq, forall_eq']
    constructor
    · rintro ⟨headers, rfl, hheaders⟩
      refine ⟨_, rfl, ?_⟩
      intro entry hentry
      obtain ⟨s, hs, htoken, hvalue⟩ :=
        exists_mapValues_text_iff.mp ⟨headers, rfl, hheaders⟩ entry hentry
      exact ⟨htoken, s, hs, hvalue⟩
    · rintro ⟨table, rfl, htable⟩
      obtain ⟨headers, rfl, hheaders⟩ := exists_mapValues_text_iff
        (motive := fun header => isToken header.1 = true ∧ isFieldValue header.2.toList = true)
        |>.mpr fun entry hentry => by
          rcases htable entry hentry with ⟨htoken, s, hs, hvalue⟩
          exact ⟨s, hs, htoken, hvalue⟩
      exact ⟨headers, rfl, hheaders⟩

theorem exists_checkOptionalTable_iff {key : String}
    : (∃ table, checkOptionalTable key root = .ok table)
        ↔
      ∀ v, Fields.get? key root = some v → IsTable v := by
  simp only [checkOptionalTable_eq_ok_iff]
  cases Fields.get? key root with
  | none => simp
  | some v => simp [IsTable]

structure Body.All (p : Value → Prop) (body : Body) : Prop where
  formUrlencoded : ∀ entry ∈ body.formUrlencoded.getD [], p entry.2
  formData : ∀ entry ∈ body.formData.getD [], ∀ v, entry.2.text = some v → p v

def Body.IsFlat (body : Body) : Prop :=
  body.All fun v => v.isFlat = true

theorem FormField.exists_reads_iff {v : Value}
    : (∃ field, Reads v field ∧ ∀ v, field.text = some v → v.isFlat = true) ↔ IsPart v := by
  constructor
  · rintro ⟨field, hreads, hflat⟩
    cases hreads with
    | text v => exact .text (isFlat_iff.mp (hflat v rfl))
    | file path => exact .file path
  · intro h
    cases h with
    | text hv =>
      refine ⟨_, .text _, ?_⟩
      rintro _ ⟨⟩
      exact isFlat_iff.mpr hv
    | file path => exact ⟨_, .file path, by simp⟩

theorem exists_formFields_iff {table : Fields Value}
    : (∃ fields : Fields FormField,
        List.Forall₂ (fun entry field => entry.1 = field.1 ∧ FormField.Reads entry.2 field.2)
          table fields
        ∧ ∀ field ∈ fields, ∀ v, field.2.text = some v → v.isFlat = true)
        ↔
      ∀ entry ∈ table, IsPart entry.2 := by
  rw [exists_forall₂_iff]
  apply forall₂_congr
  intro entry _
  rw [← FormField.exists_reads_iff]
  constructor
  · rintro ⟨⟨key, field⟩, ⟨rfl, hreads⟩, hflat⟩
    exact ⟨field, hreads, hflat⟩
  · rintro ⟨field, hreads, hflat⟩
    exact ⟨(entry.1, field), ⟨rfl, hreads⟩, hflat⟩

theorem Body.exists_reads_iff {table : Fields Value}
    : (∃ body, Reads table body ∧ body.IsFlat) ↔ IsBody (.table table) := by
  constructor
  · rintro ⟨body, hreads, hflat⟩
    cases hreads with
    | empty => exact .empty
    | raw hkey content => exact .content (by grind [rawSpellings]) content
    | binary hkey path => exact .content (by grind [binarySpellings]) path
    | formData hkey hfields =>
      exact .formData hkey (exists_formFields_iff.mp ⟨_, hfields, hflat.formData⟩)
    | formUrlencoded hkey fields =>
      exact .formUrlencoded hkey ⟨fields, rfl, fun entry hentry =>
        isFlat_iff.mp (hflat.formUrlencoded entry hentry)⟩
  · intro h
    cases h with
    | empty => exact ⟨_, .empty, by simp [Body.empty], by simp [Body.empty]⟩
    | @content key hkey s =>
      have hkinds : key ∈ rawSpellings ∨ key ∈ binarySpellings := List.mem_append.mp hkey
      cases hkinds with
      | inl hkey => exact ⟨_, .raw hkey s, by simp, by simp⟩
      | inr hkey => exact ⟨_, .binary hkey s, by simp, by simp⟩
    | formData hkey hfields =>
      rcases exists_formFields_iff.mpr hfields with ⟨fields, hreads, hflat⟩
      exact ⟨_, .formData hkey hreads, by simp, hflat⟩
    | formUrlencoded hkey hv =>
      rcases hv with ⟨fields, rfl, hflat⟩
      exact ⟨_, .formUrlencoded hkey fields, fun entry hentry => isFlat_iff.mpr (hflat entry hentry),
        by simp⟩

theorem exists_checkBody_iff (hroot : (Value.table root).IsToml)
    : (∃ body, checkBody root = .ok body ∧ body.IsFlat)
        ↔
      ∀ v, Fields.get? "body" root = some v → IsBody v := by
  simp only [checkBody_eq_ok_iff hroot]
  cases hget : Fields.get? "body" root with
  | none =>
    have hempty : Body.empty.IsFlat := ⟨by simp [Body.empty], by simp [Body.empty]⟩
    simpa using hempty
  | some v =>
    simp only [reduceCtorEq, false_and, false_or, Option.some.injEq, forall_eq']
    constructor
    · rintro ⟨body, ⟨table, rfl, hreads⟩, hflat⟩
      exact Body.exists_reads_iff.mp ⟨body, hreads, hflat⟩
    · intro h
      have htable : ∃ table, v = .table table := by
        cases h <;> exact ⟨_, rfl⟩
      rcases htable with ⟨table, rfl⟩
      rcases Body.exists_reads_iff.mpr h with ⟨body, hreads, hflat⟩
      exact ⟨body, ⟨table, rfl, hreads⟩, hflat⟩

theorem forall_flatSites_iff {d : Document} (p : Value → Prop)
    : (∀ site ∈ d.flatSites, p site.2)
        ↔
      (∀ entry ∈ d.queryParams.getD [], p entry.2) ∧ d.body.All p := by
  unfold flatSites
  simp only [List.forall_mem_append, List.forall_mem_map, and_assoc]
  apply and_congr_right
  intro _
  constructor
  · rintro ⟨hurlencoded, hdata⟩
    refine ⟨hurlencoded, ?_⟩
    intro entry hentry v hv
    exact hdata ("text of [body.form_data]", v) (List.mem_filterMap.mpr ⟨entry, hentry, by simp [hv]⟩)
  · rintro ⟨hurlencoded, hdata⟩
    refine ⟨hurlencoded, ?_⟩
    intro site hsite
    rcases List.mem_filterMap.mp hsite with ⟨entry, hentry, hsome⟩
    rcases Option.map_eq_some_iff.mp hsome with ⟨v, hv, rfl⟩
    exact hdata entry hentry v hv

theorem ofTable_eq_ok_iff {d : Document}
    : ofTable root = .ok d ↔ check root = .ok d ∧ d.checkTypes = .ok () := by
  unfold ofTable
  cases check root with
  | error problems => simp
  | ok found =>
    dsimp only
    rw [Except.ok.injEq]
    constructor
    · intro h
      split at h
      · cases h
      · next htypes =>
        cases h
        exact ⟨rfl, htypes⟩
    · rintro ⟨rfl, htypes⟩
      rw [htypes]

/--
A document is accepted if and only if it keeps to the grammar.
-/
theorem exists_ofTable_iff (hroot : (Value.table root).IsToml)
    : (∃ d, ofTable root = .ok d) ↔ IsRequestFile root := by
  simp only [ofTable_eq_ok_iff, checkTypes_eq_ok_iff, check_eq_ok_iff,
    forall_flatSites_iff fun v => v.isFlat = true]
  constructor
  · rintro ⟨d, ⟨hhttp, hquery, hheaders, hmetadata, hvars, hbody⟩, hflatQuery, hflatBody⟩
    exact ⟨exists_checkHttp_iff.mp ⟨_, hhttp⟩,
      exists_checkQueryParams_iff.mp ⟨_, hquery, hflatQuery⟩,
      exists_checkHeaders_iff.mp ⟨_, hheaders⟩, exists_checkOptionalTable_iff.mp ⟨_, hmetadata⟩,
      exists_checkOptionalTable_iff.mp ⟨_, hvars⟩,
      (exists_checkBody_iff hroot).mp ⟨_, hbody, hflatBody⟩⟩
  · intro h
    rcases exists_checkHttp_iff.mpr h.http with ⟨http, hhttp⟩
    rcases exists_checkQueryParams_iff.mpr h.queryParams with ⟨queryParams, hquery, hflatQuery⟩
    rcases exists_checkHeaders_iff.mpr h.headers with ⟨headers, hheaders⟩
    rcases exists_checkOptionalTable_iff.mpr h.metadata with ⟨metadata, hmetadata⟩
    rcases exists_checkOptionalTable_iff.mpr h.vars with ⟨vars, hvars⟩
    rcases (exists_checkBody_iff hroot).mpr h.body with ⟨body, hbody, hflatBody⟩
    exact ⟨⟨http, queryParams, headers, metadata, vars, body⟩,
      ⟨hhttp, hquery, hheaders, hmetadata, hvars, hbody⟩, hflatQuery, hflatBody⟩

theorem exists_ofTable_twoSpellings
    : IsRequestFile
        [("http", .table [("url", .text "u")]), ("query-params", .array [.array []]),
          ("queryparams", .table [("q", .array [.integer 1, .boolean true])]),
          ("body", .table [("file", .text "f")])] := by
  refine (exists_ofTable_iff ?_).mp ⟨_, rfl⟩
  apply Value.IsToml.table (by decide)
  simp only [List.forall_mem_cons]
  refine ⟨.table (by decide) ?_, .array ?_, .table (by decide) ?_, .table (by decide) ?_, by simp⟩
  · simpa using .text _
  · simpa using .array (by simp)
  · simp only [List.forall_mem_cons]
    refine ⟨.array ?_, by simp⟩
    simpa using ⟨.integer _, .boolean _⟩
  · simpa using .text _

end Document

end RequestFile
