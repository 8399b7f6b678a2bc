import RequestFile.Proofs.Document.Acceptance

/-!
This module contains what is true of the requests that documents become. Keys are distinct in a
document, so each query parameter and each form field of its request is the only one with its key.
What has been checked of a document holds of its request: the method and the names of headers are
tokens, the values of headers are visible text, and the parts stand as they do in the document.
-/

namespace RequestFile

def Body.formKeys : Body → List String
  | formData fields => Fields.keys fields
  | formUrlencoded fields => Fields.keys fields
  | _ => []

structure Request.HasDistinctKeys (r : Request) : Prop where
  queryParams : (Fields.keys r.queryParams).Nodup
  form : r.body.formKeys.Nodup

/--
A request that can be sent: nothing in its first line or its headers is more than one token, version
or line of visible text, and no key stands twice.
-/
structure Request.IsWellFormed (r : Request) : Prop extends r.HasDistinctKeys where
  method : Grammar.isToken r.method = true ∧ ∀ c ∈ r.method.toList, c.isLower = false
  httpVersion : r.httpVersion ∈ ["HTTP/0.9", "HTTP/1.0", "HTTP/1.1", "HTTP/2", "HTTP/3"]
  headerNames : ∀ h ∈ r.headers, Grammar.isToken (String.ofList h.nameText) = true
  headerValues : ∀ h ∈ r.headers, Grammar.isFieldValue h.valueText = true

structure Outline where
  method : String
  httpVersion : String
  headerNames : List (List Char)
  queryKeys : List String
  bodyKind : String
  formKeys : List String
  deriving DecidableEq, Repr

def Request.outline (r : Request) : Outline where
  method := r.method
  httpVersion := r.httpVersion
  headerNames := r.headers.map Header.nameText
  queryKeys := Fields.keys r.queryParams
  bodyKind := r.body.kind
  formKeys := r.body.formKeys

def Document.outline (d : Document) : Outline where
  method := d.http.method
  httpVersion := d.http.version.text
  headerNames := (Fields.keys d.headers).map String.toList
  queryKeys := Fields.keys (d.queryParams.getD [])
  bodyKind := d.body.present.head?.getD "none"
  formKeys := Fields.keys (d.body.formData.getD []) ++ Fields.keys (d.body.formUrlencoded.getD [])

theorem Request.IsWellFormed.of_outline_eq {r r' : Request} (h : r.IsWellFormed)
    (houtline : r'.outline = r.outline)
    (hvalues : ∀ h ∈ r'.headers, Grammar.isFieldValue h.valueText = true) : r'.IsWellFormed := by
  simp only [outline, Outline.mk.injEq] at houtline
  rcases houtline with ⟨hmethod, hversion, hnames, hquery, _, hform⟩
  constructor
  · exact ⟨hquery ▸ h.queryParams, hform ▸ h.form⟩
  · rw [hmethod]
    exact h.method
  · rw [hversion]
    exact h.httpVersion
  · intro header hheader
    have hname : header.nameText ∈ r.headers.map Header.nameText := by
      rw [← hnames]
      exact List.mem_map_of_mem hheader
    rcases List.mem_map.mp hname with ⟨other, hother, heq⟩
    rw [← heq]
    exact h.headerNames other hother
  · exact hvalues

namespace Document

variable {root : Fields Value} {d : Document}

theorem nodup_keys_queryParams (hroot : (Value.table root).IsToml)
    (h : checkQueryParams root = .ok d.queryParams)
    : (Fields.keys (d.queryParams.getD [])).Nodup := by
  rw [checkQueryParams_eq_ok_iff] at h
  rcases h with ⟨_, hnone⟩ | ⟨key, table, hentry, hsome⟩
  · simp [hnone]
  · rw [hsome]
    exact (hroot.of_get? (findUnder?_eq_some_iff hentry).2).keys

section

variable {ε : Type} {write : Value → Except ε String} {r : Request}

theorem flatText_eq_ok_iff {v : Value} {s : String}
    : flatText write v = .ok s
        ↔
      ∃ texts, List.Forall₂ (fun item text => write item = .ok text) v.items texts
        ∧ String.intercalate "," texts = s := by
  unfold flatText
  simp only [Except.bind_eq_ok_iff, mapM_eq_ok_iff, pure, Except.pure, Except.ok.injEq]

theorem FormField.toPart_text {v : Value} {part : FormPart}
    : (FormField.mk (some v) none).toPart write = .ok part
        ↔
      ∃ s, flatText write v = .ok s ∧ .text s = part := by
  simp [toPart, Except.bind_eq_ok_iff, pure, Except.pure]

theorem Body.toRequestBody_formData {fields : Fields FormField} {made : RequestFile.Body}
    : (Body.mk none none (some fields) none).toRequestBody write = .ok made
        ↔
      ∃ parts, Fields.mapValuesM (FormField.toPart write) fields = .ok parts
        ∧ .formData parts = made := by
  simp [toRequestBody, Except.bind_eq_ok_iff, pure, Except.pure]

theorem Body.toRequestBody_formUrlencoded {fields : Fields Value} {made : RequestFile.Body}
    : (Body.mk none none none (some fields)).toRequestBody write = .ok made
        ↔
      ∃ texts, flatTexts write fields = .ok texts ∧ .formUrlencoded texts = made := by
  simp [toRequestBody, Except.bind_eq_ok_iff, pure, Except.pure]

structure Makes (write : Value → Except ε String) (d : Document) (r : Request) : Prop where
  method : r.method = d.http.method
  url : r.url = d.http.url
  httpVersion : r.httpVersion = d.http.version.text
  metadata : r.metadata = d.metadata
  headers : r.headers = d.headers.map fun (name, value) => Header.ofText name value
  queryParams : flatTexts write (d.queryParams.getD []) = .ok r.queryParams
  vars : r.vars = d.vars
  body : d.body.toRequestBody write = .ok r.body

theorem toRequestWith_eq_ok_iff : d.toRequestWith write = .ok r ↔ Makes write d r := by
  unfold toRequestWith
  simp only [Except.bind_eq_ok_iff, pure, Except.pure, Except.ok.injEq]
  constructor
  · rintro ⟨queryParams, hquery, body, hbody, rfl⟩
    exact ⟨rfl, rfl, rfl, rfl, rfl, hquery, rfl, hbody⟩
  · rintro ⟨hmethod, hurl, hversion, hmetadata, hheaders, hquery, hvars, hbody⟩
    refine ⟨r.queryParams, hquery, r.body, hbody, ?_⟩
    rw [← hmethod, ← hurl, ← hversion, ← hmetadata, ← hheaders, ← hvars]

theorem toRequest_eq_ok_iff : d.toRequest = .ok r ↔ Makes Value.itemText d r :=
  toRequestWith_eq_ok_iff

theorem Body.kind_of_toRequestBody {table : Fields Value} {body : Body} (h : Reads table body)
    {made : RequestFile.Body} (hmade : body.toRequestBody write = .ok made)
    : made.kind = body.present.head?.getD "none" := by
  cases h with
  | formData hkey hfields =>
    obtain ⟨parts, _, rfl⟩ := toRequestBody_formData.mp hmade
    rfl
  | formUrlencoded hkey fields =>
    obtain ⟨texts, _, rfl⟩ := toRequestBody_formUrlencoded.mp hmade
    rfl
  | _ =>
    cases hmade
    rfl

theorem Body.formKeys_of_toRequestBody {table : Fields Value} {body : Body} (h : Reads table body)
    {made : RequestFile.Body} (hmade : body.toRequestBody write = .ok made)
    : made.formKeys
        =
      Fields.keys (body.formData.getD []) ++ Fields.keys (body.formUrlencoded.getD []) := by
  cases h with
  | formData hkey hfields =>
    obtain ⟨parts, hparts, rfl⟩ := toRequestBody_formData.mp hmade
    simp [RequestFile.Body.formKeys, Fields.keys_of_mapValuesM hparts]
  | formUrlencoded hkey fields =>
    obtain ⟨texts, htexts, rfl⟩ := toRequestBody_formUrlencoded.mp hmade
    simp [RequestFile.Body.formKeys, Fields.keys_of_mapValuesM htexts]
  | _ =>
    cases hmade
    rfl

end

theorem exists_reads_of_ofTable (hroot : (Value.table root).IsToml) (h : ofTable root = .ok d)
    : ∃ table, (Value.table table).IsToml ∧ Body.Reads table d.body := by
  rw [ofTable_eq_ok_iff, check_eq_ok_iff, checkBody_eq_ok_iff hroot] at h
  rcases h with ⟨⟨_, _, _, _, _, hbody⟩, _⟩
  rcases hbody with ⟨_, hempty⟩ | ⟨table, htable, hreads⟩
  -- A body that is left out is read as an empty table.
  · exact ⟨[], .table (by simp) (by simp), hempty ▸ .empty⟩
  · exact ⟨table, hroot.of_get? htable, hreads⟩

theorem Body.Reads.nodup_formKeys {table : Fields Value} {body : Body}
    (htable : (Value.table table).IsToml) (h : Reads table body)
    : (Fields.keys (body.formData.getD []) ++ Fields.keys (body.formUrlencoded.getD [])).Nodup := by
  cases h with
  | formData hkey hfields =>
    have hkeys := Fields.keys_eq_of_forall₂ (fun _ _ h => h.1) hfields
    simpa [hkeys] using (htable.of_mem (List.mem_singleton_self _)).keys
  | formUrlencoded hkey fields =>
    simpa using (htable.of_mem (List.mem_singleton_self _)).keys
  | _ => simp [Body.empty]

section

variable {r : Request}

theorem hasDistinctKeys_of_ofTable (hroot : (Value.table root).IsToml) (h : ofTable root = .ok d)
    (hr : d.toRequest = .ok r) : r.HasDistinctKeys := by
  obtain ⟨table, htable, hreads⟩ := exists_reads_of_ofTable hroot h
  rw [ofTable_eq_ok_iff, check_eq_ok_iff] at h
  have hmakes := toRequest_eq_ok_iff.mp hr
  constructor
  · rw [Fields.keys_of_mapValuesM hmakes.queryParams]
    exact nodup_keys_queryParams hroot h.1.2.1
  · rw [Body.formKeys_of_toRequestBody hreads hmakes.body]
    exact hreads.nodup_formKeys htable

theorem exists_read_of_ofText {text : String} (h : ofText text = .ok d)
    : ∃ root, Toml.read text = .ok root ∧ ofTable root = .ok d := by
  unfold ofText at h
  split at h
  · cases h
  · cases h
  · next root hread => exact ⟨root, hread, h⟩

theorem exists_ofTable_of_ofText {text : String} (h : ofText text = .ok d)
    : ∃ root, (Value.table root).IsToml ∧ ofTable root = .ok d := by
  obtain ⟨root, hread, htable⟩ := exists_read_of_ofText h
  exact ⟨root, Toml.isToml_of_read hread, htable⟩

theorem exists_toRequest_of_test (text : String) (test : Request → Bool)
    (h : (ofText text).toOption.any (fun d => d.toRequest.toOption.any test) = true)
    : ∃ d r, ofText text = .ok d ∧ d.toRequest = .ok r ∧ test r = true := by
  obtain ⟨d, hdocument, hrequest⟩ := Except.exists_of_test _ _ h
  obtain ⟨r, hr, htest⟩ := Except.exists_of_test _ _ hrequest
  exact ⟨d, r, hdocument, hr, htest⟩

theorem hasDistinctKeys_of_ofText {text : String} (h : ofText text = .ok d)
    (hr : d.toRequest = .ok r) : r.HasDistinctKeys := by
  rcases exists_ofTable_of_ofText h with ⟨root, hroot, htable⟩
  exact hasDistinctKeys_of_ofTable hroot htable hr

theorem Http.Reads.isToken_method {table : Fields Value} {http : Http} (h : Reads table http)
    : Grammar.isToken http.method = true ∧ ∀ c ∈ http.method.toList, c.isLower = false := by
  rcases h.method with ⟨_, hmethod⟩ | ⟨s, _, htoken, hmethod⟩
  · rw [hmethod]
    exact ⟨by decide, by simp⟩
  · rw [hmethod, String.toList_ofList]
    refine ⟨Grammar.isToken_toUpper htoken, ?_⟩
    intro c hc
    rcases List.mem_map.mp hc with ⟨c, _, rfl⟩
    exact Grammar.isLower_toUpper c

theorem nameText_ofText {name : String} (h : Grammar.isToken name = true) (value : String)
    : (Header.ofText name value).nameText = name.toList :=
  Grammar.decode_encode_of_isToken h

theorem valueText_ofText (name : String) {value : String}
    (h : Grammar.isFieldValue value.toList = true)
    : (Header.ofText name value).valueText = value.toList :=
  Grammar.decode_encode_of_isFieldValue h

theorem isWellFormed_of_ofTable (hroot : (Value.table root).IsToml) (h : ofTable root = .ok d)
    (hr : d.toRequest = .ok r) : r.IsWellFormed := by
  have hkeys := hasDistinctKeys_of_ofTable hroot h hr
  have hmakes := toRequest_eq_ok_iff.mp hr
  rw [ofTable_eq_ok_iff, check_eq_ok_iff, Http.check_eq_ok_iff, checkHeaders_eq_ok_iff] at h
  rcases h with ⟨⟨⟨table, _, hhttp⟩, _, ⟨_, hheaders⟩, _⟩, _⟩
  refine ⟨hkeys, ?_, Grammar.mem_versions_iff.mpr ⟨_, hmakes.httpVersion.symm⟩, ?_, ?_⟩
  · rw [hmakes.method]
    exact hhttp.isToken_method
  · rw [hmakes.headers]
    intro header hheader
    rcases List.mem_map.mp hheader with ⟨entry, hentry, rfl⟩
    rw [nameText_ofText (hheaders entry hentry).1, String.ofList_toList]
    exact (hheaders entry hentry).1
  · rw [hmakes.headers]
    intro header hheader
    rcases List.mem_map.mp hheader with ⟨entry, hentry, rfl⟩
    rw [valueText_ofText _ (hheaders entry hentry).2]
    exact (hheaders entry hentry).2

theorem isFlat_of_ofTable (h : ofTable root = .ok d)
    : (∀ entry ∈ d.queryParams.getD [], entry.2.isFlat = true) ∧ d.body.IsFlat := by
  rw [ofTable_eq_ok_iff, checkTypes_eq_ok_iff] at h
  exact (forall_flatSites_iff fun v => v.isFlat = true).mp h.2

theorem outline_toRequest_of_ofTable (hroot : (Value.table root).IsToml) (h : ofTable root = .ok d)
    (hr : d.toRequest = .ok r) : r.outline = d.outline := by
  rcases exists_reads_of_ofTable hroot h with ⟨table, _, hreads⟩
  have hmakes := toRequest_eq_ok_iff.mp hr
  rw [ofTable_eq_ok_iff, check_eq_ok_iff, checkHeaders_eq_ok_iff] at h
  rcases h with ⟨⟨_, _, ⟨_, hheaders⟩, _⟩, _⟩
  have hnames : r.headers.map Header.nameText = (Fields.keys d.headers).map String.toList := by
    rw [hmakes.headers, Fields.keys, List.map_map, List.map_map]
    apply List.map_congr_left
    intro entry hentry
    exact nameText_ofText (hheaders entry hentry).1 entry.2
  rw [Request.outline, outline, Outline.mk.injEq]
  exact ⟨hmakes.method, hmakes.httpVersion, hnames, Fields.keys_of_mapValuesM hmakes.queryParams,
    Body.kind_of_toRequestBody hreads hmakes.body,
    Body.formKeys_of_toRequestBody hreads hmakes.body⟩

end

end Document

end RequestFile
