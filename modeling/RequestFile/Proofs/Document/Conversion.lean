import RequestFile.Proofs.Document.Requests

/-!
This module contains which request a document spells, and that the conversion makes this request of it.
Everything that becomes text on the way has been checked: the conversion writes primitive values only,
however other values would be written.
-/

namespace RequestFile.Document

open Relator (RightUnique)

inductive SpellsText : Value → String → Prop where
  | primitive {v : Value} {s : String} (hv : v.primitiveText? = some s) : SpellsText v s
  | array {items : List Value} {texts : List String}
    (hitems : List.Forall₂ (fun item s => item.primitiveText? = some s) items texts)
    : SpellsText (.array items) (String.intercalate "," texts)

def SpellsEntries {α : Type} (R : Value → α → Prop) : Fields Value → Fields α → Prop :=
  List.Forall₂ fun entry field => entry.1 = field.1 ∧ R entry.2 field.2

inductive SpellsPart : Value → FormPart → Prop where
  | text {v : Value} {s : String} (hv : SpellsText v s) : SpellsPart (.table [("text", v)]) (.text s)
  | file (path : String) : SpellsPart (.table [("file", .text path)]) (.file path)

inductive SpellsTable : Option Value → Fields Value → Prop where
  | absent : SpellsTable none []
  | given (table : Fields Value) : SpellsTable (some (.table table)) table

def SpellsHeader (entry : String × Value) (header : Header) : Prop :=
  header.nameText = entry.1.toList ∧ entry.2 = .text (String.ofList header.valueText)

inductive SpellsBody : Option Value → RequestFile.Body → Prop where
  | absent : SpellsBody none .empty
  | empty : SpellsBody (some (.table [])) .empty
  | raw {key : String} (hkey : key ∈ ["raw", "text"]) (content : String)
    : SpellsBody (some (.table [(key, .text content)])) (.raw content RequestFile.Body.rawMime)
  | binary {key : String} (hkey : key ∈ ["binary", "file"]) (path : String)
    : SpellsBody (some (.table [(key, .text path)])) (.binary path RequestFile.Body.binaryMime)
  | formData {key : String}
    (hkey : key ∈ ["form_data", "form-data", "multipart_form_data", "multipart-form-data"])
    {table : Fields Value} {fields : Fields FormPart}
    (hfields : SpellsEntries SpellsPart table fields)
    : SpellsBody (some (.table [(key, .table table)])) (.formData fields)
  | formUrlencoded {key : String}
    (hkey : key ∈ ["form_urlencoded", "form-urlencoded", "x-www-form-urlencoded"])
    {table : Fields Value} {fields : Fields String}
    (hfields : SpellsEntries SpellsText table fields)
    : SpellsBody (some (.table [(key, .table table)])) (.formUrlencoded fields)

/--
The request that a root table spells. Of the spellings of the query parameters the first one that is
there counts.
-/
structure Spells (root : Fields Value) (r : Request) : Prop where
  http : ∃ table version, Fields.get? "http" root = some (.table table)
    ∧ Http.Reads table ⟨r.url, r.method, version⟩ ∧ r.httpVersion = version.text
  queryParams : ∃ table,
    SpellsTable (["query_params", "queryparams", "query-params"].findSome? fun key =>
      Fields.get? key root) table
    ∧ SpellsEntries SpellsText table r.queryParams
  headers : ∃ table, SpellsTable (Fields.get? "headers" root) table
    ∧ List.Forall₂ SpellsHeader table r.headers
  metadata : SpellsTable (Fields.get? "metadata" root) r.metadata
  vars : SpellsTable (Fields.get? "variables" root) r.vars
  body : SpellsBody (Fields.get? "body" root) r.body

theorem rightUnique_spellsTable : RightUnique SpellsTable := by
  intro v table table' h h'
  cases h <;> cases h' <;> rfl

theorem rightUnique_spellsHeader : RightUnique SpellsHeader := by
  rintro entry ⟨name, value⟩ ⟨name', value'⟩ ⟨hname, hvalue⟩ ⟨hname', hvalue'⟩
  have hnames : name = name' := Text.Latin1.decode_injective (hname.trans hname'.symm)
  have htexts := hvalue.symm.trans hvalue'
  simp only [Value.text.injEq, String.ofList_inj] at htexts
  have hvalues : value = value' := Text.Latin1.decode_injective htexts
  rw [hnames, hvalues]

theorem text_version_injective : Function.Injective HttpVersion.text := by
  have hread (version : HttpVersion) : HttpVersion.ofText? version.text = some version := by
    cases version <;> rfl
  intro version version' h
  exact Option.some.inj ((hread version).symm.trans (h ▸ hread version'))

theorem Http.rightUnique_reads : RightUnique Http.Reads := by
  intro table http http' h h'
  have hurl : http.url = http'.url := by
    simpa using h.url.symm.trans h'.url
  have hmethod : http.method = http'.method := by
    rcases h.method with ⟨hnone, hdefault⟩ | ⟨s, hs, _, hupper⟩
    · rcases h'.method with ⟨_, hdefault'⟩ | ⟨s', hs', _⟩
      · rw [hdefault, hdefault']
      · cases hnone.symm.trans hs'
    · rcases h'.method with ⟨hnone', _⟩ | ⟨s', hs', _, hupper'⟩
      · cases hs.symm.trans hnone'
      · cases hs.symm.trans hs'
        rw [hupper, hupper']
  have hversion : http.version = http'.version := by
    rcases h.version with ⟨hnone, hdefault⟩ | hs
    · rcases h'.version with ⟨_, hdefault'⟩ | hs'
      · rw [hdefault, hdefault']
      · cases hnone.symm.trans hs'
    · rcases h'.version with ⟨hnone', _⟩ | hs'
      · cases hs.symm.trans hnone'
      · have htext : http.version.text = http'.version.text := by
          simpa using hs.symm.trans hs'
        exact text_version_injective htext
  rcases http with ⟨url, method, version⟩
  rcases http' with ⟨url', method', version'⟩
  subst hurl hmethod hversion
  rfl

theorem SpellsBody.eq_empty_iff {v : Option Value} {body : RequestFile.Body} (h : SpellsBody v body)
    : body = .empty ↔ v = none ∨ v = some (.table []) := by
  cases h <;> simp

variable {d : Document} {root : Fields Value} {r : Request}

theorem SpellsText.iff_of_isPrimitive {v : Value} {s : String} (h : v.isPrimitive = true)
    : SpellsText v s ↔ v.itemText = .ok s := by
  constructor
  · intro hv
    cases hv with
    | primitive hv => exact (Value.primitiveText?_eq_some_iff.mp hv).2
    | array => cases h
  · exact fun hv => .primitive (Value.primitiveText?_eq_some_iff.mpr ⟨h, hv⟩)

theorem flatText_itemText_iff {v : Value} {s : String} (h : v.isFlat = true)
    : flatText Value.itemText v = .ok s ↔ SpellsText v s := by
  rw [flatText_eq_ok_iff]
  cases Grammar.isFlat_iff.mp h with
  | primitive hv =>
    rw [SpellsText.iff_of_isPrimitive (Grammar.isPrimitive_iff.mpr hv), Grammar.items_eq_singleton hv]
    constructor
    · rintro ⟨texts, htexts, rfl⟩
      obtain ⟨text, rest, htext, hrest, rfl⟩ := List.forall₂_cons_left_iff.mp htexts
      rw [List.forall₂_nil_left_iff.mp hrest, String.intercalate_singleton]
      exact htext
    · intro hs
      exact ⟨[s], .cons hs .nil, String.intercalate_singleton⟩
  | @array items hitems =>
    have hwritten (texts : List String)
        : List.Forall₂ (fun item text => item.itemText = .ok text) items texts
          ↔ List.Forall₂ (fun item s => item.primitiveText? = some s) items texts := by
      apply forall₂_congr_of_mem
      intro item hitem text
      rw [Value.primitiveText?_eq_some_iff]
      exact (and_iff_right (Grammar.isPrimitive_iff.mpr (hitems item hitem))).symm
    simp only [Value.items, hwritten]
    constructor
    · rintro ⟨texts, htexts, rfl⟩
      exact .array htexts
    · intro hv
      cases hv with
      | primitive hv => cases hv
      | array htexts => exact ⟨_, htexts, rfl⟩

theorem flatTexts_itemText_iff {table : Fields Value} {texts : Fields String}
    (hflat : ∀ entry ∈ table, entry.2.isFlat = true)
    : flatTexts Value.itemText table = .ok texts ↔ SpellsEntries SpellsText table texts := by
  rw [flatTexts, Fields.mapValuesM_eq_ok_iff]
  apply forall₂_congr_of_mem
  intro entry hentry field
  rw [flatText_itemText_iff (hflat entry hentry)]

theorem spellsPart_text_iff {v : Value} {part : FormPart}
    : SpellsPart (.table [("text", v)]) part ↔ ∃ s, SpellsText v s ∧ .text s = part := by
  constructor
  · intro h
    generalize hraw : Value.table [("text", v)] = raw at h
    cases h with
    | text hv =>
      simp only [Value.table.injEq, List.cons.injEq, Prod.mk.injEq, true_and, and_true] at hraw
      exact ⟨_, hraw ▸ hv, rfl⟩
    | file => simp at hraw
  · rintro ⟨s, hv, rfl⟩
    exact .text hv

theorem spellsPart_file_iff {path : String} {part : FormPart}
    : SpellsPart (.table [("file", .text path)]) part ↔ .file path = part := by
  constructor
  · intro h
    generalize hraw : Value.table [("file", .text path)] = raw at h
    cases h with
    | text => simp at hraw
    | file =>
      simp only [Value.table.injEq, List.cons.injEq, Prod.mk.injEq, true_and, and_true,
        Value.text.injEq] at hraw
      rw [hraw]
  · rintro rfl
    exact .file path

theorem FormField.Reads.toPart_iff {raw : Value} {field : FormField} {part : FormPart}
    (hreads : Reads raw field) (hflat : ∀ v, field.text = some v → v.isFlat = true)
    : field.toPart Value.itemText = .ok part ↔ SpellsPart raw part := by
  cases hreads with
  | text v => simp only [toPart_text, spellsPart_text_iff, flatText_itemText_iff (hflat v rfl)]
  | file path => simp [toPart, spellsPart_file_iff]

theorem mapValuesM_toPart_iff {table : Fields Value} {fields : Fields FormField}
    {parts : Fields FormPart}
    (hreads : List.Forall₂ (fun entry field => entry.1 = field.1 ∧ FormField.Reads entry.2 field.2)
      table fields)
    (hflat : ∀ entry ∈ fields, ∀ v, entry.2.text = some v → v.isFlat = true)
    : Fields.mapValuesM (FormField.toPart Value.itemText) fields = .ok parts
        ↔ SpellsEntries SpellsPart table parts := by
  rw [Fields.mapValuesM_eq_ok_iff, SpellsEntries]
  induction hreads generalizing parts with
  | nil => simp
  | cons hentry _ ih =>
    rw [List.forall_mem_cons] at hflat
    simp only [List.forall₂_cons_left_iff, ih hflat.2, hentry.1, hentry.2.toPart_iff hflat.1]

theorem Body.Reads.toRequestBody_iff {table : Fields Value} {body : Body} {made : RequestFile.Body}
    (hreads : Reads table body) (hflat : body.IsFlat)
    : body.toRequestBody Value.itemText = .ok made ↔ SpellsBody (some (.table table)) made := by
  -- No key belongs to two kinds of bodies, so a body is spelled in one way only.
  cases hreads with
  | empty =>
    constructor
    · rintro ⟨⟩
      exact .empty
    · rintro ⟨⟩
      rfl
  | raw hkey content =>
    constructor
    · rintro ⟨⟩
      exact .raw hkey content
    · intro h
      cases h with
      | raw => rfl
      | binary hkey' => grind [rawSpellings]
  | binary hkey path =>
    constructor
    · rintro ⟨⟩
      exact .binary hkey path
    · intro h
      cases h with
      | raw hkey' => grind [binarySpellings]
      | binary => rfl
  | formData hkey hfields =>
    simp only [toRequestBody_formData, mapValuesM_toPart_iff hfields hflat.formData]
    constructor
    · rintro ⟨parts, hparts, rfl⟩
      exact .formData hkey hparts
    · intro h
      cases h with
      | formData _ hparts => exact ⟨_, hparts, rfl⟩
      | formUrlencoded hkey' => grind [formDataSpellings]
  | formUrlencoded hkey fields =>
    rw [toRequestBody_formUrlencoded]
    constructor
    · rintro ⟨texts, htexts, rfl⟩
      exact .formUrlencoded hkey ((flatTexts_itemText_iff hflat.formUrlencoded).mp htexts)
    · intro h
      cases h with
      | formData hkey' => grind [formUrlencodedSpellings]
      | formUrlencoded _ htexts =>
        exact ⟨_, (flatTexts_itemText_iff hflat.formUrlencoded).mpr htexts, rfl⟩

theorem spellsBody_iff {body : Body} {made : RequestFile.Body} (hroot : (Value.table root).IsToml)
    (h : checkBody root = .ok body) (hflat : body.IsFlat)
    : body.toRequestBody Value.itemText = .ok made ↔ SpellsBody (Fields.get? "body" root) made := by
  rcases (checkBody_eq_ok_iff hroot).mp h with ⟨hnone, rfl⟩ | ⟨table, hsome, hreads⟩
  · rw [hnone]
    constructor
    · rintro ⟨⟩
      exact .absent
    · rintro ⟨⟩
      rfl
  · rw [hsome]
    exact hreads.toRequestBody_iff hflat

theorem spellsTable_of_checkOptionalTable {key : String} {table : Fields Value}
    (h : checkOptionalTable key root = .ok table) : SpellsTable (Fields.get? key root) table := by
  rcases checkOptionalTable_eq_ok_iff.mp h with ⟨hnone, rfl⟩ | hsome
  · rw [hnone]
    exact .absent
  · rw [hsome]
    exact .given table

theorem spellsTable_of_checkQueryParams {queryParams : Option (Fields Value)}
    (h : checkQueryParams root = .ok queryParams)
    : SpellsTable (["query_params", "queryparams", "query-params"].findSome? fun key =>
        Fields.get? key root) (queryParams.getD []) := by
  have hfirst := map_snd_findUnder? queryParamsSpellings root
  rw [queryParamsSpellings] at hfirst
  rw [← hfirst, ← queryParamsSpellings]
  rcases checkQueryParams_eq_ok_iff.mp h with ⟨hnone, rfl⟩ | ⟨key, table, hsome, rfl⟩
  · rw [hnone]
    exact .absent
  · rw [hsome]
    exact .given table

theorem spellsTable_of_checkHeaders {headers : Fields String} (h : checkHeaders root = .ok headers)
    : SpellsTable (Fields.get? "headers" root) (Fields.mapValues .text headers) := by
  rcases (checkHeaders_eq_ok_iff.mp h).1 with ⟨hnone, rfl⟩ | hsome
  · rw [hnone]
    exact .absent
  · rw [hsome]
    exact .given _

theorem spellsHeaders_of_checkHeaders {headers : Fields String}
    (h : checkHeaders root = .ok headers)
    : List.Forall₂ SpellsHeader (Fields.mapValues .text headers)
        (headers.map fun (name, value) => Header.ofText name value) := by
  simp only [Fields.mapValues, List.forall₂_map_left_iff, List.forall₂_map_right_iff,
    List.forall₂_same]
  intro header hheader
  obtain ⟨hname, hvalue⟩ := (checkHeaders_eq_ok_iff.mp h).2 header hheader
  refine ⟨nameText_ofText hname header.2, ?_⟩
  rw [valueText_ofText header.1 hvalue, String.ofList_toList]

theorem spells_of_makes (hroot : (Value.table root).IsToml) (h : ofTable root = .ok d)
    (hmakes : Makes Value.itemText d r) : Spells root r := by
  obtain ⟨hqueryFlat, hbodyFlat⟩ := isFlat_of_ofTable h
  obtain ⟨hhttp, hquery, hheaders, hmetadata, hvars, hbody⟩ :=
    check_eq_ok_iff.mp (ofTable_eq_ok_iff.mp h).1
  constructor
  · obtain ⟨table, htable, hreads⟩ := Http.check_eq_ok_iff.mp hhttp
    rw [hmakes.url, hmakes.method, hmakes.httpVersion]
    exact ⟨table, d.http.version, htable, hreads, rfl⟩
  · exact ⟨_, spellsTable_of_checkQueryParams hquery,
      (flatTexts_itemText_iff hqueryFlat).mp hmakes.queryParams⟩
  · rw [hmakes.headers]
    exact ⟨_, spellsTable_of_checkHeaders hheaders, spellsHeaders_of_checkHeaders hheaders⟩
  · rw [hmakes.metadata]
    exact spellsTable_of_checkOptionalTable hmetadata
  · rw [hmakes.vars]
    exact spellsTable_of_checkOptionalTable hvars
  · exact (spellsBody_iff hroot hbody hbodyFlat).mp hmakes.body

theorem makes_of_spells (hroot : (Value.table root).IsToml) (h : ofTable root = .ok d)
    (hspells : Spells root r) : Makes Value.itemText d r := by
  obtain ⟨hqueryFlat, hbodyFlat⟩ := isFlat_of_ofTable h
  obtain ⟨hhttp, hquery, hheaders, hmetadata, hvars, hbody⟩ :=
    check_eq_ok_iff.mp (ofTable_eq_ok_iff.mp h).1
  -- Each part of the root table is read in one way, so what is spelled there is what was read.
  obtain ⟨table, version, htable, hreads, hversion⟩ := hspells.http
  obtain ⟨table', htable', hreads'⟩ := Http.check_eq_ok_iff.mp hhttp
  cases htable.symm.trans htable'
  have hhttp := Http.rightUnique_reads hreads' hreads
  constructor
  · rw [hhttp]
  · rw [hhttp]
  · rw [hversion, hhttp]
  · exact rightUnique_spellsTable hspells.metadata (spellsTable_of_checkOptionalTable hmetadata)
  · obtain ⟨headers, hgiven, hentries⟩ := hspells.headers
    cases rightUnique_spellsTable hgiven (spellsTable_of_checkHeaders hheaders)
    exact rightUnique_spellsHeader.forall₂ hentries (spellsHeaders_of_checkHeaders hheaders)
  · obtain ⟨query, hgiven, hentries⟩ := hspells.queryParams
    cases rightUnique_spellsTable hgiven (spellsTable_of_checkQueryParams hquery)
    exact (flatTexts_itemText_iff hqueryFlat).mpr hentries
  · exact rightUnique_spellsTable hspells.vars (spellsTable_of_checkOptionalTable hvars)
  · exact (spellsBody_iff hroot hbody hbodyFlat).mpr hspells.body

def IsWritable (v : Value) : Prop :=
  ∀ n, .integer n ∈ v.items → n.natAbs < Nat.pow 10 Decimal.maxDigits

theorem exists_itemText_iff {v : Value} (h : v.isPrimitive = true)
    : (∃ s, v.itemText = .ok s) ↔ ∀ n, .integer n = v → n.natAbs < Nat.pow 10 Decimal.maxDigits := by
  cases v with
  | integer n => simp [Value.itemText, Value.literal, Decimal.exists_integerText_iff]
  | text | float | boolean => simp [Value.itemText, Value.literal]
  | _ => cases h

theorem exists_flatText_iff {v : Value} (h : v.isFlat = true)
    : (∃ s, flatText Value.itemText v = .ok s) ↔ IsWritable v := by
  have hwritten : (∃ s, flatText Value.itemText v = .ok s)
      ↔ ∃ texts, v.items.mapM Value.itemText = .ok texts := by
    simp [flatText, Except.bind_eq_ok_iff, pure, Except.pure]
  rw [hwritten, exists_mapM_iff]
  constructor
  · intro hitems n hn
    exact (exists_itemText_iff (List.all_eq_true.mp h _ hn)).mp (hitems _ hn) n rfl
  · intro hitems item hitem
    rw [exists_itemText_iff (List.all_eq_true.mp h item hitem)]
    rintro n rfl
    exact hitems n hitem

theorem exists_flatTexts_iff {table : Fields Value} (hflat : ∀ entry ∈ table, entry.2.isFlat = true)
    : (∃ texts, flatTexts Value.itemText table = .ok texts) ↔ ∀ entry ∈ table, IsWritable entry.2 := by
  rw [flatTexts, Fields.exists_mapValuesM_iff]
  apply forall₂_congr
  intro entry hentry
  exact exists_flatText_iff (hflat entry hentry)

theorem FormField.Reads.exists_toPart_iff {raw : Value} {field : FormField}
    (hreads : Reads raw field) (hflat : ∀ v, field.text = some v → v.isFlat = true)
    : (∃ part, field.toPart Value.itemText = .ok part) ↔ ∀ v, field.text = some v → IsWritable v := by
  cases hreads with
  | text v => simpa [toPart_text] using exists_flatText_iff (hflat v rfl)
  | file path => simp [toPart]

theorem exists_parts_iff {table : Fields Value} {fields : Fields FormField}
    (hreads : List.Forall₂ (fun entry field => entry.1 = field.1 ∧ FormField.Reads entry.2 field.2)
      table fields)
    (hflat : ∀ entry ∈ fields, ∀ v, entry.2.text = some v → v.isFlat = true)
    : (∃ parts, Fields.mapValuesM (FormField.toPart Value.itemText) fields = .ok parts)
        ↔ ∀ entry ∈ fields, ∀ v, entry.2.text = some v → IsWritable v := by
  rw [Fields.exists_mapValuesM_iff]
  apply forall₂_congr
  intro entry hentry
  obtain ⟨raw, _, _, hraw⟩ := exists_left_of_forall₂ hreads hentry
  exact hraw.exists_toPart_iff (hflat entry hentry)

theorem Body.Reads.exists_toRequestBody_iff {table : Fields Value} {body : Body}
    (hreads : Reads table body) (hflat : body.IsFlat)
    : (∃ made, body.toRequestBody Value.itemText = .ok made) ↔ body.All IsWritable := by
  cases hreads with
  | formData hkey hfields =>
    have hparts := exists_parts_iff hfields hflat.formData
    constructor
    · rintro ⟨made, hmade⟩
      obtain ⟨parts, hmapped, _⟩ := toRequestBody_formData.mp hmade
      exact ⟨by simp, hparts.mp ⟨parts, hmapped⟩⟩
    · intro h
      obtain ⟨parts, hmapped⟩ := hparts.mpr h.formData
      exact ⟨_, toRequestBody_formData.mpr ⟨parts, hmapped, rfl⟩⟩
  | formUrlencoded hkey fields =>
    have htexts := exists_flatTexts_iff hflat.formUrlencoded
    constructor
    · rintro ⟨made, hmade⟩
      obtain ⟨texts, hmapped, _⟩ := toRequestBody_formUrlencoded.mp hmade
      exact ⟨htexts.mp ⟨texts, hmapped⟩, by simp⟩
    · intro h
      obtain ⟨texts, hmapped⟩ := htexts.mpr h.formUrlencoded
      exact ⟨_, toRequestBody_formUrlencoded.mpr ⟨texts, hmapped, rfl⟩⟩
  | _ => exact ⟨fun _ => ⟨by simp [Body.empty], by simp [Body.empty]⟩, fun _ => ⟨_, rfl⟩⟩

theorem exists_toRequest_iff (hroot : (Value.table root).IsToml) (h : ofTable root = .ok d)
    : (∃ r, d.toRequest = .ok r) ↔ ∀ site ∈ d.flatSites, IsWritable site.2 := by
  obtain ⟨hqueryFlat, hbodyFlat⟩ := isFlat_of_ofTable h
  obtain ⟨table, _, hreads⟩ := exists_reads_of_ofTable hroot h
  rw [forall_flatSites_iff IsWritable, ← exists_flatTexts_iff hqueryFlat,
    ← hreads.exists_toRequestBody_iff hbodyFlat]
  constructor
  · rintro ⟨r, hr⟩
    have hmakes := toRequest_eq_ok_iff.mp hr
    exact ⟨⟨_, hmakes.queryParams⟩, ⟨_, hmakes.body⟩⟩
  · rintro ⟨⟨queryParams, hquery⟩, ⟨body, hbody⟩⟩
    rw [toRequest, toRequestWith, hquery, hbody]
    exact ⟨_, rfl⟩

section Writers

variable {write : Value → Except Decimal.Overlong String}

theorem flatText_congr (hwrite : ∀ v, v.isPrimitive = true → write v = v.itemText) {v : Value}
    (h : v.isFlat = true) : flatText write v = flatText Value.itemText v := by
  rw [flatText, flatText]
  congr 1
  apply mapM_congr
  intro item hitem
  exact hwrite item (List.all_eq_true.mp h item hitem)

theorem FormField.Reads.toPart_congr (hwrite : ∀ v, v.isPrimitive = true → write v = v.itemText)
    {raw : Value} {field : FormField} (hreads : Reads raw field)
    (hflat : ∀ v, field.text = some v → v.isFlat = true)
    : field.toPart write = field.toPart Value.itemText := by
  cases hreads with
  | text v =>
    have htext := flatText_congr hwrite (hflat v rfl)
    simp only [toPart, Option.getD_some, htext]
  | file path => rfl

theorem Body.Reads.toRequestBody_congr (hwrite : ∀ v, v.isPrimitive = true → write v = v.itemText)
    {table : Fields Value} {body : Body} (hreads : Reads table body) (hflat : body.IsFlat)
    : body.toRequestBody write = body.toRequestBody Value.itemText := by
  cases hreads with
  | formData hkey hfields =>
    unfold toRequestBody
    dsimp only
    congr 1
    apply Fields.mapValuesM_congr
    intro entry hentry
    obtain ⟨raw, _, _, hraw⟩ := exists_left_of_forall₂ hfields hentry
    exact hraw.toPart_congr hwrite (hflat.formData entry hentry)
  | formUrlencoded hkey fields =>
    unfold toRequestBody
    dsimp only
    congr 1
    apply Fields.mapValuesM_congr
    exact fun entry hentry => flatText_congr hwrite (hflat.formUrlencoded entry hentry)
  | _ => rfl

theorem toRequestWith_congr (hwrite : ∀ v, v.isPrimitive = true → write v = v.itemText)
    (hroot : (Value.table root).IsToml) (h : ofTable root = .ok d)
    : d.toRequestWith write = d.toRequest := by
  obtain ⟨hqueryFlat, hbodyFlat⟩ := isFlat_of_ofTable h
  obtain ⟨table, _, hreads⟩ := exists_reads_of_ofTable hroot h
  have hquery : flatTexts write (d.queryParams.getD [])
      = flatTexts Value.itemText (d.queryParams.getD []) :=
    Fields.mapValuesM_congr fun entry hentry => flatText_congr hwrite (hqueryFlat entry hentry)
  rw [toRequest, toRequestWith, toRequestWith, hquery, hreads.toRequestBody_congr hwrite hbodyFlat]

end Writers

/--
An accepted document becomes the request that it spells, and no other one. It becomes one if and only if
no integer that becomes text has too many digits to be written. Each key of the query stands once. The
body is empty if and only if its table is left out or has no entries. What the document becomes does not
depend on how values are written that are not primitive, so none of them is ever made into text.
-/
theorem conversion_faithful {text : String} (h : ofText text = .ok d)
    : ∃ root, Toml.read text = .ok root
        ∧ (∀ r, d.toRequest = .ok r ↔ Spells root r)
        ∧ ((∃ r, d.toRequest = .ok r) ↔ ∀ site ∈ d.flatSites, IsWritable site.2)
        ∧ (∀ r, d.toRequest = .ok r →
          (Fields.keys r.queryParams).Nodup
            ∧ (r.body = .empty
              ↔ Fields.get? "body" root = none ∨ Fields.get? "body" root = some (.table [])))
        ∧ ∀ write : Value → Except Decimal.Overlong String,
          (∀ v, v.isPrimitive = true → write v = v.itemText) → d.toRequestWith write = d.toRequest := by
  obtain ⟨root, hread, htable⟩ := exists_read_of_ofText h
  have hroot := Toml.isToml_of_read hread
  have hspells (r : Request) : d.toRequest = .ok r ↔ Spells root r :=
    ⟨fun hr => spells_of_makes hroot htable (toRequest_eq_ok_iff.mp hr),
      fun hspells => toRequest_eq_ok_iff.mpr (makes_of_spells hroot htable hspells)⟩
  refine ⟨root, hread, hspells, exists_toRequest_iff hroot htable, ?_, ?_⟩
  · intro r hr
    exact ⟨(hasDistinctKeys_of_ofText h hr).queryParams, ((hspells r).mp hr).body.eq_empty_iff⟩
  · exact fun write hwrite => toRequestWith_congr hwrite hroot htable

theorem conversion_faithful_blank
    : let text := "[http]\nurl = 'u'\n[query-params]\nb = [1, true]\na = ''\n[body]\ntext = ''"
      ∃ d root r, ofText text = .ok d ∧ Toml.read text = .ok root ∧ d.toRequest = .ok r
        ∧ Spells root r
        ∧ r.queryParams = [("b", "1,true"), ("a", "")]
        ∧ r.body = .raw "" RequestFile.Body.rawMime
        ∧ Fields.get? "body" root ≠ some (.table [])
        ∧ d.toRequestWith (fun v => if v.isPrimitive then v.itemText else .ok "never")
          = d.toRequest := by
  intro text
  obtain ⟨d, r, hdocument, hr, htest⟩ := exists_toRequest_of_test text
    (fun r => decide (r.queryParams = [("b", "1,true"), ("a", "")]
      ∧ r.body = .raw "" RequestFile.Body.rawMime))
    (by decide +kernel)
  obtain ⟨hquery, hbody⟩ := of_decide_eq_true htest
  obtain ⟨root, hread, hspells, _, hfacts, hwrite⟩ := conversion_faithful hdocument
  refine ⟨d, root, r, hdocument, hread, hr, (hspells r).mp hr, hquery, hbody, ?_, ?_⟩
  · intro htable
    have hnone := (hfacts r hr).2.mpr (.inr htable)
    rw [hbody] at hnone
    cases hnone
  · apply hwrite
    intro v hv
    rw [if_pos hv]

theorem conversion_overlong
    : let text := "http.url = 'u'\nquery_params.a = 0x" ++ String.ofList (List.replicate 3572 'f')
      ∃ d, ofText text = .ok d ∧ d.toRequest = .error ⟨⟩ := by
  intro text
  have htext : text.toList
      = "http.url = 'u'\nquery_params.a = 0x".toList ++ List.replicate 3572 'f' := by
    simp only [text, String.toList_append, String.toList_ofList]
  obtain ⟨root, hread, hroot⟩ := Except.exists_of_test
    ((Toml.assembly (Text.joinLineEnds
      ("http.url = 'u'\nquery_params.a = 0x".toList ++ List.replicate 3572 'f'))).map
        fun a => Toml.Node.toEntries a.entries)
    (fun root => (ofTable root).toOption.any fun d => d.toRequest.toOption.isNone)
    (by decide +kernel)
  obtain ⟨d, hdocument, hnone⟩ := Except.exists_of_test _ _ hroot
  refine ⟨d, ?_, ?_⟩
  · rw [ofText, Toml.read, htext, hread]
    exact hdocument
  · cases hr : d.toRequest with
    | error e => rfl
    | ok r => simp [hr, Except.toOption] at hnone

end RequestFile.Document
