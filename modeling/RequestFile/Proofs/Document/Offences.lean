import RequestFile.Proofs.Document.Requests

/-!
This module contains which documents of the right structure are refused for a type, and what is said of
them: the first value that has to become text and cannot, and the first part of it that cannot. No
other value of the document has a say in this.
-/

namespace RequestFile

namespace Grammar

inductive HasInvalidType : Value → String → Prop where
  | dateTime (t : DateTime) : HasInvalidType (.dateTime t) "datetime"
  | date (d : Date) : HasInvalidType (.date d) "datetime"
  | time (t : TimeOfDay) : HasInvalidType (.time t) "datetime"
  | array (items : List Value) : HasInvalidType (.array items) "array"
  | table (entries : Fields Value) : HasInvalidType (.table entries) "table"

/--
The type for which a value is refused: that of the first item of an array that is not primitive, or
that of the value itself if it is no array.
-/
inductive Offends : Value → String → Prop where
  | itself {v : Value} {kind : String} (harray : ∀ items, v ≠ .array items)
    (hv : HasInvalidType v kind) : Offends v kind
  | item {before after : List Value} {item : Value} {kind : String}
    (hbefore : ∀ v ∈ before, IsPrimitive v) (hitem : HasInvalidType item kind)
    : Offends (.array (before ++ item :: after)) kind

inductive FirstOffence : List (String × Value) → Document.InvalidType → Prop where
  | here {field : String} {v : Value} {kind : String} {rest : List (String × Value)}
    (hv : Offends v kind) : FirstOffence ((field, v) :: rest) ⟨field, kind⟩
  | later {field : String} {v : Value} {rest : List (String × Value)} {e : Document.InvalidType}
    (hv : IsFlat v) (hrest : FirstOffence rest e) : FirstOffence ((field, v) :: rest) e

def entriesOf : Option Value → Fields Value
  | some (.table entries) => entries
  | _ => []

def entriesUnder (keys : List String) (table : Fields Value) : Fields Value :=
  entriesOf (keys.findSome? fun key => Fields.get? key table)

def partText? : Value → Option Value
  | .table entries => Fields.get? "text" entries
  | _ => none

def textSites (root : Fields Value) : List (String × Value) :=
  let body := entriesUnder ["body"] root
  (entriesUnder ["query_params", "queryparams", "query-params"] root).map
      (fun (_, v) => ("params of [query_params]", v))
    ++ (entriesUnder ["form_urlencoded", "form-urlencoded", "x-www-form-urlencoded"] body).map
      (fun (_, v) => ("fields of [body.form_urlencoded]", v))
    ++ (entriesUnder ["form_data", "form-data", "multipart_form_data", "multipart-form-data"]
      body).filterMap fun (_, field) => (partText? field).map fun v => ("text of [body.form_data]", v)

theorem isPrimitive_or_hasInvalidType {v : Value} (hv : v.IsToml)
    : IsPrimitive v ∨ HasInvalidType v v.kind := by
  cases hv with
  | text s => exact .inl (.text s)
  | integer n => exact .inl (.integer n)
  | float x => exact .inl (.float x)
  | boolean b => exact .inl (.boolean b)
  | dateTime t => exact .inr (.dateTime t)
  | date d => exact .inr (.date d)
  | time t => exact .inr (.time t)
  | array => exact .inr (.array _)
  | table => exact .inr (.table _)

theorem HasInvalidType.kind_eq {v : Value} {kind : String} (h : HasInvalidType v kind)
    : v.kind = kind := by
  cases h <;> rfl

theorem HasInvalidType.isPrimitive_eq {v : Value} {kind : String} (h : HasInvalidType v kind)
    : v.isPrimitive = false := by
  cases h <;> rfl

end Grammar

namespace Document

open Grammar

variable {root : Fields Value} {d : Document}

theorem offender?_eq_none_iff {v : Value} : offender? v = none ↔ IsFlat v := by
  rw [← isFlat_iff]
  simp [offender?, Value.isFlat]

theorem items_eq_of_ne_array {v : Value} (h : ∀ items, v ≠ .array items) : v.items = [v] := by
  cases v with
  | array items => exact absurd rfl (h items)
  | _ => rfl

theorem isToml_of_mem_items {v item : Value} (hv : v.IsToml) (hitem : item ∈ v.items)
    : item.IsToml := by
  cases v with
  | array items =>
    cases hv with
    | array hitems => exact hitems item hitem
  | _ =>
    rw [List.mem_singleton.mp hitem]
    exact hv

theorem offends_iff {v : Value} (hv : v.IsToml) {kind : String}
    : Offends v kind ↔ ∃ item, offender? v = some item ∧ item.kind = kind := by
  constructor
  · intro h
    cases h with
    | itself harray hkind =>
      refine ⟨v, ?_, hkind.kind_eq⟩
      cases hkind with
      | array items => exact absurd rfl (harray items)
      | _ => rfl
    | @item before after item _ hbefore hitem =>
      refine ⟨item, ?_, hitem.kind_eq⟩
      rw [offender?, Value.items, List.find?_eq_some_iff_append]
      refine ⟨by simp [hitem.isPrimitive_eq], before, after, rfl, ?_⟩
      intro earlier hearlier
      simp [isPrimitive_iff.mpr (hbefore earlier hearlier)]
  · rintro ⟨item, hoffender, rfl⟩
    rw [offender?, List.find?_eq_some_iff_append] at hoffender
    obtain ⟨hitem, before, after, hitems, hbefore⟩ := hoffender
    have hinvalid : HasInvalidType item item.kind := by
      refine (isPrimitive_or_hasInvalidType (isToml_of_mem_items hv ?_)).resolve_left ?_
      · simp [hitems]
      · rw [← isPrimitive_iff]
        simpa using hitem
    by_cases harray : ∃ items, v = .array items
    · obtain ⟨items, rfl⟩ := harray
      rw [Value.items] at hitems
      rw [hitems]
      refine .item ?_ hinvalid
      intro earlier hearlier
      simpa [isPrimitive_iff] using hbefore earlier hearlier
    · simp only [not_exists] at harray
      have hitself : item = v := by
        have hmem : item ∈ v.items := by simp [hitems]
        rw [items_eq_of_ne_array harray] at hmem
        exact List.mem_singleton.mp hmem
      rw [hitself] at hinvalid ⊢
      exact .itself harray hinvalid

theorem checkFlat_eq_error_iff {field : String} {v : Value} (hv : v.IsToml) {e : InvalidType}
    : checkFlat field v = .error e ↔ e.field = field ∧ Offends v e.kind := by
  rw [offends_iff hv, checkFlat]
  cases offender? v with
  | none => simp
  | some item =>
    rcases e with ⟨field', kind⟩
    simp [eq_comm]

theorem forM_checkFlat_eq_error_iff {sites : List (String × Value)}
    (hsites : ∀ site ∈ sites, site.2.IsToml) {e : InvalidType}
    : (sites.forM fun (field, v) => checkFlat field v) = .error e ↔ FirstOffence sites e := by
  induction sites with
  | nil =>
    constructor
    · intro h
      cases h
    · intro h
      cases h
  | cons site rest ih =>
    obtain ⟨field, v⟩ := site
    rw [List.forall_mem_cons] at hsites
    rw [List.forM_eq_forM, List.forM_cons, ← List.forM_eq_forM, Except.bind_eq_error_iff,
      checkFlat_eq_error_iff hsites.1, ih hsites.2]
    constructor
    · rintro (⟨rfl, hv⟩ | ⟨_, hflat, hrest⟩)
      · exact .here hv
      · exact .later (isFlat_iff.mp (checkFlat_eq_ok_iff.mp hflat)) hrest
    · intro h
      cases h with
      | here hv => exact .inl ⟨rfl, hv⟩
      | later hv hrest => exact .inr ⟨(), checkFlat_eq_ok_iff.mpr (isFlat_iff.mpr hv), hrest⟩

theorem entriesUnder_eq (keys : List String) (table : Fields Value)
    : entriesUnder keys table = entriesOf ((findUnder? keys table).map Prod.snd) := by
  rw [map_snd_findUnder?, entriesUnder]

theorem entriesUnder_singleton_of_mem {keys : List String} {key : String} (entries : Fields Value)
    (h : key ∈ keys) : entriesUnder keys [(key, .table entries)] = entries := by
  rw [entriesUnder_eq, findUnder?_singleton, if_pos h]
  rfl

theorem entriesUnder_singleton_of_not_mem {keys : List String} {key : String} (v : Value)
    (h : key ∉ keys) : entriesUnder keys [(key, v)] = [] := by
  rw [entriesUnder_eq, findUnder?_singleton, if_neg h]
  rfl

theorem getD_queryParams (h : checkQueryParams root = .ok d.queryParams)
    : d.queryParams.getD [] = entriesUnder queryParamsSpellings root := by
  rw [entriesUnder_eq]
  rcases checkQueryParams_eq_ok_iff.mp h with ⟨hnone, hqueryParams⟩ | ⟨key, table, hsome, hqueryParams⟩
  · rw [hnone, hqueryParams]
    rfl
  · rw [hsome, hqueryParams]
    rfl

theorem FormField.Reads.text_eq {v : Value} {field : FormField} (h : Reads v field)
    : field.text = partText? v := by
  cases h with
  | text v => rfl
  | file path => rfl

theorem filterMap_text_eq {table : Fields Value} {fields : Fields FormField} {α : Type}
    (f : Value → α)
    (h : List.Forall₂ (fun entry field => entry.1 = field.1 ∧ FormField.Reads entry.2 field.2)
      table fields)
    : fields.filterMap (fun (_, field) => field.text.map f)
        =
      table.filterMap fun (_, v) => (partText? v).map f := by
  induction h with
  | nil => rfl
  | cons hentry _ ih =>
    simp only [List.filterMap_cons, ih, hentry.2.text_eq]

theorem Body.Reads.getD_formUrlencoded {table : Fields Value} {body : Body} (h : Reads table body)
    : body.formUrlencoded.getD [] = entriesUnder formUrlencodedSpellings table := by
  cases h with
  | empty => rfl
  | raw hkey content =>
    exact (entriesUnder_singleton_of_not_mem _ (not_mem_of_mem_rawSpellings _ hkey).2.2).symm
  | binary hkey path =>
    exact (entriesUnder_singleton_of_not_mem _ (not_mem_of_mem_binarySpellings _ hkey).2.2).symm
  | formData hkey hfields =>
    exact (entriesUnder_singleton_of_not_mem _ (not_mem_of_mem_formDataSpellings _ hkey).2.2).symm
  | formUrlencoded hkey fields => exact (entriesUnder_singleton_of_mem fields hkey).symm

theorem Body.Reads.filterMap_formData {table : Fields Value} {body : Body} {α : Type}
    (f : Value → α) (h : Reads table body)
    : (body.formData.getD []).filterMap (fun (_, field) => field.text.map f)
        =
      (entriesUnder formDataSpellings table).filterMap fun (_, v) => (partText? v).map f := by
  cases h with
  | empty => rfl
  | raw hkey content =>
    rw [entriesUnder_singleton_of_not_mem _ (not_mem_of_mem_rawSpellings _ hkey).2.1]
    rfl
  | binary hkey path =>
    rw [entriesUnder_singleton_of_not_mem _ (not_mem_of_mem_binarySpellings _ hkey).2.1]
    rfl
  | formData hkey hfields =>
    rw [entriesUnder_singleton_of_mem _ hkey]
    exact filterMap_text_eq f hfields
  | formUrlencoded hkey fields =>
    rw [entriesUnder_singleton_of_not_mem _ (not_mem_of_mem_formUrlencodedSpellings _ hkey).2.2]
    rfl

theorem flatSites_eq_textSites (hroot : (Value.table root).IsToml) (h : check root = .ok d)
    : d.flatSites = textSites root := by
  obtain ⟨_, hquery, _, _, _, hbody⟩ := check_eq_ok_iff.mp h
  obtain ⟨table, htable, hreads⟩ : ∃ table, entriesUnder ["body"] root = table
      ∧ Body.Reads table d.body := by
    rcases (checkBody_eq_ok_iff hroot).mp hbody with ⟨hnone, hempty⟩ | ⟨table, hsome, hreads⟩
    · refine ⟨[], ?_, hempty ▸ .empty⟩
      simp [entriesUnder, entriesOf, hnone]
    · refine ⟨table, ?_, hreads⟩
      simp [entriesUnder, entriesOf, hsome]
  rw [flatSites, textSites, htable, getD_queryParams hquery, hreads.getD_formUrlencoded,
    hreads.filterMap_formData]
  rfl

theorem isToml_entriesUnder {table : Fields Value} (htable : (Value.table table).IsToml)
    (keys : List String) : (Value.table (entriesUnder keys table)).IsToml := by
  have hnil : (Value.table []).IsToml := .table (by simp) (by simp)
  rw [entriesUnder_eq]
  cases hfound : findUnder? keys table with
  | none => exact hnil
  | some entry =>
    obtain ⟨key, v⟩ := entry
    have hv := htable.of_get? (findUnder?_eq_some_iff hfound).2
    cases v with
    | table entries => exact hv
    | _ => exact hnil

theorem isToml_of_mem_textSites (hroot : (Value.table root).IsToml) {site : String × Value}
    (hsite : site ∈ textSites root) : site.2.IsToml := by
  have hbody := isToml_entriesUnder hroot ["body"]
  simp only [textSites, List.mem_append, List.mem_map, List.mem_filterMap] at hsite
  rcases hsite with (⟨entry, hentry, heq⟩ | ⟨entry, hentry, heq⟩) | ⟨entry, hentry, htext⟩
  · have hv := (isToml_entriesUnder hroot _).of_mem hentry
    rwa [← heq]
  · have hv := (isToml_entriesUnder hbody _).of_mem hentry
    rwa [← heq]
  · have hfield := (isToml_entriesUnder hbody _).of_mem hentry
    obtain ⟨v, hv, rfl⟩ := Option.map_eq_some_iff.mp htext
    cases hpart : entry.2 with
    | table entries =>
      rw [hpart] at hv hfield
      exact hfield.of_get? hv
    | _ =>
      rw [hpart] at hv
      cases hv

theorem ofText_eq_invalidType_iff {text : String} (hread : Toml.read text = .ok root)
    (h : check root = .ok d) {e : InvalidType}
    : ofText text = .error (.invalidType e) ↔ FirstOffence (textSites root) e := by
  have hroot := Toml.isToml_of_read hread
  have hsites := flatSites_eq_textSites hroot h
  rw [← forM_checkFlat_eq_error_iff (fun _ => isToml_of_mem_textSites hroot), ← hsites]
  unfold ofText ofTable checkTypes
  rw [hread]
  simp only [h]
  split
  · next e' heq => simp [heq]
  · next heq => simp [heq]

theorem exists_firstOffence_iff {sites : List (String × Value)}
    (hsites : ∀ site ∈ sites, site.2.IsToml)
    : (∃ e, FirstOffence sites e) ↔ ∃ site ∈ sites, ¬ IsFlat site.2 := by
  induction sites with
  | nil =>
    simp only [List.not_mem_nil, false_and, exists_false, iff_false, not_exists]
    intro e h
    cases h
  | cons site rest ih =>
    obtain ⟨field, v⟩ := site
    rw [List.forall_mem_cons] at hsites
    rw [List.exists_mem_cons_iff, ← ih hsites.2]
    constructor
    · rintro ⟨e, h⟩
      cases h with
      | here hv =>
        obtain ⟨item, hoffender, _⟩ := (offends_iff hsites.1).mp hv
        refine .inl fun hflat => ?_
        rw [offender?_eq_none_iff.mpr hflat] at hoffender
        cases hoffender
      | later _ hrest => exact .inr ⟨e, hrest⟩
    · intro h
      by_cases hflat : IsFlat v
      · obtain ⟨e, hrest⟩ := h.resolve_left (not_not_intro hflat)
        exact ⟨e, .later hflat hrest⟩
      · rw [← offender?_eq_none_iff, ← ne_eq, Option.ne_none_iff_exists'] at hflat
        obtain ⟨item, hitem⟩ := hflat
        exact ⟨⟨field, item.kind⟩, .here ((offends_iff hsites.1).mpr ⟨item, hitem, rfl⟩)⟩

/--
A document of the right structure is refused for a type if and only if a value that has to become text
is neither primitive nor an array of primitive values. The error names the first offence. Documents
that agree on these values get the same error, whatever else is in them.
-/
theorem first_offence {text : String} (hread : Toml.read text = .ok root)
    (h : check root = .ok d)
    : ((∃ e, ofText text = .error (.invalidType e)) ↔ ∃ site ∈ textSites root, ¬ IsFlat site.2)
      ∧ (∀ e, ofText text = .error (.invalidType e) ↔ FirstOffence (textSites root) e)
      ∧ ∀ text' root' d', Toml.read text' = .ok root' → check root' = .ok d' →
        textSites root' = textSites root →
        ∀ e, ofText text' = .error (.invalidType e) ↔ ofText text = .error (.invalidType e) := by
  have herror {e : InvalidType} := ofText_eq_invalidType_iff hread h (e := e)
  refine ⟨?_, fun e => herror, ?_⟩
  · simp only [herror]
    exact exists_firstOffence_iff fun _ => isToml_of_mem_textSites (Toml.isToml_of_read hread)
  · intro text' root' d' hread' h' hsites e
    rw [herror, ← hsites]
    exact ofText_eq_invalidType_iff hread' h'

def refusedType? : Except ParseError Document → Option InvalidType
  | .error (.invalidType e) => some e
  | _ => none

theorem refusedType?_eq_some_iff {x : Except ParseError Document} {e : InvalidType}
    : refusedType? x = some e ↔ x = .error (.invalidType e) := by
  unfold refusedType?
  split
  · simp
  · next hother => simpa using hother e

theorem exists_of_ofText_eq_invalidType {text : String} {e : InvalidType}
    (h : ofText text = .error (.invalidType e))
    : ∃ root d, Toml.read text = .ok root ∧ check root = .ok d := by
  unfold ofText ofTable at h
  cases hread : Toml.read text with
  | error fault => cases fault <;> simp [hread] at h
  | ok root =>
    cases hcheck : check root with
    | error problems => simp [hread, hcheck] at h
    | ok d => exact ⟨root, d, rfl, hcheck⟩

theorem first_offence_behind_file
    : let text := "query-params = \x7bq = [[]]\x7d\nqueryparams = \x7bq = [1, true]\x7d\n"
        ++ "metadata = \x7bat = 07:32:00\x7d\n[http]\nurl = 'u'\n[body.form-data]\n"
        ++ "a = \x7bfile = 'f'\x7d\nb = \x7btext = [1, [2], 07:32:00]\x7d\n"
      ∃ root d, Toml.read text = .ok root ∧ check root = .ok d
        ∧ FirstOffence (textSites root) ⟨"text of [body.form_data]", "array"⟩ := by
  intro text
  have hrefused : refusedType? (ofText text) = some ⟨"text of [body.form_data]", "array"⟩ := by
    decide +kernel
  have herror := refusedType?_eq_some_iff.mp hrefused
  obtain ⟨root, d, hread, hcheck⟩ := exists_of_ofText_eq_invalidType herror
  exact ⟨root, d, hread, hcheck, ((first_offence hread hcheck).2.1 _).mp herror⟩

end Document

end RequestFile
