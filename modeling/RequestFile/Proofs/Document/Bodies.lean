import RequestFile.Proofs.Document.Checks

/-!
This module contains which tables are accepted as bodies. Up to null values and repeated keys, which
no document has, these are the empty table and the tables with one entry of a known kind.
-/

namespace RequestFile.Document

theorem checkOptional_eq_ok_iff {α : Type} {path : List String}
    {check : List String → Value → Checked Problem α} {entry : Option (String × Value)}
    (hnull : ∀ key, entry ≠ some (key, .null)) {found : Option α}
    : checkOptional path check entry = .ok found
        ↔
      entry = none ∧ found = none
        ∨ ∃ key v x, entry = some (key, v) ∧ check (path ++ [key]) v = .ok x ∧ found = some x := by
  cases entry with
  | none => simpa [checkOptional] using eq_comm
  | some entry =>
    rcases entry with ⟨key, v⟩
    have hv : v ≠ .null := fun heq => hnull key (by rw [heq])
    unfold checkOptional
    split
    · next heq => simp at heq
    · next heq =>
      cases heq
      exact absurd rfl hv
    · next heq =>
      cases heq
      rw [Except.map_eq_ok_iff]
      constructor
      · rintro ⟨x, hx, rfl⟩
        exact .inr ⟨key, v, x, rfl, hx, rfl⟩
      · rintro (⟨h, _⟩ | ⟨key', v', x, heq, hx, rfl⟩)
        · cases h
        · cases heq
          exact ⟨x, hx, rfl⟩

theorem checkOptional_none_eq_ok_iff {α : Type} {path : List String}
    {check : List String → Value → Checked Problem α} {found : Option α}
    : checkOptional path check none = .ok found ↔ found = none := by
  rw [checkOptional_eq_ok_iff (by simp)]
  simp

theorem checkOptional_some_eq_ok_iff {α : Type} {path : List String}
    {check : List String → Value → Checked Problem α} {key : String} {v : Value}
    (hv : v ≠ .null) {found : Option α}
    : checkOptional path check (some (key, v)) = .ok found
        ↔
      ∃ x, check (path ++ [key]) v = .ok x ∧ found = some x := by
  rw [checkOptional_eq_ok_iff (by simpa using hv)]
  simp

namespace FormField

inductive Reads : Value → FormField → Prop where
  | text (v : Value) : Reads (.table [("text", v)]) ⟨some v, none⟩
  | file (path : String) : Reads (.table [("file", .text path)]) ⟨none, some path⟩

theorem check_text {path : List String} {v : Value} (hv : v ≠ .null)
    : check path (.table [("text", v)]) = .ok ⟨some v, none⟩ := by
  cases v <;> first | rfl | contradiction

theorem check_file (path : List String) (file : String)
    : check path (.table [("file", .text file)]) = .ok ⟨none, some file⟩ := rfl

theorem of_check_table {path : List String} {table : Fields Value} {field : FormField}
    (htable : (Value.table table).IsToml) (h : check path (.table table) = .ok field)
    : field.text = Fields.get? "text" table
        ∧ Fields.get? "file" table = field.file.map .text
        ∧ (∀ key ∈ Fields.keys table, key ∈ ["text", "file"])
        ∧ field.text.isSome ≠ field.file.isSome := by
  have hnull : ∀ key, (Fields.get? "file" table).map (fun v => ("file", v)) ≠ some (key, .null) := by
    intro key heq
    rw [Option.map_eq_some_iff] at heq
    rcases heq with ⟨v, hv, heq⟩
    cases heq
    exact (htable.of_get? hv).ne_null rfl
  rcases Except.bind_eq_ok_iff.mp h with ⟨_, heq, h⟩
  cases heq
  extract_lets text file at h
  have htext : text = Fields.get? "text" table := by
    unfold text
    split
    · next heq => rw [heq]
    · next heq => exact absurd rfl (htable.of_get? heq).ne_null
    · next heq => rw [heq]
  rcases Except.bind_eq_ok_iff.mp h with ⟨⟨file, _⟩, hboth, h⟩
  rw [Checked.both_eq_ok_iff, checkOptional_eq_ok_iff hnull, checkKnownKeys_eq_ok_iff] at hboth
  dsimp only at h
  split at h
  · simp at h
  · next hone =>
    cases h
    refine ⟨htext, ?_, hboth.2, hone⟩
    rcases hboth.1 with ⟨hnone, hfile⟩ | ⟨key, v, s, hsome, hs, hfile⟩ <;> dsimp only at hfile ⊢
    · rw [Option.map_eq_none_iff] at hnone
      rw [hnone, hfile]
      rfl
    · rw [Option.map_eq_some_iff] at hsome
      rcases hsome with ⟨v, hv, heq⟩
      cases heq
      rw [checkText_eq_ok_iff] at hs
      rw [hv, hs, hfile]
      rfl

theorem check_eq_ok_iff {path : List String} {v : Value} {field : FormField} (hv : v.IsToml)
    : check path v = .ok field ↔ Reads v field := by
  constructor
  · intro h
    rcases Except.bind_eq_ok_iff.mp h with ⟨table, htable, _⟩
    rw [checkTable_eq_ok_iff] at htable
    subst htable
    rcases of_check_table hv h with ⟨htext, hfile, hkeys, hone⟩
    rcases field with ⟨text, file⟩
    dsimp only at htext hfile hone
    cases text with
    | none =>
      cases file with
      | none => simp at hone
      | some path =>
        have hnone := Fields.get?_eq_none_iff.mp htext.symm
        have hsingle := Fields.eq_singleton_of_get? hv.keys hfile fun key hkey => by grind
        rw [hsingle]
        exact .file path
    | some v =>
      cases file with
      | some path => simp at hone
      | none =>
        have hnone := Fields.get?_eq_none_iff.mp hfile
        have hsingle := Fields.eq_singleton_of_get? hv.keys htext.symm fun key hkey => by grind
        rw [hsingle]
        exact .text v
  · intro h
    cases h with
    | text v => exact check_text (hv.of_mem (List.mem_singleton_self _)).ne_null
    | file file => exact check_file path file

end FormField

theorem findUnder?_eq_some_iff {spellings : List String} {table : Fields Value} {key : String}
    {v : Value} (h : findUnder? spellings table = some (key, v))
    : key ∈ spellings ∧ Fields.get? key table = some v := by
  rcases List.exists_of_findSome?_eq_some h with ⟨spelling, hspelling, hentry⟩
  rw [Option.map_eq_some_iff] at hentry
  rcases hentry with ⟨v', hv, heq⟩
  cases heq
  exact ⟨hspelling, hv⟩

theorem findUnder?_singleton (spellings : List String) (key : String) (v : Value)
    : findUnder? spellings [(key, v)] = if key ∈ spellings then some (key, v) else none := by
  unfold findUnder?
  induction spellings with
  | nil => rfl
  | cons spelling rest ih =>
    rw [List.findSome?_cons, ih]
    by_cases h : key = spelling
    · simp [Fields.get?, h]
    · simp [Fields.get?, h]

namespace Body

theorem checkFormData_eq_ok_iff {path : List String} {v : Value} {fields : Fields FormField}
    (hv : v.IsToml)
    : checkFormData path v = .ok fields
        ↔
      ∃ table, v = .table table
        ∧ List.Forall₂ (fun entry field => entry.1 = field.1 ∧ FormField.Reads entry.2 field.2)
          table fields := by
  unfold checkFormData
  rw [Except.bind_eq_ok_iff]
  apply exists_congr
  intro table
  rw [checkTable_eq_ok_iff]
  apply and_congr_right
  rintro rfl
  rw [checkEntries_eq_ok_iff]
  apply forall₂_congr_of_mem
  intro entry hentry field
  rw [FormField.check_eq_ok_iff (hv.of_mem hentry)]

def takenKeys (table : Fields Value) : List String :=
  [findUnder? rawSpellings table, findUnder? binarySpellings table, findUnder? formDataSpellings table,
    findUnder? formUrlencodedSpellings table].filterMap fun entry => entry.map Prod.fst

theorem check_table_eq_ok_iff {path : List String} {table : Fields Value} {body : Body}
    : check path (.table table) = .ok body
        ↔
      checkOptional path checkText (findUnder? rawSpellings table) = .ok body.raw
        ∧ checkOptional path checkText (findUnder? binarySpellings table) = .ok body.binary
        ∧ checkOptional path checkFormData (findUnder? formDataSpellings table) = .ok body.formData
        ∧ checkOptional path (fun path => checkTable path .notTable)
          (findUnder? formUrlencodedSpellings table) = .ok body.formUrlencoded
        ∧ (∀ key ∈ Fields.keys table, key ∈ takenKeys table)
        ∧ body.present.length ≤ 1 := by
  have hcheck : check path (.table table)
      = Checked.both (checkOptional path checkText (findUnder? rawSpellings table))
          (Checked.both (checkOptional path checkText (findUnder? binarySpellings table))
            (Checked.both (checkOptional path checkFormData (findUnder? formDataSpellings table))
              (Checked.both (checkOptional path (fun path => checkTable path .notTable)
                  (findUnder? formUrlencodedSpellings table))
                (checkKnownKeys path (takenKeys table) table)))) >>= fun read =>
        let body : Body := ⟨read.1, read.2.1, read.2.2.1, read.2.2.2.1⟩
        if body.present.length > 1 then fail path (.severalBodies body.present) else pure body := rfl
  rw [hcheck, Except.bind_eq_ok_iff]
  simp only [Checked.both_eq_ok_iff]
  constructor
  · rintro ⟨⟨raw, binary, formData, formUrlencoded, _⟩, hboth, h⟩
    rcases hboth with ⟨hraw, hbinary, hformData, hformUrlencoded, hkeys⟩
    dsimp only at h
    split at h
    · simp at h
    · next hlength =>
      cases h
      rw [checkKnownKeys_eq_ok_iff] at hkeys
      exact ⟨hraw, hbinary, hformData, hformUrlencoded, hkeys, Nat.le_of_not_lt hlength⟩
  · rintro ⟨hraw, hbinary, hformData, hformUrlencoded, hkeys, hlength⟩
    refine ⟨(body.raw, body.binary, body.formData, body.formUrlencoded, ()), ?_, ?_⟩
    · rw [checkKnownKeys_eq_ok_iff]
      exact ⟨hraw, hbinary, hformData, hformUrlencoded, hkeys⟩
    · exact if_neg (Nat.not_lt_of_le hlength)

inductive Reads : Fields Value → Body → Prop where
  | empty : Reads [] .empty
  | raw {key : String} (hkey : key ∈ rawSpellings) (content : String)
    : Reads [(key, .text content)] ⟨some content, none, none, none⟩
  | binary {key : String} (hkey : key ∈ binarySpellings) (path : String)
    : Reads [(key, .text path)] ⟨none, some path, none, none⟩
  | formData {key : String} (hkey : key ∈ formDataSpellings) {table : Fields Value}
    {fields : Fields FormField}
    (hfields : List.Forall₂ (fun entry field => entry.1 = field.1 ∧ FormField.Reads entry.2 field.2)
      table fields) : Reads [(key, .table table)] ⟨none, none, some fields, none⟩
  | formUrlencoded {key : String} (hkey : key ∈ formUrlencodedSpellings) (table : Fields Value)
    : Reads [(key, .table table)] ⟨none, none, none, some table⟩

theorem findUnder?_ne_null {table : Fields Value} (htable : (Value.table table).IsToml)
    (spellings : List String) : ∀ key, findUnder? spellings table ≠ some (key, .null) := by
  intro key heq
  exact (htable.of_get? (findUnder?_eq_some_iff heq).2).ne_null rfl

theorem length_le_of_check {path : List String} {table : Fields Value} {body : Body}
    (htable : (Value.table table).IsToml) (h : check path (.table table) = .ok body)
    : table.length ≤ 1 := by
  rcases check_table_eq_ok_iff.mp h with ⟨hraw, hbinary, hformData, hformUrlencoded, hkeys, hlength⟩
  have hnull := findUnder?_ne_null htable
  rw [checkOptional_eq_ok_iff (hnull _)] at hraw hbinary hformData hformUrlencoded
  have htaken : (takenKeys table).length = body.present.length := by
    rcases body with ⟨raw, binary, formData, formUrlencoded⟩
    unfold takenKeys present
    rcases hraw with ⟨h1, rfl⟩ | ⟨_, _, _, h1, _, rfl⟩ <;>
    rcases hbinary with ⟨h2, rfl⟩ | ⟨_, _, _, h2, _, rfl⟩ <;>
    rcases hformData with ⟨h3, rfl⟩ | ⟨_, _, _, h3, _, rfl⟩ <;>
    rcases hformUrlencoded with ⟨h4, rfl⟩ | ⟨_, _, _, h4, _, rfl⟩ <;>
    · rw [h1, h2, h3, h4]
      rfl
  -- All keys are taken, each by another kind, and no two kinds are there.
  have hsub : (Fields.keys table).length ≤ (takenKeys table).length :=
    htable.keys.length_le_of_subset hkeys
  rw [Fields.keys, List.length_map] at hsub
  omega

theorem check_nil_eq_ok_iff {path : List String} {body : Body}
    : check path (.table []) = .ok body ↔ body = .empty := by
  have hempty : check path (.table []) = .ok .empty := rfl
  rw [hempty, Except.ok.injEq, eq_comm]

theorem not_mem_of_mem_rawSpellings
    : ∀ key ∈ rawSpellings,
        key ∉ binarySpellings ∧ key ∉ formDataSpellings ∧ key ∉ formUrlencodedSpellings := by
  decide

theorem not_mem_of_mem_binarySpellings
    : ∀ key ∈ binarySpellings,
        key ∉ rawSpellings ∧ key ∉ formDataSpellings ∧ key ∉ formUrlencodedSpellings := by
  decide

theorem not_mem_of_mem_formDataSpellings
    : ∀ key ∈ formDataSpellings,
        key ∉ rawSpellings ∧ key ∉ binarySpellings ∧ key ∉ formUrlencodedSpellings := by
  decide

theorem not_mem_of_mem_formUrlencodedSpellings
    : ∀ key ∈ formUrlencodedSpellings,
        key ∉ rawSpellings ∧ key ∉ binarySpellings ∧ key ∉ formDataSpellings := by
  decide

theorem check_singleton_eq_ok_iff {path : List String} {key : String} {v : Value} {body : Body}
    (hv : v.IsToml) : check path (.table [(key, v)]) = .ok body ↔ Reads [(key, v)] body := by
  rcases body with ⟨raw, binary, formData, formUrlencoded⟩
  rw [check_table_eq_ok_iff]
  simp only [findUnder?_singleton, takenKeys, Fields.keys_cons, Fields.keys_nil]
  constructor
  · rintro ⟨hraw, hbinary, hformData, hformUrlencoded, hkeys, _⟩
    have hkey : key ∈ rawSpellings ∨ key ∈ binarySpellings ∨ key ∈ formDataSpellings
        ∨ key ∈ formUrlencodedSpellings := by
      by_contra hnone
      simp only [not_or] at hnone
      simp [hnone] at hkeys
    rcases hkey with h1 | h2 | h3 | h4
    · rcases not_mem_of_mem_rawSpellings key h1 with ⟨h2, h3, h4⟩
      rw [if_pos h1, checkOptional_some_eq_ok_iff hv.ne_null] at hraw
      rw [if_neg h2, checkOptional_none_eq_ok_iff] at hbinary
      rw [if_neg h3, checkOptional_none_eq_ok_iff] at hformData
      rw [if_neg h4, checkOptional_none_eq_ok_iff] at hformUrlencoded
      rcases hraw with ⟨content, hcontent, rfl⟩
      rw [checkText_eq_ok_iff] at hcontent
      subst hbinary hformData hformUrlencoded hcontent
      exact .raw h1 content
    · rcases not_mem_of_mem_binarySpellings key h2 with ⟨h1, h3, h4⟩
      rw [if_neg h1, checkOptional_none_eq_ok_iff] at hraw
      rw [if_pos h2, checkOptional_some_eq_ok_iff hv.ne_null] at hbinary
      rw [if_neg h3, checkOptional_none_eq_ok_iff] at hformData
      rw [if_neg h4, checkOptional_none_eq_ok_iff] at hformUrlencoded
      rcases hbinary with ⟨file, hfile, rfl⟩
      rw [checkText_eq_ok_iff] at hfile
      subst hraw hformData hformUrlencoded hfile
      exact .binary h2 file
    · rcases not_mem_of_mem_formDataSpellings key h3 with ⟨h1, h2, h4⟩
      rw [if_neg h1, checkOptional_none_eq_ok_iff] at hraw
      rw [if_neg h2, checkOptional_none_eq_ok_iff] at hbinary
      rw [if_pos h3, checkOptional_some_eq_ok_iff hv.ne_null] at hformData
      rw [if_neg h4, checkOptional_none_eq_ok_iff] at hformUrlencoded
      rcases hformData with ⟨fields, hcheck, rfl⟩
      rcases (checkFormData_eq_ok_iff hv).mp hcheck with ⟨table, rfl, hfields⟩
      subst hraw hbinary hformUrlencoded
      exact .formData h3 hfields
    · rcases not_mem_of_mem_formUrlencodedSpellings key h4 with ⟨h1, h2, h3⟩
      rw [if_neg h1, checkOptional_none_eq_ok_iff] at hraw
      rw [if_neg h2, checkOptional_none_eq_ok_iff] at hbinary
      rw [if_neg h3, checkOptional_none_eq_ok_iff] at hformData
      rw [if_pos h4, checkOptional_some_eq_ok_iff hv.ne_null] at hformUrlencoded
      rcases hformUrlencoded with ⟨table, htable, rfl⟩
      rw [checkTable_eq_ok_iff] at htable
      subst hraw hbinary hformData htable
      exact .formUrlencoded h4 table
  · intro h
    cases h with
    | raw hkey content =>
      rcases not_mem_of_mem_rawSpellings key hkey with ⟨h2, h3, h4⟩
      rw [if_pos hkey, if_neg h2, if_neg h3, if_neg h4]
      exact ⟨rfl, rfl, rfl, rfl, by simp, Nat.le_refl 1⟩
    | binary hkey file =>
      rcases not_mem_of_mem_binarySpellings key hkey with ⟨h1, h3, h4⟩
      rw [if_neg h1, if_pos hkey, if_neg h3, if_neg h4]
      exact ⟨rfl, rfl, rfl, rfl, by simp, Nat.le_refl 1⟩
    | formData hkey hfields =>
      rcases not_mem_of_mem_formDataSpellings key hkey with ⟨h1, h2, h4⟩
      rw [if_neg h1, if_neg h2, if_pos hkey, if_neg h4]
      refine ⟨rfl, rfl, ?_, rfl, by simp, Nat.le_refl 1⟩
      rw [checkOptional_some_eq_ok_iff hv.ne_null]
      exact ⟨_, (checkFormData_eq_ok_iff hv).mpr ⟨_, rfl, hfields⟩, rfl⟩
    | formUrlencoded hkey =>
      rcases not_mem_of_mem_formUrlencodedSpellings key hkey with ⟨h1, h2, h3⟩
      rw [if_neg h1, if_neg h2, if_neg h3, if_pos hkey]
      exact ⟨rfl, rfl, rfl, rfl, by simp, Nat.le_refl 1⟩

theorem check_eq_ok_iff {path : List String} {v : Value} {body : Body} (hv : v.IsToml)
    : check path v = .ok body ↔ ∃ table, v = .table table ∧ Reads table body := by
  constructor
  · intro h
    rcases Except.bind_eq_ok_iff.mp h with ⟨table, htable, _⟩
    rw [checkTable_eq_ok_iff] at htable
    subst htable
    refine ⟨table, rfl, ?_⟩
    have hlength := length_le_of_check hv h
    match table with
    | [] =>
      rw [check_nil_eq_ok_iff] at h
      rw [h]
      exact .empty
    | [(key, content)] =>
      exact (check_singleton_eq_ok_iff (hv.of_mem (List.mem_singleton_self _))).mp h
    | _ :: _ :: _ => simp at hlength
  · rintro ⟨table, rfl, h⟩
    match table with
    | [] =>
      cases h
      rfl
    | [(key, content)] =>
      exact (check_singleton_eq_ok_iff (hv.of_mem (List.mem_singleton_self _))).mpr h
    | _ :: _ :: _ => cases h

end Body

theorem checkBody_eq_ok_iff {root : Fields Value} {body : Body} (hroot : (Value.table root).IsToml)
    : checkBody root = .ok body
        ↔
      Fields.get? "body" root = none ∧ body = .empty
        ∨ ∃ table, Fields.get? "body" root = some (.table table) ∧ Body.Reads table body := by
  unfold checkBody
  cases hbody : Fields.get? "body" root with
  | none => simpa using eq_comm
  | some v => simp [Body.check_eq_ok_iff (hroot.of_get? hbody)]

end RequestFile.Document
