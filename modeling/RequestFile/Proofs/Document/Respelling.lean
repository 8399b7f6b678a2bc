import Mathlib.Data.List.Find
import RequestFile.Proofs.Document.Problems

/-!
This module contains that the spelling of a key does not matter. A document in which every part has one
spelling is read in the same way under any other spellings, and if it is refused then for the same
reasons, which are reported under the new spellings.
-/

namespace RequestFile.Document

def respell (choices : List (List String × String)) (key : String) : String :=
  ((choices.find? fun choice => key ∈ choice.1).map Prod.snd).getD key

structure Respelling where
  queryParams : String
  raw : String
  binary : String
  formData : String
  formUrlencoded : String
  queryParams_mem : queryParams ∈ queryParamsSpellings
  raw_mem : raw ∈ Body.rawSpellings
  binary_mem : binary ∈ Body.binarySpellings
  formData_mem : formData ∈ Body.formDataSpellings
  formUrlencoded_mem : formUrlencoded ∈ Body.formUrlencodedSpellings

namespace Respelling

variable (σ : Respelling)

def rootChoices : List (List String × String) :=
  [(queryParamsSpellings, σ.queryParams)]

def bodyChoices : List (List String × String) :=
  [(Body.rawSpellings, σ.raw), (Body.binarySpellings, σ.binary),
    (Body.formDataSpellings, σ.formData), (Body.formUrlencodedSpellings, σ.formUrlencoded)]

def rootKey (key : String) : String :=
  respell σ.rootChoices key

def bodyKey (key : String) : String :=
  respell σ.bodyChoices key

def bodyEntry (entry : String × Value) : String × Value :=
  (σ.bodyKey entry.1, entry.2)

def body : Value → Value
  | .table entries => .table (entries.map σ.bodyEntry)
  | v => v

def rootEntry (entry : String × Value) : String × Value :=
  (σ.rootKey entry.1, if entry.1 = "body" then σ.body entry.2 else entry.2)

def table (root : Fields Value) : Fields Value :=
  root.map σ.rootEntry

def path : List String → List String
  | [] => []
  | [key] => [σ.rootKey key]
  | key :: inner :: rest =>
    σ.rootKey key :: (if key = "body" then σ.bodyKey inner else inner) :: rest

def problem (p : Problem) : Problem :=
  ⟨σ.path p.path, p.cause⟩

def error : ParseError → ParseError
  | .illFormed problems => .illFormed (problems.map σ.problem)
  | e => e

end Respelling

def IsSpeltOnce (spellings : List String) (table : Fields Value) : Prop :=
  ∀ key ∈ Fields.keys table, ∀ key' ∈ Fields.keys table,
    key ∈ spellings → key' ∈ spellings → key = key'

structure IsUnambiguous (root : Fields Value) : Prop where
  queryParams : IsSpeltOnce queryParamsSpellings root
  body : ∀ table, Fields.get? "body" root = some (.table table) →
    ∀ spellings ∈ bodySpellings.map Prod.snd, IsSpeltOnce spellings table

structure IsChoice (choices : List (List String × String)) : Prop where
  mem : ∀ choice ∈ choices, choice.2 ∈ choice.1
  disjoint : ∀ choice ∈ choices, ∀ choice' ∈ choices, ∀ key, key ∈ choice.1 → key ∈ choice'.1 →
    choice = choice'

section

variable {choices : List (List String × String)} {choice : List String × String} {key : String}

theorem respell_of_not_mem (hkey : ∀ choice ∈ choices, key ∉ choice.1)
    : respell choices key = key := by
  have hfind : choices.find? (fun choice => key ∈ choice.1) = none := by
    rw [List.find?_eq_none]
    simpa using hkey
  rw [respell, hfind]
  rfl

namespace IsChoice

theorem respell_of_mem (h : IsChoice choices) (hchoice : choice ∈ choices) (hkey : key ∈ choice.1)
    : respell choices key = choice.2 := by
  unfold respell
  cases hfind : choices.find? fun choice => key ∈ choice.1 with
  | none =>
    rw [List.find?_eq_none] at hfind
    exact absurd hkey (by simpa using hfind choice hchoice)
  | some found =>
    have hfound : key ∈ found.1 := by simpa using List.find?_some hfind
    rw [h.disjoint found (List.mem_of_find?_eq_some hfind) choice hchoice key hfound hkey]
    rfl

theorem respell_mem_iff (h : IsChoice choices) (hchoice : choice ∈ choices)
    : respell choices key ∈ choice.1 ↔ key ∈ choice.1 := by
  by_cases hkey : ∃ other ∈ choices, key ∈ other.1
  · obtain ⟨other, hother, hmem⟩ := hkey
    rw [h.respell_of_mem hother hmem]
    constructor
    · intro hspelling
      rw [← h.disjoint other hother choice hchoice other.2 (h.mem other hother) hspelling]
      exact hmem
    · intro hspelling
      rw [h.disjoint other hother choice hchoice key hmem hspelling]
      exact h.mem choice hchoice
  · rw [respell_of_not_mem]
    simpa using hkey

end IsChoice

end

theorem Respelling.isChoice_rootChoices (σ : Respelling) : IsChoice σ.rootChoices := by
  constructor
  · simpa [rootChoices] using σ.queryParams_mem
  · simp [rootChoices]

theorem Respelling.isChoice_bodyChoices (σ : Respelling) : IsChoice σ.bodyChoices := by
  constructor
  · simp [bodyChoices, σ.raw_mem, σ.binary_mem, σ.formData_mem, σ.formUrlencoded_mem]
  · intro choice hchoice choice' hchoice' key hkey hkey'
    have hraw := Body.not_mem_of_mem_rawSpellings key
    have hbinary := Body.not_mem_of_mem_binarySpellings key
    have hformData := Body.not_mem_of_mem_formDataSpellings key
    simp only [bodyChoices, List.mem_cons, List.not_mem_nil, or_false] at hchoice hchoice'
    -- Four times the two choices are of one part; in all other cases a spelling would be shared.
    obtain rfl | rfl | rfl | rfl := hchoice <;> obtain rfl | rfl | rfl | rfl := hchoice' <;>
      first
      | rfl
      | tauto

section

variable {α β : Type} {g : List String → List String} {path path' : List String}

def relocate (g : List String → List String) (c : Checked Problem α) : Checked Problem α :=
  c.mapError (List.map fun p => ⟨g p.path, p.cause⟩)

@[simp]
theorem relocate_ok (x : α) : relocate g (.ok x) = .ok x := rfl

@[simp]
theorem relocate_error (problems : List Problem)
    : relocate g (.error problems : Checked Problem α)
        = .error (problems.map fun p => ⟨g p.path, p.cause⟩) := rfl

@[simp]
theorem relocate_fail (cause : Cause)
    : relocate g (fail path cause : Checked Problem α) = fail (g path) cause := rfl

theorem map_relocate {c c' : Checked Problem α} (f : α → β) (h : c' = relocate g c)
    : Except.map f c' = relocate g (Except.map f c) := by
  subst h
  cases c <;> rfl

theorem both_relocate {a a' : Checked Problem α} {b b' : Checked Problem β}
    (ha : a' = relocate g a) (hb : b' = relocate g b)
    : Checked.both a' b' = relocate g (Checked.both a b) := by
  subst ha hb
  cases a <;> cases b <;> simp [Checked.both]

theorem bind_relocate {c c' : Checked Problem α} {f f' : α → Checked Problem β}
    (h : c' = relocate g c) (hf : ∀ x, c = .ok x → f' x = relocate g (f x))
    : c' >>= f' = relocate g (c >>= f) := by
  subst h
  cases c with
  | ok x => exact hf x rfl
  | error problems => rfl

theorem relocate_eq_self {c : Checked Problem α} (h : ∀ p ∈ c.problems, g p.path = p.path)
    : relocate g c = c := by
  cases c with
  | ok x => rfl
  | error problems =>
    have hsame : problems.map (fun p => (⟨g p.path, p.cause⟩ : Problem)) = problems := by
      refine (List.map_congr_left ?_).trans (List.map_id problems)
      intro p hp
      rw [h p hp]
      rfl
    rw [relocate_error, hsame]

theorem checkText_relocate (v : Value) : checkText (g path) v = relocate g (checkText path v) := by
  cases v <;> rfl

theorem checkTable_relocate (cause : Cause) (v : Value)
    : checkTable (g path) cause v = relocate g (checkTable path cause v) := by
  cases v <;> rfl

theorem checkEntries_relocate {check check' : String → Value → Checked Problem α}
    (h : ∀ key v, check' key v = relocate g (check key v)) (table : Fields Value)
    : checkEntries check' table = relocate g (checkEntries check table) := by
  unfold checkEntries
  induction table with
  | nil => rfl
  | cons entry rest ih =>
    obtain ⟨key, v⟩ := entry
    exact map_relocate _ (both_relocate (map_relocate _ (h key v)) ih)

theorem checkOptional_some {check : List String → Value → Checked Problem α} {key : String}
    {v : Value} (hv : v ≠ .null)
    : checkOptional path check (some (key, v)) = (check (path ++ [key]) v).map some := by
  cases v <;> first | rfl | contradiction

theorem checkOptional_relocate {check check' : List String → Value → Checked Problem α}
    {rename : String → String} {entry entry' : Option (String × Value)}
    (hentry : entry' = entry.map fun entry => (rename entry.1, entry.2))
    (h : ∀ key v, entry = some (key, v) →
      check' (path' ++ [rename key]) v = relocate g (check (path ++ [key]) v))
    : checkOptional path' check' entry' = relocate g (checkOptional path check entry) := by
  subst hentry
  cases entry with
  | none => rfl
  | some entry =>
    obtain ⟨key, v⟩ := entry
    by_cases hv : v = .null
    · rw [hv]
      rfl
    · rw [Option.map_some, checkOptional_some hv, checkOptional_some hv]
      exact map_relocate some (h key v rfl)

theorem checkKnownKeys_relocate {known known' : List String} {table table' : Fields Value}
    {rename : String → String} (hkeys : Fields.keys table' = (Fields.keys table).map rename)
    (hpath : ∀ key, g (path ++ [key]) = path' ++ [rename key])
    (hknown : ∀ key ∈ Fields.keys table, rename key ∈ known' ↔ key ∈ known)
    : checkKnownKeys path' known' table' = relocate g (checkKnownKeys path known table) := by
  have hunknown : (Fields.keys table').filter (fun key => key ∉ known')
      = ((Fields.keys table).filter fun key => key ∉ known).map rename := by
    rw [hkeys, List.filter_map]
    congr 1
    apply List.filter_congr
    intro key hkey
    simp [hknown key hkey]
  unfold checkKnownKeys
  rw [hunknown]
  cases (Fields.keys table).filter fun key => key ∉ known with
  | nil => rfl
  | cons first rest => simp [hpath]

theorem FormField.check_relocate (hpath : ∀ rest, g (path ++ rest) = path' ++ rest) (v : Value)
    : check path' v = relocate g (check path v) := by
  have hplace : g path = path' := by simpa using hpath []
  unfold check
  refine bind_relocate (by rw [← hplace, checkTable_relocate]) ?_
  intro table _
  extract_lets text file' file
  have hfile : file' = relocate g file := by
    have hsame (entry : Option (String × Value))
        : entry = entry.map fun entry => (id entry.1, entry.2) := by
      cases entry <;> rfl
    refine checkOptional_relocate (hsame _) ?_
    intro key v _
    rw [id, ← hpath [key], checkText_relocate]
  have hknown : checkKnownKeys path' ["text", "file"] table
      = relocate g (checkKnownKeys path ["text", "file"] table) :=
    checkKnownKeys_relocate (List.map_id' _).symm (fun key => hpath [key]) fun _ _ => .rfl
  refine bind_relocate (both_relocate hfile hknown) ?_
  rintro ⟨found, _⟩ _
  dsimp only
  split
  · rw [relocate_fail, hplace]
  · rfl

theorem Body.checkFormData_relocate (hpath : ∀ rest, g (path ++ rest) = path' ++ rest) (v : Value)
    : checkFormData path' v = relocate g (checkFormData path v) := by
  have hplace : g path = path' := by simpa using hpath []
  unfold checkFormData
  refine bind_relocate (by rw [← hplace, checkTable_relocate]) ?_
  intro table _
  refine checkEntries_relocate ?_ table
  intro key v
  refine FormField.check_relocate ?_ v
  intro rest
  simpa using hpath (key :: rest)

end

theorem findUnder?_eq_find? {spellings : List String} {table : Fields Value}
    (h : IsSpeltOnce spellings table)
    : findUnder? spellings table = table.find? fun entry => entry.1 ∈ spellings := by
  cases hfind : table.find? fun entry => entry.1 ∈ spellings with
  | none =>
    rw [List.find?_eq_none] at hfind
    rw [findUnder?, List.findSome?_eq_none_iff]
    intro key hkey
    rw [Option.map_eq_none_iff, Fields.get?_eq_none_iff]
    intro hmem
    obtain ⟨entry, hentry, rfl⟩ := List.mem_map.mp hmem
    exact hfind entry hentry (by simpa using hkey)
  | some entry =>
    obtain ⟨key, v⟩ := entry
    have hkey : key ∈ Fields.keys table := List.mem_map_of_mem (List.mem_of_find?_eq_some hfind)
    have hspelling : key ∈ spellings := by simpa using List.find?_some hfind
    have hget : Fields.get? key table = some v := by
      have hsame : table.find? (fun entry => entry.1 = key)
          = table.find? fun entry => entry.1 ∈ spellings := by
        apply List.find?_congr
        intro entry hentry
        have hentry' : entry.1 ∈ Fields.keys table := List.mem_map_of_mem hentry
        rw [decide_eq_decide]
        constructor
        · intro heq
          rwa [heq]
        · intro hspelling'
          exact h entry.1 hentry' key hkey hspelling' hspelling
      rw [Fields.get?_eq_find?, hsame, hfind]
      rfl
    have hsome : (findUnder? spellings table).isSome = true := by
      rw [isSome_findUnder?, List.any_eq_true]
      exact ⟨key, hspelling, by simpa using hkey⟩
    obtain ⟨⟨key', v'⟩, hfound⟩ := Option.isSome_iff_exists.mp hsome
    obtain ⟨hspelling', hget'⟩ := findUnder?_eq_some_iff hfound
    have hkey' : key' ∈ Fields.keys table := Fields.isSome_get?_iff.mp (by rw [hget']; rfl)
    obtain rfl := h key hkey key' hkey' hspelling hspelling'
    rw [hget, Option.some.injEq] at hget'
    rw [hfound, hget']

theorem findUnder?_map {choices : List (List String × String)} {choice : List String × String}
    {table : Fields Value} {f : String × Value → String × Value} (hchoices : IsChoice choices)
    (hchoice : choice ∈ choices) (hf : ∀ entry, (f entry).1 = respell choices entry.1)
    (htable : IsSpeltOnce choice.1 table)
    : findUnder? choice.1 (table.map f) = (findUnder? choice.1 table).map f := by
  have hmem (entry : String × Value) : (f entry).1 ∈ choice.1 ↔ entry.1 ∈ choice.1 := by
    rw [hf, hchoices.respell_mem_iff hchoice]
  have hmap : IsSpeltOnce choice.1 (table.map f) := by
    intro key hkey key' hkey' hspelling hspelling'
    rw [Fields.keys, List.map_map, List.mem_map] at hkey hkey'
    obtain ⟨entry, _, rfl⟩ := hkey
    obtain ⟨entry', _, rfl⟩ := hkey'
    simp only [Function.comp_apply, hmem] at hspelling hspelling' ⊢
    rw [hf, hf, hchoices.respell_of_mem hchoice hspelling, hchoices.respell_of_mem hchoice hspelling']
  rw [findUnder?_eq_find? htable, findUnder?_eq_find? hmap, List.find?_map]
  congr 2
  funext entry
  simp [hmem]

variable {σ : Respelling}

theorem Respelling.rootKey_of_not_mem {key : String} (h : key ∉ queryParamsSpellings)
    : σ.rootKey key = key :=
  respell_of_not_mem (by simpa [rootChoices] using h)

theorem Respelling.path_body (key : String) (rest : List String)
    : σ.path ("body" :: key :: rest) = "body" :: σ.bodyKey key :: rest := by
  rw [path, rootKey_of_not_mem (by decide), if_pos rfl]

theorem Respelling.exists_bodyChoice (σ : Respelling) {spellings : List String}
    (h : spellings ∈ bodySpellings.map Prod.snd) : ∃ choice ∈ σ.bodyChoices, choice.1 = spellings := by
  have hkinds : bodySpellings.map Prod.snd = σ.bodyChoices.map Prod.fst := rfl
  rwa [hkinds, List.mem_map] at h

namespace Body

variable {table : Fields Value} {spellings : List String}

theorem findUnder?_respelled (hspelt : IsSpeltOnce spellings table)
    (hspellings : spellings ∈ bodySpellings.map Prod.snd)
    : findUnder? spellings (table.map σ.bodyEntry) = (findUnder? spellings table).map σ.bodyEntry := by
  obtain ⟨choice, hchoice, rfl⟩ := σ.exists_bodyChoice hspellings
  exact findUnder?_map σ.isChoice_bodyChoices hchoice (fun _ => rfl) hspelt

theorem bodyKey_mem_takenKeys_iff
    (htable : ∀ spellings ∈ bodySpellings.map Prod.snd, IsSpeltOnce spellings table) {key : String}
    (hkey : key ∈ Fields.keys table)
    : σ.bodyKey key ∈ takenKeys (table.map σ.bodyEntry) ↔ key ∈ takenKeys table := by
  rw [mem_takenKeys_iff, mem_takenKeys_iff]
  refine exists_congr fun spellings => and_congr_right fun hspellings => ?_
  have hspelt := htable spellings hspellings
  rw [findUnder?_respelled hspelt hspellings]
  constructor
  · rintro ⟨v, hfound⟩
    obtain ⟨⟨key', v'⟩, hfound', heq⟩ := Option.map_eq_some_iff.mp hfound
    obtain ⟨hspelling', hget⟩ := findUnder?_eq_some_iff hfound'
    have hkey' : key' ∈ Fields.keys table := Fields.isSome_get?_iff.mp (by rw [hget]; rfl)
    obtain ⟨choice, hchoice, rfl⟩ := σ.exists_bodyChoice hspellings
    have hspelling : key ∈ choice.1 := by
      rw [← σ.isChoice_bodyChoices.respell_mem_iff hchoice] at hspelling' ⊢
      have hsame : respell σ.bodyChoices key' = respell σ.bodyChoices key := congrArg Prod.fst heq
      exact hsame ▸ hspelling'
    obtain rfl := hspelt key hkey key' hkey' hspelling hspelling'
    exact ⟨v', hfound'⟩
  · rintro ⟨v, hfound⟩
    exact ⟨v, by rw [hfound]; rfl⟩

theorem check_respelled {v : Value}
    (hv : ∀ table, v = .table table →
      ∀ spellings ∈ bodySpellings.map Prod.snd, IsSpeltOnce spellings table)
    : check ["body"] (σ.body v) = relocate σ.path (check ["body"] v) := by
  cases v with
  | table table =>
    have htable := hv table rfl
    have hoptional {α : Type} {check : List String → Value → Checked Problem α}
        {spellings : List String} (hspellings : spellings ∈ bodySpellings.map Prod.snd)
        (h : ∀ key v, check ["body", σ.bodyKey key] v = relocate σ.path (check ["body", key] v))
        : checkOptional ["body"] check (findUnder? spellings (table.map σ.bodyEntry))
            = relocate σ.path (checkOptional ["body"] check (findUnder? spellings table)) :=
      checkOptional_relocate (findUnder?_respelled (htable spellings hspellings) hspellings)
        fun key v _ => h key v
    have hknown : checkKnownKeys ["body"] (takenKeys (table.map σ.bodyEntry)) (table.map σ.bodyEntry)
        = relocate σ.path (checkKnownKeys ["body"] (takenKeys table) table) := by
      have hkeys : Fields.keys (table.map σ.bodyEntry) = (Fields.keys table).map σ.bodyKey := by
        rw [Fields.keys, Fields.keys, List.map_map, List.map_map]
        rfl
      exact checkKnownKeys_relocate hkeys (fun key => σ.path_body key []) fun key =>
        bodyKey_mem_takenKeys_iff htable
    have htext (key : String) (v : Value)
        : checkText ["body", σ.bodyKey key] v = relocate σ.path (checkText ["body", key] v) := by
      rw [← σ.path_body, checkText_relocate]
    have hfields (key : String) (v : Value)
        : checkTable ["body", σ.bodyKey key] .notTable v
          = relocate σ.path (checkTable ["body", key] .notTable v) := by
      rw [← σ.path_body, checkTable_relocate]
    have hparts (key : String) (v : Value)
        : checkFormData ["body", σ.bodyKey key] v
          = relocate σ.path (checkFormData ["body", key] v) :=
      checkFormData_relocate (σ.path_body key) v
    rw [Respelling.body, check, check, checkTable, checkTable, Except.ok_bind, Except.ok_bind]
    refine bind_relocate (both_relocate (hoptional (by decide) htext) (both_relocate
      (hoptional (by decide) htext) (both_relocate (hoptional (by decide) hparts) (both_relocate
        (hoptional (by decide) hfields) hknown)))) ?_
    rintro ⟨raw, binary, formData, formUrlencoded, _⟩ _
    dsimp only
    split
    · rfl
    · rfl
  | _ => rfl

end Body

section

variable {root : Fields Value}

theorem get?_respelled {key : String} (hkey : key ∉ queryParamsSpellings)
    : Fields.get? key (σ.table root)
        =
      (Fields.get? key root).map fun v => if key = "body" then σ.body v else v := by
  unfold Respelling.table
  induction root with
  | nil => rfl
  | cons entry rest ih =>
    obtain ⟨k, v⟩ := entry
    have hsame : σ.rootKey k = key ↔ k = key := by
      have hmem : σ.rootKey k ∈ queryParamsSpellings ↔ k ∈ queryParamsSpellings :=
        σ.isChoice_rootChoices.respell_mem_iff List.mem_cons_self
      by_cases hk : k ∈ queryParamsSpellings
      · constructor
        · rintro rfl
          exact absurd (hmem.mpr hk) hkey
        · rintro rfl
          exact absurd hk hkey
      · rw [Respelling.rootKey_of_not_mem hk]
    rw [List.map_cons, Fields.get?, Fields.get?, ih]
    simp only [Respelling.rootEntry, hsame]
    split
    · next heq => rw [heq]; rfl
    · rfl

theorem get?_respelled_of_not_mem {key : String} (hkey : key ∉ "body" :: queryParamsSpellings)
    : Fields.get? key (σ.table root) = Fields.get? key root := by
  rw [List.mem_cons, not_or] at hkey
  rw [get?_respelled hkey.2]
  simp only [if_neg hkey.1, Option.map_id_fun', id]

theorem checkQueryParams_respelled (hroot : IsSpeltOnce queryParamsSpellings root)
    : checkQueryParams (σ.table root) = relocate σ.path (checkQueryParams root) := by
  have hfound : findUnder? queryParamsSpellings (σ.table root)
      = (findUnder? queryParamsSpellings root).map σ.rootEntry :=
    findUnder?_map σ.isChoice_rootChoices List.mem_cons_self (fun _ => rfl) hroot
  unfold checkQueryParams
  rw [hfound]
  cases hentry : findUnder? queryParamsSpellings root with
  | none => rfl
  | some entry =>
    obtain ⟨key, v⟩ := entry
    have hne : key ≠ "body" := by
      rintro rfl
      exact absurd (findUnder?_eq_some_iff hentry).1 (by decide)
    simp only [Option.map_some, Respelling.rootEntry, if_neg hne]
    have htable : checkTable [σ.rootKey key] .notTable v
        = relocate σ.path (checkTable [key] .notTable v) := by
      rw [← checkTable_relocate]
      rfl
    exact map_relocate some htable

theorem checkBody_respelled (hroot : IsUnambiguous root)
    : checkBody (σ.table root) = relocate σ.path (checkBody root) := by
  unfold checkBody
  rw [get?_respelled (by decide)]
  cases hbody : Fields.get? "body" root with
  | none => rfl
  | some v =>
    refine Body.check_respelled ?_
    rintro table rfl
    exact hroot.body table hbody

theorem relocate_eq_self_of_reports {α : Type} {K : String → Prop} {c : Checked Problem α}
    (h : Reports root [] K c) (hK : ∀ key, K key → key ∉ "body" :: queryParamsSpellings)
    : relocate σ.path c = c := by
  apply relocate_eq_self
  intro p hp
  obtain ⟨key, rest, hkey, hpath⟩ := h.below p hp
  have hnot := hK key hkey
  rw [List.mem_cons, not_or] at hnot
  rw [hpath, List.nil_append]
  cases rest with
  | nil => rw [Respelling.path, Respelling.rootKey_of_not_mem hnot.2]
  | cons inner rest => rw [Respelling.path, Respelling.rootKey_of_not_mem hnot.2, if_neg hnot.1]

theorem checkOptionalTable_table {key : String} (hkey : key ∉ "body" :: queryParamsSpellings)
    : checkOptionalTable key (σ.table root) = checkOptionalTable key root := by
  unfold checkOptionalTable
  rw [get?_respelled_of_not_mem hkey]

theorem checkOptionalTable_respelled {key : String} (hrule : InForce [key] .notTable)
    (hkey : key ∉ "body" :: queryParamsSpellings)
    : checkOptionalTable key (σ.table root) = relocate σ.path (checkOptionalTable key root) := by
  rw [checkOptionalTable_table hkey]
  refine (relocate_eq_self_of_reports (reports_checkOptionalTable hrule) ?_).symm
  rintro _ rfl
  exact hkey

theorem check_respelled (htoml : (Value.table root).IsToml) (hroot : IsUnambiguous root)
    : check (σ.table root) = relocate σ.path (check root) := by
  have hhttp : Http.check (σ.table root) = relocate σ.path (Http.check root) := by
    rw [relocate_eq_self_of_reports Http.reports_check (by rintro _ rfl; decide)]
    unfold Http.check
    rw [get?_respelled_of_not_mem (by decide)]
  have hheaders : checkHeaders (σ.table root) = relocate σ.path (checkHeaders root) := by
    rw [relocate_eq_self_of_reports (reports_checkHeaders htoml) (by rintro _ rfl; decide)]
    unfold checkHeaders
    rw [checkOptionalTable_table (by decide)]
  have hmetadata : checkOptionalTable "metadata" (σ.table root)
      = relocate σ.path (checkOptionalTable "metadata" root) :=
    checkOptionalTable_respelled .metadata (by decide)
  have hvars : checkOptionalTable "variables" (σ.table root)
      = relocate σ.path (checkOptionalTable "variables" root) :=
    checkOptionalTable_respelled .vars (by decide)
  unfold check
  exact bind_relocate (both_relocate hhttp (both_relocate
    (checkQueryParams_respelled hroot.queryParams) (both_relocate hheaders (both_relocate hmetadata
      (both_relocate hvars (checkBody_respelled hroot)))))) fun _ _ => rfl

/--
Respelling a document changes nothing but the spelling of keys in what is reported.
-/
theorem ofTable_respelled (σ : Respelling) (htoml : (Value.table root).IsToml)
    (hroot : IsUnambiguous root)
    : ofTable (σ.table root) = (ofTable root).mapError σ.error := by
  unfold ofTable
  rw [check_respelled htoml hroot]
  cases check root with
  | error problems => rfl
  | ok d =>
    rw [relocate_ok]
    dsimp only
    cases d.checkTypes <;> rfl

theorem ofTable_respelled_refused
    : let σ : Respelling :=
        ⟨"queryparams", "text", "file", "multipart-form-data", "form_urlencoded",
          by decide, by decide, by decide, by decide, by decide⟩
      let root : Fields Value :=
        [("http", .table [("url", .text "u")]), ("query-params", .integer 1),
          ("headers", .table [("raw", .boolean true)]),
          ("body", .table [("form_data", .table [("raw", .text "r")]), ("raw", .integer 2)])]
      let respelled : Fields Value :=
        [("http", .table [("url", .text "u")]), ("queryparams", .integer 1),
          ("headers", .table [("raw", .boolean true)]),
          ("body", .table [("multipart-form-data", .table [("raw", .text "r")]),
            ("text", .integer 2)])]
      σ.table root = respelled
        ∧ ofTable respelled = .error (.illFormed
          [⟨["queryparams"], .notTable⟩, ⟨["headers", "raw"], .notText⟩,
            ⟨["body", "text"], .notText⟩,
            ⟨["body", "multipart-form-data", "raw"], .notFormFieldTable⟩]) := by
  intro σ root respelled
  have htoml : (Value.table root).IsToml := by
    apply Value.IsToml.table (by decide)
    simp only [root, List.forall_mem_cons]
    refine ⟨.table (by decide) ?_, .integer 1, .table (by decide) ?_, .table (by decide) ?_, by simp⟩
    · simpa using Value.IsToml.text "u"
    · simpa using Value.IsToml.boolean true
    · simp only [List.forall_mem_cons]
      refine ⟨.table (by decide) ?_, .integer 2, by simp⟩
      simpa using Value.IsToml.text "r"
  have hroot : IsUnambiguous root := by
    refine ⟨by unfold IsSpeltOnce; decide, ?_⟩
    intro table htable
    cases htable
    unfold IsSpeltOnce
    decide
  exact ⟨rfl, ofTable_respelled σ htoml hroot⟩

end

end RequestFile.Document
