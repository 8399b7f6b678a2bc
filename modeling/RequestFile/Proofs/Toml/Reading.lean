import RequestFile.Checked
import RequestFile.Proofs.Toml.Trees
import RequestFile.Toml

/-!
This module contains what can be read from a TOML document: a table whose keys are distinct at every
level, with no null in it.
-/

namespace RequestFile.Toml

theorem isToml_of_basedInteger {base : Nat} {p : Char → Bool} {text rest : List Char} {v : Value}
    (h : basedInteger base p text = some (v, rest)) : v.IsToml := by
  unfold basedInteger at h
  split at h
  · cases h
  · cases h
    exact .integer _

theorem isToml_of_decimalNumber {text rest : List Char} {v : Value}
    (h : decimalNumber text = .ok (v, rest)) : v.IsToml := by
  unfold decimalNumber at h
  rcases Except.bind_eq_ok_iff.mp h with ⟨whole, _, h⟩
  dsimp only at h
  split at h
  · split at h
    · cases h
    · cases h
      exact .integer _
  · cases h
    exact .float _

theorem isToml_of_specialFloat {text rest : List Char} {v : Value}
    (h : specialFloat text = some (v, rest)) : v.IsToml := by
  unfold specialFloat at h
  dsimp only at h
  split at h
  · cases h
    exact .float _
  · split at h
    · cases h
      exact .float _
    · cases h

theorem isToml_of_number {text rest : List Char} {v : Value} (h : number text = .ok (v, rest))
    : v.IsToml := by
  unfold number at h
  split at h
  · exact isToml_of_basedInteger (expect_eq_ok_iff.mp h)
  · exact isToml_of_basedInteger (expect_eq_ok_iff.mp h)
  · exact isToml_of_basedInteger (expect_eq_ok_iff.mp h)
  · split at h
    · exact isToml_of_specialFloat (expect_eq_ok_iff.mp h)
    · exact isToml_of_decimalNumber h

theorem isToml_of_dateTime {text rest : List Char} {v : Value}
    (h : dateTime text = some (v, rest)) : v.IsToml := by
  unfold dateTime at h
  rcases Option.bind_eq_some_iff.mp h with ⟨⟨date, afterDate⟩, _, h⟩
  rcases Option.bind_eq_some_iff.mp h with ⟨_, _, h⟩
  dsimp only at h
  split at h
  · cases h
    exact .date _
  · split at h
    · cases h
      exact .dateTime _
    · cases h
      exact .dateTime _

theorem isToml_of_plainValue {text rest : List Char} {v : Value}
    (h : plainValue text = .ok (v, rest)) : v.IsToml := by
  unfold plainValue at h
  split at h
  · cases h
    exact .boolean _
  · split at h
    · cases h
      exact .boolean _
    · split at h
      · exact isToml_of_dateTime (expect_eq_ok_iff.mp h)
      · split at h
        · cases h
          exact .time _
        · exact isToml_of_number h

structure ReadsToml (fuel : Nat) : Prop where
  value : ∀ {text rest v}, value fuel text = .ok (v, rest) → v.IsToml
  arrayItems : ∀ {text rest items}, arrayItems fuel text = .ok (items, rest) →
    ∀ item ∈ items, item.IsToml
  inlineEntries : ∀ {entries entries' text rest}, entries.IsToml →
    inlineEntries fuel entries text = .ok (entries', rest) → entries'.IsToml

theorem ReadsToml.value_succ {fuel : Nat} (hfuel : ReadsToml fuel) {text rest : List Char}
    {v : Value} (h : Toml.value (fuel + 1) text = .ok (v, rest)) : v.IsToml := by
  rw [Toml.value.eq_def] at h
  dsimp only at h
  split at h
  · rcases Except.bind_eq_ok_iff.mp h with ⟨⟨items, after⟩, hitems, h⟩
    cases h
    exact .array (hfuel.arrayItems hitems)
  · split at h
    · cases h
      exact Entries.isToml_nil.toTable
    · rcases Except.bind_eq_ok_iff.mp h with ⟨⟨entries, after⟩, hentries, h⟩
      cases h
      exact (hfuel.inlineEntries Entries.isToml_nil hentries).toTable
  · split at h
    · rcases Except.bind_eq_ok_iff.mp h with ⟨⟨s, after⟩, _, h⟩
      cases h
      exact .text _
    · exact isToml_of_plainValue h
  · cases h

theorem ReadsToml.arrayItems_succ {fuel : Nat} (hfuel : ReadsToml fuel) {text rest : List Char}
    {items : List Value} (h : Toml.arrayItems (fuel + 1) text = .ok (items, rest))
    : ∀ item ∈ items, item.IsToml := by
  rw [Toml.arrayItems.eq_def] at h
  rcases Except.bind_eq_ok_iff.mp h with ⟨start, _, h⟩
  dsimp only at h
  split at h
  · cases h
    simp
  · rcases Except.bind_eq_ok_iff.mp h with ⟨⟨first, after⟩, hfirst, h⟩
    rcases Except.bind_eq_ok_iff.mp h with ⟨between, _, h⟩
    have hfirst := hfuel.value hfirst
    split at h
    · cases h
      simpa using hfirst
    · rcases Except.bind_eq_ok_iff.mp h with ⟨⟨others, after⟩, hothers, h⟩
      cases h
      simpa using ⟨hfirst, hfuel.arrayItems hothers⟩
    · cases h

theorem ReadsToml.inlineEntries_succ {fuel : Nat} (hfuel : ReadsToml fuel) {text rest : List Char}
    {entries entries' : Entries} (hentries : entries.IsToml)
    (h : Toml.inlineEntries (fuel + 1) entries text = .ok (entries', rest)) : entries'.IsToml := by
  rw [Toml.inlineEntries.eq_def] at h
  rcases Except.bind_eq_ok_iff.mp h with ⟨⟨key, afterKey⟩, _, h⟩
  rcases Except.bind_eq_ok_iff.mp h with ⟨⟨_, afterSign⟩, _, h⟩
  rcases Except.bind_eq_ok_iff.mp h with ⟨⟨v, afterValue⟩, hv, h⟩
  rcases Except.bind_eq_ok_iff.mp h with ⟨next, hwrite, h⟩
  have hnext := Entries.isToml_writeInline hentries (hfuel.value hv) (expect_eq_ok_iff.mp hwrite)
  split at h
  · cases h
    exact hnext
  · exact hfuel.inlineEntries hnext h
  · cases h

theorem readsToml (fuel : Nat) : ReadsToml fuel := by
  induction fuel with
  | zero =>
    constructor
    · intro text rest v h
      simp [Toml.value] at h
    · intro text rest items h
      simp [Toml.arrayItems] at h
    · intro entries entries' text rest _ h
      simp [Toml.inlineEntries] at h
  | succ fuel ih => exact ⟨ih.value_succ, ih.arrayItems_succ, ih.inlineEntries_succ⟩

theorem isToml_of_statement {text rest : List Char} {s : Statement}
    (h : statement text = .ok (s, rest)) : s.IsToml := by
  unfold statement at h
  split at h
  · rcases Except.bind_eq_ok_iff.mp h with ⟨⟨key, afterKey⟩, _, h⟩
    rcases Except.bind_eq_ok_iff.mp h with ⟨after, _, h⟩
    cases h
    trivial
  · rcases Except.bind_eq_ok_iff.mp h with ⟨⟨key, afterKey⟩, _, h⟩
    rcases Except.bind_eq_ok_iff.mp h with ⟨after, _, h⟩
    cases h
    trivial
  · rcases Except.bind_eq_ok_iff.mp h with ⟨⟨key, afterKey⟩, _, h⟩
    rcases Except.bind_eq_ok_iff.mp h with ⟨⟨_, afterSign⟩, _, h⟩
    rcases Except.bind_eq_ok_iff.mp h with ⟨⟨v, after⟩, hv, h⟩
    cases h
    exact (readsToml _).value hv

theorem isToml_of_assembly_go {fuel : Nat} {a a' : Assembly} {text : List Char}
    (ha : a.entries.IsToml) (h : assembly.go fuel a text = .ok a') : a'.entries.IsToml := by
  induction fuel generalizing a text with
  | zero => simp [assembly.go] at h
  | succ fuel ih =>
    unfold assembly.go at h
    split at h
    · cases h
      exact ha
    · exact ih ha h
    · rcases Except.bind_eq_ok_iff.mp h with ⟨after, _, h⟩
      exact ih ha h
    · rcases Except.bind_eq_ok_iff.mp h with ⟨⟨s, afterStatement⟩, hs, h⟩
      rcases Except.bind_eq_ok_iff.mp h with ⟨next, hstep, h⟩
      rcases Except.bind_eq_ok_iff.mp h with ⟨after, _, h⟩
      have hnext := Assembly.isToml_step ha (isToml_of_statement hs) (expect_eq_ok_iff.mp hstep)
      split at h
      · cases h
        exact hnext
      · exact ih hnext h
      · cases h

theorem isToml_of_read {text : String} {root : Fields Value} (h : read text = .ok root)
    : (Value.table root).IsToml := by
  rcases Except.map_eq_ok_iff.mp h with ⟨a, ha, rfl⟩
  exact (isToml_of_assembly_go Entries.isToml_nil ha).toTable

end RequestFile.Toml
