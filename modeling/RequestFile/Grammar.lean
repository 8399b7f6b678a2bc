import RequestFile.Text.Latin1

/-!
This module contains the character rules of HTTP that requests keep: the tokens that methods and
header names are, and the visible text that header values are.
-/

namespace RequestFile.Grammar

def isTokenChar (c : Char) : Bool :=
  c.isAlphanum || c ∈ "!#$%&'*+-.^_`|~".toList

def isToken (s : String) : Bool :=
  !s.toList.isEmpty && s.toList.all isTokenChar

def isFieldChar (c : Char) : Bool :=
  c == '\t' || (0x20 ≤ c.toNat && c.toNat ≤ 0x7E)

def isFieldValue (text : List Char) : Bool :=
  text.all isFieldChar

theorem isToken_iff {s : String}
    : isToken s = true ↔ s.toList ≠ [] ∧ ∀ c ∈ s.toList, isTokenChar c = true := by
  simp [isToken]

theorem isUpper_iff {c : Char} : c.isUpper = true ↔ 65 ≤ c.toNat ∧ c.toNat ≤ 90 := by
  have h : c.isUpper = decide (c.val ≥ 'A'.val ∧ c.val ≤ 'Z'.val) := rfl
  simp [h, UInt32.le_iff_toNat_le, ← Char.toNat_val]

theorem isLower_iff_val {c : Char} : c.isLower = true ↔ 'a'.val ≤ c.val ∧ c.val ≤ 'z'.val := by
  have h : c.isLower = (decide (c.val ≥ 'a'.val) && decide (c.val ≤ 'z'.val)) := rfl
  simp only [h, Bool.and_eq_true, decide_eq_true_eq, ge_iff_le]

theorem isLower_iff {c : Char} : c.isLower = true ↔ 97 ≤ c.toNat ∧ c.toNat ≤ 122 := by
  rw [isLower_iff_val, UInt32.le_iff_toNat_le, UInt32.le_iff_toNat_le]
  rfl

theorem isDigit_iff {c : Char} : c.isDigit = true ↔ 48 ≤ c.toNat ∧ c.toNat ≤ 57 := by
  simp [Char.isDigit, UInt32.le_iff_toNat_le, ← Char.toNat_val]

theorem isAlphanum_iff {c : Char}
    : c.isAlphanum = true ↔ (c.isUpper = true ∨ c.isLower = true) ∨ c.isDigit = true := by
  have h : c.isAlphanum = (c.isUpper || c.isLower || c.isDigit) := rfl
  simp only [h, Bool.or_eq_true]

theorem toNat_le_of_isTokenChar {c : Char} (h : isTokenChar c = true) : c.toNat ≤ 0x7E := by
  have hothers : ∀ c ∈ "!#$%&'*+-.^_`|~".toList, c.toNat ≤ 0x7E := by simp
  unfold isTokenChar at h
  rw [Bool.or_eq_true, decide_eq_true_eq] at h
  cases h with
  | inl halphanum =>
    simp only [isAlphanum_iff, isUpper_iff, isLower_iff, isDigit_iff] at halphanum
    omega
  | inr hother => exact hothers c hother

theorem toUpper_of_not_isLower {c : Char} (h : ¬ c.isLower = true) : c.toUpper = c := by
  rw [isLower_iff_val] at h
  exact dif_neg h

theorem toNat_toUpper {c : Char} (h : c.isLower = true) : c.toUpper.toNat = c.toNat - 32 := by
  have hrange := isLower_iff.mp h
  rw [isLower_iff_val] at h
  have hupper : c.toUpper = ⟨c.val + ('A'.val - 'a'.val), _⟩ := dif_pos h
  rw [hupper]
  -- The difference of the two letters is negative, so it is written modulo the size of a word.
  have hdifference : ('A'.val - 'a'.val).toNat = 2 ^ 32 - 32 := by decide
  show (c.val + ('A'.val - 'a'.val)).toNat = c.toNat - 32
  rw [UInt32.toNat_add, Char.toNat_val, hdifference]
  omega

theorem isLower_toUpper (c : Char) : c.toUpper.isLower = false := by
  rw [← Bool.not_eq_true]
  by_cases h : c.isLower = true
  · rw [isLower_iff, toNat_toUpper h]
    have := isLower_iff.mp h
    omega
  · rw [toUpper_of_not_isLower h]
    exact h

theorem isTokenChar_toUpper {c : Char} (h : isTokenChar c = true) : isTokenChar c.toUpper = true := by
  by_cases hlower : c.isLower = true
  · have hupper : c.toUpper.isUpper = true := by
      rw [isUpper_iff, toNat_toUpper hlower]
      have := isLower_iff.mp hlower
      omega
    simp [isTokenChar, isAlphanum_iff, hupper]
  · rw [toUpper_of_not_isLower hlower]
    exact h

theorem isToken_toUpper {s : String} (h : isToken s = true)
    : isToken (String.ofList (s.toList.map Char.toUpper)) = true := by
  rw [isToken_iff] at h ⊢
  rw [String.toList_ofList]
  refine ⟨by simpa using h.1, ?_⟩
  intro c hc
  rcases List.mem_map.mp hc with ⟨c, hmem, rfl⟩
  exact isTokenChar_toUpper (h.2 c hmem)

theorem toNat_le_of_isFieldValue {text : List Char} (h : isFieldValue text = true) {c : Char}
    (hc : c ∈ text) : c.toNat ≤ 0x7E := by
  have hchar : isFieldChar c = true := List.all_eq_true.mp h c hc
  unfold isFieldChar at hchar
  simp only [Bool.or_eq_true, beq_iff_eq, Bool.and_eq_true, decide_eq_true_eq] at hchar
  rcases hchar with rfl | hchar
  · decide
  · exact hchar.2

theorem decode_encode_of_isToken {s : String} (h : isToken s = true)
    : Text.Latin1.decode (Text.Latin1.encode s.toList) = s.toList := by
  apply Text.Latin1.decode_encode
  intro c hc
  have := toNat_le_of_isTokenChar ((isToken_iff.mp h).2 c hc)
  omega

theorem decode_encode_of_isFieldValue {text : List Char} (h : isFieldValue text = true)
    : Text.Latin1.decode (Text.Latin1.encode text) = text := by
  apply Text.Latin1.decode_encode
  intro c hc
  have := toNat_le_of_isFieldValue h hc
  omega

end RequestFile.Grammar
