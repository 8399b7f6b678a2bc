/-!
This module contains the limit on integers in base ten: integers with more digits are neither written
nor read. Other bases know no limit, so larger integers can be read, but not written.
-/

namespace RequestFile.Decimal

def maxDigits : Nat := 4300

structure Overlong where
  deriving DecidableEq, Repr

def isOverlong (n : Int) : Bool :=
  Nat.pow 10 maxDigits ≤ n.natAbs

def integerText (n : Int) : Except Overlong String :=
  if isOverlong n then .error ⟨⟩ else .ok (toString n)

theorem isOverlong_iff {n : Int} : isOverlong n = true ↔ Nat.pow 10 maxDigits ≤ n.natAbs := by
  rw [isOverlong, decide_eq_true_eq]

theorem exists_integerText_iff {n : Int} :
    (∃ s, integerText n = .ok s) ↔ n.natAbs < Nat.pow 10 maxDigits := by
  rw [integerText, ← Nat.not_le, ← isOverlong_iff]
  cases isOverlong n <;> simp

end RequestFile.Decimal
