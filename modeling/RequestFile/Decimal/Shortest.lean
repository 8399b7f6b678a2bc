import RequestFile.Decimal.Binary64

/-!
This module contains the decimal number that stands for a double: of all decimal numbers that are
nearer to the double than to any other one, the numbers on the coarsest grid of powers of ten, and of
those the one nearest to the double.
-/

namespace RequestFile.Decimal

structure Scientific where
  coefficient : Nat
  exponent : Int
  deriving DecidableEq, Repr

namespace Magnitude

/--
The factors `(a, b)` with `10 ^ grid = a / b` quarters of the unit of the last place.
-/
def gridFactors (m : Magnitude) (grid : Int) : Nat × Nat :=
  let shift := 2 - m.exponent
  (Nat.pow 10 grid.toNat * Nat.pow 2 shift.toNat, Nat.pow 10 (-grid).toNat * Nat.pow 2 (-shift).toNat)

/--
Decide whether `point * 10 ^ grid` rounds to `m`. The two ends of the interval do so iff the mantissa
is even.
-/
def admits (m : Magnitude) (grid : Int) (point : Nat) : Bool :=
  let (a, b) := m.gridFactors grid
  let lower := (4 * m.mantissa - (if m.narrowBelow then 1 else 2)) * b
  let upper := (4 * m.mantissa + 2) * b
  let here := point * a
  if m.mantissa % 2 = 0 then lower ≤ here && here ≤ upper else lower < here && here < upper

def nearest? (m : Magnitude) (grid : Int) : Option Nat :=
  let (a, b) := m.gridFactors grid
  let value := 4 * m.mantissa * b
  let below := value / a
  let above := below + 1
  -- No other point of the grid can be nearest to `m`.
  match m.admits grid below, m.admits grid above with
  | true, true =>
    let down := value - below * a
    let up := above * a - value
    if down < up ∨ (down = up ∧ below % 2 = 0) then some below else some above
  | true, false => some below
  | false, true => some above
  | false, false => none

def shortest (m : Magnitude) : Scientific :=
  -- From the coarsest grid to the finest, so the first hit has the fewest digits.
  let grids := (List.range 634).map fun (step : Nat) => (309 : Int) - step
  let hit := grids.findSome? fun grid => (m.nearest? grid).map fun point => Scientific.mk point grid
  hit.getD ⟨0, 0⟩

end Magnitude

end RequestFile.Decimal
