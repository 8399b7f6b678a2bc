/-!
This module contains the exact reading of double precision numbers: a finite number is a signed
natural number times a power of two, and every non-negative fraction has a nearest such number.
-/

namespace RequestFile.Decimal

/--
The magnitude of a finite double: `mantissa * 2 ^ exponent`. The number below it is only half as far
away as the number above it iff `narrowBelow`.
-/
structure Magnitude where
  mantissa : Nat
  exponent : Int
  narrowBelow : Bool
  deriving DecidableEq, Repr

inductive Binary64 where
  | notANumber
  | infinite (negative : Bool)
  | finite (negative : Bool) (magnitude : Magnitude)
  deriving DecidableEq, Repr

namespace Binary64

def ofBits (bits : Nat) : Binary64 :=
  let negative := bits / Nat.pow 2 63 % 2 == 1
  let exponent : Nat := bits / Nat.pow 2 52 % Nat.pow 2 11
  let fraction := bits % Nat.pow 2 52
  if exponent = 2047 then
    if fraction = 0 then .infinite negative else .notANumber
  else if exponent = 0 then
    .finite negative ⟨fraction, -1074, false⟩
  else
    .finite negative ⟨fraction + Nat.pow 2 52, (exponent : Int) - 1075, fraction = 0 && exponent > 1⟩

def ofFloat (x : Float) : Binary64 :=
  ofBits x.toBits.toNat

/--
The bits of the double nearest to `numerator / denominator`, a tie going to the even mantissa, and
of infinity if the fraction is too large. Both parts have to be positive.
-/
def nearestBits (numerator denominator : Nat) : Nat :=
  let guess := (numerator.log2 : Int) - (denominator.log2 : Int)
  let exponent := max (guess - 53) (-1074)
  let scaled := numerator * Nat.pow 2 (-exponent).toNat
  let unit := denominator * Nat.pow 2 exponent.toNat
  -- The quotient has at most one bit too many: take one more step if it has.
  let exponent := if scaled / unit ≥ Nat.pow 2 53 then exponent + 1 else exponent
  let scaled := numerator * Nat.pow 2 (-exponent).toNat
  let unit := denominator * Nat.pow 2 exponent.toNat
  let whole := scaled / unit
  let twice := 2 * (scaled % unit)
  -- Rounding up to `2 ^ 53` needs no case of its own: it carries into the exponent.
  let rounded := if twice > unit ∨ (twice = unit ∧ whole % 2 = 1) then whole + 1 else whole
  min ((exponent + 1074).toNat * Nat.pow 2 52 + rounded) infinityBits
where
  infinityBits : Nat := 2047 * Nat.pow 2 52

end Binary64

end RequestFile.Decimal
