import RequestFile.Decimal.Shortest
import RequestFile.Text.Digits

/-!
This module contains the texts of numbers: where a decimal number is written out and where it gets
an exponent, and the way back from such a text to the nearest double.
-/

namespace RequestFile.Decimal

/--
The decisions on how a number with digits `d.ddd` times ten to the power of `e` is written.
-/
structure Layout where
  leastPlain : Int
  greatestPlain : Int
  exponentDigits : Nat
  infinity : String
  notANumber : String

def standardLayout : Layout where
  leastPlain := -4
  greatestPlain := 15
  exponentDigits := 2
  infinity := "inf"
  notANumber := "nan"

namespace Layout

def plain (digits : List Char) (e : Int) : List Char :=
  if e < 0 then
    '0' :: '.' :: List.replicate (-e - 1).toNat '0' ++ digits
  else
    let places := e.toNat + 1
    let whole := digits.take places ++ List.replicate (places - digits.length) '0'
    let fraction := digits.drop places
    whole ++ '.' :: (if fraction.isEmpty then ['0'] else fraction)

def withExponent (layout : Layout) (digits : List Char) (e : Int) : List Char :=
  let fraction :=
    match digits.drop 1 with
    | [] => []
    | rest => '.' :: rest
  digits.take 1 ++ fraction ++ 'e' :: (if e < 0 then '-' else '+')
    :: Text.decimal layout.exponentDigits e.natAbs

def significant (digits : List Char) : List Char :=
  match (digits.reverse.dropWhile (· == '0')).reverse with
  | [] => ['0']
  | kept => kept

def scientific (layout : Layout) (d : Scientific) : List Char :=
  let all := Nat.toDigits 10 d.coefficient
  -- The exponent of the first digit, not of the last one.
  let e := if d.coefficient = 0 then 0 else d.exponent + (all.length : Int) - 1
  let digits := significant all
  if layout.leastPlain ≤ e ∧ e ≤ layout.greatestPlain then
    plain digits e
  else
    layout.withExponent digits e

def double (layout : Layout) (x : Float) : String :=
  let signed (negative : Bool) (s : String) : String := if negative then "-" ++ s else s
  match Binary64.ofFloat x with
  | .notANumber => layout.notANumber
  | .infinite negative => signed negative layout.infinity
  | .finite negative m =>
    let d := if m.mantissa = 0 then ⟨0, 0⟩ else m.shortest
    signed negative (String.ofList (layout.scientific d))

end Layout

def text (x : Float) : String :=
  standardLayout.double x

namespace Scientific

def toFloat (negative : Bool) (d : Scientific) : Float :=
  let places := (Nat.toDigits 10 d.coefficient).length + d.exponent
  let bits :=
    -- Beyond these bounds the outcome is known, so no power of ten grows beyond need.
    if d.coefficient = 0 ∨ places < -400 then 0
    else if places > 400 then Binary64.nearestBits.infinityBits
    else
      Binary64.nearestBits (d.coefficient * Nat.pow 10 d.exponent.toNat)
        (Nat.pow 10 (-d.exponent).toNat)
  Float.ofBits (UInt64.ofNat (if negative then bits + Nat.pow 2 63 else bits))

end Scientific

end RequestFile.Decimal
