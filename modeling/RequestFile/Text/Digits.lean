/-!
This module contains natural numbers in digits: writing them with a fixed least width, and reading them
in the bases that documents use.
-/

namespace RequestFile.Text

def padded (base width n : Nat) : List Char :=
  let digits := Nat.toDigits base n
  List.replicate (width - digits.length) '0' ++ digits

def decimal (width n : Nat) : List Char :=
  padded 10 width n

def hexadecimal (width n : Nat) : List Char :=
  padded 16 width n

def hexadecimalUpper (width n : Nat) : List Char :=
  (hexadecimal width n).map Char.toUpper

def hexadecimalDigit? (c : Char) : Option Nat :=
  if '0' ≤ c && c ≤ '9' then some (c.toNat - '0'.toNat)
  else if 'a' ≤ c && c ≤ 'f' then some (c.toNat - 'a'.toNat + 10)
  else if 'A' ≤ c && c ≤ 'F' then some (c.toNat - 'A'.toNat + 10)
  else none

def isHexadecimalDigit (c : Char) : Bool :=
  (hexadecimalDigit? c).isSome

def ofDigits (base : Nat) (digits : List Char) : Nat :=
  digits.foldl (fun n c => n * base + (hexadecimalDigit? c).getD 0) 0

end RequestFile.Text
