/-!
This module contains a measure of how alike two texts are: the share of characters that they have in
common, counted along the longest blocks that both texts hold.
-/

namespace RequestFile.Text

def commonPrefix : List Char → List Char → Nat
  | a :: as, b :: bs => if a = b then commonPrefix as bs + 1 else 0
  | _, _ => 0

structure Block where
  left : Nat
  right : Nat
  length : Nat
  deriving DecidableEq, Repr

namespace Block

def places (start : Nat) : List Char → List (Nat × List Char)
  | [] => []
  | c :: rest => (start, c :: rest) :: places (start + 1) rest

def longest (a b : List Char) : Block :=
  (places 0 a).foldl (fun best (i, as) =>
    (places 0 b).foldl (fun best (j, bs) =>
      let length := commonPrefix as bs
      if best.length < length then ⟨i, j, length⟩ else best) best) ⟨0, 0, 0⟩

end Block

def charsInCommon (a b : List Char) : Nat :=
  -- Each block takes a character of the left text.
  go a.length a b
where
  go (fuel : Nat) (a b : List Char) : Nat :=
    match fuel with
    | 0 => 0
    | fuel + 1 =>
      let block := Block.longest a b
      if block.length = 0 then
        0
      else
        block.length + go fuel (a.take block.left) (b.take block.right)
          + go fuel (a.drop (block.left + block.length)) (b.drop (block.right + block.length))

def areAlike (a b : List Char) : Bool :=
  6 * (a.length + b.length) ≤ 10 * (2 * charsInCommon a b)

def similar (candidates : List String) (text : String) : List String :=
  (candidates.filter fun candidate => areAlike candidate.toList text.toList).mergeSort
    fun a b => decide (a ≤ b)

end RequestFile.Text
