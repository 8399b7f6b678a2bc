/-!
This module contains the Latin-1 view of bytes: each byte is the character of the same code.
-/

namespace RequestFile.Text.Latin1

def decode (bytes : List UInt8) : List Char :=
  bytes.map fun byte => Char.ofNat byte.toNat

def encode (text : List Char) : List UInt8 :=
  text.map fun c => UInt8.ofNat c.toNat

def encode? (text : List Char) : Option (List UInt8) :=
  if text.all (fun c => c.toNat ≤ 0xFF) then some (encode text) else none

theorem toNat_ofNat {n : Nat} (h : n.isValidChar) : (Char.ofNat n).toNat = n := by
  rw [Char.ofNat, dif_pos h]
  rfl

@[simp]
theorem encode_decode (bytes : List UInt8) : encode (decode bytes) = bytes := by
  induction bytes with
  | nil => rfl
  | cons byte rest ih =>
    have hlt : byte.toNat < 256 := byte.toNat_lt
    have hchar : (Char.ofNat byte.toNat).toNat = byte.toNat :=
      toNat_ofNat (Or.inl (by omega))
    simp only [encode, decode, List.map_cons, List.map_map] at ih ⊢
    rw [ih, hchar]
    simp

theorem decode_injective {a b : List UInt8} (h : decode a = decode b) : a = b := by
  rw [← encode_decode a, h, encode_decode]

theorem decode_encode {text : List Char} (h : ∀ c ∈ text, c.toNat ≤ 0xFF)
    : decode (encode text) = text := by
  induction text with
  | nil => rfl
  | cons c rest ih =>
    have hc : c.toNat < 256 := by
      have := h c (by simp)
      omega
    have hrest := ih fun d hd => h d (by simp [hd])
    simp only [encode, decode, List.map_cons, List.map_map] at hrest ⊢
    rw [hrest, UInt8.toNat_ofNat_of_lt' hc, Char.ofNat_toNat]

end RequestFile.Text.Latin1
