import RequestFile.Text.Digits

/-!
This module contains UTF-8: an encoder for characters and a strict decoder that names the first run
of bytes that is not part of any encoding, its position and what is wrong with it.
-/

namespace RequestFile.Text.Utf8

def encodeChar (c : Char) : List UInt8 :=
  let n := c.toNat
  if n < 0x80 then
    [UInt8.ofNat n]
  else if n < 0x800 then
    [UInt8.ofNat (0xC0 + n / 0x40), UInt8.ofNat (0x80 + n % 0x40)]
  else if n < 0x10000 then
    [UInt8.ofNat (0xE0 + n / 0x1000), UInt8.ofNat (0x80 + n / 0x40 % 0x40),
      UInt8.ofNat (0x80 + n % 0x40)]
  else
    [UInt8.ofNat (0xF0 + n / 0x40000), UInt8.ofNat (0x80 + n / 0x1000 % 0x40),
      UInt8.ofNat (0x80 + n / 0x40 % 0x40), UInt8.ofNat (0x80 + n % 0x40)]

def encode (text : List Char) : List UInt8 :=
  text.flatMap encodeChar

inductive Fault where
  | start
  | continuation
  | ending
  deriving DecidableEq, Repr

structure DecodeError where
  position : Nat
  run : List UInt8
  fault : Fault
  deriving DecidableEq, Repr

structure Lead where
  following : Nat
  lower : Nat
  upper : Nat
  bits : Nat
  deriving DecidableEq, Repr

def lead? (byte : UInt8) : Option Lead :=
  let n := byte.toNat
  -- The bounds on the second byte leave out longer encodings of smaller numbers, surrogates and
  -- numbers above U+10FFFF.
  if n < 0x80 then some ⟨0, 0x80, 0xBF, n⟩
  else if n < 0xC2 then none
  else if n < 0xE0 then some ⟨1, 0x80, 0xBF, n - 0xC0⟩
  else if n = 0xE0 then some ⟨2, 0xA0, 0xBF, 0⟩
  else if n = 0xED then some ⟨2, 0x80, 0x9F, 0x0D⟩
  else if n < 0xF0 then some ⟨2, 0x80, 0xBF, n - 0xE0⟩
  else if n = 0xF0 then some ⟨3, 0x90, 0xBF, 0⟩
  else if n < 0xF4 then some ⟨3, 0x80, 0xBF, n - 0xF0⟩
  else if n = 0xF4 then some ⟨3, 0x80, 0x8F, 4⟩
  else none

def decodeFrom (position : Nat) : List UInt8 → Except DecodeError (List Char)
  | [] => .ok []
  | b₀ :: rest =>
    match lead? b₀ with
    | none => .error ⟨position, [b₀], .start⟩
    | some lead =>
      match lead.following, rest with
      | 0, rest => (decodeFrom (position + 1) rest).map (Char.ofNat lead.bits :: ·)
      | _, [] => .error ⟨position, [b₀], .ending⟩
      -- The bounds of the lead byte hold for the second byte only. A byte that does not continue
      -- the run is no part of it.
      | 1, b₁ :: rest =>
        if !inside lead b₁ then .error ⟨position, [b₀], .continuation⟩
        else (decodeFrom (position + 2) rest).map (char lead [b₁] :: ·)
      | 2, b₁ :: rest =>
        if !inside lead b₁ then .error ⟨position, [b₀], .continuation⟩
        else match rest with
        | [] => .error ⟨position, [b₀, b₁], .ending⟩
        | b₂ :: rest =>
          if !continues b₂ then .error ⟨position, [b₀, b₁], .continuation⟩
          else (decodeFrom (position + 3) rest).map (char lead [b₁, b₂] :: ·)
      | _, b₁ :: rest =>
        if !inside lead b₁ then .error ⟨position, [b₀], .continuation⟩
        else match rest with
        | [] => .error ⟨position, [b₀, b₁], .ending⟩
        | b₂ :: rest =>
          if !continues b₂ then .error ⟨position, [b₀, b₁], .continuation⟩
          else match rest with
          | [] => .error ⟨position, [b₀, b₁, b₂], .ending⟩
          | b₃ :: rest =>
            if !continues b₃ then .error ⟨position, [b₀, b₁, b₂], .continuation⟩
            else (decodeFrom (position + 4) rest).map (char lead [b₁, b₂, b₃] :: ·)
where
  inside (lead : Lead) (byte : UInt8) : Bool :=
    lead.lower ≤ byte.toNat && byte.toNat ≤ lead.upper
  continues (byte : UInt8) : Bool :=
    0x80 ≤ byte.toNat && byte.toNat ≤ 0xBF
  char (lead : Lead) (bytes : List UInt8) : Char :=
    Char.ofNat (bytes.foldl (fun n byte => n * 0x40 + byte.toNat % 0x40) lead.bits)

def decode (bytes : List UInt8) : Except DecodeError (List Char) :=
  decodeFrom 0 bytes

def Fault.message : Fault → String
  | .start => "invalid start byte"
  | .continuation => "invalid continuation byte"
  | .ending => "unexpected end of data"

def DecodeError.message (e : DecodeError) : String :=
  let place :=
    match e.run with
    | [byte] =>
      "byte 0x" ++ String.ofList (hexadecimal 2 byte.toNat) ++ " in position " ++ toString e.position
    | run =>
      "bytes in position " ++ toString e.position ++ "-" ++ toString (e.position + run.length - 1)
  "'utf-8' codec can't decode " ++ place ++ ": " ++ e.fault.message

end RequestFile.Text.Utf8
