import RequestFile.Text.Digits
import RequestFile.Text.Printable

/-!
This module contains quoted texts and quoted bytes, as messages show them: between quotation marks,
with a backslash before what would be misread and escapes for what cannot be seen.
-/

namespace RequestFile.Text.Quoted

def mark (text : List Char) : Char :=
  if '\'' ∈ text ∧ '"' ∉ text then '"' else '\''

def numbered (c : Char) : List Char :=
  let n := c.toNat
  if n ≤ 0xFF then '\\' :: 'x' :: hexadecimal 2 n
  else if n ≤ 0xFFFF then '\\' :: 'u' :: hexadecimal 4 n
  else '\\' :: 'U' :: hexadecimal 8 n

def escapeChar (mark c : Char) : List Char :=
  if c = mark ∨ c = '\\' then ['\\', c]
  else if c = '\t' then ['\\', 't']
  else if c = '\n' then ['\\', 'n']
  else if c = '\r' then ['\\', 'r']
  else if isPrintable c then [c]
  else numbered c

def encode (text : List Char) : List Char :=
  let mark := mark text
  mark :: text.flatMap (escapeChar mark) ++ [mark]

def escapeByte (mark : Char) (byte : UInt8) : List Char :=
  -- Of the bytes from 0x80 on none is shown as it is, although some are printable as characters.
  if byte.toNat < 0x80 then
    escapeChar mark (Char.ofNat byte.toNat)
  else
    '\\' :: 'x' :: hexadecimal 2 byte.toNat

def encodeBytes (bytes : List UInt8) : List Char :=
  let mark := mark (bytes.map fun byte => Char.ofNat byte.toNat)
  'b' :: mark :: bytes.flatMap (escapeByte mark) ++ [mark]

def text (s : String) : String :=
  String.ofList (encode s.toList)

def bytes (bs : List UInt8) : String :=
  String.ofList (encodeBytes bs)

end RequestFile.Text.Quoted
