import RequestFile.Request
import RequestFile.Text.Lowercase
import RequestFile.Text.Utf8

/-!
This module contains the look-up of headers by name. The bytes of all headers of a request are read
in one encoding, the narrowest one that fits all of them.
-/

namespace RequestFile

inductive HeaderEncoding where
  | ascii
  | utf8
  | latin1
  deriving DecidableEq, Repr

namespace HeaderEncoding

def ofHeaders (headers : List Header) : HeaderEncoding :=
  let all := headers.flatMap fun h => [h.name, h.value]
  if all.all (·.all (·.toNat < 0x80)) then ascii
  else if all.all (fun bytes => (Text.Utf8.decode bytes).isOk) then utf8
  else latin1

def decode (encoding : HeaderEncoding) (bytes : List UInt8) : List Char :=
  match encoding with
  | utf8 => (Text.Utf8.decode bytes).toOption.getD []
  -- ASCII is a part of Latin-1.
  | _ => Text.Latin1.decode bytes

def encode? (encoding : HeaderEncoding) (text : List Char) : Option (List UInt8) :=
  match encoding with
  | ascii => if text.all (·.toNat < 0x80) then some (Text.Latin1.encode text) else none
  | utf8 => some (Text.Utf8.encode text)
  | latin1 => Text.Latin1.encode? text

end HeaderEncoding

namespace Request

def lowercaseBytes (bytes : List UInt8) : List UInt8 :=
  bytes.map fun byte => if 0x41 ≤ byte.toNat && byte.toNat ≤ 0x5A then byte + 0x20 else byte

def headerValues? (name : String) (r : Request) : Option (List String) :=
  let encoding := HeaderEncoding.ofHeaders r.headers
  (encoding.encode? (Text.lowercase name.toList)).map fun wanted =>
    (r.headers.filter fun h => lowercaseBytes h.name == wanted).map fun h =>
      String.ofList (encoding.decode h.value)

def joinedValues (values : List String) : Option String :=
  if values.isEmpty then none else some (String.intercalate ", " values)

end Request

end RequestFile
