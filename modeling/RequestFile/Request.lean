import RequestFile.Text.Latin1
import RequestFile.Value

/-!
This module contains requests: what is sent, apart from placeholders that are still in it. The names
and values of headers are bytes; all other texts are characters.
-/

namespace RequestFile

structure Header where
  name : List UInt8
  value : List UInt8
  deriving DecidableEq, Repr

namespace Header

def nameText (h : Header) : List Char :=
  Text.Latin1.decode h.name

def valueText (h : Header) : List Char :=
  Text.Latin1.decode h.value

def ofText (name value : String) : Header :=
  ⟨Text.Latin1.encode name.toList, Text.Latin1.encode value.toList⟩

end Header

inductive FormPart where
  | text (value : String)
  | file (path : String)
  deriving DecidableEq, Repr

namespace FormPart

def content : FormPart → String
  | text value => value
  | file path => path

def mapContent (f : String → String) : FormPart → FormPart
  | text value => text (f value)
  | file path => file (f path)

end FormPart

inductive Body where
  | empty
  | raw (content mime : String)
  | binary (path mime : String)
  | formData (fields : Fields FormPart)
  | formUrlencoded (fields : Fields String)
  deriving DecidableEq, Repr

namespace Body

def rawMime : String := "text/plain; charset=utf-8"

def binaryMime : String := "application/octet-stream"

def kind : Body → String
  | empty => "none"
  | raw .. => "raw"
  | binary .. => "binary"
  | formData _ => "form_data"
  | formUrlencoded _ => "form_urlencoded"

end Body

structure Request where
  method : String
  url : String
  httpVersion : String
  metadata : Fields Value
  headers : List Header
  queryParams : List (String × String)
  vars : Fields Value
  body : Body

namespace Request

def defaultVersion : String := "HTTP/1.1"

end Request

end RequestFile
