import RequestFile.Value

/-!
This module contains request documents: the parts of a request as a file spells them, before the
values of query parameters and form fields are made into texts.
-/

namespace RequestFile

inductive HttpVersion where
  | http09
  | http10
  | http11
  | http2
  | http3
  deriving DecidableEq, Repr

namespace HttpVersion

def text : HttpVersion → String
  | http09 => "HTTP/0.9"
  | http10 => "HTTP/1.0"
  | http11 => "HTTP/1.1"
  | http2 => "HTTP/2"
  | http3 => "HTTP/3"

def all : List HttpVersion := [http09, http10, http11, http2, http3]

def ofText? (s : String) : Option HttpVersion :=
  all.find? fun version => version.text == s

end HttpVersion

namespace Document

structure Http where
  url : String
  method : String
  version : HttpVersion
  deriving DecidableEq, Repr

structure FormField where
  text : Option Value
  file : Option String

structure Body where
  raw : Option String
  binary : Option String
  formData : Option (Fields FormField)
  formUrlencoded : Option (Fields Value)

namespace Body

def empty : Body := ⟨none, none, none, none⟩

def kinds : List String := ["raw", "binary", "form_data", "form_urlencoded"]

def present (body : Body) : List String :=
  (if body.raw.isSome then ["raw"] else [])
    ++ (if body.binary.isSome then ["binary"] else [])
    ++ (if body.formData.isSome then ["form_data"] else [])
    ++ (if body.formUrlencoded.isSome then ["form_urlencoded"] else [])

end Body

end Document

structure Document where
  http : Document.Http
  queryParams : Option (Fields Value)
  headers : Fields String
  metadata : Fields Value
  vars : Fields Value
  body : Document.Body

end RequestFile
