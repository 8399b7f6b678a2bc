import RequestFile.Document.Problem
import RequestFile.Grammar

/-!
This module contains the structure that a document has to have: which keys there are, under which
spellings, and which kinds of values stand at them. All problems are reported, in the order of the
fields as declared here; within a table in the order of the document.
-/

namespace RequestFile.Document

def queryParamsSpellings : List String := ["query_params", "queryparams", "query-params"]

namespace Body

def rawSpellings : List String := ["raw", "text"]

def binarySpellings : List String := ["binary", "file"]

def formDataSpellings : List String :=
  ["form_data", "form-data", "multipart_form_data", "multipart-form-data"]

def formUrlencodedSpellings : List String :=
  ["form_urlencoded", "form-urlencoded", "x-www-form-urlencoded"]

end Body

def findUnder? (spellings : List String) (table : Fields Value) : Option (String × Value) :=
  spellings.findSome? fun key => (Fields.get? key table).map fun v => (key, v)

def checkText (path : List String) : Value → Checked Problem String
  | .text s => .ok s
  | _ => fail path .notText

def checkTable (path : List String) (cause : Cause) : Value → Checked Problem (Fields Value)
  | .table entries => .ok entries
  | _ => fail path cause

def checkEntries {α : Type} (check : String → Value → Checked Problem α) :
    Fields Value → Checked Problem (Fields α) :=
  Checked.each fun (key, v) => (check key v).map fun x => (key, x)

def checkOptionalTable (key : String) (root : Fields Value) : Checked Problem (Fields Value) :=
  match Fields.get? key root with
  | none => .ok []
  | some v => checkTable [key] .notTable v

def checkOptional {α : Type} (path : List String) (check : List String → Value → Checked Problem α) :
    Option (String × Value) → Checked Problem (Option α)
  -- A null counts as missing.
  | none | some (_, .null) => .ok none
  | some (key, v) => (check (path ++ [key]) v).map some

def checkKnownKeys (path known : List String) (table : Fields Value) : Checked Problem Unit :=
  match (Fields.keys table).filter fun key => key ∉ known with
  | [] => .ok ()
  | unknown => .error (unknown.map fun key => ⟨path ++ [key], .unknownKey⟩)

namespace Http

def checkMethod (path : List String) (v : Value) : Checked Problem String := do
  let method ← checkText path v
  if Grammar.isToken method then
    return String.ofList (method.toList.map Char.toUpper)
  else
    fail path (.badMethod method)

def checkVersion (path : List String) : Value → Checked Problem HttpVersion
  | .text s =>
    match HttpVersion.ofText? s with
    | some version => .ok version
    | none => fail path .unknownVersion
  | _ => fail path .unknownVersion

def check (root : Fields Value) : Checked Problem Http :=
  match Fields.get? "http" root with
  | none => fail ["http"] .missing
  | some v => do
    let table ← checkTable ["http"] .notHttpTable v
    let url :=
      match Fields.get? "url" table with
      | none => fail ["http", "url"] .missing
      | some v => checkText ["http", "url"] v
    let method :=
      match Fields.get? "method" table with
      | none => .ok "GET"
      | some v => checkMethod ["http", "method"] v
    let version :=
      match Fields.get? "version" table with
      | none => .ok .http11
      | some v => checkVersion ["http", "version"] v
    let (url, method, version) ← Checked.both url (Checked.both method version)
    return ⟨url, method, version⟩

end Http

def checkQueryParams (root : Fields Value) : Checked Problem (Option (Fields Value)) :=
  match findUnder? queryParamsSpellings root with
  | none => .ok none
  | some (key, v) => (checkTable [key] .notTable v).map some

def headerCause? (name value : String) : Option Cause :=
  if !Grammar.isToken name then some (.badHeaderName name)
  else if !Grammar.isFieldValue value.toList then some (.badHeaderValue name value)
  else none

/--
Check the headers. Names and values are looked at only if all values are strings, and only the first
bad header is reported.
-/
def checkHeaders (root : Fields Value) : Checked Problem (Fields String) := do
  let table ← checkOptionalTable "headers" root
  let headers ← checkEntries (fun name => checkText ["headers", name]) table
  match headers.findSome? fun (name, value) => headerCause? name value with
  | none => return headers
  | some cause => fail ["headers"] cause

namespace FormField

def check (path : List String) (v : Value) : Checked Problem FormField := do
  let table ← checkTable path .notFormFieldTable v
  -- A text may be of any kind here: kinds are looked at when the whole structure is known to be fine.
  let text :=
    match Fields.get? "text" table with
    | none | some .null => none
    | some v => some v
  let file :=
    checkOptional path checkText ((Fields.get? "file" table).map fun v => ("file", v))
  let (file, _) ← Checked.both file (checkKnownKeys path ["text", "file"] table)
  if text.isSome = file.isSome then
    fail path .notOneOfTextAndFile
  else
    return ⟨text, file⟩

end FormField

namespace Body

def checkFormData (path : List String) (v : Value) : Checked Problem (Fields FormField) := do
  let table ← checkTable path .notTable v
  checkEntries (fun key => FormField.check (path ++ [key])) table

/--
Check the table `body`. Keys that no field took, a second spelling of a field among them, are
reported after the fields; that there are several bodies is reported only if nothing else is wrong.
-/
def check (path : List String) (v : Value) : Checked Problem Body := do
  let table ← checkTable path .notBodyTable v
  let raw := findUnder? rawSpellings table
  let binary := findUnder? binarySpellings table
  let formData := findUnder? formDataSpellings table
  let formUrlencoded := findUnder? formUrlencodedSpellings table
  -- A null takes its spelling although it counts as missing.
  let taken := [raw, binary, formData, formUrlencoded].filterMap fun entry => entry.map Prod.fst
  let (raw, binary, formData, formUrlencoded, _) ←
    Checked.both (checkOptional path checkText raw)
      (Checked.both (checkOptional path checkText binary)
        (Checked.both (checkOptional path checkFormData formData)
          (Checked.both
            (checkOptional path (fun path => checkTable path .notTable) formUrlencoded)
            (checkKnownKeys path taken table))))
  let body : Body := ⟨raw, binary, formData, formUrlencoded⟩
  if body.present.length > 1 then
    fail path (.severalBodies body.present)
  else
    return body

end Body

def checkBody (root : Fields Value) : Checked Problem Body :=
  match Fields.get? "body" root with
  | none => .ok .empty
  | some v => Body.check ["body"] v

def check (root : Fields Value) : Checked Problem Document := do
  let (http, queryParams, headers, metadata, vars, body) ←
    Checked.both (Http.check root)
      (Checked.both (checkQueryParams root)
        (Checked.both (checkHeaders root)
          (Checked.both (checkOptionalTable "metadata" root)
            (Checked.both (checkOptionalTable "variables" root) (checkBody root)))))
  return ⟨http, queryParams, headers, metadata, vars, body⟩

end RequestFile.Document
