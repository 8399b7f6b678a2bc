import RequestFile.Document.Basic
import RequestFile.Request

/-!
This module contains the way from a document to a request: every value of a query parameter or form
field becomes one text. How the items of a value are written is left open up to the last definition.
-/

namespace RequestFile.Document

section

variable {ε : Type} (write : Value → Except ε String)

def flatText (v : Value) : Except ε String := do
  return String.intercalate "," (← v.items.mapM write)

def flatTexts (table : Fields Value) : Except ε (Fields String) :=
  Fields.mapValuesM (flatText write) table

def FormField.toPart (field : FormField) : Except ε FormPart :=
  -- A path wins over a text.
  match field.file with
  | some path => .ok (.file path)
  | none => do return .text (← flatText write (field.text.getD .null))

def Body.toRequestBody (body : Body) : Except ε RequestFile.Body :=
  match body.raw, body.binary, body.formData, body.formUrlencoded with
  | some content, _, _, _ => .ok (.raw content RequestFile.Body.rawMime)
  | none, some path, _, _ => .ok (.binary path RequestFile.Body.binaryMime)
  | none, none, some fields, _ => do
    return .formData (← Fields.mapValuesM (FormField.toPart write) fields)
  | none, none, none, some fields => do return .formUrlencoded (← flatTexts write fields)
  | none, none, none, none => .ok .empty

def toRequestWith (d : Document) : Except ε Request := do
  let queryParams ← flatTexts write (d.queryParams.getD [])
  let body ← d.body.toRequestBody write
  return {
    method := d.http.method
    url := d.http.url
    httpVersion := d.http.version.text
    metadata := d.metadata
    headers := d.headers.map fun (name, value) => Header.ofText name value
    queryParams
    vars := d.vars
    body }

end

def toRequest (d : Document) : Except Decimal.Overlong Request :=
  d.toRequestWith Value.itemText

end RequestFile.Document
