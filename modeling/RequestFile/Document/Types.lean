import RequestFile.Document.Basic

/-!
This module contains the types that query parameters and form fields may have: primitive values and
flat arrays of them.
-/

namespace RequestFile.Document

structure InvalidType where
  field : String
  kind : String
  deriving DecidableEq, Repr

namespace InvalidType

def message (e : InvalidType) : String :=
  "invalid type `" ++ e.kind ++ "` in " ++ e.field

end InvalidType

def offender? (v : Value) : Option Value :=
  v.items.find? fun item => !item.isPrimitive

def checkFlat (field : String) (v : Value) : Except InvalidType Unit :=
  match offender? v with
  | none => .ok ()
  | some item => .error ⟨field, item.kind⟩

def flatSites (d : Document) : List (String × Value) :=
  (d.queryParams.getD []).map (fun (_, v) => ("params of [query_params]", v))
    ++ (d.body.formUrlencoded.getD []).map (fun (_, v) => ("fields of [body.form_urlencoded]", v))
    ++ (d.body.formData.getD []).filterMap fun (_, field) =>
      field.text.map fun v => ("text of [body.form_data]", v)

def checkTypes (d : Document) : Except InvalidType Unit :=
  d.flatSites.forM fun (field, v) => checkFlat field v

end RequestFile.Document
