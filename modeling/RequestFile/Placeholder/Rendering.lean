import RequestFile.Grammar
import RequestFile.Placeholder.Catalog
import RequestFile.Placeholder.Template
import RequestFile.Request
import RequestFile.Text.Lowercase
import RequestFile.Text.Replace

/-!
This module contains rendering: the values of placeholders are put into a request, one pass for each
place of each name in the order of a catalog. A pass searches the text that the passes before it left,
so a value that looks like a placeholder is replaced by a later pass.
-/

namespace RequestFile

inductive RenderError where
  | unreadableHeader (name : String) (value : List UInt8)
  | invalidHeader (name : String) (value : String)
  | notAForm (key : String) (kind : String)
  deriving DecidableEq, Repr

namespace RenderError

def message : RenderError → String
  | unreadableHeader name value =>
    "failed to convert header to string: " ++ name ++ " " ++ Text.Quoted.bytes value
  | invalidHeader name value =>
    "rendered header value is invalid: " ++ name ++ " " ++ Text.Quoted.text value
  | notAForm key kind =>
    "form field " ++ Text.Quoted.text key ++ " cannot be rendered into a " ++ kind ++ " body"

def header? : RenderError → Option String
  | unreadableHeader name _ | invalidHeader name _ => some name
  | notAForm _ _ => none

end RenderError

structure Pass where
  location : Placeholder.Location
  pattern : String
  value : String
  deriving DecidableEq, Repr

namespace Pass

def apply (p : Pass) (text : String) : String :=
  Text.replaceString p.pattern p.value text

def applyHeader (p : Pass) (name : String) (h : Header) : Except RenderError Header :=
  -- Both checks are made even if the pattern does not occur.
  if !Grammar.isFieldValue h.valueText then
    .error (.unreadableHeader name h.value)
  else
    let rendered := Text.replace p.pattern.toList p.value.toList h.valueText
    if !Grammar.isFieldValue rendered then
      .error (.invalidHeader name (String.ofList rendered))
    else
      .ok { h with value := Text.Latin1.encode rendered }

def applyHeaders (p : Pass) (name : String) : List Header → Except RenderError (List Header)
  | [] => .ok []
  | h :: rest =>
    if Text.sameIgnoringCase h.nameText name.toList then
      (p.applyHeader name h).map (· :: rest)
    else
      (p.applyHeaders name rest).map (h :: ·)

def applyFormData (p : Pass) (key : String) (fields : Fields FormPart) : Fields FormPart :=
  Fields.modify key (FormPart.mapContent p.apply) fields

def applyFormUrlencoded (p : Pass) (key : String) (fields : Fields String) : Fields String :=
  Fields.modify key p.apply fields

def applyForm (p : Pass) (key : String) : Body → Except RenderError Body
  | .formData fields => .ok (.formData (p.applyFormData key fields))
  | .formUrlencoded fields => .ok (.formUrlencoded (p.applyFormUrlencoded key fields))
  | body => .error (.notAForm key body.kind)

def applyRequest (p : Pass) (r : Request) : Except RenderError Request :=
  match p.location with
  | .url => .ok { r with url := p.apply r.url }
  | .header name => (p.applyHeaders name r.headers).map fun headers => { r with headers }
  | .query key => .ok { r with queryParams := Fields.modify key p.apply r.queryParams }
  | .form key => (p.applyForm key r.body).map fun body => { r with body }
  | .body => .ok r

end Pass

namespace Placeholder.Catalog

def passes (values : Fields String) (catalog : Catalog) : List Pass :=
  catalog.entries.flatMap fun (name, locations) =>
    match Fields.get? name values with
    | none => []
    | some value => locations.map fun location => ⟨location, tokenOf name, value⟩

end Placeholder.Catalog

namespace Request

def render (catalog : Placeholder.Catalog) (values : Fields String) (r : Request) :
    Except RenderError Request :=
  (catalog.passes values).foldlM (fun r p => p.applyRequest r) r

end Request

end RequestFile
