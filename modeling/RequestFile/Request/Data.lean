import RequestFile.Json
import RequestFile.Request

/-!
This module contains the plain data of a request, as it is printed.
-/

namespace RequestFile

namespace Value

mutual

def toJson : Value → Json
  | text s => .text s
  | integer n => .integer n
  | float x => if x.isFinite then .float x else .null
  | boolean b => .boolean b
  | dateTime t => .text t.interchangeText
  | date d => .text d.text
  | time t => .text t.text
  | array items => .array (toJsonItems items)
  | table entries => .object (toJsonMembers entries)
  | null => .null

def toJsonItems : List Value → List Json
  | [] => []
  | v :: rest => toJson v :: toJsonItems rest

def toJsonMembers : List (String × Value) → List (String × Json)
  | [] => []
  | (key, v) :: rest => (key, toJson v) :: toJsonMembers rest

end

end Value

namespace FormPart

def toJson : FormPart → Json
  | text value => .object [("value", .text value)]
  | file path => .object [("path", .text path)]

end FormPart

namespace Body

def toJson (body : Body) : Json :=
  let members :=
    match body with
    | empty => []
    | raw content mime => [("content", .text content), ("mime", .text mime)]
    | binary path mime => [("path", .text path), ("mime", .text mime)]
    | formData fields => [("fields", .object (Fields.mapValues FormPart.toJson fields))]
    | formUrlencoded fields => [("fields", .object (Fields.mapValues Json.text fields))]
  .object (("kind", .text body.kind) :: members)

end Body

namespace Request

def toJson (r : Request) : Json :=
  .object [
    ("method", .text r.method),
    ("url", .text r.url),
    ("http_version", .text r.httpVersion),
    ("metadata", .object (Value.toJsonMembers r.metadata)),
    ("headers", .array (r.headers.map fun h =>
      .array [.text (String.ofList h.nameText), .text (String.ofList h.valueText)])),
    ("query_params", .array (r.queryParams.map fun (key, value) =>
      .array [.text key, .text value])),
    ("variables", .object (Value.toJsonMembers r.vars)),
    ("body", r.body.toJson)]

end Request

end RequestFile
