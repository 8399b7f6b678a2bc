import RequestFile.Placeholder.Catalog
import RequestFile.Placeholder.Template
import RequestFile.Request

/-!
This module contains the discovery of the placeholders of a request: the texts of a request that are
searched, in order, and the catalog of the names in them.
-/

namespace RequestFile

namespace Body

def sites : Body → List (Placeholder.Location × String)
  | formData fields => fields.map fun (key, part) => (.form key, part.content)
  | formUrlencoded fields => fields.map fun (key, value) => (.form key, value)
  | raw content _ => [(.body, content)]
  -- The path of a file field is searched, the path of a binary body is not.
  | binary _ _ | empty => []

end Body

namespace Request

def sites (r : Request) : List (Placeholder.Location × String) :=
  (.url, r.url)
    :: r.headers.map (fun h => (.header (String.ofList h.nameText), String.ofList h.valueText))
    ++ r.queryParams.map (fun (key, value) => (.query key, value))
    ++ r.body.sites

def catalog (r : Request) : Placeholder.Catalog :=
  r.sites.foldl
    (fun catalog (location, text) => catalog.addAll location (Placeholder.namesOf text)) .empty

end Request

end RequestFile
