import RequestFile.Checked
import RequestFile.Request

/-!
This module contains the validation of requests that are given as plain data: which members there
have to be and of which kinds. Nothing is converted from one kind to another, and members that
nothing is known about are ignored.
-/

namespace RequestFile

inductive FlawKind where
  | missing
  | notText
  | notTable
  | notList
  | notPair
  | longPair (length : Nat)
  | notAscii (position : Nat) (run : List Char)
  | wrongPartCount (count : Nat)
  | notFieldTable (expected : String)
  | notBodyTable
  | untaggedBody
  | unknownBody (tag : String)
  | notRequestTable
  deriving DecidableEq, Repr

namespace FlawKind

def name : FlawKind → String
  | missing => "missing"
  | notText => "string_type"
  | notTable => "dict_type"
  | notList => "list_type"
  | notPair => "tuple_type"
  | longPair _ => "too_long"
  | notAscii _ _ | wrongPartCount _ => "value_error"
  | notFieldTable _ | notRequestTable => "model_type"
  | notBodyTable => "model_attributes_type"
  | untaggedBody => "union_tag_not_found"
  | unknownBody _ => "union_tag_invalid"

def message : FlawKind → String
  | missing => "Field required"
  | notText => "Input should be a valid string"
  | notTable => "Input should be a valid dictionary"
  | notList => "Input should be a valid list"
  | notPair => "Input should be a valid tuple"
  | longPair length =>
    "Tuple should have at most 2 items after validation, not " ++ toString length
  | notAscii position run =>
    let place :=
      match run with
      | [c] =>
        "character '" ++ String.ofList (Text.Quoted.numbered c) ++ "' in position "
          ++ toString position
      | run => "characters in position " ++ toString position ++ "-"
          ++ toString (position + run.length - 1)
    "Value error, 'ascii' codec can't encode " ++ place ++ ": ordinal not in range(128)"
  | wrongPartCount count =>
    if count < 2 then
      "Value error, not enough values to unpack (expected 2, got " ++ toString count ++ ")"
    else
      "Value error, too many values to unpack (expected 2)"
  | notFieldTable expected => "Input should be a valid dictionary or instance of " ++ expected
  | notBodyTable => "Input should be a valid dictionary or object to extract fields from"
  | untaggedBody => "Unable to extract tag using discriminator 'kind'"
  | unknownBody tag =>
    "Input tag '" ++ tag ++ "' found using 'kind' does not match any of the expected tags: "
      ++ "'none', 'raw', 'binary', 'form_data', 'form_urlencoded'"
  | notRequestTable => "Input should be a valid dictionary or instance of Request"

end FlawKind

structure Flaw where
  path : List String
  kind : FlawKind
  deriving DecidableEq, Repr

inductive HeaderFault where
  | noParts
  | nameNotText
  | valueNotText
  deriving DecidableEq, Repr

namespace Request

def flaw {α : Type} (path : List String) (kind : FlawKind) : Checked Flaw α :=
  .error [⟨path, kind⟩]

def checkText (path : List String) : Value → Checked Flaw String
  | .text s => .ok s
  | _ => flaw path .notText

def checkRequired (path : List String) (key : String) (table : Fields Value) :
    Checked Flaw String :=
  match Fields.get? key table with
  | none => flaw (path ++ [key]) .missing
  | some v => checkText (path ++ [key]) v

def checkDefault (path : List String) (key default : String) (table : Fields Value) :
    Checked Flaw String :=
  match Fields.get? key table with
  | none => .ok default
  | some v => checkText (path ++ [key]) v

def checkTable (key : String) (table : Fields Value) : Checked Flaw (Fields Value) :=
  match Fields.get? key table with
  | none => .ok []
  | some (.table entries) => .ok entries
  | some _ => flaw [key] .notTable

def parts? : Value → Option (List Value)
  | .array items => some items
  | .text s => some (s.toList.map fun c => .text (String.singleton c))
  | .table entries => some ((Fields.keys entries).map .text)
  | _ => none

def asciiBytes (s : String) : Checked Flaw (List UInt8) :=
  let isAscii := fun (c : Char) => c.toNat < 0x80
  let before := s.toList.takeWhile isAscii
  match (s.toList.dropWhile isAscii).takeWhile (fun c => !isAscii c) with
  | [] => .ok (Text.Latin1.encode s.toList)
  | run => flaw ["headers"] (.notAscii before.length run)

def checkHeader (name value : Value) : Except HeaderFault (Checked Flaw Header) :=
  match name with
  | .text name =>
    match asciiBytes name with
    | .error flaws => .ok (.error flaws)
    | .ok name =>
      match value with
      | .text value => .ok ((asciiBytes value).map fun value => ⟨name, value⟩)
      | _ => .error .valueNotText
  | _ => .error .nameNotText

def checkHeaderList : List Value → Except HeaderFault (Checked Flaw (List Header))
  | [] => .ok (.ok [])
  | v :: rest =>
    match parts? v with
    | none => .error .noParts
    | some [name, value] =>
      match checkHeader name value with
      | .error fault => .error fault
      -- The headers after a flaw are not looked at, so what would be a fault there is none.
      | .ok (.error flaws) => .ok (.error flaws)
      | .ok (.ok h) => (checkHeaderList rest).map fun checked => checked.map (h :: ·)
    | some parts => .ok (flaw ["headers"] (.wrongPartCount parts.length))

def checkHeaders (table : Fields Value) : Except HeaderFault (Checked Flaw (List Header)) :=
  match Fields.get? "headers" table with
  | none | some .null => .ok (.ok [])
  | some (.table entries) =>
    checkHeaderList (entries.map fun (name, value) => .array [.text name, value])
  | some v =>
    match parts? v with
    | none => .error .noParts
    | some parts => checkHeaderList parts

def checkQueryParam (path : List String) : Value → Checked Flaw (String × String)
  | .array [] =>
    Checked.both (flaw (path ++ ["0"]) .missing) (flaw (path ++ ["1"]) .missing)
  | .array [key] =>
    Checked.both (checkText (path ++ ["0"]) key) (flaw (path ++ ["1"]) .missing)
  | .array [key, value] =>
    Checked.both (checkText (path ++ ["0"]) key) (checkText (path ++ ["1"]) value)
  -- If there are too many items nothing else is reported.
  | .array items => flaw path (.longPair items.length)
  | _ => flaw path .notPair

def checkQueryParams (table : Fields Value) : Checked Flaw (List (String × String)) :=
  match Fields.get? "query_params" table with
  | none => .ok []
  | some (.array items) =>
    Checked.each (fun (v, index) => checkQueryParam ["query_params", toString index] v)
      items.zipIdx
  | some _ => flaw ["query_params"] .notList

def checkPart (path : List String) (expected key : String) : Value → Checked Flaw String
  | .table entries => checkRequired (path ++ [expected]) key entries
  | _ => flaw (path ++ [expected]) (.notFieldTable expected)

def checkFormPart (path : List String) (v : Value) : Checked Flaw FormPart :=
  match checkPart path "FormText" "value" v with
  | .ok value => .ok (.text value)
  | .error flaws =>
    match checkPart path "FormFile" "path" v with
    | .ok filePath => .ok (.file filePath)
    -- What is neither text nor file has the flaws of both readings.
    | .error more => .error (flaws ++ more)

def checkFields {α : Type} (path : List String) (check : List String → Value → Checked Flaw α)
    (table : Fields Value) : Checked Flaw (Fields α) :=
  match Fields.get? "fields" table with
  | none => flaw (path ++ ["fields"]) .missing
  | some (.table entries) =>
    Checked.each
      (fun (key, v) => (check (path ++ ["fields", key]) v).map fun x => (key, x)) entries
  | some _ => flaw (path ++ ["fields"]) .notTable

def checkBodyOf (kind : String) (table : Fields Value) : Checked Flaw Body :=
  let path := ["body", kind]
  match kind with
  | "none" => .ok .empty
  | "raw" =>
    (Checked.both (checkRequired path "content" table)
      (checkDefault path "mime" Body.rawMime table)).map fun (content, mime) => .raw content mime
  | "binary" =>
    (Checked.both (checkRequired path "path" table)
      (checkDefault path "mime" Body.binaryMime table)).map fun (path, mime) => .binary path mime
  | "form_data" => (checkFields path checkFormPart table).map .formData
  | "form_urlencoded" => (checkFields path checkText table).map .formUrlencoded
  | tag => flaw ["body"] (.unknownBody tag)

def shownTag (v : Value) : String :=
  match v.literal, v with
  | .ok text, _ => text
  | .error _, .array _ => "<unprintable list object>"
  | .error _, .table _ => "<unprintable dict object>"
  | .error _, _ => "<unprintable int object>"

def checkBody (table : Fields Value) : Checked Flaw Body :=
  match Fields.get? "body" table with
  | none => .ok .empty
  | some (.table entries) =>
    match Fields.get? "kind" entries with
    | none => flaw ["body"] .untaggedBody
    | some (.text kind) => checkBodyOf kind entries
    | some v => flaw ["body"] (.unknownBody (shownTag v))
  | some _ => flaw ["body"] .notBodyTable

def ofValue : Value → Except HeaderFault (Checked Flaw Request)
  | .table table => do
    let headers ← checkHeaders table
    return (Checked.both (checkRequired [] "method" table)
      (Checked.both (checkRequired [] "url" table)
        (Checked.both (checkDefault [] "http_version" defaultVersion table)
          (Checked.both (checkTable "metadata" table)
            (Checked.both headers
              (Checked.both (checkQueryParams table)
                (Checked.both (checkTable "variables" table) (checkBody table)))))))).map
      fun (method, url, httpVersion, metadata, headers, queryParams, vars, body) =>
        { method, url, httpVersion, metadata, headers, queryParams, vars, body }
  | _ => .ok (flaw [] .notRequestTable)

end Request

end RequestFile
