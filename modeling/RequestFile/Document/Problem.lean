import RequestFile.Checked
import RequestFile.Document.Basic

/-!
This module contains the problems that a document can have, and their wording.
-/

namespace RequestFile.Document

inductive Cause where
  | missing
  | notText
  | notTable
  | notHttpTable
  | notBodyTable
  | notFormFieldTable
  | unknownVersion
  | badMethod (method : String)
  | badHeaderName (name : String)
  | badHeaderValue (name value : String)
  | unknownKey
  | severalBodies (kinds : List String)
  | notOneOfTextAndFile
  deriving DecidableEq, Repr

structure Problem where
  path : List String
  cause : Cause
  deriving DecidableEq, Repr

namespace Cause

def message : Cause → String
  | missing => "Field required"
  | notText => "Input should be a valid string"
  | notTable => "Input should be a valid dictionary"
  | notHttpTable => "Input should be a valid dictionary or instance of Http"
  | notBodyTable => "Input should be a valid dictionary or instance of Body"
  | notFormFieldTable => "Input should be a valid dictionary or instance of FormDataValue"
  | unknownVersion =>
    "Input should be 'HTTP/0.9', 'HTTP/1.0', 'HTTP/1.1', 'HTTP/2' or 'HTTP/3'"
  | badMethod method => "invalid HTTP method " ++ Text.Quoted.text method
  | badHeaderName name => "invalid header name " ++ Text.Quoted.text name
  | badHeaderValue name value =>
    "invalid value for header " ++ name ++ ": " ++ Text.Quoted.text value
  | unknownKey => "Extra inputs are not permitted"
  | severalBodies kinds =>
    "more than one body type given (" ++ String.intercalate ", " kinds
      ++ "); wanted exactly one of " ++ String.intercalate ", " Body.kinds
  | notOneOfTextAndFile => "wanted exactly one of text, file"

end Cause

namespace Problem

def message (p : Problem) : String :=
  let place := String.intercalate "." p.path
  match p.cause with
  | .missing =>
    let table := p.path.dropLast
    "missing field `" ++ p.path.getLast?.getD "" ++ "`"
      ++ (if table.isEmpty then "" else " in [" ++ String.intercalate "." table ++ "]")
  | cause => if p.path.isEmpty then cause.message else place ++ ": " ++ cause.message

end Problem

def fail {α : Type} (path : List String) (cause : Cause) : Checked Problem α :=
  .error [⟨path, cause⟩]

end RequestFile.Document
