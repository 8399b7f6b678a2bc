import RequestFile.Settings.Assignments
import RequestFile.Text.Lowercase
import RequestFile.Text.Newline
import RequestFile.Text.Utf8

/-!
This module contains the settings of the command line. They come from the environment and from a file
of assignments, the environment first; names are compared without case.
-/

namespace RequestFile

inductive OutputFormat where
  | yaml
  | json
  deriving DecidableEq, Repr

namespace OutputFormat

def name : OutputFormat → String
  | yaml => "yaml"
  | json => "json"

def ofName? : String → Option OutputFormat
  | "yaml" => some yaml
  | "json" => some json
  | _ => none

end OutputFormat

structure Settings where
  logLevel : String
  outputFormat : OutputFormat
  deriving DecidableEq, Repr

inductive SettingsError where
  | undecodable
  | unknownFormat
  deriving DecidableEq, Repr

namespace SettingsError

def message : SettingsError → String
  | undecodable => "the file of assignments is not valid UTF-8"
  | unknownFormat => "Input should be 'yaml' or 'json'"

end SettingsError

namespace Settings

def default : Settings := ⟨"WARNING", .yaml⟩

def lowercaseNames {α : Type} (assignments : List (String × α)) : Fields α :=
  -- Of names that become one the last counts.
  Fields.ofList (assignments.map fun (name, value) =>
    (String.ofList (Text.lowercase name.toList), value))

def fileText (file : Option (List UInt8)) : Except SettingsError (List Char) :=
  match Text.Utf8.decode (file.getD []) with
  | .error _ => .error .undecodable
  -- The mark that may stand at the beginning is no part of the text.
  | .ok ('\ufeff' :: text) | .ok text => .ok (Text.universalLineEnds text)

def warnings (file : Option (List UInt8)) : List String :=
  match fileText file with
  | .error _ => []
  | .ok text => (Assignments.unreadableLines text).map fun number =>
    "python-dotenv could not parse statement starting at line " ++ toString number

def read (env : List (String × String)) (file : Option (List UInt8)) :
    Except SettingsError Settings :=
  match fileText file with
  | .error e => .error e
  | .ok text =>
    let assigned := lowercaseNames (Assignments.read env text)
    let fromEnv := lowercaseNames env
    -- A name without a value in the file counts as not assigned.
    let get? (name : String) : Option String :=
      match Fields.get? name fromEnv with
      | some value => some value
      | none => (Fields.get? name assigned).join
    let logLevel := (get? "rede_log_level").getD default.logLevel
    match get? "rede_output_format" with
    | none => .ok ⟨logLevel, default.outputFormat⟩
    | some name =>
      match OutputFormat.ofName? name with
      | some format => .ok ⟨logLevel, format⟩
      | none => .error .unknownFormat

end Settings

end RequestFile
