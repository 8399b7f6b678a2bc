import RequestFile.CommandLine.Options
import RequestFile.FileSystem
import RequestFile.Settings

/-!
This module contains the commands of the command line, their options, and the ways in which their use
can go wrong.
-/

namespace RequestFile.CommandLine

inductive Command where
  | parse
  | placeholders
  | render
  deriving DecidableEq, Repr

namespace Command

def all : List Command := [parse, placeholders, render]

def name : Command → String
  | parse => "parse"
  | placeholders => "placeholders"
  | render => "render"

def ofName? (name : String) : Option Command :=
  all.find? fun command => command.name == name

end Command

def helpOption : OptionSpec := ⟨"--help", none, false⟩

def formatOption : OptionSpec := ⟨"--format", none, true⟩

def variableOption : OptionSpec := ⟨"--var", some 'v', true⟩

def logLevelOption : OptionSpec := ⟨"--log-level", none, true⟩

def sharedOptions : List OptionSpec := [logLevelOption, helpOption]

namespace Command

def options : Command → List OptionSpec
  | parse => [formatOption, helpOption]
  | placeholders => [helpOption]
  | render => [variableOption, formatOption, helpOption]

end Command

inductive Misuse where
  | option (fault : OptionFault)
  | missingCommand
  | unknownCommand (name : String)
  | missingPath
  | missingFile (path : String)
  | isDirectory (path : String)
  | badVariable (text : String)
  | badFormat (name : String)
  | extraArguments (arguments : List String)
  deriving DecidableEq, Repr

namespace Misuse

def message : Misuse → String
  | option fault => fault.message
  | missingCommand => "Missing command."
  | unknownCommand name =>
    "No such command " ++ Text.Quoted.text name ++ "."
      ++ suggestion (Text.similar (Command.all.map Command.name) name)
  | missingPath => "Missing argument 'REQUEST_PATH'."
  | missingFile path =>
    "Invalid value for 'REQUEST_PATH': File " ++ Text.Quoted.text path ++ " does not exist."
  | isDirectory path =>
    "Invalid value for 'REQUEST_PATH': File " ++ Text.Quoted.text path ++ " is a directory."
  | badVariable text =>
    "Invalid value for '-v' / '--var': expected NAME=VALUE, got " ++ Text.Quoted.text text
  | badFormat name =>
    "Invalid value for '--format': " ++ Text.Quoted.text name ++ " is not one of 'yaml', 'json'."
  | extraArguments arguments =>
    "Got unexpected extra argument" ++ (if arguments.length = 1 then "" else "s") ++ " ("
      ++ String.intercalate " " arguments ++ ")"

def showsUsage : Misuse → Bool
  | option (.valueMissing _) | option (.valueUnexpected _) => false
  | _ => true

end Misuse

end RequestFile.CommandLine
