import RequestFile.CommandLine.Report

/-!
This module contains the arguments of a command after they have been checked. The options are checked
in the order in which they are first given, and the path behind them.
-/

namespace RequestFile.CommandLine

def assignment? (text : String) : Option (String × String) :=
  let chars := text.toList
  let name := chars.takeWhile (· != '=')
  match chars.dropWhile (· != '=') with
  | _ :: value => if name.isEmpty then none else some (String.ofList name, String.ofList value)
  | [] => none

structure Arguments where
  path : String
  format : Option OutputFormat
  assignments : List (String × String)
  deriving DecidableEq, Repr

namespace Arguments

def checkFormat (given : Given) : Except Misuse (Option OutputFormat) :=
  match (given.values formatOption.name).getLast? with
  | none => .ok none
  | some name =>
    match OutputFormat.ofName? name with
    | some format => .ok (some format)
    | none => .error (.badFormat name)

def checkAssignments (given : Given) : Except Misuse (List (String × String)) :=
  (given.values variableOption.name).mapM fun text =>
    match assignment? text with
    | some entry => .ok entry
    | none => .error (.badVariable text)

def checkPath (files : FileSystem) (command : Command) (given : Given) : Except Stop String :=
  let misused (misuse : Misuse) : Stop := .misused (some command) misuse
  match given.arguments with
  | [] => .error (misused .missingPath)
  | path :: rest =>
    match files path with
    | .error .nullInPath => .error (.crashed .nullInPath)
    | .error .isDirectory => .error (misused (.isDirectory path))
    | .error _ => .error (misused (.missingFile path))
    | .ok _ => if rest.isEmpty then .ok path else .error (misused (.extraArguments rest))

def check (files : FileSystem) (command : Command) (given : Given) : Except Stop Arguments := do
  let formatOf := (checkFormat given).mapError (Stop.misused (some command))
  let assignmentsOf := (checkAssignments given).mapError (Stop.misused (some command))
  let formatFirst := (given.options.head?.map Prod.fst) == some formatOption.name
  if formatFirst then
    let format ← formatOf
    let assignments ← assignmentsOf
    return ⟨← checkPath files command given, format, assignments⟩
  else
    let assignments ← assignmentsOf
    let format ← formatOf
    return ⟨← checkPath files command given, format, assignments⟩

end Arguments

end RequestFile.CommandLine
