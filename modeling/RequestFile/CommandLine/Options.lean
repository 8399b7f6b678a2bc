import RequestFile.Text.Quoted
import RequestFile.Text.Similarity

/-!
This module contains the reading of command line arguments: options with their values, in the order
in which they are given, and the arguments that are left.
-/

namespace RequestFile.CommandLine

structure OptionSpec where
  name : String
  letter : Option Char
  hasValue : Bool
  deriving DecidableEq, Repr

inductive OptionFault where
  | unknown (name : String) (similar : List String)
  | valueMissing (name : String)
  | valueUnexpected (name : String)
  deriving DecidableEq, Repr

structure Given where
  options : List (String × String)
  arguments : List String
  deriving DecidableEq, Repr

namespace Given

def withOption (spec : OptionSpec) (value : String) (given : Given) : Given :=
  { given with options := (spec.name, value) :: given.options }

def values (name : String) (given : Given) : List String :=
  (given.options.filter fun entry => entry.1 == name).map Prod.snd

end Given

def splitValue (option : String) : String × Option String :=
  let chars := option.toList
  let name := String.ofList (chars.takeWhile (· != '='))
  match chars.dropWhile (· != '=') with
  | _ :: value => (name, some (String.ofList value))
  | [] => (name, none)

/--
Read arguments. Two dashes alone end the options; with `interspersed`, options may also stand behind
other arguments. A single dash is no option.
-/
def Given.read (specs : List OptionSpec) (interspersed : Bool) :
    List String → Except OptionFault Given
  | [] => .ok ⟨[], []⟩
  | arg :: rest =>
    if arg = "--" then
      .ok ⟨[], rest⟩
    else
      match arg.toList with
      | '-' :: '-' :: _ =>
        let (name, attached) := splitValue arg
        match specs.find? fun spec => spec.name == name with
        | none => .error (.unknown name (Text.similar (specs.map OptionSpec.name) name))
        | some spec =>
          if !spec.hasValue then
            if attached.isSome then .error (.valueUnexpected name)
            else (read specs interspersed rest).map (withOption spec "")
          else
            match attached, rest with
            | some value, rest => (read specs interspersed rest).map (withOption spec value)
            | none, value :: rest => (read specs interspersed rest).map (withOption spec value)
            | none, [] => .error (.valueMissing name)
      | '-' :: letter :: attached =>
        let name := String.ofList ['-', letter]
        match specs.find? fun spec => spec.letter == some letter with
        | none => .error (.unknown name [])
        | some spec =>
          match attached, rest with
          | _ :: _, rest =>
            (read specs interspersed rest).map (withOption spec (String.ofList attached))
          | [], value :: rest => (read specs interspersed rest).map (withOption spec value)
          | [], [] => .error (.valueMissing name)
      | _ =>
        if interspersed then
          (read specs interspersed rest).map fun given =>
            { given with arguments := arg :: given.arguments }
        else
          .ok ⟨[], arg :: rest⟩

def suggestion (names : List String) : String :=
  match names.map Text.Quoted.text with
  | [] => ""
  | [name] => " Did you mean " ++ name ++ "?"
  | names => " (Did you mean one of: " ++ String.intercalate ", " names ++ "?)"

namespace OptionFault

def message : OptionFault → String
  | unknown name similar => "No such option " ++ Text.Quoted.text name ++ "." ++ suggestion similar
  | valueMissing name => "Option " ++ Text.Quoted.text name ++ " requires an argument."
  | valueUnexpected name => "Option " ++ Text.Quoted.text name ++ " does not take a value."

end OptionFault

end RequestFile.CommandLine
