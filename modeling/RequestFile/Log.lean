import RequestFile.Json
import RequestFile.Text.Uppercase

/-!
This module contains log events, their levels, and the level from which on events are written.
-/

namespace RequestFile.Log

inductive Level where
  | debug
  | info
  | warning
  | error
  | critical
  deriving DecidableEq, Repr

namespace Level

def all : List Level := [debug, info, warning, error, critical]

def name : Level → String
  | debug => "debug"
  | info => "info"
  | warning => "warning"
  | error => "error"
  | critical => "critical"

def severity : Level → Nat
  | debug => 10
  | info => 20
  | warning => 30
  | error => 40
  | critical => 50

end Level

inductive ReservedName where
  | basicFormat
  | styles
  deriving DecidableEq, Repr

/--
The least severity that is written under a configured name. Names are compared in upper case, and a
name that nothing is known about stands for warnings. Two names are refused because they stand for
something else.
-/
def threshold (configured : String) : Except ReservedName Nat :=
  match Text.uppercaseString configured with
  | "NOTSET" => .ok 0
  | "DEBUG" => .ok 10
  | "INFO" => .ok 20
  | "WARNING" | "WARN" => .ok 30
  | "ERROR" => .ok 40
  | "CRITICAL" | "FATAL" => .ok 50
  | "BASIC_FORMAT" => .error .basicFormat
  | "_STYLES" => .error .styles
  | _ => .ok 30

def levelsFrom (least : Nat) : List Level :=
  Level.all.filter fun level => least ≤ level.severity

inductive Event where
  | loadingRequest (path : String)
  | requestLoaded (path method url : String)
  | placeholdersUnresolved (names : List String)
  | requestRendered (placeholders values : Nat)
  deriving DecidableEq, Repr

namespace Event

def level : Event → Level
  | loadingRequest _ => .debug
  | requestLoaded .. => .info
  | placeholdersUnresolved _ => .warning
  | requestRendered .. => .info

def toJson (event : Event) : Json :=
  let members :=
    match event with
    | loadingRequest path => [("path", .text path), ("event", .text "loading_request")]
    | requestLoaded path method url =>
      [("path", .text path), ("method", .text method), ("url", .text url),
        ("event", .text "request_loaded")]
    | placeholdersUnresolved names =>
      [("names", .array (names.map .text)), ("event", .text "placeholders_unresolved")]
    | requestRendered placeholders values =>
      [("placeholders", .integer placeholders), ("values", .integer values),
        ("event", .text "request_rendered")]
  -- The time of the event is left out.
  .object (members ++ [("level", .text event.level.name)])

end Event

end RequestFile.Log
