import RequestFile.CommandLine.Arguments
import RequestFile.Document.Reading
import RequestFile.Placeholder.Discovery
import RequestFile.Placeholder.Rendering
import RequestFile.Request.Data
import RequestFile.Text.Terminal
import RequestFile.Yaml

/-!
This module contains the command line as a function: from the files, the environment and the
arguments to what is printed, the exit code and the events that are logged.
-/

namespace RequestFile

namespace OutputFormat

def print (format : OutputFormat) (r : Request) : String :=
  match format with
  | yaml => Yaml.print r.toJson
  | json => Json.print r.toJson

def dump (format : OutputFormat) (r : Request) : Except Decimal.Overlong String :=
  if r.toJson.hasOverlong then .error ⟨⟩ else .ok (format.print r)

end OutputFormat

namespace CommandLine

inductive Diagnostic where
  | event (e : Log.Event)
  | warning (text : String)
  deriving DecidableEq, Repr

namespace Diagnostic

def event? : Diagnostic → Option Log.Event
  | event e => some e
  | warning _ => none

def warning? : Diagnostic → Option String
  | event _ => none
  | warning text => some text

def isWritten (least : Nat) : Diagnostic → Bool
  | event e => least ≤ e.level.severity
  | warning _ => true

def line : Diagnostic → String
  | event e => e.toJson.printInline ++ "\n"
  | warning text => text ++ "\n"

end Diagnostic

def diagnosticsOf (warnings : List String) : List Note → List Diagnostic
  | [] => []
  | .logged event :: rest => .event event :: diagnosticsOf warnings rest
  -- Settings are read once, so only the first note of them brings the warnings.
  | .settingsRead :: rest => warnings.map .warning ++ diagnosticsOf [] rest

structure Outcome where
  exitCode : Nat
  stdout : String
  diagnostics : List Diagnostic
  message : String
  crash : Option Crash
  deriving DecidableEq, Repr

namespace Outcome

def events (o : Outcome) : List Log.Event :=
  o.diagnostics.filterMap Diagnostic.event?

def stderr (o : Outcome) : String :=
  String.join ((o.diagnostics.filterMap Diagnostic.warning?).map (· ++ "\n")) ++ o.message

/--
All that goes to the standard error in its order, without the times of events.
-/
def standardError (o : Outcome) : String :=
  String.join (o.diagnostics.map Diagnostic.line) ++ o.message

end Outcome

structure Surroundings where
  files : FileSystem
  env : List (String × String)

namespace Surroundings

def settingsFile (s : Surroundings) : Option (List UInt8) :=
  (s.files ".env").toOption

def settings (s : Surroundings) : Report Settings :=
  Report.settings (Settings.read s.env s.settingsFile)

end Surroundings

def requestOf (files : FileSystem) (path : String) : Except Stop Request :=
  match Document.ofFile files path with
  -- Integers with too many digits, to be read or to be written, are not explained to the user.
  | .error .overlong => .error (.crashed .overlongInteger)
  | .error e => .error (.failed (Path.normalize path ++ ": " ++ e.message))
  | .ok d => d.toRequest.mapError fun _ => .crashed .overlongInteger

def loadRequest (s : Surroundings) (path : String) : Report Request := do
  let shown := Path.normalize path
  Report.log (.loadingRequest shown)
  let r ← Report.ofExcept (requestOf s.files path)
  Report.log (.requestLoaded shown r.method r.url)
  return r

def formatFor (s : Surroundings) : Option OutputFormat → Report OutputFormat
  | some format => return format
  | none => Settings.outputFormat <$> s.settings

def printRequest (s : Surroundings) (format : Option OutputFormat) (r : Request) :
    Report Unit := do
  let format ← formatFor s format
  match format.dump r with
  | .error _ => Report.stop (.crashed .overlongInteger)
  | .ok text => Report.print text

def listing (catalog : Placeholder.Catalog) : List String :=
  if catalog.entries.isEmpty then
    ["No placeholders found."]
  else
    catalog.entries.map fun (name, locations) =>
      name ++ ": " ++ String.intercalate ", " (locations.map Placeholder.Location.text)

def renderingStop (e : RenderError) : Stop :=
  match e with
  | .unreadableHeader .. | .invalidHeader .. => .failed e.message
  | .notAForm key kind => .crashed (.catalogMismatch key kind)

namespace Command

def execute (s : Surroundings) (command : Command) (args : Arguments) : Report Unit := do
  let r ← loadRequest s args.path
  match command with
  | parse => printRequest s args.format r
  | placeholders => (listing r.catalog).forM Report.print
  | render =>
    let values := Fields.ofList args.assignments
    let missing := r.catalog.names.filter fun name => (Fields.get? name values).isNone
    if !missing.isEmpty then
      Report.log (.placeholdersUnresolved missing)
    match r.render r.catalog values with
    | .error e => Report.stop (renderingStop e)
    | .ok rendered =>
      Report.log (.requestRendered r.catalog.size args.assignments.length)
      printRequest s args.format rendered

def run (s : Surroundings) (command : Command) (args : List String) : Report Unit := do
  let given ←
    match Given.read command.options true args with
    | .ok given => pure given
    | .error fault => Report.stop (.misused (some command) (.option fault))
  if !(given.values helpOption.name).isEmpty then
    Report.stop (.explained (some command))
  else
    command.execute s (← Report.ofExcept (Arguments.check s.files command given))

end Command

def readShared (args : List String) : Report Given :=
  match Given.read sharedOptions false args with
  | .error fault => Report.stop (.misused none (.option fault))
  | .ok given =>
    if (given.values helpOption.name).isEmpty then return given else Report.stop (.explained none)

def logLevel (s : Surroundings) (given : Given) : Report String :=
  match (given.values logLevelOption.name).getLast? with
  -- Settings are asked for only where they are needed, and an empty name counts as none.
  | none | some "" => Settings.logLevel <$> s.settings
  | some level => return level

/--
Read the arguments before a command, the name of the command, and the least severity that is logged.
What follows the name of the command is left. A name that looks like an option is first tried as one.
-/
def prepare (s : Surroundings) (args : List String) : Report (Nat × Command × List String) := do
  if args.isEmpty then
    Report.stop .unexplained
  else
    let given ← readShared args
    match given.arguments with
    | [] => Report.stop (.misused none .missingCommand)
    | name :: rest =>
      match Command.ofName? name with
      | none =>
        -- Behind two dashes the name may still look like an option.
        if "-".toList.isPrefixOf name.toList then
          let _ ← readShared (name :: rest)
        Report.stop (.misused none (.unknownCommand name))
      | some command =>
        match Log.threshold (← logLevel s given) with
        | .error name => Report.stop (.crashed (.reservedLevel name))
        | .ok least => return (least, command, rest)

def usage : Option Command → String
  | none => "Usage: main [OPTIONS] COMMAND [ARGS]..."
  | some command => "Usage: main " ++ command.name ++ " [OPTIONS] REQUEST_PATH"

def explanation (command : Option Command) : String :=
  let format := "  --format [yaml|json]  Output format.\n"
  let help := "  --help                Show this message and exit."
  let (text, options) :=
    match command with
    | none =>
      ("rede — inspect and render TOML HTTP request files.",
        "  --log-level TEXT      Log level (defaults to REDE_LOG_LEVEL or WARNING).\n" ++ help
          ++ "\n\nCommands: " ++ String.intercalate ", " (Command.all.map Command.name))
    | some .parse => ("Parse and validate a request file, then print it.", format ++ help)
    | some .placeholders =>
      ("List the placeholders found in a request file and where they occur.", help)
    | some .render =>
      ("Substitute placeholder values into a request file and print the result.",
        "  -v, --var NAME=VALUE  Placeholder value; repeatable, last one wins.\n" ++ format ++ help)
  usage command ++ "\n\n  " ++ text ++ "\n\nOptions:\n" ++ options

open Text (printedLine)

def outcomeOf (ending : List String × Except Stop Unit) : Outcome :=
  let printed := String.join (ending.1.map printedLine)
  match ending.2 with
  | .ok () => ⟨0, printed, [], "", none⟩
  | .error (.explained command) => ⟨0, printed ++ printedLine (explanation command), [], "", none⟩
  | .error .unexplained => ⟨2, printed, [], printedLine (explanation none), none⟩
  | .error (.misused command misuse) =>
    let hint := "Try 'main" ++ ((command.map fun c => " " ++ c.name).getD "") ++ " --help' for help."
    let shown :=
      if misuse.showsUsage then printedLine (usage command ++ "\n" ++ hint ++ "\n") else ""
    ⟨2, printed, [], shown ++ printedLine ("Error: " ++ misuse.message), none⟩
  | .error (.failed message) => ⟨1, printed, [], printedLine ("Error: " ++ message), none⟩
  | .error (.crashed crash) => ⟨1, printed, [], "", some crash⟩

def run (s : Surroundings) (args : List String) : Outcome :=
  let prepared := prepare s args
  -- Nothing is logged before the level is known.
  let least := (prepared.result.toOption.map Prod.fst).getD 0
  let report := prepared >>= fun (_, command, rest) => command.run s rest
  let diagnostics := diagnosticsOf (Settings.warnings s.settingsFile) report.notes
  { outcomeOf report.ending with diagnostics := diagnostics.filter (Diagnostic.isWritten least) }

end CommandLine

end RequestFile
