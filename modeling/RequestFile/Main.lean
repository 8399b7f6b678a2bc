import RequestFile.CommandLine

/-!
This module contains the program: it reads the files that the arguments can lead to, runs the command
line, and writes what the run leaves behind.
-/

namespace RequestFile.Main

def readFile (path : String) : IO (Except FileFault (List UInt8)) := do
  if let some fault := Path.fault? path then
    return .error fault
  try
    let bytes ← IO.FS.readBinFile path
    return .ok bytes.toList
  catch
    | .invalidArgument _ 36 _ => return .error .tooLong
    | .inappropriateType _ 21 _ => return .error .isDirectory
    | .inappropriateType .. => return .error .notDirectory
    | _ => return .error .missing

def readFiles (paths : List String) : IO FileSystem := do
  let paths := (paths ++ paths.map Path.normalize).eraseDups
  let contents ← paths.mapM fun path => return (path, ← readFile path)
  return fun path => (contents.lookup path).getD (.error .missing)

def readEnv : IO (List (String × String)) := do
  let names := ["rede_log_level", "rede_output_format", "REDE_LOG_LEVEL", "REDE_OUTPUT_FORMAT"]
  names.filterMapM fun name => return (← IO.getEnv name).map fun value => (name, value)

def describe : CommandLine.Crash → String
  | .settings e => "invalid settings: " ++ e.message
  | .reservedLevel _ => "not a log level"
  | .nullInPath => FileFault.nullInPath.message ""
  | .overlongInteger => ParseError.overlong.message
  | .catalogMismatch key kind => (RenderError.notAForm key kind).message

end RequestFile.Main

def main (args : List String) : IO UInt32 := do
  let files ← RequestFile.Main.readFiles (".env" :: args)
  let env ← RequestFile.Main.readEnv
  let outcome := RequestFile.CommandLine.run ⟨files, env⟩ args
  IO.eprint outcome.standardError
  if let some crash := outcome.crash then
    IO.eprintln (RequestFile.Main.describe crash)
  IO.print outcome.stdout
  return UInt32.ofNat outcome.exitCode
