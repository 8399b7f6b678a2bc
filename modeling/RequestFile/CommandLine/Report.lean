import RequestFile.CommandLine.Command
import RequestFile.Log

/-!
This module contains the reports of runs: what was noted on the way, what was printed so far, and either
a result or the reason why there is none. All of it only ever accumulates.
-/

namespace RequestFile.CommandLine

inductive Crash where
  | settings (e : SettingsError)
  | reservedLevel (name : Log.ReservedName)
  | nullInPath
  | overlongInteger
  | catalogMismatch (key kind : String)
  deriving DecidableEq, Repr

inductive Stop where
  | explained (command : Option Command)
  | unexplained
  | misused (command : Option Command) (misuse : Misuse)
  | failed (message : String)
  | crashed (crash : Crash)
  deriving DecidableEq, Repr

inductive Note where
  | logged (event : Log.Event)
  | settingsRead
  deriving DecidableEq, Repr

structure Report (α : Type) where
  notes : List Note
  printed : List String
  result : Except Stop α

namespace Report

variable {α β : Type}

def pure (x : α) : Report α := ⟨[], [], .ok x⟩

def bind (report : Report α) (next : α → Report β) : Report β :=
  match report.result with
  | .error stop => ⟨report.notes, report.printed, .error stop⟩
  | .ok x =>
    let rest := next x
    ⟨report.notes ++ rest.notes, report.printed ++ rest.printed, rest.result⟩

instance : Monad Report where
  pure := pure
  bind := bind

def ofExcept (result : Except Stop α) : Report α := ⟨[], [], result⟩

def stop (reason : Stop) : Report α := ofExcept (.error reason)

def log (event : Log.Event) : Report Unit := ⟨[.logged event], [], .ok ()⟩

def print (text : String) : Report Unit := ⟨[], [text], .ok ()⟩

def settings (read : Except SettingsError Settings) : Report Settings :=
  ⟨[.settingsRead], [], read.mapError fun e => .crashed (.settings e)⟩

def ending (report : Report α) : List String × Except Stop α :=
  (report.printed, report.result)

@[simp]
theorem result_pure (x : α) : (Pure.pure x : Report α).result = .ok x := rfl

@[simp]
theorem result_bind (report : Report α) (next : α → Report β) :
    (report >>= next).result = report.result >>= fun x => (next x).result := by
  obtain ⟨notes, printed, result⟩ := report
  cases result <;> rfl

@[simp]
theorem result_ofExcept (result : Except Stop α) : (ofExcept result).result = result := rfl

@[simp]
theorem result_stop (reason : Stop) : (stop reason : Report α).result = .error reason := rfl

@[simp]
theorem result_log (event : Log.Event) : (log event).result = .ok () := rfl

@[simp]
theorem result_settings (read : Except SettingsError Settings) :
    (settings read).result = read.mapError fun e => .crashed (.settings e) := rfl

end Report

end RequestFile.CommandLine
