import RequestFile.CommandLine

/-!
This module contains what runs of the command line end in, stage by stage: what is printed, and the result
or the reason why there is none. What is noted on the way is left out, because it has no influence on it.
All stages before the last one are silent.
-/

namespace RequestFile.CommandLine

namespace Report

variable {α β : Type}

@[simp]
theorem printed_pure (x : α) : (Pure.pure x : Report α).printed = [] := rfl

@[simp]
theorem printed_ofExcept (result : Except Stop α) : (ofExcept result).printed = [] := rfl

@[simp]
theorem printed_stop (reason : Stop) : (stop reason : Report α).printed = [] := rfl

@[simp]
theorem printed_log (event : Log.Event) : (log event).printed = [] := rfl

@[simp]
theorem printed_settings (read : Except SettingsError Settings) : (settings read).printed = [] := rfl

def andThen (result : Except Stop α) (next : α → List String × Except Stop β) :
    List String × Except Stop β :=
  match result with
  | .error stop => ([], .error stop)
  | .ok x => next x

@[simp]
theorem andThen_ok (x : α) (next : α → List String × Except Stop β)
    : andThen (.ok x) next = next x := rfl

theorem ending_bind {report : Report α} {next : α → Report β} (h : report.printed = [])
    : (report >>= next).ending = andThen report.result fun x => (next x).ending := by
  obtain ⟨notes, printed, result⟩ := report
  dsimp only at h
  subst h
  cases result <;> rfl

/--
A stage that does no more than prepare: it prints nothing, and whatever it stops over, it is not that a
catalog does not fit a request.
-/
structure IsPreparatory (report : Report α) : Prop where
  silent : report.printed = []
  noMismatch : ∀ key kind, report.result ≠ .error (.crashed (.catalogMismatch key kind))

@[simp]
theorem isPreparatory_pure (x : α) : (Pure.pure x : Report α).IsPreparatory := by
  constructor <;> simp

@[simp]
theorem isPreparatory_log (event : Log.Event) : (log event).IsPreparatory := by
  constructor <;> simp

@[simp]
theorem isPreparatory_settings (read : Except SettingsError Settings)
    : (settings read).IsPreparatory := by
  constructor <;> simp [Except.mapError_eq_error_iff]

theorem isPreparatory_stop {reason : Stop}
    (h : ∀ key kind, reason ≠ .crashed (.catalogMismatch key kind))
    : (stop reason : Report α).IsPreparatory := by
  constructor <;> simp [h]

theorem IsPreparatory.bind {report : Report α} {next : α → Report β} (h : report.IsPreparatory)
    (hnext : ∀ x, report.result = .ok x → (next x).IsPreparatory)
    : (report >>= next).IsPreparatory := by
  obtain ⟨notes, printed, result⟩ := report
  obtain ⟨hsilent, hmismatch⟩ := h
  dsimp only at hsilent hmismatch
  subst hsilent
  cases result with
  | error stop =>
    refine ⟨rfl, fun key kind heq => hmismatch key kind ?_⟩
    rw [show stop = .crashed (.catalogMismatch key kind) from Except.error.inj heq]
  | ok x =>
    have hx := hnext x rfl
    exact ⟨hx.silent, hx.noMismatch⟩

theorem ending_forM_print (texts : List String) : (texts.forM print).ending = (texts, .ok ()) := by
  induction texts with
  | nil => rfl
  | cons text rest ih =>
    have hprinted : (rest.forM print).printed = rest := congrArg Prod.fst ih
    have hresult : (rest.forM print).result = .ok () := congrArg Prod.snd ih
    show (text :: (rest.forM print).printed, (rest.forM print).result) = (text :: rest, .ok ())
    rw [hprinted, hresult]

end Report

open Report

variable {s : Surroundings}

theorem stop_of_mapError_misused {α : Type} {command : Command} {x : Except Misuse α} {stop : Stop}
    (h : x.mapError (Stop.misused (some command)) = .error stop)
    : ∃ misuse, stop = .misused (some command) misuse := by
  obtain ⟨misuse, -, rfl⟩ := Except.mapError_eq_error_iff.mp h
  exact ⟨misuse, rfl⟩

theorem stop_of_checkPath {files : FileSystem} {command : Command} {given : Given} {stop : Stop}
    (h : Arguments.checkPath files command given = .error stop)
    : (∃ misuse, stop = .misused (some command) misuse) ∨ stop = .crashed .nullInPath := by
  unfold Arguments.checkPath at h
  split at h
  · cases h
    exact .inl ⟨_, rfl⟩
  · split at h
    · cases h
      exact .inr rfl
    · cases h
      exact .inl ⟨_, rfl⟩
    · cases h
      exact .inl ⟨_, rfl⟩
    · split at h
      · cases h
      · cases h
        exact .inl ⟨_, rfl⟩

theorem stop_of_check {files : FileSystem} {command : Command} {given : Given} {stop : Stop}
    (h : Arguments.check files command given = .error stop)
    : (∃ misuse, stop = .misused (some command) misuse) ∨ stop = .crashed .nullInPath := by
  unfold Arguments.check at h
  dsimp only at h
  -- The two orders of the options differ in nothing that matters here.
  split at h
  all_goals
    simp only [Except.bind_eq_error_iff] at h
    rcases h with h | ⟨_, _, h | ⟨_, _, h | ⟨_, _, h⟩⟩⟩
    · exact .inl (stop_of_mapError_misused h)
    · exact .inl (stop_of_mapError_misused h)
    · exact stop_of_checkPath h
    · cases h

theorem isPreparatory_readShared (args : List String) : (readShared args).IsPreparatory := by
  unfold readShared
  split
  · exact isPreparatory_stop (by simp)
  · split
    · exact isPreparatory_pure _
    · exact isPreparatory_stop (by simp)

theorem isPreparatory_settingsRead : s.settings.IsPreparatory :=
  isPreparatory_settings _

theorem isPreparatory_logLevel (given : Given) : (logLevel s given).IsPreparatory := by
  unfold logLevel
  split
  · exact .bind isPreparatory_settingsRead fun _ _ => isPreparatory_pure _
  · exact .bind isPreparatory_settingsRead fun _ _ => isPreparatory_pure _
  · exact isPreparatory_pure _

theorem isPreparatory_prepare (args : List String) : (prepare s args).IsPreparatory := by
  unfold prepare
  split
  · exact isPreparatory_stop (by simp)
  · apply IsPreparatory.bind (isPreparatory_readShared args)
    intro given _
    split
    · exact isPreparatory_stop (by simp)
    · next name rest _ =>
      split
      · split
        · apply IsPreparatory.bind (isPreparatory_readShared (name :: rest))
          exact fun _ _ => isPreparatory_stop (by simp)
        · exact isPreparatory_stop (by simp)
      · apply IsPreparatory.bind (isPreparatory_logLevel given)
        intro level _
        split
        · exact isPreparatory_stop (by simp)
        · exact isPreparatory_pure _

theorem isPreparatory_check (command : Command) (given : Given)
    : (ofExcept (Arguments.check s.files command given)).IsPreparatory := by
  refine ⟨rfl, fun key kind heq => ?_⟩
  rcases stop_of_check heq with ⟨_, hmisused⟩ | hnull
  · cases hmisused
  · cases hnull

theorem requestOf_eq_ok_iff {files : FileSystem} {path : String} {r : Request}
    : requestOf files path = .ok r
        ↔
      ∃ d, Document.ofFile files path = .ok d ∧ d.toRequest = .ok r := by
  unfold requestOf
  split
  · next heq => simp [heq]
  · next heq => simp [heq]
  · next heq => simp [heq, Except.mapError_eq_ok_iff]

theorem isPreparatory_requestOf (path : String)
    : (ofExcept (requestOf s.files path)).IsPreparatory := by
  refine ⟨rfl, fun key kind heq => ?_⟩
  rw [result_ofExcept, requestOf] at heq
  split at heq
  · cases heq
  · cases heq
  · simp [Except.mapError_eq_error_iff] at heq

theorem isPreparatory_loadRequest (path : String) : (loadRequest s path).IsPreparatory := by
  unfold loadRequest
  apply IsPreparatory.bind (isPreparatory_log _)
  intro _ _
  apply IsPreparatory.bind (isPreparatory_requestOf path)
  intro r _
  exact .bind (isPreparatory_log _) fun _ _ => isPreparatory_pure _

theorem isPreparatory_formatFor (format : Option OutputFormat)
    : (formatFor s format).IsPreparatory := by
  cases format with
  | none => exact .bind isPreparatory_settingsRead fun _ _ => isPreparatory_pure _
  | some format => exact isPreparatory_pure _

theorem result_loadRequest (path : String)
    : (loadRequest s path).result = requestOf s.files path := by
  unfold loadRequest
  rw [result_bind, result_log, Except.ok_bind, result_bind, result_ofExcept]
  cases requestOf s.files path with
  | error stop => rfl
  | ok r => rfl

theorem ending_loadRequest_bind {α : Type} (path : String) (next : Request → Report α)
    : (loadRequest s path >>= next).ending
        =
      andThen (requestOf s.files path) fun r => (next r).ending := by
  rw [ending_bind (isPreparatory_loadRequest path).silent, result_loadRequest]

theorem ending_printRequest (format : Option OutputFormat) (r : Request)
    : (printRequest s format r).ending
        =
      andThen (formatFor s format).result fun format =>
        match format.dump r with
        | .error _ => ([], .error (.crashed .overlongInteger))
        | .ok text => ([text], .ok ()) := by
  unfold printRequest
  rw [ending_bind (isPreparatory_formatFor format).silent]
  congr 1
  funext format
  cases format.dump r <;> rfl

theorem ending_execute_parse (args : Arguments)
    : (Command.parse.execute s args).ending
        =
      andThen (requestOf s.files args.path) fun r => (printRequest s args.format r).ending :=
  ending_loadRequest_bind _ _

theorem ending_execute_placeholders (args : Arguments)
    : (Command.placeholders.execute s args).ending
        =
      andThen (requestOf s.files args.path) fun r => (listing r.catalog, .ok ()) := by
  simp only [← ending_forM_print]
  exact ending_loadRequest_bind _ _

theorem ending_execute_render (args : Arguments)
    : (Command.render.execute s args).ending
        =
      andThen (requestOf s.files args.path) fun r =>
        match r.render r.catalog (Fields.ofList args.assignments) with
        | .error e => ([], .error (renderingStop e))
        | .ok rendered => (printRequest s args.format rendered).ending := by
  unfold Command.execute
  rw [ending_loadRequest_bind]
  congr 1
  funext r
  have hrest
      : (match r.render r.catalog (Fields.ofList args.assignments) with
        | .error e => stop (renderingStop e)
        | .ok rendered => do
          log (.requestRendered r.catalog.size args.assignments.length)
          printRequest s args.format rendered).ending
          =
        match r.render r.catalog (Fields.ofList args.assignments) with
        | .error e => ([], .error (renderingStop e))
        | .ok rendered => (printRequest s args.format rendered).ending := by
    cases r.render r.catalog (Fields.ofList args.assignments) with
    | error e => rfl
    | ok rendered => exact ending_bind rfl
  dsimp only
  split
  · rw [ending_bind (printed_log _)]
    exact hrest
  · exact hrest

theorem ending_run (command : Command) (args : List String)
    : (command.run s args).ending
        =
      match Given.read command.options true args with
      | .error fault => ([], .error (.misused (some command) (.option fault)))
      | .ok given =>
        if given.values helpOption.name = [] then
          andThen (Arguments.check s.files command given) fun args => (command.execute s args).ending
        else
          ([], .error (.explained (some command))) := by
  unfold Command.run
  cases Given.read command.options true args with
  | error fault => rfl
  | ok given =>
    rw [ending_bind (printed_pure given), result_pure, andThen_ok]
    dsimp only
    by_cases hhelp : given.values helpOption.name = []
    · rw [if_pos hhelp, if_neg (by simp [hhelp]), ending_bind (printed_ofExcept _)]
      rfl
    · rw [if_neg hhelp, if_pos (by simp [hhelp])]
      rfl

def runEnding (s : Surroundings) (line : List String) : List String × Except Stop Unit :=
  (prepare s line >>= fun (_, command, rest) => command.run s rest).ending

theorem runEnding_eq (line : List String)
    : runEnding s line
        =
      andThen (prepare s line).result fun (_, command, rest) => (command.run s rest).ending :=
  ending_bind (isPreparatory_prepare line).silent

theorem run_eq_outcomeOf (s : Surroundings) (line : List String)
    : (run s line).exitCode = (outcomeOf (runEnding s line)).exitCode
        ∧ (run s line).stdout = (outcomeOf (runEnding s line)).stdout
        ∧ (run s line).crash = (outcomeOf (runEnding s line)).crash
        ∧ ∃ warnings, (run s line).stderr = warnings ++ (outcomeOf (runEnding s line)).message :=
  ⟨rfl, rfl, rfl, _, rfl⟩

theorem crash_outcomeOf_iff {ending : List String × Except Stop Unit} {crash : Crash}
    : (outcomeOf ending).crash = some crash ↔ ending.2 = .error (.crashed crash) := by
  obtain ⟨printed, result⟩ := ending
  cases result with
  | ok => simp [outcomeOf]
  | error stop => cases stop <;> simp [outcomeOf]

def PrintsLast (ending : List String × Except Stop Unit) : Prop :=
  ∀ stop, ending.2 = .error stop → ending.1 = []

theorem printsLast_error (stop : Stop) : PrintsLast ([], .error stop) :=
  fun _ _ => rfl

theorem printsLast_ok (printed : List String) : PrintsLast (printed, .ok ()) := by
  simp [PrintsLast]

theorem printsLast_andThen {α : Type} {result : Except Stop α}
    {next : α → List String × Except Stop Unit} (h : ∀ x, result = .ok x → PrintsLast (next x))
    : PrintsLast (andThen result next) := by
  cases result with
  | error stop => exact printsLast_error stop
  | ok x => exact h x rfl

theorem printsLast_printRequest (format : Option OutputFormat) (r : Request)
    : PrintsLast (printRequest s format r).ending := by
  rw [ending_printRequest]
  apply printsLast_andThen
  intro format _
  split
  · exact printsLast_error _
  · exact printsLast_ok _

theorem printsLast_execute (command : Command) (args : Arguments)
    : PrintsLast (command.execute s args).ending := by
  -- Each command has done all that can fail before it prints anything.
  cases command with
  | parse =>
    rw [ending_execute_parse]
    exact printsLast_andThen fun r _ => printsLast_printRequest args.format r
  | placeholders =>
    rw [ending_execute_placeholders]
    exact printsLast_andThen fun r _ => printsLast_ok _
  | render =>
    rw [ending_execute_render]
    apply printsLast_andThen
    intro r _
    split
    · exact printsLast_error _
    · exact printsLast_printRequest _ _

theorem printsLast_run (command : Command) (args : List String)
    : PrintsLast (command.run s args).ending := by
  rw [ending_run]
  split
  · exact printsLast_error _
  · split
    · exact printsLast_andThen fun args _ => printsLast_execute command args
    · exact printsLast_error _

theorem printsLast_runEnding (line : List String) : PrintsLast (runEnding s line) := by
  rw [runEnding_eq]
  exact printsLast_andThen fun x _ => printsLast_run x.2.1 x.2.2

theorem stdout_of_exitCode {line : List String} (h : (run s line).exitCode ≠ 0)
    : (run s line).stdout = "" := by
  have hprints := printsLast_runEnding (s := s) line
  obtain ⟨hexit, hstdout, _⟩ := run_eq_outcomeOf s line
  rw [hexit] at h
  rw [hstdout]
  generalize runEnding s line = ending at h hprints
  obtain ⟨printed, result⟩ := ending
  cases result with
  | ok => exact absurd rfl h
  | error stop =>
    obtain rfl : printed = [] := hprints stop rfl
    -- The texts that belong to a stop go to the standard output with the exit code of success only.
    cases stop with
    | explained command => exact absurd rfl h
    | _ => rfl

end RequestFile.CommandLine
