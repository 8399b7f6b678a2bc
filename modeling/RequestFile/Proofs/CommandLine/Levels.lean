import RequestFile.Proofs.CommandLine.Runs

/-!
This module contains what the name of the least level does that is logged. It decides which events are
written, and nothing else: a run prints the same and ends in the same way under all names that stand
for a level or for nothing at all.
-/

namespace RequestFile

namespace Log

def standardLevels : Fields Nat :=
  [("NOTSET", 0), ("DEBUG", 10), ("INFO", 20), ("WARNING", 30), ("WARN", 30), ("ERROR", 40),
    ("CRITICAL", 50), ("FATAL", 50)]

def leastOf (configured : String) : Nat :=
  (Fields.get? (Text.uppercaseString configured) standardLevels).getD Level.warning.severity

def IsReserved (configured : String) : Prop :=
  Text.uppercaseString configured ∈ ["BASIC_FORMAT", "_STYLES"]

instance (configured : String) : Decidable (IsReserved configured) :=
  inferInstanceAs (Decidable (_ ∈ _))

variable {configured : String}

theorem threshold_eq_ok (h : ¬ IsReserved configured)
    : threshold configured = .ok (leastOf configured) := by
  unfold IsReserved at h
  unfold threshold leastOf
  generalize Text.uppercaseString configured = name at h ⊢
  split
  case h_9 | h_10 => simp at h
  case h_11 =>
    have hnone : Fields.get? name standardLevels = none := by
      rw [Fields.get?_eq_none_iff]
      simp only [standardLevels, Fields.keys_cons, Fields.keys_nil, List.mem_cons, List.not_mem_nil,
        or_false, not_or]
      grind
    rw [hnone]
    rfl
  all_goals rfl

theorem leastOf_of_not_mem (h : Text.uppercaseString configured ∉ Fields.keys standardLevels)
    : leastOf configured = leastOf "WARNING" := by
  rw [leastOf, Fields.get?_eq_none_iff.mpr h]
  rfl

end Log

namespace CommandLine

/--
A line gives a name for the least level, and then runs a command with the arguments behind it. If
several names are given the last one counts.
-/
structure SelectsLevel (line : List String) (level : String) (command : Command)
    (rest : List String) : Prop where
  isRead : ∃ given, Given.read sharedOptions false line = .ok given
    ∧ given.values helpOption.name = []
    ∧ (given.values logLevelOption.name).getLast? = some level
    ∧ given.arguments = command.name :: rest
  nonempty : level ≠ ""

variable {s : Surroundings} {line line' : List String} {level level' : String} {command : Command}
variable {rest : List String}

theorem Report.bind_of_pure {α β : Type} (x : α) (next : α → Report β)
    : (Pure.pure x >>= next) = next x := rfl

theorem ofName?_name (command : Command) : Command.ofName? command.name = some command := by
  cases command <;> rfl

theorem selectsLevel_cons (command : Command) (rest : List String) (h : level ≠ "")
    : SelectsLevel ("--log-level" :: level :: command.name :: rest) level command rest := by
  refine ⟨⟨⟨[("--log-level", level)], command.name :: rest⟩, ?_, rfl, rfl, rfl⟩, h⟩
  cases command <;> rfl

theorem prepare_of_selectsLevel (h : SelectsLevel line level command rest)
    : prepare s line
        =
      match Log.threshold level with
      | .error name => Report.stop (.crashed (.reservedLevel name))
      | .ok least => pure (least, command, rest) := by
  rcases h.isRead with ⟨given, hread, hhelp, hlevel, harguments⟩
  have hline : ¬ line.isEmpty = true := by
    rw [List.isEmpty_iff]
    rintro rfl
    cases hread
    cases harguments
  have hshared : readShared line = pure given := by
    simp [readShared, hread, hhelp]
  have hlogLevel : logLevel s given = pure level := by
    unfold logLevel
    rw [hlevel]
    split
    · next heq => cases heq
    · next heq =>
      cases heq
      exact absurd rfl h.nonempty
    · next heq =>
      cases heq
      rfl
  unfold prepare
  rw [if_neg hline, hshared, Report.bind_of_pure, harguments]
  dsimp only
  rw [ofName?_name, hlogLevel]
  dsimp only
  exact Report.bind_of_pure level _

def outcomeFrom (s : Surroundings) (least : Nat) (report : Report Unit) : Outcome :=
  let diagnostics := diagnosticsOf (Settings.warnings s.settingsFile) report.notes
  { outcomeOf report.ending with diagnostics := diagnostics.filter (Diagnostic.isWritten least) }

theorem run_of_selectsLevel (h : SelectsLevel line level command rest)
    (hlevel : ¬ Log.IsReserved level)
    : run s line = outcomeFrom s (Log.leastOf level) (command.run s rest) := by
  have hprepare : prepare s line = pure (Log.leastOf level, command, rest) := by
    rw [prepare_of_selectsLevel h, Log.threshold_eq_ok hlevel]
  unfold run
  rw [hprepare]
  rfl

def diagnosticLines (least : Nat) (diagnostics : List Diagnostic) : String :=
  String.join ((diagnostics.filter (Diagnostic.isWritten least)).map Diagnostic.line)

section OutcomeFrom

variable (least : Nat) (report : Report Unit)

theorem stdout_outcomeFrom
    : (outcomeFrom s least report).stdout = (outcomeOf report.ending).stdout := rfl

theorem exitCode_outcomeFrom
    : (outcomeFrom s least report).exitCode = (outcomeOf report.ending).exitCode := rfl

theorem crash_outcomeFrom
    : (outcomeFrom s least report).crash = (outcomeOf report.ending).crash := rfl

theorem standardError_outcomeFrom
    : (outcomeFrom s least report).standardError
        =
      diagnosticLines least (diagnosticsOf (Settings.warnings s.settingsFile) report.notes)
        ++ (outcomeOf report.ending).message := rfl

end OutcomeFrom

/--
Two runs of a command that differ in the name of the least level print the same and end in the same
way, unless one of the names stands for something that is not a level. On the standard error they
differ in nothing but the lines of the events that are not written under both names. A name of no level
does the same as the name of warnings. And what is printed never depends on the events.
-/
theorem level_only_selects_events (h : SelectsLevel line level command rest)
    (h' : SelectsLevel line' level' command rest) (hlevel : ¬ Log.IsReserved level)
    (hlevel' : ¬ Log.IsReserved level')
    : (run s line).stdout = (run s line').stdout
        ∧ (run s line).exitCode = (run s line').exitCode
        ∧ (run s line).crash = (run s line').crash
        ∧ (∃ diagnostics message,
          (run s line).standardError = diagnosticLines (Log.leastOf level) diagnostics ++ message
            ∧ (run s line').standardError
              = diagnosticLines (Log.leastOf level') diagnostics ++ message)
        ∧ (Text.uppercaseString level ∉ Fields.keys Log.standardLevels →
          ∀ warning, SelectsLevel warning "WARNING" command rest → run s line = run s warning)
        ∧ (run s line).stdout = (outcomeOf (runEnding s line)).stdout := by
  have hrun := run_of_selectsLevel (s := s) h hlevel
  have hrun' := run_of_selectsLevel (s := s) h' hlevel'
  refine ⟨?_, ?_, ?_, ?_, ?_, (run_eq_outcomeOf s line).2.1⟩
  · rw [hrun, hrun', stdout_outcomeFrom, stdout_outcomeFrom]
  · rw [hrun, hrun', exitCode_outcomeFrom, exitCode_outcomeFrom]
  · rw [hrun, hrun', crash_outcomeFrom, crash_outcomeFrom]
  · rw [hrun, hrun']
    exact ⟨_, _, standardError_outcomeFrom _ _, standardError_outcomeFrom _ _⟩
  · intro hname warning hwarning
    have hnotReserved : ¬ Log.IsReserved "WARNING" := by decide
    rw [hrun, run_of_selectsLevel hwarning hnotReserved, Log.leastOf_of_not_mem hname]

theorem level_only_selects_events_unresolved
    : let text := "[http]\nurl = '\x7b\x7ba\x7d\x7d'"
      let s : Surroundings := ⟨fun _ => .ok text.toUTF8.data.toList, []⟩
      let rest := ["f", "--format", "json"]
      let debug := "--log-level" :: "debug" :: "render" :: rest
      let verbose := "--log-level" :: "error" :: "--log-level" :: "verbose" :: "render" :: rest
      (run s verbose).stdout = (run s debug).stdout
        ∧ (run s verbose).exitCode = (run s debug).exitCode
        ∧ (run s debug).events.length = 4
        ∧ (run s verbose).events = [.placeholdersUnresolved ["a"]]
        ∧ run s verbose = run s ("--log-level" :: "WARNING" :: "render" :: rest) := by
  intro text s rest debug verbose
  have hdebug : SelectsLevel debug "debug" .render rest := selectsLevel_cons .render rest (by decide)
  have hverbose : SelectsLevel verbose "verbose" .render rest :=
    ⟨⟨⟨[("--log-level", "error"), ("--log-level", "verbose")], "render" :: rest⟩, rfl, rfl, rfl, rfl⟩,
      by decide⟩
  have hwarning : SelectsLevel ("--log-level" :: "WARNING" :: "render" :: rest) "WARNING" .render rest :=
    selectsLevel_cons .render rest (by decide)
  have hsame := level_only_selects_events (s := s) hverbose hdebug (by decide) (by decide)
  refine ⟨hsame.1, hsame.2.1, by decide +kernel, by decide +kernel, ?_⟩
  exact hsame.2.2.2.2.1 (by decide) _ hwarning

theorem level_reserved_fails
    : let s : Surroundings := ⟨fun _ => .ok "[http]\nurl = 'u'".toUTF8.data.toList, []⟩
      let line := ["parse", "f", "--format", "json"]
      (run s ("--log-level" :: "basic_format" :: line)).exitCode = 1
        ∧ (run s ("--log-level" :: "basic_format" :: line)).stdout = ""
        ∧ (run s ("--log-level" :: "WARNING" :: line)).exitCode = 0 := by
  decide +kernel

end CommandLine

end RequestFile
