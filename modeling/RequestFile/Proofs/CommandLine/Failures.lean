import RequestFile.Proofs.CommandLine.Runs
import RequestFile.Proofs.Rendering.Failures

/-!
This module contains how runs of the command line deal with failures of rendering. The only failure
that a run does not explain, that a catalog does not fit the body of a request, is one that the
discovered catalog cannot have; so the user always sees a message about a header.
-/

namespace RequestFile.CommandLine

open Report

variable {s : Surroundings}

def HasNoMismatch (ending : List String × Except Stop Unit) : Prop :=
  ∀ key kind, ending.2 ≠ .error (.crashed (.catalogMismatch key kind))

theorem HasNoMismatch.andThen {α : Type} {report : Report α}
    {next : α → List String × Except Stop Unit} (h : report.IsPreparatory)
    (hnext : ∀ x, report.result = .ok x → HasNoMismatch (next x))
    : HasNoMismatch (andThen report.result next) := by
  have hmismatch := h.noMismatch
  cases hresult : report.result with
  | error stop =>
    rw [hresult] at hmismatch
    intro key kind heq
    apply hmismatch key kind
    rw [show stop = .crashed (.catalogMismatch key kind) from Except.error.inj heq]
  | ok x => exact hnext x hresult

theorem hasNoMismatch_printRequest (format : Option OutputFormat) (r : Request)
    : HasNoMismatch (printRequest s format r).ending := by
  rw [ending_printRequest]
  apply HasNoMismatch.andThen (isPreparatory_formatFor format)
  intro format _
  split <;> simp [HasNoMismatch]

theorem renderingStop_of_isSome_header? {e : RenderError} (h : e.header?.isSome = true)
    : renderingStop e = .failed e.message := by
  cases e with
  | notAForm key kind => simp [RenderError.header?] at h
  | _ => rfl

theorem hasNoMismatch_execute (command : Command) (args : Arguments)
    : HasNoMismatch (command.execute s args).ending := by
  cases command with
  | parse =>
    rw [ending_execute_parse]
    exact .andThen (isPreparatory_requestOf _) fun r _ => hasNoMismatch_printRequest _ r
  | placeholders =>
    rw [ending_execute_placeholders]
    exact .andThen (isPreparatory_requestOf _) fun r _ => by simp [HasNoMismatch]
  | render =>
    rw [ending_execute_render]
    apply HasNoMismatch.andThen (isPreparatory_requestOf _)
    intro r _
    split
    -- Rendering is the one place where a mismatch could come from.
    · next error herror =>
      rw [renderingStop_of_isSome_header? (Request.header?_of_render_catalog_eq_error herror)]
      simp [HasNoMismatch]
    · exact hasNoMismatch_printRequest _ _

theorem hasNoMismatch_run (command : Command) (args : List String)
    : HasNoMismatch (command.run s args).ending := by
  rw [ending_run]
  split
  · simp [HasNoMismatch]
  · split
    · exact .andThen (isPreparatory_check _ _) fun args _ => hasNoMismatch_execute _ args
    · simp [HasNoMismatch]

theorem crash_ne_catalogMismatch (s : Surroundings) (line : List String) (key kind : String)
    : (run s line).crash ≠ some (.catalogMismatch key kind) := by
  rw [(run_eq_outcomeOf s line).2.2.1, Ne, crash_outcomeOf_iff, runEnding_eq]
  exact HasNoMismatch.andThen (isPreparatory_prepare line) (fun _ _ => hasNoMismatch_run _ _) key kind

inductive Renders (s : Surroundings) (line : List String) : Request → Fields String → Prop where
  | intro {least : Nat} {rest : List String} {given : Given} {args : Arguments} {d : Document}
    {r : Request}
    (hprepare : (prepare s line).result = .ok (least, .render, rest))
    (hgiven : Given.read Command.render.options true rest = .ok given)
    (hhelp : given.values helpOption.name = [])
    (hcheck : Arguments.check s.files .render given = .ok args)
    (hdocument : Document.ofFile s.files args.path = .ok d) (hr : d.toRequest = .ok r)
    : Renders s line r (Fields.ofList args.assignments)

variable {line : List String}

theorem runEnding_of_renders {r : Request} {values : Fields String} {error : RenderError}
    (h : Renders s line r values) (herror : r.render r.catalog values = .error error)
    : runEnding s line = ([], .error (.failed error.message)) := by
  cases h with
  | intro hprepare hgiven hhelp hcheck hdocument hr =>
    rw [runEnding_eq, hprepare, andThen_ok]
    dsimp only
    rw [ending_run, hgiven]
    dsimp only
    rw [if_pos hhelp, hcheck, andThen_ok, ending_execute_render]
    rw [requestOf_eq_ok_iff.mpr ⟨_, hdocument, hr⟩, andThen_ok, herror]
    dsimp only
    rw [renderingStop_of_isSome_header? (Request.header?_of_render_catalog_eq_error herror)]

theorem run_of_renders {r : Request} {values : Fields String} {error : RenderError}
    (h : Renders s line r values) (herror : r.render r.catalog values = .error error)
    : (run s line).exitCode = 1
        ∧ (run s line).stdout = ""
        ∧ (run s line).crash = none
        ∧ ∃ warnings, (run s line).stderr
          = warnings ++ Text.printedLine ("Error: " ++ error.message) := by
  have hrun := run_eq_outcomeOf s line
  rw [runEnding_of_renders h herror] at hrun
  exact hrun

/--
Rendering with the discovered catalog never meets a body that is no form. For a document it does not
fail at all if the values for names in headers are visible text; and where it fails, the command line
explains which header is the reason.
-/
theorem render_failures
    : (∀ (r : Request) (values : Fields String) (key kind : String),
        r.render r.catalog values ≠ .error (.notAForm key kind))
      ∧ (∀ (text : String) (d : Document) (r : Request) (values : Fields String),
        Document.ofText text = .ok d → d.toRequest = .ok r →
        (∀ name value, Fields.get? name values = some value →
          (∃ header, .header header ∈ r.catalog.get name) →
          Grammar.isFieldValue value.toList = true) →
        ∃ r', r.render r.catalog values = .ok r')
      ∧ (∀ (s : Surroundings) (line : List String) (r : Request) (values : Fields String)
          (error : RenderError), Renders s line r values →
        r.render r.catalog values = .error error →
        (run s line).exitCode = 1 ∧ (run s line).stdout = "" ∧ (run s line).crash = none
          ∧ ∃ warnings, (run s line).stderr
            = warnings ++ Text.printedLine ("Error: " ++ error.message))
      ∧ ∀ (s : Surroundings) (line : List String) (key kind : String),
        (run s line).crash ≠ some (.catalogMismatch key kind) := by
  refine ⟨?_, ?_, ?_, crash_ne_catalogMismatch⟩
  · exact fun r values => Request.render_catalog_ne_notAForm
  · exact fun text d r values hdocument hr hvalues => Document.exists_render hdocument hr hvalues
  · exact fun s line r values error h herror => run_of_renders h herror

theorem render_failures_newline
    : let text := "[http]\nurl = '\x7b\x7bb\x7d\x7d'\n[headers]\nA = '\x7b\x7ba\x7d\x7d'"
      let s : Surroundings := ⟨fun _ => .ok (Text.Latin1.encode text.toList), []⟩
      let line := ["--log-level", "INFO", "render", "f", "--var", "a=\n"]
      ∃ d r, Document.ofText text = .ok d ∧ d.toRequest = .ok r
        ∧ (∃ r', r.render r.catalog [("a", "\x7b\x7bb\x7d\x7d"), ("b", "\n")] = .ok r')
        ∧ Renders s line r [("a", "\n")]
        ∧ (run s line).exitCode = 1
        ∧ ∃ warnings, (run s line).stderr
          = warnings ++ Text.printedLine "Error: rendered header value is invalid: A '\\n'" := by
  intro text s line
  obtain ⟨d, r, hdocument, hr, htest⟩ := Document.exists_toRequest_of_test text
    (fun r => decide (r.catalog.get "b" = [.url])
      && decide ((r.render r.catalog [("a", "\n")]).map (fun _ => ())
        = .error (.invalidHeader "A" "\n")))
    (by decide +kernel)
  obtain ⟨hplaces, herror⟩ := Bool.and_eq_true_iff.mp htest
  have hrender := Except.map_eq_error_iff.mp (of_decide_eq_true herror)
  have hfile : Document.ofFile s.files "f" = .ok d := by
    have hdecode : Text.Utf8.decode (Text.Latin1.encode text.toList) = .ok text.toList := by
      decide +kernel
    have hlines : String.ofList (Text.universalLineEnds text.toList) = text := by decide +kernel
    simp only [Document.ofFile, s, Document.ofBytes, hdecode, hlines, hdocument]
  have hrenders : Renders s line r [("a", "\n")] :=
    @Renders.intro s line 20 ["f", "--var", "a=\n"] ⟨[("--var", "a=\n")], ["f"]⟩
      ⟨"f", none, [("a", "\n")]⟩ d r
      (by decide +kernel) (by decide +kernel) (by decide +kernel) (by decide +kernel) hfile hr
  have hrun := render_failures.2.2.1 s _ r _ _ hrenders hrender
  refine ⟨d, r, hdocument, hr, ?_, hrenders, hrun.1, hrun.2.2.2⟩
  apply render_failures.2.1 text d r _ hdocument hr
  rintro name value hvalue ⟨header, hheader⟩
  have hentry := Fields.mem_of_get?_eq_some hvalue
  simp only [List.mem_cons, Prod.mk.injEq, List.not_mem_nil, or_false] at hentry
  rcases hentry with ⟨rfl, rfl⟩ | ⟨rfl, rfl⟩
  · decide
  · rw [of_decide_eq_true hplaces] at hheader
    simp at hheader

end RequestFile.CommandLine
