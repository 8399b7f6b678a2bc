import RequestFile.Proofs.CommandLine.Invocations
import RequestFile.Proofs.Document.Files
import RequestFile.Proofs.Document.Requests
import RequestFile.Proofs.Rendering.Discovered

/-!
This module contains what the values do that are given for placeholders on the command line. A name that
is listed for a file can be given a value if it has no equality sign; values for other names make no
difference to what is printed.
-/

namespace RequestFile

namespace Document

theorem exists_ofFile_of_test (path text : String) (test : Request → Bool)
    (hreturns : '\r' ∉ text.toList)
    (h : (ofText text).toOption.any (fun d => d.toRequest.toOption.any test) = true)
    : ∃ d r, ofFile (fun _ => .ok text.toUTF8.data.toList) path = .ok d ∧ d.toRequest = .ok r
        ∧ test r = true := by
  rw [ofFile_eq_ofText (Text.ReturnsPaired.of_not_mem hreturns) rfl]
  exact exists_toRequest_of_test text test h

end Document

namespace CommandLine

open Report

variable {s : Surroundings} {line : List String} {given : Given}

theorem runEnding_of_invokes_render {path name value : String} {d : Document} {r : Request}
    {format : Option OutputFormat} {bytes : List UInt8}
    (hinvokes : Invokes s line .render given) (harguments : given.arguments = [path])
    (hvariables : given.values variableOption.name = [name ++ "=" ++ value])
    (hformat : Arguments.checkFormat given = .ok format) (hpath : s.files path = .ok bytes)
    (hdocument : Document.ofFile s.files path = .ok d) (hr : d.toRequest = .ok r) (hname : name ≠ "")
    (hplain : '=' ∉ name.toList)
    : runEnding s line
        =
      match r.render r.catalog [(name, value)] with
      | .error e => ([], .error (renderingStop e))
      | .ok r' => (printRequest s format r').ending := by
  have hassigned : assignment? (name ++ "=" ++ value) = some (name, value) :=
    assignment?_eq_some_iff.mpr ⟨hname, hplain, rfl⟩
  have hassignments : Arguments.checkAssignments given = .ok [(name, value)] := by
    rw [checkAssignments_eq_ok_iff, hvariables]
    simp only [List.map_cons, List.map_nil, hassigned]
  have hcheckPath : Arguments.checkPath s.files .render given = .ok path := by
    simp [Arguments.checkPath, harguments, hpath]
  rw [runEnding_of_invokes hinvokes, check_of_checkAssignments hassignments, hformat, hcheckPath]
  have hexecute := ending_execute_render (s := s) ⟨path, format, [(name, value)]⟩
  rw [requestOf_eq_ok_iff.mpr ⟨d, hdocument, hr⟩, andThen_ok] at hexecute
  exact hexecute

/--
A listed name can be given any value on the command line, and then nothing else is given one, if and
only if it has no equality sign.
-/
theorem listed_name_assignable
    : (∀ (files : FileSystem) (path : String) (d : Document) (r : Request) (name value : String),
        Document.ofFile files path = .ok d → d.toRequest = .ok r → name ∈ r.catalog.names →
        (assignment? (name ++ "=" ++ value) = some (name, value) ↔ '=' ∉ name.toList))
      ∧ ∀ (s : Surroundings) (line : List String) (given : Given) (path name value : String)
          (format : Option OutputFormat) (bytes : List UInt8) (d : Document) (r : Request),
        Invokes s line .render given → given.arguments = [path] →
        given.values variableOption.name = [name ++ "=" ++ value] →
        Arguments.checkFormat given = .ok format →
        s.files path = .ok bytes → Document.ofFile s.files path = .ok d → d.toRequest = .ok r →
        name ∈ r.catalog.names → '=' ∉ name.toList →
        runEnding s line
          =
        match r.render r.catalog [(name, value)] with
        | .error e => ([], .error (renderingStop e))
        | .ok r' => (printRequest s format r').ending := by
  have hnonempty {r : Request} {name : String} (h : name ∈ r.catalog.names) : name ≠ "" := by
    rintro rfl
    have hname := Request.isName_of_mem_names_catalog h
    simp [Placeholder.isName] at hname
  constructor
  · intro files path d r name value _ _ hlisted
    simp [assignment?_eq_some_iff, hnonempty hlisted]
  · intro s line given path name value format bytes d r hinvokes harguments hvariables hformat hpath
      hdocument hr hlisted hplain
    exact runEnding_of_invokes_render hinvokes harguments hvariables hformat hpath hdocument hr
      (hnonempty hlisted) hplain

theorem listed_name_assignable_sign_in_value
    : let text := "[http]\nurl = '\x7b\x7ba-b\x7d\x7d'"
      let s : Surroundings := ⟨fun _ => .ok text.toUTF8.data.toList, []⟩
      let line := ["--log-level", "INFO", "render", "f", "--var", "a-b=x=y", "--format", "json"]
      ∃ d r r', Document.ofFile s.files "f" = .ok d ∧ d.toRequest = .ok r
        ∧ "a-b" ∈ r.catalog.names
        ∧ assignment? "a-b=x=y" = some ("a-b", "x=y")
        ∧ r.render r.catalog [("a-b", "x=y")] = .ok r'
        ∧ r'.url = "x=y"
        ∧ runEnding s line = ([OutputFormat.json.print r'], .ok ()) := by
  intro text s line
  obtain ⟨d, r, hdocument, hr, htest⟩ := Document.exists_ofFile_of_test "f" text
    (fun r => decide ("a-b" ∈ r.catalog.names)
      && (r.render r.catalog [("a-b", "x=y")]).toOption.any fun r' =>
        decide (r'.url = "x=y" ∧ r'.toJson.hasOverlong = false))
    (by decide) (by decide +kernel)
  obtain ⟨hlisted, hrendered⟩ := Bool.and_eq_true_iff.mp htest
  obtain ⟨r', hrender, hfacts⟩ := Except.exists_of_test _ _ hrendered
  obtain ⟨hurl, hoverlong⟩ := of_decide_eq_true hfacts
  have hlisted := of_decide_eq_true hlisted
  have hassigned := (listed_name_assignable.1 s.files "f" d r "a-b" "x=y" hdocument hr hlisted).mpr
    (by decide)
  have hinvokes : Invokes s line .render ⟨[("--var", "a-b=x=y"), ("--format", "json")], ["f"]⟩ :=
    ⟨⟨20, ["f", "--var", "a-b=x=y", "--format", "json"], by decide +kernel, by decide +kernel⟩,
      by decide +kernel⟩
  have hending := listed_name_assignable.2 s line _ "f" "a-b" "x=y" (some .json) _ d r hinvokes rfl
    (by decide +kernel) (by decide +kernel) rfl hdocument hr hlisted (by decide)
  rw [hrender] at hending
  dsimp only at hending
  rw [ending_printRequest] at hending
  refine ⟨d, r, r', hdocument, hr, hlisted, hassigned, hrender, hurl, ?_⟩
  rw [hending]
  simp [formatFor, OutputFormat.dump, hoverlong]

theorem listed_name_with_sign
    : let text := "[http]\nurl = '\x7b\x7ba=b\x7d\x7d'"
      let s : Surroundings := ⟨fun _ => .ok text.toUTF8.data.toList, []⟩
      ∃ d r, Document.ofFile s.files "f" = .ok d ∧ d.toRequest = .ok r
        ∧ "a=b" ∈ r.catalog.names
        ∧ assignment? ("a=b" ++ "=" ++ "v") ≠ some ("a=b", "v")
        ∧ assignment? ("a=b" ++ "=" ++ "v") = some ("a", "b=v")
        ∧ r.render r.catalog [("a", "b=v")] = .ok r := by
  intro text s
  obtain ⟨d, r, hdocument, hr, htest⟩ := Document.exists_ofFile_of_test "f" text
    (fun r => decide (r.catalog.names = ["a=b"]))
    (by decide) (by decide +kernel)
  have hnames := of_decide_eq_true htest
  refine ⟨d, r, hdocument, hr, ?_, by decide +kernel, by decide +kernel, ?_⟩
  · simp [hnames]
  · apply Request.render_of_forall_get?_eq_none
    rw [hnames]
    decide

def ShowSame (a b : List String × Except Stop Unit) : Prop :=
  (outcomeOf a).stdout = (outcomeOf b).stdout ∧ (outcomeOf a).exitCode = (outcomeOf b).exitCode

theorem showSame_misused (command other : Option Command) (misuse : Misuse)
    : ShowSame ([], .error (.misused command misuse)) ([], .error (.misused other misuse)) :=
  ⟨rfl, rfl⟩

theorem checkAssignments_of_invokes_parse (h : Invokes s line .parse given)
    : Arguments.checkAssignments given = .ok [] := by
  rcases h.isRead with ⟨_, _, _, hread⟩
  rw [checkAssignments_eq_ok_iff, (Given.hasOnly_of_read hread).values_eq_nil (by decide)]
  rfl

theorem ending_execute_render_of_unlisted {path : String} (format : Option OutputFormat)
    {assignments : List (String × String)}
    (h : ∀ entry ∈ assignments, ∀ d r, Document.ofFile s.files path = .ok d → d.toRequest = .ok r →
      entry.1 ∉ r.catalog.names)
    : (Command.render.execute s ⟨path, format, assignments⟩).ending
        =
      (Command.parse.execute s ⟨path, format, []⟩).ending := by
  rw [ending_execute_render, ending_execute_parse]
  cases hrequest : requestOf s.files path with
  | error stop => rfl
  | ok r =>
    obtain ⟨d, hdocument, hr⟩ := requestOf_eq_ok_iff.mp hrequest
    have hunlisted : ∀ name ∈ r.catalog.names,
        Fields.get? name (Fields.ofList assignments) = none := by
      intro name hname
      rw [Fields.get?_eq_none_iff, Fields.mem_keys_ofList_iff]
      intro hassigned
      obtain ⟨entry, hentry, rfl⟩ := List.mem_map.mp hassigned
      exact h entry hentry d r hdocument hr hname
    simp only [andThen_ok, Request.render_of_forall_get?_eq_none hunlisted]

theorem showSame_of_unlisted {line' : List String} {given' : Given}
    (hrender : Invokes s line .render given) (hparse : Invokes s line' .parse given')
    (harguments : given'.arguments = given.arguments)
    (hformat : given'.values formatOption.name = given.values formatOption.name)
    (hvariables : ∀ text ∈ given.values variableOption.name, ∃ name value,
      assignment? text = some (name, value)
        ∧ ∀ path ∈ given.arguments, ∀ d r, Document.ofFile s.files path = .ok d →
          d.toRequest = .ok r → name ∉ r.catalog.names)
    : ShowSame (runEnding s line) (runEnding s line') := by
  have hread : ∀ text ∈ given.values variableOption.name, ∃ entry : String × String,
      assignment? text = some entry
        ∧ ∀ path ∈ given.arguments, ∀ d r, Document.ofFile s.files path = .ok d →
          d.toRequest = .ok r → entry.1 ∉ r.catalog.names := by
    intro text htext
    obtain ⟨name, value, hassigned, hunlisted⟩ := hvariables text htext
    exact ⟨(name, value), hassigned, hunlisted⟩
  obtain ⟨assignments, hassignments, hunlisted⟩ := exists_forall₂_iff.mpr hread
  rw [← map_eq_map_some_iff, ← checkAssignments_eq_ok_iff] at hassignments
  have hcheckFormat : Arguments.checkFormat given' = Arguments.checkFormat given := by
    rw [Arguments.checkFormat, Arguments.checkFormat, hformat]
  have hcheckPath : ∀ command, Arguments.checkPath s.files command given'
      = Arguments.checkPath s.files command given := by
    intro command
    rw [Arguments.checkPath, Arguments.checkPath, harguments]
  rw [runEnding_of_invokes hrender, runEnding_of_invokes hparse]
  rw [check_of_checkAssignments hassignments]
  rw [check_of_checkAssignments (checkAssignments_of_invokes_parse hparse)]
  rw [hcheckFormat, hcheckPath]
  -- Up to here the two runs differ only in the command that a misuse is reported for.
  cases Arguments.checkFormat given with
  | error misuse => exact showSame_misused _ _ misuse
  | ok format =>
    rcases checkPath_cases s.files given with ⟨path, hpath, hok⟩ | ⟨misuse, herror⟩ | herror
    · have hexecute := ending_execute_render_of_unlisted format
        fun entry hentry d r hdocument hr => hunlisted entry hentry path hpath d r hdocument hr
      rw [hok, hok]
      constructor
      · exact congrArg (fun ending => (outcomeOf ending).stdout) hexecute
      · exact congrArg (fun ending => (outcomeOf ending).exitCode) hexecute
    · rw [herror, herror]
      exact showSame_misused _ _ misuse
    · rw [herror, herror]
      exact ⟨rfl, rfl⟩

/--
The command `render` with values for names that are not listed prints what the command `parse` prints
for the same file and format, whether the file can be read or not. And a run that fails prints nothing.
-/
theorem render_unlisted_eq_parse
    : (∀ (s : Surroundings) (line line' : List String) (given given' : Given),
        Invokes s line .render given → Invokes s line' .parse given' →
        given'.arguments = given.arguments →
        given'.values formatOption.name = given.values formatOption.name →
        (∀ text ∈ given.values variableOption.name, ∃ name value,
          assignment? text = some (name, value)
            ∧ ∀ path ∈ given.arguments, ∀ d r, Document.ofFile s.files path = .ok d →
              d.toRequest = .ok r → name ∉ r.catalog.names) →
        (run s line).stdout = (run s line').stdout
          ∧ (run s line).exitCode = (run s line').exitCode)
      ∧ ∀ (s : Surroundings) (line : List String),
        (run s line).exitCode ≠ 0 → (run s line).stdout = "" := by
  constructor
  · intro s line line' given given' hrender hparse harguments hformat hvariables
    exact showSame_of_unlisted hrender hparse harguments hformat hvariables
  · exact fun s line => stdout_of_exitCode

theorem render_unlisted_eq_parse_json
    : let text := "[http]\nurl = '\x7b\x7ba\x7d\x7d'\n[headers]\nA = '1'\na = '\x7b\x7bb\x7d\x7d'"
      let s : Surroundings := ⟨fun _ => .ok text.toUTF8.data.toList, []⟩
      let line := ["--log-level", "INFO", "render", "-vx=\x7b\x7ba\x7d\x7d", "f", "--format", "json"]
      let line' := ["--log-level", "INFO", "parse", "--format=json", "f"]
      (∃ d r, Document.ofFile s.files "f" = .ok d ∧ d.toRequest = .ok r
          ∧ r.catalog.names = ["a", "b"])
        ∧ (run s line).stdout = (run s line').stdout
        ∧ (run s line).exitCode = (run s line').exitCode
        ∧ (run s ["--log-level", "INFO", "parse"]).exitCode = 2
        ∧ (run s ["--log-level", "INFO", "parse"]).stdout = "" := by
  intro text s line line'
  obtain ⟨d, r, hdocument, hr, htest⟩ := Document.exists_ofFile_of_test "f" text
    (fun r => decide (r.catalog.names = ["a", "b"]))
    (by decide) (by decide +kernel)
  have hnames := of_decide_eq_true htest
  have hrender : Invokes s line .render
      ⟨[("--var", "x=\x7b\x7ba\x7d\x7d"), ("--format", "json")], ["f"]⟩ :=
    ⟨⟨20, ["-vx=\x7b\x7ba\x7d\x7d", "f", "--format", "json"], by decide +kernel,
      by decide +kernel⟩, by decide +kernel⟩
  have hparse : Invokes s line' .parse ⟨[("--format", "json")], ["f"]⟩ :=
    ⟨⟨20, ["--format=json", "f"], by decide +kernel, by decide +kernel⟩, by decide +kernel⟩
  have hexit : (run s ["--log-level", "INFO", "parse"]).exitCode = 2 := by decide +kernel
  have hsame := render_unlisted_eq_parse.1 s line line' _ _ hrender hparse rfl (by decide +kernel) (by
    intro text htext
    have htext : text = "x=\x7b\x7ba\x7d\x7d" := by
      simpa [Given.values, variableOption, formatOption] using htext
    refine ⟨"x", "\x7b\x7ba\x7d\x7d", ?_, ?_⟩
    · rw [htext]
      decide +kernel
    · intro path hpath other request hother hrequest
      rw [List.mem_singleton.mp hpath, hdocument] at hother
      rw [← Except.ok.inj hother, hr] at hrequest
      rw [← Except.ok.inj hrequest, hnames]
      decide)
  refine ⟨⟨d, r, hdocument, hr, hnames⟩, hsame.1, hsame.2, hexit, ?_⟩
  apply render_unlisted_eq_parse.2
  rw [hexit]
  decide

end CommandLine

end RequestFile
