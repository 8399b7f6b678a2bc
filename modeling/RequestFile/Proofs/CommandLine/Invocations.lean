import RequestFile.Proofs.CommandLine.Runs
import RequestFile.Proofs.Traversals

/-!
This module contains how the arguments of a command are read, up to the point where commands begin to
differ: which options can come out of it, what placeholder values are taken apart into, and what checking
the arguments comes to.
-/

namespace RequestFile.CommandLine

theorem assignment?_eq_some_iff {text name value : String}
    : assignment? text = some (name, value)
        ↔
      name ≠ "" ∧ '=' ∉ name.toList ∧ text = name ++ "=" ++ value := by
  have hsign : "=".toList = ['='] := rfl
  unfold assignment?
  constructor
  · intro h
    dsimp only at h
    split at h
    · next c after hafter =>
      split at h
      · cases h
      · next hempty =>
        simp only [Option.some.injEq, Prod.mk.injEq] at h
        rcases h with ⟨rfl, rfl⟩
        have hc : c = '=' := by
          have := List.head?_dropWhile_not (· != '=') text.toList
          rw [hafter] at this
          simpa using this
        refine ⟨?_, ?_, ?_⟩
        · simpa using hempty
        · rw [String.toList_ofList]
          intro hmem
          have hall := List.all_eq_true.mp (List.all_takeWhile (l := text.toList)) _ hmem
          simp at hall
        · rw [← String.toList_inj, String.toList_append, String.toList_append, hsign]
          rw [String.toList_ofList, String.toList_ofList, List.append_assoc, List.singleton_append]
          rw [← hc, ← hafter, hc, List.takeWhile_append_dropWhile]
    · cases h
  · rintro ⟨hname, hplain, rfl⟩
    have hall : ∀ c ∈ name.toList, (c != '=') = true := by
      intro c hc
      rw [bne_iff_ne]
      rintro rfl
      exact hplain hc
    simp only [String.toList_append, hsign, List.append_assoc, List.singleton_append]
    rw [List.takeWhile_append_of_pos hall, List.dropWhile_append_of_pos hall]
    simp [hname]

theorem checkAssignments_eq_ok_iff {given : Given} {assignments : List (String × String)}
    : Arguments.checkAssignments given = .ok assignments
        ↔
      (given.values variableOption.name).map assignment? = assignments.map some := by
  rw [Arguments.checkAssignments, mapM_eq_ok_iff, map_eq_map_some_iff]
  apply forall₂_congr_of_mem
  intro text _ entry
  cases assignment? text <;> simp

namespace Given

variable {specs : List OptionSpec} {given : Given}

def HasOnly (specs : List OptionSpec) (given : Given) : Prop :=
  ∀ entry ∈ given.options, ∃ spec ∈ specs, spec.name = entry.1

theorem hasOnly_nil (arguments : List String) : HasOnly specs ⟨[], arguments⟩ := by
  simp [HasOnly]

theorem HasOnly.of_map_withOption {rest : Except OptionFault Given} {spec : OptionSpec}
    {value : String} (hspec : spec ∈ specs)
    (ih : ∀ {given}, rest = .ok given → given.HasOnly specs)
    (h : rest.map (withOption spec value) = .ok given) : given.HasOnly specs := by
  rcases Except.map_eq_ok_iff.mp h with ⟨others, hothers, rfl⟩
  intro entry hentry
  rcases List.mem_cons.mp hentry with rfl | hentry
  · exact ⟨spec, hspec, rfl⟩
  · exact ih hothers entry hentry

theorem hasOnly_of_read {interspersed : Bool} {args : List String}
    (h : read specs interspersed args = .ok given) : given.HasOnly specs := by
  fun_induction read specs interspersed args generalizing given with
  | case1 | case2 | case14 =>
    cases h
    exact hasOnly_nil _
  | case3 | case4 | case8 | case9 | case12 => cases h
  | case5 | case6 | case7 | case10 | case11 =>
    -- In each of these cases the known option that was found stands before the other options.
    have hspec := List.mem_of_find?_eq_some ‹specs.find? _ = some _›
    refine HasOnly.of_map_withOption hspec ?_ h
    assumption
  | case13 arg rest _ _ _ _ ih =>
    rcases Except.map_eq_ok_iff.mp h with ⟨others, hothers, rfl⟩
    exact fun entry hentry => ih hothers entry hentry

theorem HasOnly.values_eq_nil {name : String} (h : given.HasOnly specs)
    (hname : ∀ spec ∈ specs, spec.name ≠ name) : given.values name = [] := by
  rw [values, List.map_eq_nil_iff, List.filter_eq_nil_iff]
  intro entry hentry
  rcases h entry hentry with ⟨spec, hspec, heq⟩
  rw [beq_iff_eq, ← heq]
  exact hname spec hspec

end Given

theorem checkPath_cases (files : FileSystem) (given : Given)
    : (∃ path ∈ given.arguments, ∀ command, Arguments.checkPath files command given = .ok path)
        ∨ (∃ misuse, ∀ command,
          Arguments.checkPath files command given = .error (.misused (some command) misuse))
        ∨ ∀ command, Arguments.checkPath files command given = .error (.crashed .nullInPath) := by
  unfold Arguments.checkPath
  split
  · exact .inr (.inl ⟨_, fun _ => rfl⟩)
  · next path rest harguments =>
    split
    · exact .inr (.inr fun _ => rfl)
    · exact .inr (.inl ⟨_, fun _ => rfl⟩)
    · exact .inr (.inl ⟨_, fun _ => rfl⟩)
    · split
      · exact .inl ⟨path, by simp [harguments], fun _ => rfl⟩
      · exact .inr (.inl ⟨_, fun _ => rfl⟩)

theorem check_of_checkAssignments {files : FileSystem} {command : Command} {given : Given}
    {assignments : List (String × String)}
    (h : Arguments.checkAssignments given = .ok assignments)
    : Arguments.check files command given
        =
      (Arguments.checkFormat given).mapError (Stop.misused (some command)) >>= fun format =>
        Arguments.checkPath files command given >>= fun path => .ok ⟨path, format, assignments⟩ := by
  unfold Arguments.check
  rw [h]
  dsimp only
  -- If nothing is wrong with the values, it makes no difference which options are checked first.
  split
  · rfl
  · rfl

structure Invokes (s : Surroundings) (line : List String) (command : Command) (given : Given) :
    Prop where
  isRead : ∃ least rest, (prepare s line).result = .ok (least, command, rest)
    ∧ Given.read command.options true rest = .ok given
  noHelp : given.values helpOption.name = []

theorem runEnding_of_invokes {s : Surroundings} {line : List String} {command : Command}
    {given : Given} (h : Invokes s line command given)
    : runEnding s line
        =
      Report.andThen (Arguments.check s.files command given) fun args =>
        (command.execute s args).ending := by
  rcases h.isRead with ⟨least, rest, hprepare, hread⟩
  rw [runEnding_eq, hprepare, Report.andThen_ok]
  dsimp only
  rw [ending_run, hread]
  exact if_pos h.noHelp

end RequestFile.CommandLine
