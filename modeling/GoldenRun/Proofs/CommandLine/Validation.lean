import GoldenRun.Proofs.Bytes.Lines
import GoldenRun.Proofs.CommandLine.Configuration

/-!
# What is configured

Choices are checked in three places, and what passes decides every call of a run. Nothing of the defaults of
a configuration is left: two configurations that carry out the same choices are the same.

* `Choices.checks`: the options that must hold a word, in the order in which they are looked at;
* `Choices.CarriedOut`: the calls of a configuration are those that the choices ask for;
* `CarriedOut.unique`: there is one such configuration at most.

Main statement: `configured_exactly`.
-/

namespace GoldenRun.CommandLine

namespace Choices

/-- The options that must hold a word, in order, and whether one is at fault. The build command is not
    looked at if it is not run. -/
def checks (choices : Choices) : List (String × Bool) :=
  [("--build-command", !choices.skipBuild && Text.isBlankOnly choices.buildCommand),
    ("--diff-program", Text.isBlankOnly choices.diffProgram),
    ("--sut-program", Text.isBlankOnly choices.sutProgram)]

/-- The first option at fault. -/
def firstAtFault? (choices : Choices) : Option String :=
  (choices.checks.find? Prod.snd).map Prod.fst

/-- The configuration runs what the choices say, on every input. -/
structure CarriedOut (choices : Choices) (config : Config) : Prop where
  testsDir : config.testsDir = choices.testsDir
  timeout : config.timeout = choices.timeout.map fun secs => ⟨secs, 0⟩
  /-- Nothing is built if the build is skipped. -/
  skipped : choices.skipBuild = true → config.build = none
  /-- Otherwise the words of the build command are called. -/
  built : choices.skipBuild = false →
    ∃ program args, Text.words choices.buildCommand = program :: args ∧
      ∀ mode, config.build.map (Config.buildCall · mode) =
        some { program := utf8 program, args := args.map utf8, output := mode }
  /-- The program under test is called by its whole text, which is not blank. -/
  tested : Text.isBlankOnly choices.sutProgram = false ∧
    ∀ mode test, config.testCall mode test =
      { program := utf8 choices.sutProgram
        args := choices.sutArgs.map utf8 ++
          [test.input, utf8 "--solver", utf8 choices.solver, utf8 "--exec", choices.solverExec,
            utf8 ("--" ++ choices.outputKind ++ "out"), choices.outputDir.getD choices.testsDir]
        output := mode }
  /-- The words of the comparison are called with the two files behind them. -/
  compared : ∃ program args, Text.words choices.diffProgram = program :: args ∧
    ∀ mode test, config.compareCall mode test =
      { program := utf8 program
        args := args.map utf8 ++
          [test.input ++ utf8 ".peticodiac", test.input ++ utf8 ".peticodiac" ++ utf8 ".expected"]
        output := mode }

/-! ## 1. One configuration at most -/

section Unique

variable {choices : Choices} {config other : Config}

/-- A build command is known from its call. -/
theorem build_eq_of_call {build : Option Command} {program : Bytes} {args : List Bytes}
    (h : build.map (Config.buildCall · .inherit) = some { program, args, output := .inherit }) :
    build = some { program, args } := by
  obtain ⟨⟨_, _⟩, rfl, hcall⟩ := Option.map_eq_some_iff.1 h
  cases hcall
  rfl

/-- The command under test, the solver and the output are known from the calls for a case. -/
theorem eq_of_testCall {test : TestCase}
    (h : config.testCall .inherit test = other.testCall .inherit test) :
    config.systemUnderTest = other.systemUnderTest ∧ config.solverBackend = other.solverBackend ∧
      config.solverExecutable = other.solverExecutable ∧ config.outputKind = other.outputKind ∧
      config.outputDir = other.outputDir := by
  obtain ⟨hprogram, hargs, -⟩ := Invocation.mk.inj h
  obtain ⟨hown, hadded⟩ := List.append_inj' hargs rfl
  simp only [Config.caseArgs, List.cons.injEq, true_and, and_true] at hadded
  obtain ⟨hsolver, hexec, hflag, hdir⟩ := hadded
  have hkind : config.outputKind = other.outputKind := by
    have hwhole := utf8_injective hflag
    simpa [Config.outputFlag] using hwhole
  refine ⟨?_, utf8_injective hsolver, hexec, hkind, hdir⟩
  cases hconfig : config.systemUnderTest
  cases hother : other.systemUnderTest
  rw [hconfig, hother] at hprogram hown
  exact Command.mk.injEq .. ▸ ⟨hprogram, hown⟩

/-- The comparison is known from its calls for a case. -/
theorem eq_of_compareCall {test : TestCase}
    (h : config.compareCall .inherit test = other.compareCall .inherit test) :
    config.comparator = other.comparator := by
  obtain ⟨hprogram, hargs, -⟩ := Invocation.mk.inj h
  obtain ⟨hown, -⟩ := List.append_inj' hargs rfl
  cases hconfig : config.comparator
  cases hother : other.comparator
  rw [hconfig, hother] at hprogram hown
  exact Command.mk.injEq .. ▸ ⟨hprogram, hown⟩

namespace CarriedOut

theorem build_eq (h : choices.CarriedOut config) (hother : choices.CarriedOut other) :
    config.build = other.build := by
  cases hskip : choices.skipBuild with
  | true => rw [h.skipped hskip, hother.skipped hskip]
  | false =>
      obtain ⟨program, args, hwords, hcall⟩ := h.built hskip
      obtain ⟨_, _, hwords', hcall'⟩ := hother.built hskip
      cases hwords.symm.trans hwords'
      rw [build_eq_of_call (hcall .inherit), build_eq_of_call (hcall' .inherit)]

/-- **Nothing is left to defaults**: choices are carried out by one configuration at most. -/
theorem unique (h : choices.CarriedOut config) (hother : choices.CarriedOut other) :
    config = other := by
  obtain ⟨_, _, hwords, hcompare⟩ := h.compared
  obtain ⟨_, _, hwords', hcompare'⟩ := hother.compared
  cases hwords.symm.trans hwords'
  have hcomparator : config.comparator = other.comparator :=
    eq_of_compareCall ((hcompare .inherit ⟨[], ""⟩).trans (hcompare' .inherit ⟨[], ""⟩).symm)
  obtain ⟨htested, hsolver, hexec, hkind, hdir⟩ := eq_of_testCall
    ((h.tested.2 .inherit ⟨[], ""⟩).trans (hother.tested.2 .inherit ⟨[], ""⟩).symm)
  have hbuild := h.build_eq hother
  have htests : config.testsDir = other.testsDir := h.testsDir.trans hother.testsDir.symm
  have htimeout : config.timeout = other.timeout := h.timeout.trans hother.timeout.symm
  cases config
  cases other
  rw [Config.mk.injEq]
  exact ⟨htests, hbuild, htested, hsolver, hexec, hkind, hdir, hcomparator, htimeout⟩

end CarriedOut

end Unique

/-! ## 2. What is accepted -/

section Accepted

variable {choices : Choices}

theorem firstAtFault?_eq (choices : Choices) : choices.firstAtFault? = choices.blankOption? := by
  unfold firstAtFault? checks blankOption?
  cases !choices.skipBuild && Text.isBlankOnly choices.buildCommand with
  | true => rfl
  | false =>
      cases Text.isBlankOnly choices.diffProgram with
      | true => rfl
      | false => cases Text.isBlankOnly choices.sutProgram <;> rfl

/-- No option is at fault if every command has a word. -/
theorem blankOption?_eq_none_iff :
    choices.blankOption? = none ↔
      ¬ ((choices.skipBuild = false ∧ Text.isBlankOnly choices.buildCommand = true) ∨
        Text.isBlankOnly choices.diffProgram = true ∨ Text.isBlankOnly choices.sutProgram = true) := by
  unfold blankOption?
  cases choices.skipBuild <;> cases Text.isBlankOnly choices.buildCommand <;>
    cases Text.isBlankOnly choices.diffProgram <;> cases Text.isBlankOnly choices.sutProgram <;> simp

/-- Without a fault there is a configuration that carries out the choices. -/
theorem exists_carriedOut (h : choices.blankOption? = none) :
    ∃ config, choices.toConfig = .ok config ∧ choices.CarriedOut config := by
  obtain ⟨build, comparator, hbuild, hcomparator, hsut, hconfig⟩ := toConfig_of_words h
  obtain ⟨program, args, hwords, rfl⟩ := readCommand_eq_ok_iff.1 hcomparator
  refine ⟨_, hconfig, rfl, rfl, ?_, ?_, ⟨hsut, fun _ _ => rfl⟩, program, args, hwords, fun _ _ => rfl⟩
  · intro hskip
    rw [Choices.build, if_pos hskip] at hbuild
    exact (Except.ok.inj hbuild).symm
  · intro hskip
    rw [Choices.build, hskip, if_neg Bool.false_ne_true] at hbuild
    obtain ⟨command, hread, rfl⟩ : ∃ command,
        readCommand "--build-command" choices.buildCommand = .ok command ∧ some command = build := by
      cases hread : readCommand "--build-command" choices.buildCommand with
      | error complaint => rw [hread] at hbuild; cases hbuild
      | ok command => rw [hread] at hbuild; exact ⟨command, rfl, Except.ok.inj hbuild⟩
    obtain ⟨first, rest, hbuildWords, rfl⟩ := readCommand_eq_ok_iff.1 hread
    exact ⟨first, rest, hbuildWords, fun _ => rfl⟩

theorem isBlankOnly_of_words {text program : String} {args : List String}
    (h : Text.words text = program :: args) : Text.isBlankOnly text = false := by
  refine Bool.eq_false_iff.2 fun hblank => ?_
  rw [(words_eq_nil_iff text).2 hblank] at h
  cases h

/-- Choices that can be carried out have no fault. -/
theorem CarriedOut.no_fault {config : Config} (h : choices.CarriedOut config) :
    choices.blankOption? = none := by
  refine blankOption?_eq_none_iff.2 ?_
  rintro (⟨hskip, hblank⟩ | hblank | hblank)
  · obtain ⟨_, _, hwords, -⟩ := h.built hskip
    rw [isBlankOnly_of_words hwords] at hblank
    cases hblank
  · obtain ⟨_, _, hwords, -⟩ := h.compared
    rw [isBlankOnly_of_words hwords] at hblank
    cases hblank
  · rw [h.tested.1] at hblank
    cases hblank

/-- Choices with a fault are complained about, and others are carried out. -/
theorem toConfig_cases (choices : Choices) :
    (∃ name, choices.blankOption? = some name ∧ choices.toConfig = .error (blankOption name)) ∨
      (choices.blankOption? = none ∧
        ∃ config, choices.toConfig = .ok config ∧ choices.CarriedOut config) := by
  cases hblank : choices.blankOption? with
  | some name => exact .inl ⟨name, rfl, toConfig_of_blank hblank⟩
  | none => exact .inr ⟨rfl, exists_carriedOut hblank⟩

end Accepted

end Choices

/-- **Choices are checked exactly, and what passes is carried out whole.**

    * There is no configuration exactly if the build command is blank and the build is not skipped, or the
      comparison is blank, or the program under test is.
    * The complaint has exit code 1 and names the first option at fault.
    * The build command does not matter if the build is skipped.
    * A configuration is the outcome exactly if it carries out the choices, and there is one such only. -/
theorem configured_exactly (choices : Choices) :
    ((∃ complaint, choices.toConfig = .error complaint) ↔
      (choices.skipBuild = false ∧ Text.isBlankOnly choices.buildCommand = true) ∨
        Text.isBlankOnly choices.diffProgram = true ∨ Text.isBlankOnly choices.sutProgram = true) ∧
    (∀ complaint, choices.toConfig = .error complaint ↔
      ∃ name, choices.firstAtFault? = some name ∧
        complaint = { message := "Error: " ++ name ++ " must not be empty", exitCode := 1 }) ∧
    (choices.skipBuild = true →
      ∀ text, { choices with buildCommand := text }.toConfig = choices.toConfig) ∧
    (∀ config, choices.toConfig = .ok config ↔ choices.CarriedOut config) ∧
    (∀ config other, choices.CarriedOut config → choices.CarriedOut other → config = other) := by
  have hfault : choices.blankOption? = none ↔ ¬ _ := Choices.blankOption?_eq_none_iff
  refine ⟨?_, ?_, ?_, ?_, fun _ _ => Choices.CarriedOut.unique⟩
  · rcases choices.toConfig_cases with ⟨name, hname, herror⟩ | ⟨hnone, config, hok, -⟩
    · refine iff_of_true ⟨_, herror⟩ (Classical.byContradiction fun hnone => ?_)
      cases hname.symm.trans (hfault.2 hnone)
    · refine iff_of_false ?_ (hfault.1 hnone)
      rintro ⟨complaint, herror⟩
      cases hok.symm.trans herror
  · intro complaint
    rw [Choices.firstAtFault?_eq]
    rcases choices.toConfig_cases with ⟨name, hname, herror⟩ | ⟨hnone, config, hok, -⟩
    · rw [herror, hname, Except.error.injEq]
      constructor
      · rintro rfl
        exact ⟨name, rfl, rfl⟩
      · rintro ⟨_, heq, rfl⟩
        cases heq
        rfl
    · rw [hok, hnone]
      refine iff_of_false (fun herror => by cases herror) ?_
      rintro ⟨_, hname, -⟩
      cases hname
  · intro hskip text
    unfold Choices.toConfig Choices.build
    rw [if_pos hskip, if_pos hskip]
  · intro config
    constructor
    · intro hok
      rcases choices.toConfig_cases with ⟨name, -, herror⟩ | ⟨-, other, hother, hcarried⟩
      · cases hok.symm.trans herror
      · cases hok.symm.trans hother
        exact hcarried
    · intro hcarried
      obtain ⟨other, hother, hcarriedOther⟩ := Choices.exists_carriedOut hcarried.no_fault
      rw [hcarried.unique hcarriedOther]
      exact hother

end GoldenRun.CommandLine
