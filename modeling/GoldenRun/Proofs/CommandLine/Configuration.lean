import GoldenRun.CommandLine.Choices

/-!
# Choices that make a configuration

Three options must hold a word: the build command unless the build is skipped, the comparison, and the
program under test. They are checked in this order, and the first that is blank is complained about.

* `Choices.blankOption?`: the first option that is blank where it may not be.

Main statements: `toConfig_of_blank`, such an option is the whole complaint; `toConfig_of_words`, without
one there is a configuration.
-/

namespace GoldenRun.CommandLine

/-- The first option that needs a word and has none. -/
def Choices.blankOption? (choices : Choices) : Option String :=
  if !choices.skipBuild && Text.isBlankOnly choices.buildCommand then some "--build-command"
  else if Text.isBlankOnly choices.diffProgram then some "--diff-program"
  else if Text.isBlankOnly choices.sutProgram then some "--sut-program"
  else none

/-! ## 1. One option -/

theorem words_eq_nil_iff (text : String) : Text.words text = [] ↔ Text.isBlankOnly text = true := by
  rw [Text.words, List.map_eq_nil_iff, Text.wordsOf_eq_nil_iff, Text.isBlankOnly]

theorem readCommand_of_blank {text : String} (h : Text.isBlankOnly text = true) (name : String) :
    readCommand name text = .error (blankOption name) := by
  rw [readCommand, readCommand?, (words_eq_nil_iff text).mpr h]

theorem exists_readCommand {text : String} (h : Text.isBlankOnly text = false) (name : String) :
    ∃ command, readCommand name text = .ok command := by
  unfold readCommand readCommand?
  cases hwords : Text.words text with
  | nil => rw [(words_eq_nil_iff text).mp hwords] at h; cases h
  | cons program args => exact ⟨_, rfl⟩

/-- The command of a text are its words, the first of them the program. -/
theorem readCommand_eq_ok_iff {name text : String} {command : Command} :
    readCommand name text = .ok command ↔
      ∃ program args, Text.words text = program :: args ∧
        command = { program := utf8 program, args := args.map utf8 } := by
  unfold readCommand readCommand?
  cases Text.words text with
  | nil => simp
  | cons program args =>
      rw [Except.ok.injEq]
      constructor
      · rintro rfl
        exact ⟨program, args, rfl, rfl⟩
      · rintro ⟨_, _, hwords, rfl⟩
        cases hwords
        rfl

/-- The build command is read unless the build is skipped. -/
theorem Choices.build_of_blank {choices : Choices} (hbuild : choices.skipBuild = false)
    (h : Text.isBlankOnly choices.buildCommand = true) :
    choices.build = .error (blankOption "--build-command") := by
  rw [Choices.build, hbuild, if_neg Bool.false_ne_true, readCommand_of_blank h]
  rfl

theorem Choices.exists_build {choices : Choices}
    (h : (!choices.skipBuild && Text.isBlankOnly choices.buildCommand) = false) :
    ∃ build, choices.build = .ok build := by
  unfold Choices.build
  cases hskip : choices.skipBuild with
  | true => exact ⟨none, rfl⟩
  | false =>
      rw [hskip, Bool.not_false, Bool.true_and] at h
      obtain ⟨command, hcommand⟩ := exists_readCommand h "--build-command"
      rw [hcommand]
      exact ⟨some command, rfl⟩

/-! ## 2. All options -/

namespace Choices

variable {choices : Choices}

/-- **A blank option is complained about**, the first one alone. -/
theorem toConfig_of_blank {name : String} (h : choices.blankOption? = some name) :
    choices.toConfig = .error (blankOption name) := by
  unfold blankOption? at h
  unfold toConfig
  split at h
  · rename_i hbuild
    rw [Bool.and_eq_true, Bool.not_eq_true'] at hbuild
    cases h
    rw [build_of_blank hbuild.1 hbuild.2]
    rfl
  · rename_i hbuild
    obtain ⟨build, hb⟩ := exists_build (Bool.eq_false_iff.mpr hbuild)
    rw [hb]
    split at h
    · rename_i hdiff
      cases h
      rw [readCommand_of_blank hdiff]
      rfl
    · rename_i hdiff
      obtain ⟨comparator, hc⟩ := exists_readCommand (Bool.eq_false_iff.mpr hdiff) "--diff-program"
      rw [hc]
      split at h
      · rename_i hsut
        cases h
        rw [readNonBlank, if_pos hsut]
        rfl
      · cases h

/-- **Without a blank option there is a configuration**, and every field of it is chosen. -/
theorem toConfig_of_words (h : choices.blankOption? = none) :
    ∃ build comparator, choices.build = .ok build ∧
      readCommand "--diff-program" choices.diffProgram = .ok comparator ∧
      Text.isBlankOnly choices.sutProgram = false ∧
      choices.toConfig = .ok {
        testsDir := choices.testsDir
        build := build
        systemUnderTest := { program := utf8 choices.sutProgram, args := choices.sutArgs.map utf8 }
        solverBackend := choices.solver
        solverExecutable := choices.solverExec
        outputKind := choices.outputKind
        outputDir := choices.outputDir.getD choices.testsDir
        comparator := comparator
        timeout := choices.timeout.map fun secs => ⟨secs, 0⟩ } := by
  unfold blankOption? at h
  split at h
  · cases h
  · rename_i hbuild
    obtain ⟨build, hb⟩ := exists_build (Bool.eq_false_iff.mpr hbuild)
    split at h
    · cases h
    · rename_i hdiff
      obtain ⟨comparator, hc⟩ := exists_readCommand (Bool.eq_false_iff.mpr hdiff) "--diff-program"
      split at h
      · cases h
      · rename_i hsut
        refine ⟨build, comparator, hb, hc, Bool.eq_false_iff.mpr hsut, ?_⟩
        rw [toConfig, hb, hc, readNonBlank, if_neg hsut]
        rfl

/-- The tests directory of a configuration is the one that was chosen. -/
theorem exists_toConfig (h : choices.blankOption? = none) :
    ∃ config, choices.toConfig = .ok config ∧ config.testsDir = choices.testsDir := by
  obtain ⟨build, comparator, -, -, -, hconfig⟩ := toConfig_of_words h
  exact ⟨_, hconfig, rfl⟩

end Choices

end GoldenRun.CommandLine
