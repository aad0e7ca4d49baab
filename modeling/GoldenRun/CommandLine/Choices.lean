import GoldenRun.CommandLine.Fault
import GoldenRun.Config
import GoldenRun.Text.Blank

/-!
# The user's choices

`Choices` is a command line that is accepted: one field an option. Every field has one source, the
first of these that speaks:

1. the option on the command line;
2. its environment variable, if it has one;
3. its default.

A variable whose option stands on the command line is not even read, so its content does not matter.
The variables are read in the order of the fields, and the first that is at fault is told.

`Choices.toConfig` checks what a single option cannot: that there are words where commands are needed.
-/

namespace GoldenRun.CommandLine

/-- The environment variables that are set. -/
abbrev Environment := String → Option Bytes

/-- Everything that the user can choose. -/
structure Choices where
  testsDir : Bytes := utf8 "tests"
  buildCommand : String := "./buildRelease"
  skipBuild : Bool := false
  sutProgram : String := "java"
  sutArgs : List String := ["-jar", "jSMTLIB.jar"]
  solver : String := "peticodiac"
  solverExec : Bytes := utf8 "yices"
  outputKind : String := "peticodiac"
  /-- The tests directory, if absent. -/
  outputDir : Option Bytes := none
  diffProgram : String := "diff"
  /-- Whole seconds. -/
  timeout : Option Nat := none
  format : ReportFormat := .console
  exitZero : Bool := false
  noColor : Bool := false
  verbose : Bool := false
  deriving DecidableEq, Repr

/-! ## 1. One option -/

section Sources

variable (occurrences : List Occurrence) (environment : Environment)

/-- The value of a setting that occurs at most once, if anything speaks for it. -/
def settingOf? (setting : Setting) : Except Refusal (Option setting.Value) :=
  match valuesOf setting occurrences with
  | value :: _ => (setting.read value).map some
  | [] =>
    match setting.envName?.bind environment with
    | some value => (setting.read value).map some
    | none => .ok none

/-- The value of a setting that has a default. -/
def settingOf (setting : Setting) (default : setting.Value) : Except Refusal setting.Value :=
  (settingOf? occurrences environment setting).map (·.getD default)

/-- The values of a setting that may be repeated; its defaults are taken all or none. -/
def settingsOf (setting : Setting) (defaults : List setting.Value) :
    Except Refusal (List setting.Value) :=
  match valuesOf setting occurrences with
  | [] => .ok defaults
  | values => values.mapM setting.read

/-- Whether a switch is on. -/
def switchOf (switch : Switch) : Except Refusal Bool :=
  if occurrences.contains (.switch switch) then .ok true
  else
    match switch.envName?.bind environment with
    | some value => switch.read value
    | none => .ok false

/-! ## 2. All options -/

/-- The choices that occurrences without a fault and an environment make. -/
def Choices.ofOccurrences : Except Refusal Choices := do
  let defaults : Choices := {}
  let testsDir ← settingOf occurrences environment .testsDir defaults.testsDir
  let buildCommand ← settingOf occurrences environment .buildCommand defaults.buildCommand
  let skipBuild ← switchOf occurrences environment .skipBuild
  let sutProgram ← settingOf occurrences environment .sutProgram defaults.sutProgram
  let sutArgs ← settingsOf occurrences .sutArg defaults.sutArgs
  let solver ← settingOf occurrences environment .solver defaults.solver
  let solverExec ← settingOf occurrences environment .solverExec defaults.solverExec
  let outputKind ← settingOf occurrences environment .outputKind defaults.outputKind
  let outputDir ← settingOf? occurrences environment .outputDir
  let diffProgram ← settingOf occurrences environment .diffProgram defaults.diffProgram
  let timeout ← settingOf? occurrences environment .timeout
  let format ← settingOf occurrences environment .format defaults.format
  let exitZero ← switchOf occurrences environment .exitZero
  let noColor ← switchOf occurrences environment .noColor
  let verbose ← switchOf occurrences environment .verbose
  return { testsDir, buildCommand, skipBuild, sutProgram, sutArgs, solver, solverExec, outputKind,
           outputDir, diffProgram, timeout, format, exitZero, noColor, verbose }

end Sources

/-- The choices that a command line and an environment make, or why it is refused. -/
def Choices.read (arguments : List Bytes) (environment : Environment) : Except Refusal Choices :=
  let scan := scan arguments
  match scan.refusal? with
  | some refusal => .error refusal
  | none => ofOccurrences scan.occurrences environment

/-! ## 3. The configuration -/

/-- The complaint about a blank option. -/
def blankOption (name : String) : Complaint :=
  { message := "Error: " ++ name ++ " must not be empty" }

/-- The command that the words of a text make. -/
def readCommand? (text : String) : Option Command :=
  match Text.words text with
  | [] => none
  | program :: args => some { program := utf8 program, args := args.map utf8 }

/-- The command of an option, which may not be blank. -/
def readCommand (name text : String) : Except Complaint Command :=
  match readCommand? text with
  | some command => .ok command
  | none => .error (blankOption name)

/-- The text of an option, which may not be blank. -/
def readNonBlank (name text : String) : Except Complaint String :=
  if Text.isBlankOnly text then .error (blankOption name) else .ok text

namespace Choices

/-- The build command, unless it is to be skipped. -/
def build (choices : Choices) : Except Complaint (Option Command) :=
  if choices.skipBuild then .ok none
  else (readCommand "--build-command" choices.buildCommand).map some

/-- The configuration of the run. -/
def toConfig (choices : Choices) : Except Complaint Config := do
  let build ← choices.build
  let comparator ← readCommand "--diff-program" choices.diffProgram
  let program ← readNonBlank "--sut-program" choices.sutProgram
  return {
    testsDir := choices.testsDir
    build := build
    systemUnderTest := { program := utf8 program, args := choices.sutArgs.map utf8 }
    solverBackend := choices.solver
    solverExecutable := choices.solverExec
    outputKind := choices.outputKind
    outputDir := choices.outputDir.getD choices.testsDir
    comparator := comparator
    timeout := choices.timeout.map fun secs => ⟨secs, 0⟩ }

end Choices

end GoldenRun.CommandLine
