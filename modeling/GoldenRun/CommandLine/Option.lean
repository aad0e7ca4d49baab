import GoldenRun.Bytes.Utf8

/-!
# The options of the program

Options come in two sorts. A *setting* takes a value, a *switch* takes none. This file is the table of
both: how they are written, what stands for the value in messages, which environment variable speaks
when the option is absent, and two properties that only `--sut-arg` has: it may be repeated, and it
takes any token as its value, even one that looks like an option.
-/

namespace GoldenRun.CommandLine

/-- An option with a value. -/
inductive Setting where
  | testsDir
  | buildCommand
  | sutProgram
  | sutArg
  | solver
  | solverExec
  | outputKind
  | outputDir
  | diffProgram
  | timeout
  | format
  deriving DecidableEq, Repr

/-- An option without a value. -/
inductive Switch where
  | skipBuild
  | exitZero
  | noColor
  | verbose
  deriving DecidableEq, Repr

namespace Setting

/-- All settings. -/
def all : List Setting :=
  [.testsDir, .buildCommand, .sutProgram, .sutArg, .solver, .solverExec, .outputKind, .outputDir,
    .diffProgram, .timeout, .format]

/-- The name behind `--`. -/
def long : Setting → String
  | .testsDir => "tests-dir"
  | .buildCommand => "build-command"
  | .sutProgram => "sut-program"
  | .sutArg => "sut-arg"
  | .solver => "solver"
  | .solverExec => "solver-exec"
  | .outputKind => "output-kind"
  | .outputDir => "output-dir"
  | .diffProgram => "diff-program"
  | .timeout => "timeout"
  | .format => "format"

/-- What stands for the value in messages. -/
def placeholder : Setting → String
  | .testsDir | .outputDir => "DIR"
  | .buildCommand | .diffProgram => "CMD"
  | .sutProgram => "PROGRAM"
  | .sutArg => "ARG"
  | .solver => "NAME"
  | .solverExec => "PATH"
  | .outputKind => "KIND"
  | .timeout => "SECS"
  | .format => "FORMAT"

/-- The environment variable that speaks when the setting is absent. -/
def envName? : Setting → Option String
  | .testsDir => some "FUNCTEST_TESTS_DIR"
  | .buildCommand => some "FUNCTEST_BUILD_COMMAND"
  | .sutProgram => some "FUNCTEST_SUT_PROGRAM"
  | .sutArg => none
  | .solver => some "FUNCTEST_SOLVER"
  | .solverExec => some "FUNCTEST_SOLVER_EXEC"
  | .outputKind => some "FUNCTEST_OUTPUT_KIND"
  | .outputDir => some "FUNCTEST_OUTPUT_DIR"
  | .diffProgram => some "FUNCTEST_DIFF"
  | .timeout => some "FUNCTEST_TIMEOUT"
  | .format => some "FUNCTEST_FORMAT"

/-- The setting as messages show it. -/
def shown (setting : Setting) : String :=
  "--" ++ setting.long ++ " <" ++ setting.placeholder ++ ">"

/-- The setting may occur more than once. -/
def repeats (setting : Setting) : Bool :=
  setting == .sutArg

/-- The setting takes `token` as its value when the token stands behind its name. A token that begins
    like an option is a value of `--sut-arg` only; a lone `-` does not begin like an option. -/
def takes (setting : Setting) (token : Bytes) : Bool :=
  setting == .sutArg || token.head? != some 0x2D || token.length == 1

end Setting

namespace Switch

/-- All switches. -/
def all : List Switch := [.skipBuild, .exitZero, .noColor, .verbose]

/-- The name behind `--`. -/
def long : Switch → String
  | .skipBuild => "skip-build"
  | .exitZero => "exit-zero"
  | .noColor => "no-color"
  | .verbose => "verbose"

/-- The environment variable that speaks when the switch is absent. -/
def envName? : Switch → Option String
  | .skipBuild => some "FUNCTEST_SKIP_BUILD"
  | .exitZero => some "FUNCTEST_EXIT_ZERO"
  | .noColor => none
  | .verbose => none

/-- The switch as messages show it. -/
def shown (switch : Switch) : String :=
  "--" ++ switch.long

end Switch

/-- What a token asks for by name. -/
inductive Request where
  | setting (setting : Setting)
  | switch (switch : Switch)
  | help
  | version
  deriving DecidableEq, Repr

namespace Request

/-- Every request, with its long name. -/
def long : Request → String
  | .setting s => s.long
  | .switch s => s.long
  | .help => "help"
  | .version => "version"

/-- All requests. -/
def all : List Request :=
  Setting.all.map .setting ++ Switch.all.map .switch ++ [.help, .version]

/-- The request with the given long name. -/
def ofLong? (name : Bytes) : Option Request :=
  all.find? fun r => utf8 r.long == name

/-- The request with the given one-letter name; settings have none. -/
def ofShort? : Char → Option Request
  | 'v' => some (.switch .verbose)
  | 'h' => some .help
  | 'V' => some .version
  | _ => none

end Request

end GoldenRun.CommandLine
