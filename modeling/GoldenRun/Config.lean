import GoldenRun.Command
import GoldenRun.TestCase

/-!
# Configuration of a run

The defaults are the classic set-up: rebuild with `./buildRelease`, run `java -jar jSMTLIB.jar` with the
`peticodiac` backend on the files below `tests`, compare with `diff`.

`testCall` and `compareCall` are the two calls that a case makes, and nothing else decides their words.
-/

namespace GoldenRun

/-- Everything that the harness hands to external commands. -/
structure Config where
  /-- The directory whose files are tested. -/
  testsDir : Bytes := utf8 "tests"
  /-- The command run once before any test. -/
  build : Option Command := some { program := utf8 "./buildRelease" }
  /-- The command under test; the words for a case follow its own arguments. -/
  systemUnderTest : Command := { program := utf8 "java", args := [utf8 "-jar", utf8 "jSMTLIB.jar"] }
  /-- The solver backend, after `--solver`. -/
  solverBackend : String := "peticodiac"
  /-- The solver's program, after `--exec`. -/
  solverExecutable : Bytes := utf8 "yices"
  /-- The output dialect, which names the flag in front of `outputDir`. -/
  outputKind : String := "peticodiac"
  /-- The directory for outputs. -/
  outputDir : Bytes := utf8 "./tests"
  /-- The comparison; it gets two files and says with exit code 0 that they are the same. -/
  comparator : Command := { program := utf8 "diff" }
  /-- The limit for each external command. -/
  timeout : Option Duration := none
  deriving DecidableEq, Repr

namespace Config

/-- The flag in front of the output directory. -/
def outputFlag (config : Config) : String :=
  "--" ++ config.outputKind ++ "out"

/-- The words that one input adds to the command under test. -/
def caseArgs (config : Config) (input : Bytes) : List Bytes :=
  [input, utf8 "--solver", utf8 config.solverBackend, utf8 "--exec", config.solverExecutable,
    utf8 config.outputFlag, config.outputDir]

/-- All arguments of the command under test for one input. -/
def testArgs (config : Config) (input : Bytes) : List Bytes :=
  config.systemUnderTest.args ++ config.caseArgs input

/-- The call of the build step. -/
def buildCall (build : Command) (mode : OutputMode) : Invocation :=
  (Invocation.ofCommand build).withOutput mode

/-- The call of the command under test for one case. -/
def testCall (config : Config) (mode : OutputMode) (test : TestCase) : Invocation :=
  { program := config.systemUnderTest.program, args := config.testArgs test.input, output := mode }

/-- The call of the comparison for one case: the actual output, then the golden file, behind the
    comparison's own arguments. -/
def compareCall (config : Config) (mode : OutputMode) (test : TestCase) : Invocation :=
  ((Invocation.ofCommand config.comparator).withArgs [test.actual, test.expected]).withOutput mode

@[simp] theorem compareCall_args (config : Config) (mode : OutputMode) (test : TestCase) :
    (config.compareCall mode test).args = config.comparator.args ++ [test.actual, test.expected] :=
  rfl

end Config

end GoldenRun
