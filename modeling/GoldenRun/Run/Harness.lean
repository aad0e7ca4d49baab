import GoldenRun.Config
import GoldenRun.Discovery
import GoldenRun.Run.Plan

/-!
# The harness

Build once, discover the cases, then for each case run the command under test and compare what it wrote
with the golden file; one after the other, in the order of discovery.

* How the build ended is told and logged, and the run goes on whatever it was.
* How the command under test ended is logged and does not matter: it is the comparison that decides.
  A case passed exactly when the comparison ended with exit code 0.
* A run ends early for two reasons only: there is no tests directory, or the reporter failed.
-/

namespace GoldenRun

/-- A harness: a configuration, and what becomes of the output of commands. -/
structure Harness where
  config : Config
  output : OutputMode := .inherit
  deriving DecidableEq, Repr

/-! ## 1. Events -/

namespace RunEvent

/-- An event of the run loop. -/
def ofRun (level : Level) (message : String) (fields : List (String × FieldValue)) : Event :=
  { level, origin := .runLoop, message, fields }

/-- An event about a case. -/
def ofCase (level : Level) (test : TestCase) (message : String)
    (fields : List (String × FieldValue)) : Event :=
  ofRun level message (("test", .text test.id) :: fields)

/-- No build is configured. -/
def buildSkipped : Event :=
  ofRun .info "build step skipped" []

/-- How the build ended. -/
def built : CommandResult → Event
  | .ok outcome =>
    if outcome.success then ofRun .info "build finished" [("ms", .ofNat outcome.duration.millis)]
    else
      ofRun .warn "build exited unsuccessfully; continuing"
        [("code", .ofExitCode outcome.exitCode)]
  | .error e => ofRun .warn ("build could not run: " ++ e.message ++ "; continuing") []

/-- Collected output of a command, if there is any. -/
def collected (test : TestCase) (source stream text : String) : List Event :=
  if text.isEmpty then []
  else [ofCase .debug test (source ++ " " ++ stream ++ ":\n" ++ text) []]

/-- Both collected outputs of a command. -/
def bothCollected (test : TestCase) (source : String) (outcome : Outcome) : List Event :=
  collected test source "stdout" outcome.stdout ++ collected test source "stderr" outcome.stderr

/-- How the command under test ended. -/
def tested (test : TestCase) : CommandResult → List Event
  | .ok outcome =>
    ofCase .debug test "system under test finished" [("code", .ofExitCode outcome.exitCode)] ::
      bothCollected test "system under test" outcome
  | .error e => [ofCase .warn test ("system under test: " ++ e.message) []]

/-- How the comparison ended. -/
def compared (test : TestCase) : CommandResult → List Event
  | .ok outcome => bothCollected test "comparison" outcome
  | .error e => [ofCase .warn test ("comparison: " ++ e.message) []]

/-- The end of a run. -/
def complete (report : Report) : Event :=
  ofRun .info "run complete"
    [("total", .ofNat report.total), ("failed", .ofNat report.failed)]

end RunEvent

/-! ## 2. Plans -/

/-- What the end of a comparison says about the case. -/
def Verdict.ofComparison (result : CommandResult) : Verdict :=
  if result.succeeded then .passed else .failed

namespace Harness

/-- Run the build command, if one is configured. -/
def build (harness : Harness) : Plan Unit :=
  match harness.config.build with
  | none => .record RunEvent.buildSkipped
  | some command => do
    let call := Config.buildCall command harness.output
    .tell (.buildStart call)
    let result ← .call call
    .record (RunEvent.built result)
    .tell (.buildComplete result)

/-- Find the cases in the tree as it is now. -/
def discoverCases (harness : Harness) : Plan (List TestCase) := do
  let tree ← .tree
  let finding ← .ofExcept (discover tree harness.config.testsDir)
  .recordAll finding.events
  return finding.cases

/-- Run one case. -/
def runOne (harness : Harness) (test : TestCase) : Plan Verdict := do
  let tested ← .call (harness.config.testCall harness.output test)
  .recordAll (RunEvent.tested test tested)
  let compared ← .call (harness.config.compareCall harness.output test)
  .recordAll (RunEvent.compared test compared)
  return .ofComparison compared

/-- Run cases one after the other, and add them to a report. -/
def runCases (harness : Harness) (report : Report) : List TestCase → Plan Report
  | [] => return report
  | test :: tests => do
    .tell (.testStart test)
    let verdict ← harness.runOne test
    let elapsed ← .elapsed
    .tell (.testComplete test verdict elapsed)
    harness.runCases (report.record test verdict) tests

/-- Run every case and tell of it. -/
def runAll (harness : Harness) : Plan Report := do
  let tests ← harness.discoverCases
  .tell (.runStart tests.length)
  let report ← harness.runCases .empty tests
  .record (RunEvent.complete report)
  .tell (.runComplete report)
  return report

/-- Run every case, in a stretch of its own. -/
def run (harness : Harness) : Plan Report :=
  harness.runAll.within (.run harness.config.testsDir)

/-- Build, then run every case. -/
def execute (harness : Harness) : Plan Report := do
  harness.build
  harness.run

end Harness

end GoldenRun
