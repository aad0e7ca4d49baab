import GoldenRun.Reporter.Sink

/-!
# The console transcript

The transcript is composed of *strokes*: plain text, painted text, and flushes. Colour is decided only
when a stroke is put down: without colour a painted stroke is its text and nothing else.

Every callback about the beginning of something ends with a flush, so that what an external command
writes to the same console comes behind it; so does the last callback.
-/

namespace GoldenRun

/-! ## 1. Strokes -/

/-- The inks. -/
inductive Ink where
  | green
  | red
  | bold
  deriving DecidableEq, Repr

/-- The sequence that a terminal takes as the beginning of an ink. -/
def Ink.opening : Ink → String
  | .green => "\x1b[32m"
  | .red => "\x1b[31m"
  | .bold => "\x1b[1m"

/-- The sequence that ends every ink. -/
def Ink.closing : String := "\x1b[0m"

/-- One part of the transcript. -/
inductive Stroke where
  | plain (text : String)
  | painted (ink : Ink) (text : String)
  | flush
  deriving DecidableEq, Repr

/-- A stroke put down, with or without colour. -/
def Stroke.emission (color : Bool) : Stroke → Emission
  | .plain text => .write (utf8 text)
  | .painted ink text => .write (utf8 (if color then ink.opening ++ text ++ Ink.closing else text))
  | .flush => .flush

/-! ## 2. The transcript -/

/-- How the transcript is written. -/
structure Console where
  color : Bool
  /-- Tell how long each case took. -/
  verbose : Bool := false
  deriving DecidableEq, Repr

namespace Console

/-- A headline on a line of its own. -/
def banner (title : String) : List Stroke :=
  [.painted .bold ("############ " ++ title ++ " ############"), .plain "\n"]

/-- The words for a verdict. -/
def verdictStroke : Verdict → Stroke
  | .passed => .painted .green "completed successfully"
  | .failed => .painted .red "failed"

/-- The time that a case took, in parentheses. -/
def timing (verbose : Bool) (elapsed : Duration) : String :=
  if verbose then " (" ++ toString elapsed.millis ++ "ms)" else ""

/-- The counts of a report. -/
def summary (report : Report) : Stroke :=
  .painted (if report.allPassed then .green else .red)
    ("Total " ++ toString report.total ++ " tests. " ++ toString report.failed ++ " tests failed")

/-- The list of the cases that failed; nothing if none did. -/
def failures (ids : List String) : List Stroke :=
  if ids.isEmpty then []
  else .plain "\nThe following test failed:\n" :: ids.map fun id => .plain ("\t" ++ id ++ "\n")

/-- What the transcript says about a callback. -/
def strokes (verbose : Bool) : Callback → List Stroke
  | .buildStart _ => banner "Start building" ++ [.flush]
  | .buildComplete (.ok _) => []
  | .buildComplete (.error e) => [.painted .red ("Build could not run: " ++ e.message), .plain "\n"]
  | .runStart _ => .plain "\n\n" :: banner "Running Functional Tests"
  | .testStart test => [.plain ("\n#### Running test " ++ test.id ++ "\n"), .flush]
  | .testComplete test verdict elapsed =>
    [.plain ("# Test " ++ test.id ++ " "), verdictStroke verdict,
      .plain (timing verbose elapsed ++ "\n")]
  | .runComplete report =>
    .plain "\n\n" :: banner "Test Result" ++ [summary report, .plain "\n"] ++
      failures report.failedTests ++ [.flush]

/-- The console as a scribe; it remembers nothing. -/
def scribe (console : Console) : Scribe Unit := fun callback _ =>
  ((strokes console.verbose callback).map (Stroke.emission console.color), ())

end Console

end GoldenRun
