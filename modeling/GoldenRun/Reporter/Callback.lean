import GoldenRun.Command
import GoldenRun.Report

/-!
# What a reporter is told

The harness talks to a reporter in six callbacks. A run makes them in this order: the two about the
build if one is configured, then the start of the run with the number of cases, then two for each case,
then the report.

A *reporter* is any machine that answers each callback with success or with an error, and whose next
answers may depend on all earlier callbacks.
-/

namespace GoldenRun

/-- How a command ended: with an outcome, or without one. -/
abbrev CommandResult := Except CommandError Outcome

instance : DecidableEq CommandResult
  | .ok a, .ok b => decidable_of_iff (a = b) ⟨congrArg _, Except.ok.inj⟩
  | .error a, .error b => decidable_of_iff (a = b) ⟨congrArg _, Except.error.inj⟩
  | .ok _, .error _ | .error _, .ok _ => isFalse fun h => by cases h

/-- The command ended with exit code 0. -/
def CommandResult.succeeded : CommandResult → Bool
  | .ok outcome => outcome.success
  | .error _ => false

/-- One callback. -/
inductive Callback where
  /-- Before the build command is run. -/
  | buildStart (build : Invocation)
  /-- After the build command, however it ended. -/
  | buildComplete (result : CommandResult)
  /-- After discovery. -/
  | runStart (count : Nat)
  /-- Before the command under test is run on a case. -/
  | testStart (test : TestCase)
  /-- After a case was compared. -/
  | testComplete (test : TestCase) (verdict : Verdict) (elapsed : Duration)
  /-- After all cases. -/
  | runComplete (report : Report)
  deriving DecidableEq, Repr

/-- A machine with states in `ρ` that answers callbacks. -/
abbrev Reporter (ρ : Type) := Callback → ρ → Option IoError × ρ

end GoldenRun
