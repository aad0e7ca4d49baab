import GoldenRun.Json
import GoldenRun.TestCase

/-!
# Reports

A report is fed one result for each case that was run. It counts the cases, counts those that failed, and
keeps the ids of the failed ones in the order in which they were recorded. The second count could be read
off the list; a report is a record of all three together with what holds between them, so `record` has to
keep the counters in step and no other report can be built.
-/

namespace GoldenRun

/-- The result of a run. -/
structure Report where
  /-- How many cases there were. -/
  total : Nat := 0
  /-- How many cases failed. -/
  failed : Nat := 0
  /-- The ids of the cases that failed, in order. -/
  failedTests : List String := []
  /-- Every failed case is named once. -/
  failed_eq_length : failed = failedTests.length := by rfl
  /-- A failed case is one of the cases. -/
  failed_le_total : failed ≤ total := by decide
  deriving DecidableEq, Repr

namespace Report

/-- The report of no case. -/
def empty : Report := {}

/-- How many cases passed. -/
def passed (report : Report) : Nat :=
  report.total - report.failed

/-- No case failed; true also when there was none. -/
def allPassed (report : Report) : Bool :=
  report.failed == 0

/-- The report with one more case. -/
def record (report : Report) (test : TestCase) : Verdict → Report
  | .passed =>
    { report with
      total := report.total + 1
      failed_le_total := Nat.le_succ_of_le report.failed_le_total }
  | .failed =>
    { total := report.total + 1
      failed := report.failed + 1
      failedTests := report.failedTests ++ [test.id]
      failed_eq_length := by rw [List.length_append, report.failed_eq_length]; rfl
      failed_le_total := Nat.succ_le_succ report.failed_le_total }

/-- The report of a list of results. -/
def ofResults (results : List (TestCase × Verdict)) : Report :=
  results.foldl (fun report r => report.record r.1 r.2) empty

/-- The members that every document about a report begins with. -/
def members (report : Report) : List (String × Json) :=
  [("total", .num report.total), ("failed", .num report.failed),
    ("failed_tests", .arr (report.failedTests.map .str))]

/-- The report as a document. -/
def toJson (report : Report) : Json :=
  .obj report.members

/-- Two reports of one total that name the same cases are one. -/
@[ext] theorem ext_failedTests {report other : Report} (htotal : report.total = other.total)
    (hfailed : report.failedTests = other.failedTests) : report = other := by
  obtain ⟨total, failed, failedTests, hlength, _⟩ := report
  obtain ⟨total', failed', failedTests', hlength', _⟩ := other
  cases htotal
  cases hfailed
  cases hlength.trans hlength'.symm
  rfl

@[simp] theorem total_record (report : Report) (test : TestCase) (verdict : Verdict) :
    (report.record test verdict).total = report.total + 1 := by
  cases verdict <;> rfl

/-- Cases pass or fail. -/
theorem passed_add_failed (report : Report) : report.passed + report.failed = report.total :=
  Nat.sub_add_cancel report.failed_le_total

/-- `allPassed` is the question whether `failed` is 0. -/
theorem allPassed_iff (report : Report) : report.allPassed = true ↔ report.failed = 0 :=
  beq_iff_eq

/-- If all cases passed, none is named, and conversely. -/
theorem allPassed_iff_failedTests (report : Report) :
    report.allPassed = true ↔ report.failedTests = [] := by
  rw [allPassed_iff, report.failed_eq_length, List.length_eq_zero_iff]

end Report

end GoldenRun
