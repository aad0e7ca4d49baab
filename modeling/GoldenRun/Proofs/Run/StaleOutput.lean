import GoldenRun.Proofs.Run.Interruption
import GoldenRun.Run.Script

/-!
# Outputs left over from earlier runs

A case is decided by a comparison of two files, and nobody removes the actual output before the command
under test is run. So a command that writes nothing leaves the comparison to what was there before.

* `FileTree.SameContent`: two paths name readable files of one content;
* `Runner.Vouches`, `Runner.Approves`: exit code 0 only for, or always for, files of one content;
* `Episode.LeavesActual`, `Episode.Stale`: the command under test left the actual output alone; what it
  left matches the golden file.

Main statement: `unwritten_fails_unless_stale`, such a case fails unless an old output matches, and that
is the exact condition. `stale_output_passes` is a case that passes though its command hung.
-/

namespace GoldenRun

variable {σ ρ : Type}

/-! ## 1. Comparisons -/

/-- Both paths name files that can be read, and these have the same content. -/
def FileTree.SameContent (tree : FileTree) (a b : Bytes) : Prop :=
  ∃ content, tree.read a = .ok content ∧ tree.read b = .ok content

namespace Runner

/-- The call ends with exit code 0 only if the files named by its last two arguments have the same
    content. -/
def Vouches (runner : Runner σ) (call : Invocation) : Prop :=
  ∀ world, (runner call world).1.result.succeeded = true →
    ∃ a b, lastTwo call.args = some (a, b) ∧ world.files.SameContent a b

/-- The call ends with exit code 0 whenever the files named by its last two arguments have the same
    content. -/
def Approves (runner : Runner σ) (call : Invocation) : Prop :=
  ∀ world a b, lastTwo call.args = some (a, b) → world.files.SameContent a b →
    (runner call world).1.result.succeeded = true

end Runner

theorem lastTwo_append (args : List Bytes) (a b : Bytes) : lastTwo (args ++ [a, b]) = some (a, b) := by
  induction args with
  | nil => rfl
  | cons first args ih =>
      cases args with
      | nil => rfl
      | cons second args => cases args <;> exact ih

theorem Harness.lastTwo_comparing (harness : Harness) (test : TestCase) :
    lastTwo (harness.comparing test).args = some (test.actual, test.expected) :=
  lastTwo_append harness.config.comparator.args test.actual test.expected

/-! ## 2. Cases whose command writes nothing -/

namespace Episode

/-- The command under test left the actual output as it had found it. -/
def LeavesActual (e : Episode σ) : Prop :=
  e.middle.files.read e.test.actual = e.start.files.read e.test.actual

/-- What was at the place of the actual output before the case is what the golden file holds when the
    comparison is run. -/
def Stale (e : Episode σ) : Prop :=
  ∃ content, e.start.files.read e.test.actual = .ok content ∧
    e.middle.files.read e.test.expected = .ok content

/-- With the actual output left alone, a stale one is all that there is to compare. -/
theorem stale_iff {e : Episode σ} (h : e.LeavesActual) :
    e.Stale ↔ e.middle.files.SameContent e.test.actual e.test.expected := by
  unfold Stale FileTree.SameContent
  rw [h]

/-- A command that changes no file at all leaves the actual output alone, and then both files are those
    of before. -/
theorem leavesActual_of_files_eq {e : Episode σ} (h : e.middle.files = e.start.files) :
    e.LeavesActual ∧
      (e.Stale ↔ e.start.files.SameContent e.test.actual e.test.expected) := by
  unfold LeavesActual Stale FileTree.SameContent
  rw [h]
  exact ⟨rfl, Iff.rfl⟩

theorem verdict_eq_passed_iff (e : Episode σ) :
    e.verdict = .passed ↔ e.compared.result.succeeded = true := by
  rw [e.verdict_eq, Verdict.ofComparison]
  cases e.compared.result.succeeded <;> simp

end Episode

namespace Harness

variable (harness : Harness) (runner : Runner σ) (world : World σ) (elapsed : Duration)
  (test : TestCase)

/-- A verdict of a comparison that vouches. -/
theorem sameContent_of_passed (honest : runner.Vouches (harness.comparing test))
    (h : (harness.episode runner world elapsed test).verdict = .passed) :
    (harness.episode runner world elapsed test).middle.files.SameContent test.actual
      test.expected := by
  rw [Episode.verdict_eq_passed_iff] at h
  obtain ⟨a, b, hlast, hsame⟩ := honest _ h
  rw [harness.lastTwo_comparing] at hlast
  cases hlast
  exact hsame

/-- A verdict of a comparison that approves. -/
theorem passed_of_sameContent (fair : runner.Approves (harness.comparing test))
    (h : (harness.episode runner world elapsed test).middle.files.SameContent test.actual
      test.expected) :
    (harness.episode runner world elapsed test).verdict = .passed := by
  rw [Episode.verdict_eq_passed_iff]
  exact fair _ _ _ (harness.lastTwo_comparing test) h

/-- The verdict of a case whose command left the actual output alone. -/
theorem verdict_of_leavesActual (honest : runner.Vouches (harness.comparing test))
    (h : (harness.episode runner world elapsed test).LeavesActual) :
    let e := harness.episode runner world elapsed test
    (¬ e.Stale → e.verdict = .failed) ∧
    (runner.Approves (harness.comparing test) → (e.verdict = .failed ↔ ¬ e.Stale)) := by
  intro e
  have hfailed : ¬ e.Stale → e.verdict = .failed := by
    intro hstale
    cases hv : e.verdict with
    | failed => rfl
    | passed =>
        have hsame := harness.sameContent_of_passed runner world elapsed test honest hv
        exact absurd ((Episode.stale_iff h).mpr hsame) hstale
  refine ⟨hfailed, fun fair => ⟨fun hv hstale => ?_, hfailed⟩⟩
  have hpassed := harness.passed_of_sameContent runner world elapsed test fair
    ((Episode.stale_iff h).mp hstale)
  rw [hv] at hpassed
  cases hpassed

/-- Every episode of a list of cases is the episode of its case in some world. -/
theorem exists_episode_of_mem {harness : Harness} {runner : Runner σ} {world : World σ}
    {laps : List Duration} {tests : List TestCase} {e : Episode σ}
    (he : e ∈ harness.episodes runner world laps tests) :
    ∃ world elapsed, e = harness.episode runner world elapsed e.test := by
  induction tests generalizing world laps with
  | nil => cases he
  | cons test tests ih =>
      rcases List.mem_cons.mp he with rfl | he
      · exact ⟨world, _, rfl⟩
      · exact ih he

end Harness

/-- The ids of failed cases are in the report. -/
theorem Report.mem_failedTests {es : List (Episode σ)} {e : Episode σ} (he : e ∈ es)
    (h : e.verdict = .failed) : e.test.id ∈ (ofEpisodes es).failedTests :=
  List.mem_map.mpr ⟨e, List.mem_filter.mpr ⟨he, decide_eq_true h⟩, rfl⟩

/-! ## 3. The exact condition -/

/-- **A case whose command writes nothing fails unless an old output matches.** The comparison must end
    with exit code 0 only for two readable files of one content.

    * Running such a case gives the verdict `failed`, unless what was at the place of its actual output
      before is what its golden file holds. If the comparison also approves of every two such files,
      this condition is exact: with a stale output that matches, the case passes.
    * So in every run that gives a report, each case whose command left its actual output alone is
      among the failed ones, under the same condition. -/
theorem unwritten_fails_unless_stale (harness : Harness) (runner : Runner σ) (reporter : Reporter ρ)
    (session : Session σ ρ) (honest : ∀ test, runner.Vouches (harness.comparing test)) :
    (∀ test elapsed,
      let e := harness.episode runner session.world elapsed test
      let outcome := ((harness.runOne test).perform runner reporter session).outcome
      e.LeavesActual →
        (¬ e.Stale → outcome = .ok .failed) ∧
        (runner.Approves (harness.comparing test) → (outcome = .ok .failed ↔ ¬ e.Stale))) ∧
    (∀ report, (harness.run.perform runner reporter session).outcome = .ok report →
      ∃ finding, discover session.world.files harness.config.testsDir = .ok finding ∧
        let es := harness.episodes runner session.world session.laps finding.cases
        es.map (·.test) = finding.cases ∧
        ∀ e ∈ es, e.LeavesActual →
          (¬ e.Stale → e.test.id ∈ report.failedTests) ∧
          (runner.Approves (harness.comparing e.test) → (e.verdict = .failed ↔ ¬ e.Stale))) := by
  constructor
  · intro test elapsed e outcome hleaves
    have houtcome : outcome = .ok e.verdict :=
      congrArg Progress.outcome (harness.perform_runOne runner session reporter test elapsed)
    rw [houtcome, Except.ok.injEq]
    exact harness.verdict_of_leavesActual runner session.world elapsed test (honest test) hleaves
  · intro report hreport
    obtain ⟨finding, hf, rfl⟩ := Harness.report_of_run hreport
    refine ⟨finding, hf, harness.episodes_map_test .., ?_⟩
    intro e he hleaves
    obtain ⟨world, elapsed, heq⟩ := Harness.exists_episode_of_mem he
    rw [heq] at hleaves
    have hv := harness.verdict_of_leavesActual runner world elapsed e.test (honest e.test) hleaves
    rw [← heq] at hv
    exact ⟨fun hstale => Report.mem_failedTests he (hv.1 hstale), hv.2⟩

/-! ## 4. A command that hangs -/

/-- A runner whose commands hang until they are killed, comparisons apart. -/
def hungRunner : Runner Unit := fun call world =>
  if call.program = utf8 "diff" then
    let code :=
      match lastTwo call.args with
      | some (a, b) => comparisonCode world.files a b
      | none => 2
    (.ofResult (.ok { exitCode := some code }), world)
  else (.ofResult (.error (.timedOut call.programName ⟨10, 0⟩)), world)

/-- A tests directory `t` with the one input `a.smt2`. -/
def oneInput : FileTree :=
  { root := .dir .ofDir [(utf8 "t", .dir .ofDir [(utf8 "a.smt2", .file .ofFile [])])] }

/-- The tests directory `t` with one input, and an actual output of an earlier run that is what its
    golden file holds. -/
def leftOver : FileTree :=
  { root := .dir .ofDir [(utf8 "t", .dir .ofDir [
      (utf8 "a.smt2", .file .ofFile []),
      (utf8 "a.smt2.peticodiac", .file .ofFile (utf8 "sat\n")),
      (utf8 "a.smt2.peticodiac.expected", .file .ofFile (utf8 "sat\n"))])] }

theorem comparisonCode_eq_zero_iff (tree : FileTree) (a b : Bytes) :
    comparisonCode tree a b = 0 ↔ tree.SameContent a b := by
  unfold comparisonCode FileTree.SameContent
  cases tree.read a with
  | error _ => simp
  | ok x =>
      cases tree.read b with
      | error _ => simp
      | ok y =>
          by_cases h : x = y
          · simp [h]
          · simp [h, Ne.symm h]

/-- Its comparisons are exact. -/
theorem hungRunner_comparing (test : TestCase) (world : World Unit) :
    (hungRunner (smallHarness.comparing test) world).1.result.succeeded = true ↔
      world.files.SameContent test.actual test.expected := by
  have hdiff : (smallHarness.comparing test).program = utf8 "diff" := rfl
  rw [← comparisonCode_eq_zero_iff, hungRunner, if_pos hdiff, smallHarness.lastTwo_comparing]
  simp [Reply.ofResult, CommandResult.succeeded, Outcome.success]

theorem hungRunner_vouches (test : TestCase) : hungRunner.Vouches (smallHarness.comparing test) :=
  fun world h => ⟨_, _, smallHarness.lastTwo_comparing test, (hungRunner_comparing test world).mp h⟩

/-- Its command under test hangs and changes nothing. -/
theorem hungRunner_testing (test : TestCase) (world : World Unit) :
    hungRunner (smallHarness.testing test) world =
      (.ofResult (.error (.timedOut "java" ⟨10, 0⟩)), world) := by
  obtain ⟨hname, hother⟩ := smallHarness_testing test
  rw [hungRunner, if_neg hother, hname]

/-- The case of the one input of `t`. -/
def smallCase : TestCase :=
  .below (utf8 "t") (utf8 "t/a.smt2")

/-- Without an old output the hanging command's case fails. -/
theorem unwritten_fails_oneInput :
    (∀ test, hungRunner.Vouches (smallHarness.comparing test)) ∧
    (smallHarness.episode hungRunner ⟨oneInput, ()⟩ .zero smallCase).LeavesActual ∧
    ¬ (smallHarness.episode hungRunner ⟨oneInput, ()⟩ .zero smallCase).Stale ∧
    ((smallHarness.runOne smallCase).perform hungRunner silentReporter
      ⟨⟨oneInput, ()⟩, (), []⟩).outcome = .ok .failed := by
  have hleaves : (smallHarness.episode hungRunner ⟨oneInput, ()⟩ .zero smallCase).LeavesActual :=
    (Episode.leavesActual_of_files_eq rfl).1
  have hnone : oneInput.read smallCase.actual = .error .notFound := rfl
  have hstale : ¬ (smallHarness.episode hungRunner ⟨oneInput, ()⟩ .zero smallCase).Stale := by
    rintro ⟨content, hread, _⟩
    exact absurd (hread.symm.trans hnone) (by simp)
  have h := unwritten_fails_unless_stale smallHarness hungRunner silentReporter
    ⟨⟨oneInput, ()⟩, (), []⟩ hungRunner_vouches
  exact ⟨hungRunner_vouches, hleaves, hstale, (h.1 smallCase .zero hleaves).1 hstale⟩

/-- **A case passes though its command hung and wrote nothing**: the comparison vouches, the command
    changes no file, and yet the verdict is `passed`, because of an output of an earlier run. -/
theorem stale_output_passes :
    (∀ test, hungRunner.Vouches (smallHarness.comparing test)) ∧
    (hungRunner (smallHarness.testing smallCase) ⟨leftOver, ()⟩).1.result =
      .error (.timedOut "java" ⟨10, 0⟩) ∧
    (hungRunner (smallHarness.testing smallCase) ⟨leftOver, ()⟩).2.files = leftOver ∧
    ((smallHarness.runOne smallCase).perform hungRunner silentReporter
      ⟨⟨leftOver, ()⟩, (), []⟩).outcome = .ok .passed := by
  have hsame : leftOver.SameContent smallCase.actual smallCase.expected :=
    ⟨utf8 "sat\n", rfl, rfl⟩
  have hverdict : (smallHarness.episode hungRunner ⟨leftOver, ()⟩ .zero smallCase).verdict =
      .passed := by
    rw [Episode.verdict_eq_passed_iff]
    exact (hungRunner_comparing smallCase _).mpr hsame
  have hone := smallHarness.perform_runOne hungRunner ⟨⟨leftOver, ()⟩, (), []⟩ silentReporter smallCase
    .zero
  refine ⟨hungRunner_vouches, ?_, ?_, ?_⟩
  · rw [hungRunner_testing]
    rfl
  · rw [hungRunner_testing]
  · rw [hone, hverdict]

end GoldenRun
