import GoldenRun.Proofs.Run.StaleOutput

/-!
# What decides a case

A case is decided by two files and by nothing else: the actual output and the golden file, as they are when
the command under test has been run. What the command says of itself, that it failed, hung or wrote to the
console, is not asked.

* `Runner.Compares`: a comparison with the exit codes of the usual utilities;
* `Harness.outcome_runOne`: the verdict of a case, from the two files.

Main statement: `verdict_is_byte_equality`.
-/

namespace GoldenRun

variable {σ ρ : Type}

/-! ## 1. Contents that differ -/

namespace FileTree

variable {tree : FileTree} {a b : Bytes}

theorem not_sameContent_of_ne {x y : Bytes} (ha : tree.read a = .ok x) (hb : tree.read b = .ok y)
    (hne : x ≠ y) : ¬ tree.SameContent a b := by
  rintro ⟨content, hx, hy⟩
  rw [ha, Except.ok.injEq] at hx
  rw [hb, Except.ok.injEq] at hy
  exact hne (hx.trans hy.symm)

theorem not_sameContent_of_unreadable {e : Errno} (h : tree.read a = .error e ∨ tree.read b = .error e) :
    ¬ tree.SameContent a b := by
  rintro ⟨content, hx, hy⟩
  rcases h with h | h
  · rw [h] at hx
    cases hx
  · rw [h] at hy
    cases hy

end FileTree

/-! ## 2. Comparisons -/

/-- The call ends with exit code 0, 1 or 2: the files named by its last two arguments have the same content,
    have different contents, or cannot both be read. -/
def Runner.Compares (runner : Runner σ) (call : Invocation) : Prop :=
  ∀ world a b, lastTwo call.args = some (a, b) →
    ∃ outcome, (runner call world).1.result = .ok outcome ∧
      outcome.exitCode = some (comparisonCode world.files a b)

/-- A comparison asks for nothing but the contents of the two files. -/
theorem comparisonCode_congr {tree other : FileTree} {a b : Bytes} (ha : other.read a = tree.read a)
    (hb : other.read b = tree.read b) : comparisonCode other a b = comparisonCode tree a b := by
  unfold comparisonCode
  rw [ha, hb]

namespace Harness

variable (harness : Harness) {runner : Runner σ} (reporter : Reporter ρ) (session : Session σ ρ)
  {test : TestCase}

/-- **The verdict of a case** is that of a comparison of its two outputs, in the tree that the command under
    test left. -/
theorem outcome_runOne (compares : runner.Compares (harness.comparing test)) :
    let left := (runner (harness.testing test) session.world).2.files
    ((harness.runOne test).perform runner reporter session).outcome =
      .ok (if comparisonCode left test.actual test.expected = 0 then .passed else .failed) := by
  intro left
  let e := harness.episode runner session.world .zero test
  have hverdict : ((harness.runOne test).perform runner reporter session).outcome = .ok e.verdict :=
    congrArg Progress.outcome (harness.perform_runOne runner session reporter test .zero)
  obtain ⟨outcome, hresult, hcode⟩ := compares e.middle _ _ (harness.lastTwo_comparing test)
  have hcompared : e.compared.result = .ok outcome := hresult
  rw [hverdict, Episode.verdict, hcompared]
  simp only [hcode, Option.some.injEq]
  rfl

/-- The two commands of a case, and nothing else, whatever the reporter is. -/
theorem deeds_runOne (test : TestCase) :
    let tested := runner (harness.testing test) session.world
    deeds ((harness.runOne test).perform runner reporter session).steps =
      [.command (harness.testing test) tested.1,
        .command (harness.comparing test) (runner (harness.comparing test) tested.2).1] := by
  intro tested
  rw [harness.perform_runOne runner session reporter test .zero]
  simp [work, episode, tested]

end Harness

/-! ## 3. Byte equality -/

/-- **A case passes exactly when its outputs are equal byte by byte.** The comparison must end with exit code
    0, 1 or 2 as the files named by its last two arguments are equal, differ or cannot both be read. Then,
    whatever the first command does to the tree and whatever it answers,

    * the command under test is run, then the comparison, whose last arguments are the input's path with
      `.peticodiac` and with `.peticodiac.expected` behind it, and no other command;
    * the case has a verdict, which is `passed` exactly if in the tree that the command under test left both
      files can be read and have the same content;
    * one byte that differs, one byte more at the end of either file, an actual output or a golden file that
      cannot be read: each of these alone makes the verdict `failed`;
    * with another answer of the command under test, or with any other runner and from any other world, the
      verdict is the same as long as these two files are. -/
theorem verdict_is_byte_equality (harness : Harness) (runner : Runner σ) (reporter : Reporter ρ)
    (session : Session σ ρ) (test : TestCase) (compares : runner.Compares (harness.comparing test)) :
    let outcome := ((harness.runOne test).perform runner reporter session).outcome
    let tested := runner (harness.testing test) session.world
    let actual := test.input ++ utf8 ".peticodiac"
    let golden := test.input ++ utf8 ".peticodiac" ++ utf8 ".expected"
    let left := tested.2.files
    (∃ compared, deeds ((harness.runOne test).perform runner reporter session).steps =
      [.command ⟨harness.config.systemUnderTest.program, harness.config.testArgs test.input,
          harness.output⟩ tested.1,
        .command ⟨harness.config.comparator.program, harness.config.comparator.args ++ [actual, golden],
          harness.output⟩ compared]) ∧
    (outcome = .ok .passed ↔ ∃ content, left.read actual = .ok content ∧ left.read golden = .ok content) ∧
    (outcome = .ok .failed ↔ outcome ≠ .ok .passed) ∧
    (∀ front x y back, x ≠ y → left.read actual = .ok (front ++ x :: back) →
      left.read golden = .ok (front ++ y :: back) → outcome = .ok .failed) ∧
    (∀ content x, left.read actual = .ok (content ++ [x]) → left.read golden = .ok content →
      outcome = .ok .failed) ∧
    (∀ content x, left.read actual = .ok content → left.read golden = .ok (content ++ [x]) →
      outcome = .ok .failed) ∧
    (∀ e, left.read actual = .error e ∨ left.read golden = .error e → outcome = .ok .failed) ∧
    (∀ (other : Runner σ) (otherSession : Session σ ρ), other.Compares (harness.comparing test) →
      let otherLeft := (other (harness.testing test) otherSession.world).2.files
      otherLeft.read actual = left.read actual → otherLeft.read golden = left.read golden →
      ((harness.runOne test).perform other reporter otherSession).outcome = outcome) := by
  intro outcome tested actual golden left
  have houtcome : outcome = .ok (if comparisonCode left actual golden = 0 then .passed else .failed) :=
    harness.outcome_runOne reporter session compares
  have hpassed : outcome = .ok .passed ↔ left.SameContent actual golden := by
    rw [houtcome, ← comparisonCode_eq_zero_iff]
    split <;> simp [*]
  have hfailed : outcome = .ok .failed ↔ ¬ left.SameContent actual golden := by
    rw [houtcome, ← comparisonCode_eq_zero_iff]
    split <;> simp [*]
  refine ⟨⟨_, harness.deeds_runOne reporter session test⟩, hpassed, ?_, ?_, ?_, ?_, ?_, ?_⟩
  · rw [hfailed, Ne, hpassed]
  · intro front x y back hne ha hg
    exact hfailed.2 (FileTree.not_sameContent_of_ne ha hg (by simpa using hne))
  · intro content x ha hg
    exact hfailed.2 (FileTree.not_sameContent_of_ne ha hg (by simp))
  · intro content x ha hg
    exact hfailed.2 (FileTree.not_sameContent_of_ne ha hg (by simp))
  · intro e h
    exact hfailed.2 (FileTree.not_sameContent_of_unreadable h)
  · intro other otherSession otherCompares otherLeft ha hg
    have hother := harness.outcome_runOne reporter otherSession otherCompares
    rw [hother, houtcome]
    exact congrArg (fun code => Except.ok (if code = 0 then Verdict.passed else .failed))
      (comparisonCode_congr ha hg)

/-! ## 4. A command that is late -/

/-- A runner whose command under test writes its output, and is then killed for being late; its comparisons
    are exact. -/
def lateRunner : Runner Unit := fun call world =>
  if call.program = utf8 "diff" then hungRunner call world
  else
    (.ofResult (.error (.timedOut call.programName ⟨10, 0⟩)),
      { world with files := afterWrite world.files call.args (utf8 "sat\n") })

/-- The tests directory `t` with one input, whose golden file is a link out of `t`. -/
def linkedGolden : FileTree :=
  { root := .dir .ofDir
      [(utf8 "golden", .file .ofFile (utf8 "sat\n")),
        (utf8 "t", .dir .ofDir
          [(utf8 "a.smt2", .file .ofFile []),
            (utf8 "a.smt2.peticodiac.expected", .link (utf8 "../golden"))])] }

theorem lateRunner_compares (test : TestCase) : lateRunner.Compares (smallHarness.comparing test) := by
  intro world a b hlast
  have hdiff : (smallHarness.comparing test).program = utf8 "diff" := rfl
  refine ⟨{ exitCode := some (comparisonCode world.files a b) }, ?_, rfl⟩
  rw [lateRunner, if_pos hdiff, hungRunner, if_pos hdiff, hlast]
  rfl

theorem lateRunner_testing (test : TestCase) (world : World Unit) :
    (lateRunner (smallHarness.testing test) world).1.result = .error (.timedOut "java" ⟨10, 0⟩) := by
  obtain ⟨hname, hother⟩ := smallHarness_testing test
  rw [lateRunner, if_neg hother, hname]
  rfl

/-- A case passes though its command was killed, because what it had written before is right. -/
theorem verdict_is_byte_equality_late :
    lateRunner.Compares (smallHarness.comparing smallCase) ∧
    (lateRunner (smallHarness.testing smallCase) ⟨linkedGolden, ()⟩).1.result =
      .error (.timedOut "java" ⟨10, 0⟩) ∧
    ((smallHarness.runOne smallCase).perform lateRunner silentReporter
      ⟨⟨linkedGolden, ()⟩, (), []⟩).outcome = .ok .passed := by
  have h := verdict_is_byte_equality smallHarness lateRunner silentReporter ⟨⟨linkedGolden, ()⟩, (), []⟩
    smallCase (lateRunner_compares smallCase)
  exact ⟨lateRunner_compares smallCase, lateRunner_testing smallCase _, h.2.1.2 ⟨utf8 "sat\n", rfl, rfl⟩⟩

end GoldenRun
