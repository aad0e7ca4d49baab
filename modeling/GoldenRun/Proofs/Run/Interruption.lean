import GoldenRun.Proofs.Run.Course

/-!
# What ends a run early

Only the reporter and a missing tests directory can end a run without a report. Main statement:
`execute_until_first_failure`, which compares a run with the one in which all failures of the reporter
are ignored.
-/

namespace GoldenRun

variable {σ ρ : Type}

/-- Without failures of the reporter a run fails exactly when the build left no tests directory. -/
theorem Harness.execute_fails_iff_of_obliging (harness : Harness) (runner : Runner σ)
    {reporter : Reporter ρ} (obliging : reporter.Obliging) (session : Session σ ρ) :
    (∃ error, (harness.execute.perform runner reporter session).outcome = .error error) ↔
      (harness.afterBuild runner session.world).files.isDir harness.config.testsDir = false := by
  cases hdir : (harness.afterBuild runner session.world).files.isDir harness.config.testsDir with
  | false =>
      rw [harness.perform_execute_of_not_isDir runner session obliging hdir]
      exact ⟨fun _ => rfl, fun _ => ⟨_, rfl⟩⟩
  | true =>
      obtain ⟨finding, hf, _⟩ := discover_of_isDir hdir
      rw [harness.perform_execute_of_discover runner session obliging hf]
      simp

/-- A run that gives a report found its cases, and did all that belongs to their episodes. -/
theorem Harness.course_of_run {harness : Harness} {runner : Runner σ} {reporter : Reporter ρ}
    {session : Session σ ρ} {report : Report}
    (h : (harness.run.perform runner reporter session).outcome = .ok report) :
    ∃ finding, discover session.world.files harness.config.testsDir = .ok finding ∧
      let es := harness.episodes runner session.world session.laps finding.cases
      deeds (harness.run.perform runner reporter session).steps =
          deeds (harness.runSteps finding es) ∧
        report = .ofEpisodes es := by
  rcases Plan.perform_uncut_or_cut runner reporter harness.run session with
    ⟨_, heq⟩ | ⟨error, _, houtcome⟩
  · rw [heq] at h ⊢
    cases hdir : session.world.files.isDir harness.config.testsDir with
    | false =>
        rw [harness.perform_run_of_not_isDir runner session reporter.forgiving hdir] at h
        cases h
    | true =>
        obtain ⟨finding, hf, _⟩ := discover_of_isDir hdir
        rw [harness.perform_run_of_discover runner session Reporter.forgiving_obliging hf] at h ⊢
        exact ⟨finding, hf, deeds_within _ _, (Except.ok.inj h).symm⟩
  · rw [houtcome] at h
    cases h

/-- The report of a run is that of the episodes of its cases. -/
theorem Harness.report_of_run {harness : Harness} {runner : Runner σ} {reporter : Reporter ρ}
    {session : Session σ ρ} {report : Report}
    (h : (harness.run.perform runner reporter session).outcome = .ok report) :
    ∃ finding, discover session.world.files harness.config.testsDir = .ok finding ∧
      report = .ofEpisodes (harness.episodes runner session.world session.laps finding.cases) := by
  obtain ⟨finding, hfinding, -, hreport⟩ := Harness.course_of_run h
  exact ⟨finding, hfinding, hreport⟩

/-- **A reporter that fails stops the run at once, and nothing else does.** Let `ideal` be the run from
    the same session in which every failure of the reporter is ignored.

    * Either the reporter fails at no callback of `ideal`, and the run is `ideal`; or the run is `ideal`
      up to the first callback that fails, nothing is done behind it, and the run ends with exactly the
      error of that callback.
    * The run ends with an error exactly when a callback of it failed or the build left no tests
      directory; how a command ended does not matter. -/
theorem execute_until_first_failure (harness : Harness) (runner : Runner σ) (reporter : Reporter ρ)
    (session : Session σ ρ) :
    let run := harness.execute.perform runner reporter session
    let ideal := harness.execute.perform runner reporter.forgiving session
    ((reporter.refusals session.reporter ideal.steps = [] ∧ run = ideal) ∨
      ∃ error, reporter.Cuts session.reporter ideal.steps run.steps error ∧
        reporter.Cuts session.reporter (deeds ideal.steps) (deeds run.steps) error ∧
        run.outcome = .error (.io error)) ∧
    ((∃ error, run.outcome = .error error) ↔
      reporter.refusals session.reporter run.steps ≠ [] ∨
        (harness.afterBuild runner session.world).files.isDir harness.config.testsDir = false) := by
  intro run ideal
  have hideal : (∃ error, ideal.outcome = .error error) ↔ _ :=
    harness.execute_fails_iff_of_obliging runner Reporter.forgiving_obliging session
  rcases Plan.perform_uncut_or_cut runner reporter harness.execute session with
    ⟨hnone, heq⟩ | ⟨error, hcut, houtcome⟩
  · have heq : run = ideal := heq
    refine ⟨.inl ⟨hnone, heq⟩, ?_⟩
    rw [heq, hideal]
    exact ⟨.inr, fun h => h.resolve_left fun hne => hne hnone⟩
  · refine ⟨.inr ⟨error, hcut, hcut.among_deeds, houtcome⟩, fun _ => .inl ?_, fun _ => ⟨_, houtcome⟩⟩
    rw [hcut.refusals_cut]
    exact List.cons_ne_nil error []

end GoldenRun
