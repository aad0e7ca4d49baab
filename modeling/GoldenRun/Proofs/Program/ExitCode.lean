import GoldenRun.Program
import GoldenRun.Proofs.CommandLine.Configuration
import GoldenRun.Proofs.Run.Interruption

/-!
# What the exit code says

The program composes five things that can go wrong: the configuration, the build, the search for the
tests directory, the run with its callbacks, and the comparisons. Only the last may be masked.

* `Outlet`: a stream that may refuse any write and any flush; `Scribe.into` is the reporter that writes
  to it. A `Sink` is an outlet of a particular kind (`Scribe.into_ofSink`);
* `Harness.outcome_execute`: how a run ends, for any reporter;
* `Program.Hinders`: what stands in the way of a report, which is one thing at most (`Hinders.unique`);
* `Program.execute_hindered_or_reports`: how the program ends.

Main statement: `exit_code_truthful`.
-/

namespace GoldenRun

open CommandLine (Choices)

/-! ## 1. Outlets -/

/-- A machine with states in `τ` that takes emissions; it may refuse any of them. -/
abbrev Outlet (τ : Type) := Emission → τ → Option IoError × τ

namespace Outlet

variable {τ : Type}

/-- Emissions up to the first that is refused. -/
def takeAll (outlet : Outlet τ) : List Emission → τ → Option IoError × τ
  | [], state => (none, state)
  | e :: es, state =>
    match outlet e state with
    | (none, next) => outlet.takeAll es next
    | (some error, next) => (some error, next)

/-- A sink takes emissions in its own way. -/
def ofSink : Outlet Sink := fun e sink => sink.take e

theorem takeAll_ofSink (es : List Emission) (sink : Sink) :
    ofSink.takeAll es sink = sink.takeAll es := by
  induction es generalizing sink with
  | nil => rfl
  | cons e es ih =>
      have htake : ofSink e sink = sink.take e := rfl
      rw [takeAll, Sink.takeAll, htake]
      obtain ⟨answer, next⟩ := sink.take e
      cases answer with
      | none => exact ih next
      | some error => rfl

end Outlet

/-- The reporter that hands a scribe's words to an outlet. -/
def Scribe.into {α τ : Type} (scribe : Scribe α) (outlet : Outlet τ) : Reporter (α × τ) :=
  fun callback state =>
    let (emissions, next) := scribe callback state.1
    let (answer, place) := outlet.takeAll emissions state.2
    (answer, (next, place))

theorem Scribe.into_ofSink {α : Type} (scribe : Scribe α) :
    scribe.into Outlet.ofSink = scribe.reporter := by
  funext callback state
  simp only [Scribe.into, Scribe.reporter, Outlet.takeAll_ofSink]

/-! ## 2. How a run ends -/

section Ends

variable {σ ρ : Type}

/-- A case passed exactly when its comparison ended with exit code 0. -/
def Episode.Same (e : Episode σ) : Prop :=
  ∃ outcome, e.compared.result = .ok outcome ∧ outcome.exitCode = some 0

theorem Episode.same_iff (e : Episode σ) : e.Same ↔ e.verdict = .passed := by
  unfold Same verdict
  cases e.compared.result with
  | error error => simp
  | ok outcome => by_cases h : outcome.exitCode = some 0 <;> simp [h]

theorem Report.allPassed_ofEpisodes (es : List (Episode σ)) :
    (Report.ofEpisodes es).allPassed = true ↔ ∀ e ∈ es, e.Same := by
  rw [allPassed_iff_failedTests, ofEpisodes, List.map_eq_nil_iff, List.filter_eq_nil_iff]
  refine forall₂_congr fun e _ => ?_
  rw [e.same_iff, decide_eq_true_iff]
  cases e.verdict <;> simp

/-- **How a run ends.** The first failure of the reporter ends it; otherwise a missing tests directory
    does; otherwise it ends with the report of its cases. -/
theorem Harness.outcome_execute (harness : Harness) (runner : Runner σ) (reporter : Reporter ρ)
    (session : Session σ ρ) :
    let run := harness.execute.perform runner reporter session
    let built := harness.afterBuild runner session.world
    let root := harness.config.testsDir
    (∃ error, reporter.refusals session.reporter run.steps = [error] ∧
      run.outcome = .error (.io error)) ∨
    (reporter.refusals session.reporter run.steps = [] ∧ built.files.isDir root = false ∧
      run.outcome = .error (.testsDirNotFound root)) ∨
    (reporter.refusals session.reporter run.steps = [] ∧ built.files.isDir root = true ∧
      ∃ finding, discover built.files root = .ok finding ∧
        run.outcome = .ok (.ofEpisodes
          (harness.episodes runner built session.laps finding.cases))) := by
  intro run built root
  rcases Plan.perform_uncut_or_cut runner reporter harness.execute session with
    ⟨hnone, heq⟩ | ⟨error, hcut, houtcome⟩
  · have heq : run = harness.execute.perform runner reporter.forgiving session := heq
    have obliging : reporter.forgiving.Obliging := Reporter.forgiving_obliging
    refine .inr ?_
    rw [← heq] at hnone
    cases hdir : built.files.isDir root with
    | false =>
        have hrun := harness.perform_execute_of_not_isDir runner session obliging hdir
        exact .inl ⟨hnone, rfl, by rw [heq, hrun]⟩
    | true =>
        obtain ⟨finding, hf, _⟩ := discover_of_isDir hdir
        have hrun := harness.perform_execute_of_discover runner session obliging hf
        exact .inr ⟨hnone, rfl, finding, hf, by rw [heq, hrun]⟩
  · exact .inl ⟨error, hcut.refusals_cut, houtcome⟩

end Ends

/-! ## 3. Causes -/

namespace Program

/-- Why a program that accepted its command line has no report. -/
inductive Cause where
  /-- An option that needs a word has none. -/
  | blankOption (name : String)
  /-- The run could not go on. -/
  | run (error : RunError)

/-- The wording of a cause. -/
def Cause.message : Cause → String
  | .blankOption name => name ++ " must not be empty"
  | .run error => error.message

/-- The world that the build of a configuration leaves. -/
def builtWorld {σ : Type} (output : OutputMode) (runner : Option Duration → Runner σ)
    (world : World σ) (config : Config) : World σ :=
  ({ config, output } : Harness).afterBuild (runner config.timeout) world

/-- What stands in the way of a report: a blank option, else the first failure of the reporter, else a
    tests directory that is not there after the build. -/
inductive Hinders (choices : Choices) (refusals : List IoError) (built : Config → FileTree) :
    Cause → Prop
  | blankOption {name : String} (h : choices.blankOption? = some name) :
      Hinders choices refusals built (.blankOption name)
  | reporter {config : Config} (hconfig : choices.toConfig = .ok config) {error : IoError}
      (h : refusals = [error]) : Hinders choices refusals built (.run (.io error))
  | noTests {config : Config} (hconfig : choices.toConfig = .ok config) (hnone : refusals = [])
      (h : (built config).isDir config.testsDir = false) :
      Hinders choices refusals built (.run (.testsDirNotFound config.testsDir))

namespace Hinders

variable {choices : Choices} {refusals : List IoError} {built : Config → FileTree} {cause : Cause}

/-- With something in the way one of the conditions of a report fails. -/
theorem not_ready (h : Hinders choices refusals built cause) {config : Config}
    (hconfig : choices.toConfig = .ok config) (hnone : refusals = [])
    (hdir : (built config).isDir config.testsDir = true) : False := by
  cases h with
  | blankOption hblank =>
      rw [Choices.toConfig_of_blank hblank] at hconfig
      cases hconfig
  | reporter _ hone =>
      rw [hnone] at hone
      cases hone
  | noTests hother _ hmissing =>
      cases hconfig.symm.trans hother
      rw [hdir] at hmissing
      cases hmissing

/-- Only one thing is the first in the way. -/
theorem unique {other : Cause} (h : Hinders choices refusals built cause)
    (ho : Hinders choices refusals built other) : cause = other := by
  cases h with
  | blankOption hblank =>
      have hfail := Choices.toConfig_of_blank hblank
      cases ho with
      | blankOption hother => rw [Option.some.inj (hblank.symm.trans hother)]
      | reporter hconfig _ => cases hfail.symm.trans hconfig
      | noTests hconfig _ _ => cases hfail.symm.trans hconfig
  | reporter hconfig hone =>
      cases ho with
      | blankOption hother => cases (Choices.toConfig_of_blank hother).symm.trans hconfig
      | reporter _ hother => cases hone.symm.trans hother; rfl
      | noTests _ hnone _ => cases hone.symm.trans hnone
  | noTests hconfig hnone _ =>
      cases ho with
      | blankOption hother => cases (Choices.toConfig_of_blank hother).symm.trans hconfig
      | reporter _ hother => cases hnone.symm.trans hother
      | noTests hother _ _ => cases hconfig.symm.trans hother; rfl

end Hinders

/-! ## 4. The end of the program -/

/-- A complaint about a cause is told, with exit code 1. -/
theorem conclusion_of_cause (message : String) :
    let conclusion := Except.error ({ message := "Error: " ++ message } : Complaint)
    exitCode conclusion = 1 ∧ lastWord conclusion = "Error: " ++ message ++ "\n" := by
  simp [exitCode, lastWord]

/-- A report is not told again, and its exit code is 0 or 1. -/
theorem conclusion_of_report (exitZero : Bool) (report : Report) :
    let conclusion := concludeReport exitZero report
    lastWord conclusion = "" ∧ (exitCode conclusion = 0 ∨ exitCode conclusion = 1) ∧
      (exitCode conclusion = 0 ↔ exitZero = true ∨ report.allPassed = true) := by
  unfold concludeReport
  cases exitZero <;> cases report.allPassed <;> simp [exitCode, lastWord]

section ExitCode

variable {σ ρ : Type} (choices : Choices) (output : OutputMode) (runner : Option Duration → Runner σ)
  (reporter : Reporter ρ) (session : Session σ ρ)

/-- Without a configuration nothing is done, and the blank option is told. -/
theorem execute_of_blank {name : String} (h : choices.blankOption? = some name) :
    execute choices output runner reporter session =
      ⟨.error { message := "Error: " ++ (Cause.blankOption name).message }, [], session⟩ := by
  rw [execute, Choices.toConfig_of_blank h]
  simp [CommandLine.blankOption, Cause.message, String.append_assoc]

/-- **How the program ends.** Something stands in the way of a report, which is told; or there is a
    report, and its failed cases count unless they are masked. -/
theorem execute_hindered_or_reports :
    let run := execute choices output runner reporter session
    let refusals := reporter.refusals session.reporter run.steps
    let built := builtWorld output runner session.world
    (∃ cause, Hinders choices refusals (fun config => (built config).files) cause ∧
      run.conclusion = .error { message := "Error: " ++ cause.message }) ∨
    ∃ config finding, choices.toConfig = .ok config ∧ refusals = [] ∧
      (built config).files.isDir config.testsDir = true ∧
      discover (built config).files config.testsDir = .ok finding ∧
      run.conclusion = concludeReport choices.exitZero (.ofEpisodes
        (({ config, output } : Harness).episodes (runner config.timeout) (built config) session.laps
          finding.cases)) := by
  intro run refusals built
  cases hblank : choices.blankOption? with
  | some name =>
      have hrun : run = _ := execute_of_blank choices output runner reporter session hblank
      exact .inl ⟨_, .blankOption hblank, by rw [hrun]⟩
  | none =>
      obtain ⟨config, hconfig, -⟩ := Choices.exists_toConfig hblank
      let harness : Harness := { config, output }
      let progress := harness.execute.perform (runner config.timeout) reporter session
      have hrun : run = ⟨conclude choices.exitZero progress.outcome, progress.steps,
          progress.session⟩ := by
        simp only [run, execute, hconfig, progress, harness]
      have hrefusals : refusals = reporter.refusals session.reporter progress.steps := by
        simp only [refusals, hrun]
      have hconclusion : run.conclusion = conclude choices.exitZero progress.outcome := by rw [hrun]
      rw [hconclusion]
      rcases harness.outcome_execute (runner config.timeout) reporter session with
        ⟨error, hr, ho⟩ | ⟨hr, hdir, ho⟩ | ⟨hr, hdir, finding, hf, ho⟩
      · exact .inl ⟨_, .reporter hconfig (hrefusals.trans hr), congrArg (conclude _) ho⟩
      · exact .inl ⟨_, .noTests hconfig (hrefusals.trans hr) hdir, congrArg (conclude _) ho⟩
      · exact .inr ⟨config, finding, hconfig, hrefusals.trans hr, hdir, hf,
          congrArg (conclude _) ho⟩

end ExitCode

/-! ## 5. The exit code -/

/-- What a call leaves, if its command line is accepted: the exit code and the last word are those of the
    run that the choices ask for, told to a stream without a bound. -/
theorem run_of_read {σ : Type} {call : Call} {choices : Choices}
    (h : Choices.read call.arguments call.environment = .ok choices)
    (runner : Option Duration → Runner σ) (world : World σ) :
    let performance := execute choices (outputMode choices.format) runner
      ((form choices call.allowsColor).scribe.into .ofSink) { world, reporter := ([], {}) }
    let result := run call runner world
    result.exitCode = exitCode performance.conclusion ∧
      result.stderr = errorsOf performance.steps ++ utf8 (lastWord performance.conclusion) ∧
      result.files = performance.session.world.files := by
  rw [Scribe.into_ofSink]
  simp only [run, h]
  exact ⟨rfl, rfl, rfl⟩

/-- **The exit code tells the truth.** Whatever the choices, the files, the external commands and the
    stream `stdout`, which may refuse any write and any flush:

    * the exit code is 0 exactly if there is a configuration, the tests directory is there after the
      build, every callback succeeds, and failed cases are masked or every comparison of a case ended
      with exit code 0; otherwise it is 1;
    * without a configuration no command is run, no callback is made, and nothing is written;
    * something is said at the end exactly if the exit code is 1 because something stood in the way of a
      report, and it names the first thing that did. -/
theorem exit_code_truthful {σ τ : Type} (choices : Choices) (color : Bool)
    (runner : Option Duration → Runner σ) (stdout : Outlet τ)
    (session : Session σ (List ResultEntry × τ)) :
    let reporter := (form choices color).scribe.into stdout
    let output := outputMode choices.format
    let run := execute choices output runner reporter session
    let refusals := reporter.refusals session.reporter run.steps
    let built := builtWorld output runner session.world
    let code := exitCode run.conclusion
    let word := lastWord run.conclusion
    let hinders := Hinders choices refusals (fun config => (built config).files)
    (code = 0 ↔
      ∃ config, choices.toConfig = .ok config ∧
        (built config).files.isDir config.testsDir = true ∧ refusals = [] ∧
        (choices.exitZero = true ∨
          ∃ finding, discover (built config).files config.testsDir = .ok finding ∧
            ∀ e ∈ ({ config, output } : Harness).episodes (runner config.timeout) (built config)
              session.laps finding.cases, e.Same)) ∧
    (code = 0 ∨ code = 1) ∧
    (∀ complaint, choices.toConfig = .error complaint → run.steps = [] ∧ run.session = session) ∧
    (word ≠ "" ↔ code = 1 ∧ ∃ cause, hinders cause) ∧
    (∀ cause, hinders cause → code = 1 ∧ word = "Error: " ++ cause.message ++ "\n") := by
  intro reporter output run refusals built code word hinders
  have hsilent : ∀ complaint, choices.toConfig = .error complaint →
      run.steps = [] ∧ run.session = session := by
    intro complaint hfail
    have hrun : run = ⟨.error complaint, [], session⟩ := by
      simp only [run, execute, hfail]
    exact ⟨by rw [hrun], by rw [hrun]⟩
  rcases execute_hindered_or_reports choices output runner reporter session with
    ⟨cause, hcause, hend⟩ | ⟨config, finding, hconfig, hnone, hdir, hf, hend⟩
  · have hend : run.conclusion = _ := hend
    obtain ⟨hcode, hword⟩ := conclusion_of_cause cause.message
    rw [← hend] at hcode hword
    have hcode : code = 1 := hcode
    have hword : word = _ := hword
    refine ⟨⟨fun hzero => ?_, ?_⟩, .inr hcode, hsilent,
      ⟨fun _ => ⟨hcode, cause, hcause⟩, fun _ => ?_⟩, ?_⟩
    · rw [hcode] at hzero
      cases hzero
    · rintro ⟨config, hconfig, hdir, hnone, -⟩
      exact (hcause.not_ready hconfig hnone hdir).elim
    · rw [hword]
      simp
    · intro other hother
      rw [← hcause.unique hother]
      exact ⟨hcode, hword⟩
  · have hend : run.conclusion = _ := hend
    obtain ⟨hword, hcodes, hzero⟩ := conclusion_of_report choices.exitZero (.ofEpisodes
      (({ config, output } : Harness).episodes (runner config.timeout) (built config) session.laps
        finding.cases))
    rw [← hend] at hword hcodes hzero
    rw [Report.allPassed_ofEpisodes] at hzero
    have hfree : ∀ cause, ¬ hinders cause := fun cause hcause =>
      hcause.not_ready hconfig hnone hdir
    refine ⟨hzero.trans ⟨fun h => ?_, ?_⟩, hcodes, hsilent, ?_, fun cause hcause => ?_⟩
    · exact ⟨config, hconfig, hdir, hnone, h.imp_right fun hsame => ⟨finding, hf, hsame⟩⟩
    · rintro ⟨other, hother, -, -, h⟩
      cases hconfig.symm.trans hother
      refine h.imp_right ?_
      rintro ⟨_, hfound, hsame⟩
      cases hf.symm.trans hfound
      exact hsame
    · refine ⟨fun hne => absurd hword hne, ?_⟩
      rintro ⟨-, cause, hcause⟩
      exact absurd hcause (hfree cause)
    · exact absurd hcause (hfree cause)

end Program

end GoldenRun
