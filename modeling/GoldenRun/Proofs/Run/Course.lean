import GoldenRun.Proofs.Run.Refusal
import GoldenRun.Run.Harness

/-!
# The course of a run

What a harness does, written out as lists: no plan and no monad, only the runner's answers, each in the
world that the command before it left.

* `Harness.buildSteps`, `Harness.afterBuild`: the build, and the world behind it;
* `Episode`: one case as it went, with the worlds that its two commands found; `Harness.episodes` are
  those of a list of cases, each beginning where the one before ended;
* `Harness.caseDeeds`: the two callbacks and the two commands of a case, all words spelled out;
* `Report.ofEpisodes`: the report, counted from the verdicts.

Each part of the harness is then one equation: `perform_build`, `perform_runOne`, `perform_runCases`,
`perform_run`. Main statement: `execute_exactly`, a run does what is written here and nothing else.
-/

namespace GoldenRun

variable {σ ρ : Type}

/-! ## 1. The build -/

namespace Harness

/-- The call of a build, as it is configured. -/
def building (harness : Harness) (build : Command) : Invocation :=
  { program := build.program, args := build.args, output := harness.output }

/-- The world that the build leaves; the same world if none is configured. -/
def afterBuild (harness : Harness) (runner : Runner σ) (world : World σ) : World σ :=
  match harness.config.build with
  | none => world
  | some build => (runner (harness.building build) world).2

/-- What is done about the build, with what is logged. -/
def buildSteps (harness : Harness) (runner : Runner σ) (world : World σ) : List Step :=
  match harness.config.build with
  | none => [.event RunEvent.buildSkipped]
  | some build =>
    let reply := (runner (harness.building build) world).1
    [.callback (.buildStart (harness.building build)), .command (harness.building build) reply,
      .event (RunEvent.built reply.result), .callback (.buildComplete reply.result)]

/-- What is done about the build: three deeds if one is configured, and none otherwise. -/
def buildDeeds (harness : Harness) (runner : Runner σ) (world : World σ) : List Step :=
  match harness.config.build with
  | none => []
  | some build =>
    let reply := (runner (harness.building build) world).1
    [.callback (.buildStart (harness.building build)), .command (harness.building build) reply,
      .callback (.buildComplete reply.result)]

theorem deeds_buildSteps (harness : Harness) (runner : Runner σ) (world : World σ) :
    deeds (harness.buildSteps runner world) = harness.buildDeeds runner world := by
  unfold buildSteps buildDeeds
  cases harness.config.build <;> rfl

end Harness

/-! ## 2. Cases -/

/-- One case as it went. -/
structure Episode (σ : Type) where
  test : TestCase
  /-- The world that the command under test found. -/
  start : World σ
  tested : Reply
  /-- The world that the comparison found. -/
  middle : World σ
  compared : Reply
  finish : World σ
  /-- The time that the case took. -/
  elapsed : Duration

namespace Episode

/-- The case passed exactly when its comparison ended with exit code 0. -/
def verdict (episode : Episode σ) : Verdict :=
  match episode.compared.result with
  | .ok outcome => if outcome.exitCode = some 0 then .passed else .failed
  | .error _ => .failed

theorem verdict_eq (episode : Episode σ) :
    episode.verdict = .ofComparison episode.compared.result := by
  unfold verdict Verdict.ofComparison CommandResult.succeeded Outcome.success
  cases episode.compared.result with
  | ok outcome => simp only [beq_iff_eq]
  | error => rfl

/-- The world behind episodes that began in `world`. -/
def lastWorld (world : World σ) : List (Episode σ) → World σ
  | [] => world
  | episode :: rest => lastWorld episode.finish rest

end Episode

namespace Harness

/-- The call of the command under test, word by word. -/
def testing (harness : Harness) (test : TestCase) : Invocation :=
  { program := harness.config.systemUnderTest.program
    args := harness.config.systemUnderTest.args ++
      [test.input, utf8 "--solver", utf8 harness.config.solverBackend, utf8 "--exec",
        harness.config.solverExecutable, utf8 ("--" ++ harness.config.outputKind ++ "out"),
        harness.config.outputDir]
    output := harness.output }

/-- The call of the comparison, word by word. -/
def comparing (harness : Harness) (test : TestCase) : Invocation :=
  { program := harness.config.comparator.program
    args := harness.config.comparator.args ++
      [test.input ++ utf8 ".peticodiac", test.input ++ utf8 ".peticodiac" ++ utf8 ".expected"]
    output := harness.output }

/-- A case that begins in `world`. -/
def episode (harness : Harness) (runner : Runner σ) (world : World σ) (elapsed : Duration)
    (test : TestCase) : Episode σ :=
  let tested := runner (harness.testing test) world
  let compared := runner (harness.comparing test) tested.2
  { test, start := world, tested := tested.1, middle := tested.2, compared := compared.1,
    finish := compared.2, elapsed }

/-- Cases one after the other. -/
def episodes (harness : Harness) (runner : Runner σ) :
    World σ → List Duration → List TestCase → List (Episode σ)
  | _, _, [] => []
  | world, laps, test :: tests =>
    let first := harness.episode runner world (nextLap laps).1 test
    first :: harness.episodes runner first.finish (nextLap laps).2 tests

/-- The two commands of a case, with what is logged about them. -/
def work (harness : Harness) (e : Episode σ) : List Step :=
  .command (harness.testing e.test) e.tested ::
      (RunEvent.tested e.test e.tested.result).map .event ++
    .command (harness.comparing e.test) e.compared ::
      (RunEvent.compared e.test e.compared.result).map .event

/-- Everything about a case, with what is logged. -/
def caseSteps (harness : Harness) (e : Episode σ) : List Step :=
  .callback (.testStart e.test) :: harness.work e ++
    [.callback (.testComplete e.test e.verdict e.elapsed)]

/-- What is done about a case: two commands between two callbacks. -/
def caseDeeds (harness : Harness) (e : Episode σ) : List Step :=
  [.callback (.testStart e.test), .command (harness.testing e.test) e.tested,
    .command (harness.comparing e.test) e.compared,
    .callback (.testComplete e.test e.verdict e.elapsed)]

theorem deeds_caseSteps (harness : Harness) (e : Episode σ) :
    deeds (harness.caseSteps e) = harness.caseDeeds e := by
  simp [caseSteps, work, caseDeeds]

theorem deeds_flatMap_caseSteps (harness : Harness) (es : List (Episode σ)) :
    deeds (es.flatMap harness.caseSteps) = es.flatMap harness.caseDeeds := by
  induction es with
  | nil => rfl
  | cons e es ih => simp [deeds_caseSteps, ih]

theorem episodes_map_test (harness : Harness) (runner : Runner σ) (world : World σ)
    (laps : List Duration) (tests : List TestCase) :
    (harness.episodes runner world laps tests).map (·.test) = tests := by
  induction tests generalizing world laps with
  | nil => rfl
  | cons test tests ih => exact congrArg (test :: ·) (ih _ _)

end Harness

/-! ## 3. The report -/

/-- The report of episodes: how many there are, and the ids of those that failed in order. -/
def Report.ofEpisodes (es : List (Episode σ)) : Report :=
  { total := es.length
    failed := (es.filter (·.verdict = .failed)).length
    failedTests := (es.filter (·.verdict = .failed)).map (·.test.id)
    failed_eq_length := List.length_map _ |>.symm
    failed_le_total := List.length_filter_le _ _ }

/-- Recording case after case adds the episodes to a report. -/
theorem Report.foldl_record (es : List (Episode σ)) (report : Report) :
    let all := es.foldl (fun report e => report.record e.test e.verdict) report
    all.total = report.total + (ofEpisodes es).total ∧
      all.failedTests = report.failedTests ++ (ofEpisodes es).failedTests := by
  induction es generalizing report with
  | nil => exact ⟨rfl, (List.append_nil _).symm⟩
  | cons e es ih =>
      obtain ⟨htotal, hfailed⟩ := ih (report.record e.test e.verdict)
      rw [total_record] at htotal
      refine ⟨htotal.trans ?_, hfailed.trans ?_⟩
      · simp only [ofEpisodes, List.length_cons]
        omega
      · cases h : e.verdict <;> simp [ofEpisodes, record, h]

/-- A report says nothing of an episode but the id of its case and its verdict. -/
theorem Report.failedTests_ofEpisodes (es : List (Episode σ)) :
    (ofEpisodes es).failedTests =
      (((es.map (·.test.id)).zip (es.map Episode.verdict)).filter (·.2 = .failed)).map Prod.fst := by
  rw [List.zip_map', List.filter_map, List.map_map]
  rfl

/-- Episodes with the same ids and the same verdicts have the same report. -/
theorem Report.ofEpisodes_eq_of_ids {τ : Type} {es : List (Episode σ)} {es' : List (Episode τ)}
    (hids : es.map (·.test.id) = es'.map (·.test.id))
    (hverdicts : es.map Episode.verdict = es'.map Episode.verdict) : ofEpisodes es = ofEpisodes es' := by
  refine ext_failedTests ?_ ?_
  · have hlength := congrArg List.length hverdicts
    rwa [List.length_map, List.length_map] at hlength
  · rw [failedTests_ofEpisodes, failedTests_ofEpisodes, hids, hverdicts]

/-! ## 4. What the parts of a harness perform -/

/-- The readings of the stopwatch that are left after some of them. -/
def lapsAfter : Nat → List Duration → List Duration
  | 0, laps => laps
  | n + 1, laps => lapsAfter n (nextLap laps).2

namespace Harness

section Obliging

variable (harness : Harness) (runner : Runner σ) {reporter : Reporter ρ} (session : Session σ ρ)

theorem perform_build (obliging : reporter.Obliging) :
    harness.build.perform runner reporter session =
      ⟨.ok (), harness.buildSteps runner session.world,
        { session with
          world := harness.afterBuild runner session.world
          reporter := reporter.after session.reporter (harness.buildSteps runner session.world) }⟩ := by
  unfold build buildSteps afterBuild
  cases harness.config.build with
  | none => rfl
  | some command => simp [Plan.perform_bind, Plan.perform_tell obliging, building, Config.buildCall,
      Invocation.ofCommand, Invocation.withOutput]

/-- Running one case needs no reporter, and its time is read later. -/
theorem perform_runOne (reporter : Reporter ρ) (test : TestCase) (elapsed : Duration) :
    let e := harness.episode runner session.world elapsed test
    (harness.runOne test).perform runner reporter session =
      ⟨.ok e.verdict, harness.work e, { session with world := e.finish }⟩ := by
  intro e
  rw [e.verdict_eq]
  have ht : harness.config.testCall harness.output test = harness.testing test := rfl
  have hc : harness.config.compareCall harness.output test = harness.comparing test := rfl
  simp only [runOne, ht, hc, Plan.perform_bind, Plan.perform_call, Plan.perform_recordAll,
    Plan.perform_pure, Progress.andThen_ok]
  simp [work, e, episode]

theorem perform_runCases (obliging : reporter.Obliging) (report : Report) (tests : List TestCase) :
    let es := harness.episodes runner session.world session.laps tests
    (harness.runCases report tests).perform runner reporter session =
      ⟨.ok (es.foldl (fun report e => report.record e.test e.verdict) report),
        es.flatMap harness.caseSteps,
        { world := Episode.lastWorld session.world es
          reporter := reporter.after session.reporter (es.flatMap harness.caseSteps)
          laps := lapsAfter tests.length session.laps }⟩ := by
  induction tests generalizing session report with
  | nil => rfl
  | cons test tests ih =>
      intro es
      have hone := fun s => harness.perform_runOne runner s reporter test (nextLap session.laps).1
      simp only [runCases, Plan.perform_bind, Plan.perform_tell obliging, Progress.andThen_ok, hone,
        Plan.perform_elapsed, ih]
      simp [es, episodes, caseSteps, Episode.lastWorld, lapsAfter, episode, work]

/-- Everything that is done once the cases are found, with what is logged. -/
def runSteps (harness : Harness) (finding : Finding) (es : List (Episode σ)) : List Step :=
  finding.events.map .event ++ .callback (.runStart finding.cases.length) ::
    es.flatMap harness.caseSteps ++
    [.event (RunEvent.complete (.ofEpisodes es)), .callback (.runComplete (.ofEpisodes es))]

/-- Without a tests directory nothing is done. -/
theorem perform_run_of_not_isDir (reporter : Reporter ρ)
    (h : session.world.files.isDir harness.config.testsDir = false) :
    harness.run.perform runner reporter session =
      ⟨.error (.testsDirNotFound harness.config.testsDir), [], session⟩ := by
  simp [run, runAll, discoverCases, Plan.perform_within, Plan.perform_bind,
    discover_of_not_isDir h]

/-- With a tests directory the cases found in it are run, in a stretch of their own. -/
theorem perform_run_of_discover (obliging : reporter.Obliging) {finding : Finding}
    (h : discover session.world.files harness.config.testsDir = .ok finding) :
    let es := harness.episodes runner session.world session.laps finding.cases
    harness.run.perform runner reporter session =
      ⟨.ok (.ofEpisodes es),
        (harness.runSteps finding es).map (Step.within (.run harness.config.testsDir)),
        { world := Episode.lastWorld session.world es
          reporter := reporter.after session.reporter (harness.runSteps finding es)
          laps := lapsAfter finding.cases.length session.laps }⟩ := by
  intro es
  have hr : es.foldl (fun report e => report.record e.test e.verdict) Report.empty =
      Report.ofEpisodes es := by
    obtain ⟨htotal, hfailed⟩ := Report.foldl_record es Report.empty
    exact Report.ext_failedTests (htotal.trans (Nat.zero_add _)) (hfailed.trans (List.nil_append _))
  rw [run, Plan.perform_within]
  simp only [runAll, discoverCases, Plan.perform_bind, Plan.perform_tree, Plan.perform_ofExcept, h,
    Plan.perform_recordAll, Plan.perform_pure, Plan.perform_record, Plan.perform_tell obliging,
    Progress.andThen_ok, perform_runCases harness runner _ obliging]
  simp [runSteps, hr, es]

theorem deeds_runSteps (harness : Harness) (finding : Finding) (es : List (Episode σ)) :
    deeds (harness.runSteps finding es) =
      .callback (.runStart finding.cases.length) :: es.flatMap harness.caseDeeds ++
        [.callback (.runComplete (.ofEpisodes es))] := by
  simp [runSteps, deeds_flatMap_caseSteps]

theorem perform_execute_of_not_isDir (obliging : reporter.Obliging)
    (h : (harness.afterBuild runner session.world).files.isDir harness.config.testsDir = false) :
    harness.execute.perform runner reporter session =
      ⟨.error (.testsDirNotFound harness.config.testsDir), harness.buildSteps runner session.world,
        { session with
          world := harness.afterBuild runner session.world
          reporter := reporter.after session.reporter (harness.buildSteps runner session.world) }⟩ := by
  rw [execute, Plan.perform_bind, perform_build harness runner session obliging,
    Progress.andThen_ok, perform_run_of_not_isDir harness runner _ reporter h, List.append_nil]

theorem perform_execute_of_discover (obliging : reporter.Obliging) {finding : Finding}
    (h : discover (harness.afterBuild runner session.world).files harness.config.testsDir =
      .ok finding) :
    let built := harness.afterBuild runner session.world
    let es := harness.episodes runner built session.laps finding.cases
    let steps := harness.buildSteps runner session.world ++
      (harness.runSteps finding es).map (Step.within (.run harness.config.testsDir))
    harness.execute.perform runner reporter session =
      ⟨.ok (.ofEpisodes es), steps,
        { world := Episode.lastWorld built es
          reporter := reporter.after session.reporter steps
          laps := lapsAfter finding.cases.length session.laps }⟩ := by
  intro built es steps
  rw [execute, Plan.perform_bind, perform_build harness runner session obliging,
    Progress.andThen_ok, perform_run_of_discover harness runner _ obliging h]
  simp [steps, es, built]

end Obliging

end Harness

/-! ## 5. A whole run -/

/-- **A run does exactly what is written here.** If every callback succeeds, `execute`

    * tells of the build, runs it and tells of its outcome if one is configured, and does nothing of
      this otherwise;
    * looks for cases in the tree that the build left; if there is no tests directory then, it ends
      with that failure and does no more;
    * otherwise tells how many cases there are, then for each case in the order of discovery tells of
      it, runs the command under test, runs the comparison and tells the verdict, and last tells the
      report, which it also returns: every case is counted, and the failed ones are named in order.

    The world changes by these commands only, and the reporter hears these callbacks only. -/
theorem execute_exactly (harness : Harness) (runner : Runner σ) (reporter : Reporter ρ)
    (session : Session σ ρ)
    (succeeds : reporter.refusals session.reporter
      (harness.execute.perform runner reporter session).steps = []) :
    let run := harness.execute.perform runner reporter session
    let built := harness.afterBuild runner session.world
    let root := harness.config.testsDir
    run.session.reporter = reporter.after session.reporter (deeds run.steps) ∧
    (built.files.isDir root = false →
      deeds run.steps = harness.buildDeeds runner session.world ∧
      run.outcome = .error (.testsDirNotFound root) ∧ run.session.world = built) ∧
    (built.files.isDir root = true →
      ∃ finding, discover built.files root = .ok finding ∧
        let es := harness.episodes runner built session.laps finding.cases
        let report := Report.ofEpisodes es
        deeds run.steps = harness.buildDeeds runner session.world ++
            .callback (.runStart finding.cases.length) :: es.flatMap harness.caseDeeds ++
            [.callback (.runComplete report)] ∧
        run.outcome = .ok report ∧ run.session.world = Episode.lastWorld built es ∧
        es.map (·.test) = finding.cases ∧ report.total = finding.cases.length ∧
        report.failedTests = (es.filter (·.verdict = .failed)).map (·.test.id)) := by
  intro run built root
  have hrun : run = harness.execute.perform runner reporter.forgiving session :=
    Plan.perform_eq_forgiving runner reporter harness.execute session succeeds
  refine ⟨?_, fun hdir => ?_, fun hdir => ?_⟩
  · rw [Reporter.after_deeds]
    exact Plan.perform_reporter runner reporter harness.execute session
  · rw [hrun, harness.perform_execute_of_not_isDir runner session Reporter.forgiving_obliging hdir]
    exact ⟨harness.deeds_buildSteps runner session.world, rfl, rfl⟩
  · obtain ⟨finding, hf, _⟩ := discover_of_isDir hdir
    rw [hrun, harness.perform_execute_of_discover runner session Reporter.forgiving_obliging hf]
    refine ⟨finding, hf, ?_, rfl, rfl, harness.episodes_map_test .., ?_, rfl⟩
    · simp [Harness.deeds_buildSteps, Harness.deeds_runSteps, built]
    · have htests := congrArg List.length (harness.episodes_map_test runner
        (harness.afterBuild runner session.world) session.laps finding.cases)
      rwa [List.length_map] at htests

/-! ## 6. A run of two cases behind a build that failed -/

/-- A tests directory `t` with two inputs. -/
def twoInputs : FileTree :=
  { root := .dir .ofDir [(utf8 "t", .dir .ofDir
      [(utf8 "a.smt2", .file .ofFile []), (utf8 "b.smt2", .file .ofFile [])])] }

/-- A harness for the tests directory `t`, with a build. -/
def smallHarness : Harness :=
  { config := { testsDir := utf8 "t", build := some { program := utf8 "make" } } }

/-- It calls `java` on its cases, which is not what it compares with. -/
theorem smallHarness_testing (test : TestCase) :
    (smallHarness.testing test).programName = "java" ∧
      (smallHarness.testing test).program ≠ utf8 "diff" :=
  ⟨show (utf8 "java").lossy = "java" by decide +kernel,
    show utf8 "java" ≠ utf8 "diff" by decide +kernel⟩

/-- A runner whose commands change nothing. Its builds end with exit code 2, its comparisons approve of the
    outputs for `t/a.smt2` only. -/
def unevenRunner : Runner Unit := fun call world =>
  let code :=
    if call.program = utf8 "make" then 2
    else if call.args.contains (utf8 "t/b.smt2.peticodiac") then 1
    else 0
  (.ofResult (.ok { exitCode := some code }), world)

/-- A reporter that does nothing. -/
def silentReporter : Reporter Unit := fun _ state => (none, state)

/-- The cases of `twoInputs`. -/
def firstCase : TestCase :=
  ⟨utf8 "t/a.smt2", "a.smt2"⟩

def secondCase : TestCase :=
  ⟨utf8 "t/b.smt2", "b.smt2"⟩

theorem discover_twoInputs :
    ∃ finding, discover twoInputs (utf8 "t") = .ok finding ∧ finding.cases = [firstCase, secondCase] := by
  have hdir : twoInputs.isDir (utf8 "t") = true := by decide +kernel
  obtain ⟨finding, hf, hcases⟩ := discover_of_isDir hdir
  have hfind : twoInputs.find true (utf8 "t") = .ok (.dir .ofDir
      [(utf8 "a.smt2", .file .ofFile []), (utf8 "b.smt2", .file .ofFile [])]) := rfl
  have hlisted : listingFault? (utf8 "t") Attributes.ofDir.listable = none := by decide +kernel
  have hvisits : twoInputs.visits (utf8 "t") =
      [.entry (utf8 "t/a.smt2") (utf8 "a.smt2"), .entry (utf8 "t/b.smt2") (utf8 "b.smt2")] := by
    rw [FileTree.visits, hfind]
    simp only [Node.visits, hlisted, Node.entryVisits]
    rw [inNameOrder_of_sorted (by decide +kernel)]
    decide +kernel
  have hfirst : (Visit.entry (utf8 "t/a.smt2") (utf8 "a.smt2")).case? twoInputs (utf8 "t") =
      some firstCase := by decide +kernel
  have hsecond : (Visit.entry (utf8 "t/b.smt2") (utf8 "b.smt2")).case? twoInputs (utf8 "t") =
      some secondCase := by decide +kernel
  exact ⟨finding, hf, by simp [hcases, hvisits, hfirst, hsecond]⟩

/-- The build fails and the run goes on: two commands for each case, each pair between two callbacks. -/
theorem execute_exactly_twoInputs :
    let run := smallHarness.execute.perform unevenRunner silentReporter ⟨⟨twoInputs, ()⟩, (), []⟩
    let ended := fun code : Int => Reply.ofResult (.ok { exitCode := some code })
    let make : Invocation := { program := utf8 "make" }
    let java := fun input => ({
      program := utf8 "java"
      args := [utf8 "-jar", utf8 "jSMTLIB.jar", utf8 input, utf8 "--solver", utf8 "peticodiac",
        utf8 "--exec", utf8 "yices", utf8 "--peticodiacout", utf8 "./tests"] } : Invocation)
    let diff := fun actual golden => ({
      program := utf8 "diff", args := [utf8 actual, utf8 golden] } : Invocation)
    silentReporter.refusals () run.steps = [] ∧
    deeds run.steps =
      [.callback (.buildStart make), .command make (ended 2),
        .callback (.buildComplete (.ok { exitCode := some 2 })),
        .callback (.runStart 2),
        .callback (.testStart firstCase), .command (java "t/a.smt2") (ended 0),
        .command (diff "t/a.smt2.peticodiac" "t/a.smt2.peticodiac.expected") (ended 0),
        .callback (.testComplete firstCase .passed .zero),
        .callback (.testStart secondCase), .command (java "t/b.smt2") (ended 0),
        .command (diff "t/b.smt2.peticodiac" "t/b.smt2.peticodiac.expected") (ended 1),
        .callback (.testComplete secondCase .failed .zero),
        .callback (.runComplete { total := 2, failed := 1, failedTests := ["b.smt2"] })] ∧
    run.outcome = .ok { total := 2, failed := 1, failedTests := ["b.smt2"] } := by
  intro run ended make java diff
  have succeeds : silentReporter.refusals () run.steps = [] :=
    Reporter.refusals_of_obliging (fun _ _ => rfl) run.steps
  obtain ⟨_, _, hfound⟩ :=
    execute_exactly smallHarness unevenRunner silentReporter ⟨⟨twoInputs, ()⟩, (), []⟩ succeeds
  obtain ⟨finding, hf, hdeeds, houtcome, _⟩ := hfound (by decide +kernel)
  obtain ⟨other, ho, hcases⟩ := discover_twoInputs
  have hsame : finding = other := Except.ok.inj (hf.symm.trans ho)
  rw [hsame, hcases] at hdeeds houtcome
  refine ⟨succeeds, ?_, ?_⟩
  · rw [hdeeds]
    decide +kernel
  · rw [houtcome]
    exact congrArg Except.ok (by decide +kernel)

end GoldenRun
