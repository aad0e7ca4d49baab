import GoldenRun.Proofs.Discovery.Losses
import GoldenRun.Proofs.Run.Course

/-!
# Warnings

A failure of an external command never ends a run, and a directory that cannot be listed never ends a
discovery. All that is left of them is a warning in the log.

* `warnings`: the warnings of a trace that are the harness's own, what a runner logs set aside;
* `Harness.buildAlarms`, `Episode.alarms`: the failures of the build and of a case, each as one warning;
* `warnings_buildSteps`, `warnings_caseSteps`, `warnings_runSteps`: each part of a run logs these and no
  other warning.

Main statement: `warnings_exactly`.
-/

namespace GoldenRun

variable {σ ρ : Type}

/-! ## 1. The warnings of a trace -/

/-- What the harness itself logs in a step. -/
def Step.own : Step → List Event
  | event e => [e]
  | _ => []

/-- The warnings among events. -/
def onlyWarnings (events : List Event) : List Event :=
  events.filter (·.level = .warn)

/-- The warnings that the harness itself logs in a trace, in order. -/
def warnings (steps : List Step) : List Event :=
  onlyWarnings (steps.flatMap Step.own)

theorem onlyWarnings_append (a b : List Event) :
    onlyWarnings (a ++ b) = onlyWarnings a ++ onlyWarnings b :=
  List.filter_append ..

/-- A stretch around events goes around the warnings among them. -/
theorem onlyWarnings_within (span : Span) (events : List Event) :
    onlyWarnings (events.map (Event.within span)) = (onlyWarnings events).map (Event.within span) :=
  List.filter_map

@[simp] theorem warnings_nil : warnings [] = [] := rfl

@[simp] theorem warnings_append (a b : List Step) :
    warnings (a ++ b) = warnings a ++ warnings b := by
  rw [warnings, List.flatMap_append, onlyWarnings_append]
  rfl

@[simp] theorem warnings_callback (c : Callback) (steps : List Step) :
    warnings (.callback c :: steps) = warnings steps := rfl

@[simp] theorem warnings_command (call : Invocation) (reply : Reply) (steps : List Step) :
    warnings (.command call reply :: steps) = warnings steps := rfl

theorem warnings_event (e : Event) (steps : List Step) :
    warnings (.event e :: steps) = onlyWarnings [e] ++ warnings steps :=
  onlyWarnings_append [e] (steps.flatMap Step.own)

@[simp] theorem warnings_events (events : List Event) :
    warnings (events.map .event) = onlyWarnings events := by
  rw [warnings, List.flatMap_map]
  exact congrArg onlyWarnings (List.flatMap_singleton' events)

@[simp] theorem warnings_within (span : Span) (steps : List Step) :
    warnings (steps.map (Step.within span)) = (warnings steps).map (Event.within span) := by
  induction steps with
  | nil => rfl
  | cons step steps ih =>
      cases step with
      | callback c => exact ih
      | command call reply => exact ih
      | event e =>
          have hstep := onlyWarnings_within span [e]
          rw [List.map_cons, Step.within, warnings_event, warnings_event, ih, List.map_append, ← hstep]
          rfl

/-! ## 2. Failures as warnings -/

/-- A warning of the run loop. -/
def alarm (message : String) (fields : List (String × FieldValue)) : Event :=
  { level := .warn, origin := .runLoop, message, fields }

/-- The warning about a command of a case that gave no result. A command that ended gives none, whatever
    its exit code, and nor does one that a signal killed. -/
def alarmAbout (test : TestCase) (command : String) : CommandResult → List Event
  | .ok _ => []
  | .error e => [alarm (command ++ ": " ++ e.message) [("test", .text test.id)]]

namespace Harness

/-- The warning about the build: there is one if it gave no result, or an exit code other than 0, or was
    killed by a signal. -/
def buildAlarms (harness : Harness) (runner : Runner σ) (world : World σ) : List Event :=
  match harness.config.build with
  | none => []
  | some build =>
    match (runner (harness.building build) world).1.result with
    | .error e => [alarm ("build could not run: " ++ e.message ++ "; continuing") []]
    | .ok outcome =>
      if outcome.exitCode = some 0 then []
      else
        [alarm "build exited unsuccessfully; continuing" [("code", .ofExitCode outcome.exitCode)]]

end Harness

/-- The warnings about a case: one for each of its two commands that gave no result. -/
def Episode.alarms (e : Episode σ) : List Event :=
  alarmAbout e.test "system under test" e.tested.result ++ alarmAbout e.test "comparison" e.compared.result

/-! ## 3. What each part of a run logs -/

namespace RunEvent

@[simp] theorem onlyWarnings_collected (test : TestCase) (source stream text : String) :
    onlyWarnings (collected test source stream text) = [] := by
  unfold collected
  split <;> rfl

@[simp] theorem onlyWarnings_bothCollected (test : TestCase) (source : String) (outcome : Outcome) :
    onlyWarnings (bothCollected test source outcome) = [] := by
  have hout := onlyWarnings_collected test source "stdout" outcome.stdout
  have herr := onlyWarnings_collected test source "stderr" outcome.stderr
  rw [bothCollected, onlyWarnings_append, hout, herr, List.append_nil]

theorem onlyWarnings_tested (test : TestCase) (result : CommandResult) :
    onlyWarnings (tested test result) = alarmAbout test "system under test" result := by
  cases result with
  | ok outcome => exact onlyWarnings_bothCollected test "system under test" outcome
  | error e => rfl

theorem onlyWarnings_compared (test : TestCase) (result : CommandResult) :
    onlyWarnings (compared test result) = alarmAbout test "comparison" result := by
  cases result with
  | ok outcome => exact onlyWarnings_bothCollected test "comparison" outcome
  | error e => rfl

end RunEvent

namespace Harness

theorem warnings_buildSteps (harness : Harness) (runner : Runner σ) (world : World σ) :
    warnings (harness.buildSteps runner world) = harness.buildAlarms runner world := by
  unfold buildSteps buildAlarms
  cases harness.config.build with
  | none => rfl
  | some build =>
      simp only [warnings_callback, warnings_command, warnings_event, warnings_nil, List.append_nil]
      cases (runner (harness.building build) world).1.result with
      | error e => rfl
      | ok outcome =>
          by_cases hcode : outcome.exitCode = some 0
          · simp [RunEvent.built, Outcome.success, hcode, onlyWarnings, RunEvent.ofRun]
          · simp [RunEvent.built, Outcome.success, hcode, onlyWarnings, RunEvent.ofRun, alarm]

theorem warnings_caseSteps (harness : Harness) (e : Episode σ) :
    warnings (harness.caseSteps e) = e.alarms := by
  simp only [caseSteps, work, List.cons_append, warnings_callback, warnings_command, warnings_append,
    warnings_events, RunEvent.onlyWarnings_tested, RunEvent.onlyWarnings_compared, warnings_nil,
    List.append_nil, Episode.alarms]

theorem warnings_flatMap_caseSteps (harness : Harness) (es : List (Episode σ)) :
    warnings (es.flatMap harness.caseSteps) = es.flatMap Episode.alarms := by
  induction es with
  | nil => rfl
  | cons e es ih => rw [List.flatMap_cons, warnings_append, warnings_caseSteps, ih, List.flatMap_cons]

theorem warnings_runSteps (harness : Harness) (finding : Finding) (es : List (Episode σ)) :
    warnings (harness.runSteps finding es) = onlyWarnings finding.events ++ es.flatMap Episode.alarms := by
  have hcomplete : warnings [.event (RunEvent.complete (.ofEpisodes es)),
      .callback (.runComplete (.ofEpisodes es))] = [] := rfl
  rw [runSteps, List.append_assoc, List.cons_append, warnings_append, warnings_events, warnings_callback,
    warnings_append, warnings_flatMap_caseSteps, hcomplete, List.append_nil]

end Harness

/-- Discovery warns of its losses and of nothing else. -/
theorem onlyWarnings_discover {tree : FileTree} {root : Bytes} {node : Node}
    (hroot : tree.find true root = .ok node) {finding : Finding}
    (hfinding : discover tree root = .ok finding) :
    onlyWarnings finding.events =
      (node.losses root).map fun loss =>
        (skippedEvent (Path.below root loss.1) loss.2).within (.discovery root) := by
  have hskipped : ∀ losses : List (Location × Errno),
      onlyWarnings (losses.map fun loss => skippedEvent (Path.below root loss.1) loss.2) =
        losses.map fun loss => skippedEvent (Path.below root loss.1) loss.2 := by
    intro losses
    refine List.filter_eq_self.2 fun event hevent => ?_
    obtain ⟨loss, -, rfl⟩ := List.mem_map.1 hevent
    rfl
  have hcount : onlyWarnings [discoveredEvent finding.cases] = [] := rfl
  rw [discover_logs hroot hfinding, onlyWarnings_within, onlyWarnings_append, hskipped, hcount,
    List.append_nil, List.map_map]
  rfl

/-! ## 4. A whole run -/

/-- **No swallowed failure is silent, and none is logged twice.** If every callback succeeds, the warnings
    that a run itself logs are, in this order,

    * one if the build is configured and gave no result or anything else than exit code 0;
    * one for each directory of the walk that cannot be listed: the directories below the root to which only
      directories lead that can be listed, once each, in the strict order of their names;
    * then, case after case in the order of discovery, one with the id of the case if its command under test
      gave no result, and one with the id of the case if its comparison gave none.

    Without a tests directory there is the first alone. -/
theorem warnings_exactly (harness : Harness) (runner : Runner σ) (reporter : Reporter ρ)
    (session : Session σ ρ)
    (succeeds : reporter.refusals session.reporter
      (harness.execute.perform runner reporter session).steps = []) :
    let run := harness.execute.perform runner reporter session
    let built := harness.afterBuild runner session.world
    let root := harness.config.testsDir
    (built.files.isDir root = false →
      warnings run.steps = harness.buildAlarms runner session.world) ∧
    (∀ attributes entries, built.files.find true root = .ok (.dir attributes entries) →
      ∃ finding, discover built.files root = .ok finding ∧
        let dir := Node.dir attributes entries
        let es := harness.episodes runner built session.laps finding.cases
        warnings run.steps = harness.buildAlarms runner session.world ++
          ((dir.losses root).map (fun loss =>
              (skippedEvent (Path.below root loss.1) loss.2).within (.discovery root)) ++
            es.flatMap Episode.alarms).map (·.within (.run root)) ∧
        (∀ names cause, (names, cause) ∈ dir.losses root ↔
          dir.Shut root names cause ∧ ∀ i < names.length, dir.Opens root (names.take i)) ∧
        (dir.losses root).Pairwise (fun a b => a.1 < b.1) ∧
        es.map (·.test) = finding.cases) := by
  intro run built root
  have hrun : run = harness.execute.perform runner reporter.forgiving session :=
    Plan.perform_eq_forgiving runner reporter harness.execute session succeeds
  constructor
  · intro hdir
    rw [hrun, harness.perform_execute_of_not_isDir runner session Reporter.forgiving_obliging hdir]
    exact harness.warnings_buildSteps runner session.world
  · intro attributes entries hroot
    have hdistinct := FileTree.distinct_of_find hroot
    obtain ⟨finding, hfinding, -⟩ := discover_of_isDir (FileTree.isDir_iff.2 ⟨attributes, entries, hroot⟩)
    refine ⟨finding, hfinding, ?_, Node.mem_losses_iff hdistinct root,
      Node.losses_increasing hdistinct root, harness.episodes_map_test ..⟩
    rw [hrun,
      harness.perform_execute_of_discover runner session Reporter.forgiving_obliging hfinding]
    simp only [warnings_append, warnings_within, Harness.warnings_buildSteps, Harness.warnings_runSteps,
      onlyWarnings_discover hroot hfinding]
    rfl

/-! ## 5. A run in which everything fails -/

/-- A runner that can start nothing. -/
def absentRunner : Runner Unit := fun call world =>
  (.ofResult (.error (.spawn call.programName (.os .notFound))), world)

/-- A directory with one input, and with a directory that cannot be listed. -/
def barredDir : Node :=
  .dir .ofDir
    [(utf8 "a.smt2", .file .ofFile []),
      (utf8 "shut", .dir { mode := 0, listable := false } [(utf8 "b.smt2", .file .ofFile [])])]

/-- The tree in which that directory is the tests directory `t`. -/
def barred : FileTree :=
  { root := .dir .ofDir [(utf8 "t", barredDir)] }

theorem trails_barred : barredDir.trails (utf8 "t") = [[utf8 "a.smt2"], [utf8 "shut"]] := by
  have hlisted : listingFault? (utf8 "t") true = none := by decide +kernel
  rw [barredDir, Node.trails_dir hlisted, inNameOrder_of_sorted (by decide +kernel)]
  decide +kernel

theorem losses_barred : barredDir.losses (utf8 "t") = [([utf8 "shut"], .accessDenied)] := by
  rw [Node.losses, trails_barred]
  decide +kernel

theorem discover_barred :
    ∃ finding, discover barred (utf8 "t") = .ok finding ∧
      finding.cases = [⟨utf8 "t/a.smt2", "a.smt2"⟩] := by
  have hdir : barred.isDir (utf8 "t") = true := by decide +kernel
  have hvisits : barred.visits (utf8 "t") = barredDir.visits (utf8 "t") := rfl
  obtain ⟨finding, hfinding, hcases⟩ := discover_of_isDir hdir
  refine ⟨finding, hfinding, ?_⟩
  rw [hcases, hvisits, Node.filterMap_visits, trails_barred]
  decide +kernel

theorem warnings_exactly_barred :
    let run := smallHarness.execute.perform absentRunner silentReporter ⟨⟨barred, ()⟩, (), []⟩
    silentReporter.refusals () run.steps = [] ∧
    (warnings run.steps).map (·.message) =
      ["build could not run: failed to spawn 'make': No such file or directory (os error 2); continuing",
        "skipping unreadable entry: IO error for operation on t/shut: Permission denied (os error 13)",
        "system under test: failed to spawn 'java': No such file or directory (os error 2)",
        "comparison: failed to spawn 'diff': No such file or directory (os error 2)"] := by
  intro run
  have succeeds : silentReporter.refusals () run.steps = [] :=
    Reporter.refusals_of_obliging (fun _ _ => rfl) run.steps
  obtain ⟨finding, hfinding, hwarnings, -⟩ :=
    (warnings_exactly smallHarness absentRunner silentReporter ⟨⟨barred, ()⟩, (), []⟩ succeeds).2 _ _ rfl
  obtain ⟨other, hother, hcases⟩ := discover_barred
  have hsame : finding = other := Except.ok.inj (hfinding.symm.trans hother)
  refine ⟨succeeds, ?_⟩
  rw [hwarnings, hsame, hcases]
  show List.map _ (_ ++ List.map _ (List.map _ (barredDir.losses (utf8 "t")) ++ _)) = _
  rw [losses_barred]
  decide +kernel

end GoldenRun
