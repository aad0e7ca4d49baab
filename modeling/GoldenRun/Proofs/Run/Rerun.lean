import GoldenRun.Proofs.Run.Isolation

/-!
# Running again

A run writes into the tree in which it looks for cases. If commands keep to their files, the next run does
not notice: it finds the same cases, comes to the same report, and leaves the tree that it found.

* `Report.ofEpisodes_congr`: a report depends on the cases and their verdicts only;
* `Harness.run_of_discover`: a run that is not stopped is the episodes of the cases that it finds;
* `Harness.episodes_again`: cases whose outputs are there already change nothing.

Main statement: `rerun_changes_nothing`.
-/

namespace GoldenRun

variable {σ ρ : Type}

/-! ## 1. Runs that are not stopped -/

/-- Episodes of the same cases with the same verdicts have the same report. -/
theorem Report.ofEpisodes_congr {es es' : List (Episode σ)} (htests : es.map (·.test) = es'.map (·.test))
    (hverdicts : es.map Episode.verdict = es'.map Episode.verdict) : ofEpisodes es = ofEpisodes es' := by
  have hids := congrArg (List.map TestCase.id) htests
  rw [List.map_map, List.map_map] at hids
  exact ofEpisodes_eq_of_ids hids hverdicts

namespace Harness

open FileTree (Settled)

/-- If every callback succeeds, a run is the episodes of the cases that it finds. -/
theorem run_of_discover (harness : Harness) (runner : Runner σ) (reporter : Reporter ρ)
    (session : Session σ ρ) {finding : Finding}
    (succeeds : reporter.refusals session.reporter
      (harness.run.perform runner reporter session).steps = [])
    (h : discover session.world.files harness.config.testsDir = .ok finding) :
    let run := harness.run.perform runner reporter session
    let es := harness.episodes runner session.world session.laps finding.cases
    run.outcome = .ok (.ofEpisodes es) ∧ run.session.world = Episode.lastWorld session.world es := by
  have hforgiving : reporter.forgiving.Obliging := Reporter.forgiving_obliging
  intro run es
  have hrun : run = _ := Plan.perform_eq_forgiving runner reporter harness.run session succeeds
  rw [hrun, harness.perform_run_of_discover runner session hforgiving h]
  exact ⟨rfl, rfl⟩

/-! ## 2. Cases that were run before -/

/-- **Cases whose outputs are there already** change nothing. -/
theorem episodes_again {harness : Harness} {runner : Runner σ} {times : Bool}
    {output : Bytes → Except Errno Bytes → Option Bytes} {start : FileTree} {root : Bytes}
    {base : Location} {done : List Location} (hstart : start.Ordinary)
    (writes : runner.WritesOutputs harness times output)
    (reads : ∀ test, runner.OnlyReads times (harness.comparing test)) {order : List Location}
    (horder : ∀ names ∈ order, names ∈ done) {world : World σ}
    (hworld : Settled start root base (wantedFrom start root output) done (world.files.seen times))
    (laps : List Duration) :
    (Episode.lastWorld world (harness.episodes runner world laps
      (order.map (.along root)))).files.seen times = world.files.seen times := by
  induction order generalizing world laps with
  | nil => rfl
  | cons names order ih =>
      obtain ⟨hnames, horder⟩ := List.forall_mem_cons.mp horder
      let e := harness.episode runner world (nextLap laps).1 (.along root names)
      have hfinish : e.finish.files.seen times = world.files.seen times := by
        obtain ⟨hmiddle, hfinish⟩ := episode_files hstart writes reads hworld
          (hworld.inputs names hnames) (nextLap laps).1
        exact hfinish.trans (hmiddle.trans (hworld.again hstart hnames))
      exact (ih horder (hfinish ▸ hworld) (nextLap laps).2).trans hfinish

end Harness

/-! ## 3. A second run -/

/-- **Running again changes nothing.** A run of the cases of a tree of files and directories, and after it
    a second one, possibly with another reporter and another stopwatch. If commands keep to their files
    and every callback succeeds,

    * discovery finds the same cases before and after the first run;
    * the second run ends as the first one does, with the same report if there is a tests directory;
    * the second run leaves the very tree that the first one left. Where times do not count, commands may
      take any time, and it is the same tree but for its times. -/
theorem rerun_changes_nothing {τ : Type} (harness : Harness) (runner : Runner σ)
    (reporter : Reporter ρ) (session : Session σ ρ) (next : Reporter τ) (state : τ)
    (laps : List Duration) (times : Bool) {output : Bytes → Except Errno Bytes → Option Bytes}
    (ordinary : session.world.files.Ordinary) (writes : runner.WritesOutputs harness times output)
    (reads : ∀ test, runner.OnlyReads times (harness.comparing test)) :
    let root := harness.config.testsDir
    let first := harness.run.perform runner reporter session
    let second := harness.run.perform runner next ⟨first.session.world, state, laps⟩
    reporter.refusals session.reporter first.steps = [] → next.refusals state second.steps = [] →
    (discover first.session.world.files root).map Finding.cases =
        (discover session.world.files root).map Finding.cases ∧
      second.outcome = first.outcome ∧
      (session.world.files.isDir root = true → ∃ report, first.outcome = .ok report) ∧
      second.session.world.files.seen times = first.session.world.files.seen times := by
  intro root first second hfirst hsecond
  cases hdir : session.world.files.isDir root with
  | false =>
      have hnone : first = _ := harness.perform_run_of_not_isDir runner session reporter hdir
      have hworld : first.session.world = session.world := by rw [hnone]
      have hagain : second = _ := harness.perform_run_of_not_isDir runner
        ⟨first.session.world, state, laps⟩ next (hworld ▸ hdir)
      rw [hagain, hnone]
      exact ⟨rfl, rfl, fun h => absurd h Bool.false_ne_true, rfl⟩
  | true =>
      obtain ⟨finding, hfound, -⟩ := discover_of_isDir hdir
      have hstart := ordinary.seen times
      have hseen := hfound
      rw [← FileTree.discover_seen times] at hseen
      obtain ⟨base, inputs, -, -, hcases, -, hmem⟩ := FileTree.exists_inputs hstart hseen
      have hcases : finding.cases = inputs.map (.along root) := hcases
      have hinputs := fun names => (hmem names).mp
      obtain ⟨houtcome, hworld⟩ := harness.run_of_discover runner reporter session hfirst hfound
      obtain ⟨hverdicts, hsettled⟩ := Harness.episodes_settled hstart writes reads (.nil hstart)
        hinputs (.nil hstart) session.laps
      rw [← hcases, ← hworld, List.append_nil] at hsettled
      rw [← hcases] at hverdicts
      obtain ⟨again, hagain, hcasesAgain⟩ := hsettled.discover_again hstart hseen
      rw [FileTree.discover_seen] at hagain
      obtain ⟨houtcomeAgain, hworldAgain⟩ := harness.run_of_discover runner next
        ⟨first.session.world, state, laps⟩ hsecond hagain
      obtain ⟨hverdictsAgain, -⟩ := Harness.episodes_settled hstart writes reads (.nil hstart)
        hinputs hsettled laps
      have hfiles := Harness.episodes_again hstart writes reads
        (fun names hn => List.mem_reverse.mpr hn) hsettled laps
      rw [← hcases] at hverdictsAgain hfiles
      rw [hcasesAgain] at houtcomeAgain hworldAgain
      refine ⟨?_, ?_, fun _ => ⟨_, houtcome⟩, ?_⟩
      · have hsame := hsettled.discover_eq hstart
        rwa [FileTree.discover_seen, FileTree.discover_seen] at hsame
      · have hreport := Report.ofEpisodes_congr
          ((harness.episodes_map_test ..).trans (harness.episodes_map_test ..).symm)
          (hverdictsAgain.trans hverdicts.symm)
        exact houtcomeAgain.trans ((congrArg Except.ok hreport).trans houtcome.symm)
      · exact (congrArg (fun world => world.files.seen times) hworldAgain).trans hfiles

/-- Times count and no time passes; or time passes and does not count. -/
theorem rerun_changes_nothing_crowded :
    crowded.Ordinary ∧
    ∀ times, let runner := copyingRunner (if times then 0 else 1000000)
      runner.WritesOutputs smallHarness times (fun _ content => copied content) ∧
      (∀ test, runner.OnlyReads times (smallHarness.comparing test)) ∧
      let first := smallHarness.run.perform runner silentReporter ⟨⟨crowded, ()⟩, (), []⟩
      let second := smallHarness.run.perform runner silentReporter ⟨first.session.world, (), []⟩
      silentReporter.refusals () first.steps = [] ∧ silentReporter.refusals () second.steps = [] ∧
      (∃ report, first.outcome = .ok report ∧ second.outcome = .ok report) ∧
      second.session.world.files.seen times = first.session.world.files.seen times := by
  refine ⟨ordinary_crowded, fun times => ?_⟩
  have htimes : times = true → (if times then 0 else 1000000 : Int) = 0 := fun h => if_pos h
  have hsilent : ∀ steps, silentReporter.refusals () steps = [] :=
    Reporter.refusals_of_obliging fun _ _ => rfl
  obtain ⟨-, hsame, hreport, hfiles⟩ := rerun_changes_nothing smallHarness _ silentReporter
    ⟨⟨crowded, ()⟩, (), []⟩ silentReporter () [] times ordinary_crowded
    (copyingRunner_writesOutputs htimes) (copyingRunner_onlyReads htimes) (hsilent _) (hsilent _)
  obtain ⟨report, hfirst⟩ := hreport (by decide +kernel)
  exact ⟨copyingRunner_writesOutputs htimes, copyingRunner_onlyReads htimes, hsilent _, hsilent _,
    ⟨report, hfirst, hsame.trans hfirst⟩, hfiles⟩

end GoldenRun
