import GoldenRun.Proofs.Reporter.Document
import GoldenRun.Proofs.Run.Course

/-!
# One document for each run

A reporter that writes documents may be used for more than one run, and not only for runs. It keeps the
entries of a run in a list of its own, which a run that failed leaves behind; the report is kept by the
harness. The two never disagree:

* `Tells`: the shape of every trace of a harness. Nothing is said until the end; then a report is told, of
  the results that were told since the start of the run, or none is;
* `Tells.uncut`: so the reporter cannot stop a harness before the end of its trace;
* `Tells.after`: so one document is written, or nothing, whatever entries were left behind;
* `Errand.tells`: each of the five things that a harness can be asked for has a trace of this shape;
* `Errand.leaves_all`: any number of them, one after the other.

Main statement: `Errand.one_document_for_each_run`.
-/

namespace GoldenRun

/-! ## 1. Quiet steps -/

/-- A report is told. -/
def Step.isReport : Step → Bool
  | .callback (.runComplete _) => true
  | _ => false

/-- No report is told. -/
def Quiet (steps : List Step) : Prop :=
  ∀ step ∈ steps, step.isReport = false

namespace Quiet

variable {a b : List Step}

theorem nil : Quiet [] :=
  fun _ hstep => (List.not_mem_nil hstep).elim

theorem cons {step : Step} (hstep : step.isReport = false) (h : Quiet a) : Quiet (step :: a) :=
  List.forall_mem_cons.mpr ⟨hstep, h⟩

theorem append (ha : Quiet a) (hb : Quiet b) : Quiet (a ++ b) :=
  fun step hstep => (List.mem_append.mp hstep).elim (ha step) (hb step)

theorem flatMap {α : Type} {steps : α → List Step} (h : ∀ item, Quiet (steps item)) (items : List α) :
    Quiet (items.flatMap steps) := by
  intro step hstep
  obtain ⟨item, _, hmem⟩ := List.mem_flatMap.mp hstep
  exact h item step hmem

theorem take (h : Quiet a) (i : Nat) : Quiet (a.take i) :=
  fun step hstep => h step (List.mem_of_mem_take hstep)

theorem events (events : List Event) : Quiet (events.map .event) := by
  intro step hstep
  obtain ⟨e, _, rfl⟩ := List.mem_map.mp hstep
  rfl

theorem within (h : Quiet a) (span : Span) : Quiet (a.map (Step.within span)) := by
  intro step hstep
  obtain ⟨step, hmem, rfl⟩ := List.mem_map.mp hstep
  cases step with
  | callback | command => exact h _ hmem
  | event => rfl

end Quiet

namespace Document

/-- The document about results. -/
def text (results : List TimedResult) : String :=
  (ofRun (.ofTimed results) (entriesOf results)).pretty

/-- What is written about results, if there are any to tell. -/
def output : Option (List TimedResult) → Bytes
  | none => []
  | some results => utf8 (text results) ++ [0x0A]

/-- About anything but a report nothing is said, and so nothing is refused. -/
theorem reporter_of_not_report {c : Callback} (h : (Step.callback c).isReport = false)
    (entries : List ResultEntry) (sink : Sink) :
    scribe.reporter c (entries, sink) = (none, entriesAfter entries c, sink) := by
  cases c with
  | runComplete => cases h
  | _ => rfl

/-- A report is written, and refused if the flush behind it is. -/
theorem reporter_report (report : Report) (entries : List ResultEntry) (refusesFlush : Bool)
    (held : Bytes) :
    scribe.reporter (.runComplete report) (entries, { refusesFlush, held }) =
      (if refusesFlush then some Sink.unflushed else none, entries,
        { refusesFlush, held := held ++ (utf8 (ofRun report entries).pretty ++ [0x0A]) }) := by
  have hlineFeed : utf8 "\n" = [0x0A] := by decide
  have hsaid : scribe (.runComplete report) entries =
      ([.write (utf8 ((ofRun report entries).pretty ++ "\n")), .flush], entries) := rfl
  have htaken (bytes : Bytes) : Sink.takeAll { refusesFlush, held } [.write bytes, .flush] =
      (if refusesFlush then some Sink.unflushed else none,
        { refusesFlush, held := held ++ bytes }) := by
    rw [Sink.takeAll, Sink.take_write_of_unbounded rfl]
    cases refusesFlush <;> rfl
  rw [← hlineFeed, ← utf8_append]
  simp only [Scribe.reporter, hsaid, htaken]

/-- Quiet steps write nothing. -/
theorem sink_after_quiet {steps : List Step} (h : Quiet steps) (entries : List ResultEntry)
    (sink : Sink) : (scribe.reporter.after (entries, sink) steps).2 = sink := by
  induction steps generalizing entries with
  | nil => rfl
  | cons step steps ih =>
      have hsteps : Quiet steps := fun s hs => h s (List.mem_cons_of_mem step hs)
      cases step with
      | callback c =>
          rw [Reporter.after_callback, reporter_of_not_report (h _ List.mem_cons_self)]
          exact ih hsteps _
      | command | event => exact ih hsteps entries

end Document

/-! ## 2. What a trace tells -/

open Document (scribe entriesOf)

/-- What a trace tells: nothing; or, at its end, the report of results that were told before, whatever was
    told before them. -/
inductive Tells : List Step → Option (List TimedResult) → Prop
  | nothing {steps : List Step} : Quiet steps → Tells steps none
  | report {steps : List Step} {results : List TimedResult} : Quiet steps →
      (∀ entries sink, scribe.reporter.after (entries, sink) steps = (entriesOf results, sink)) →
      Tells (steps ++ [.callback (.runComplete (.ofTimed results))]) (some results)

namespace Tells

variable {steps quiet : List Step} {results? : Option (List TimedResult)}

/-- Quiet steps may stand in front. -/
theorem behind (h : Tells steps results?) (hquiet : Quiet quiet) : Tells (quiet ++ steps) results? := by
  cases h with
  | nothing hsteps => exact .nothing (hquiet.append hsteps)
  | @report front results hfront hentries =>
      rw [← List.append_assoc]
      refine .report (hquiet.append hfront) fun entries sink => ?_
      have hsink := Document.sink_after_quiet hquiet entries sink
      rw [Reporter.after_append, ← Prod.eta (scribe.reporter.after (entries, sink) quiet), hsink, hentries]

/-- A stretch around the steps tells the same. -/
theorem within (h : Tells steps results?) (span : Span) :
    Tells (steps.map (Step.within span)) results? := by
  cases h with
  | nothing hsteps => exact .nothing (hsteps.within span)
  | report hfront hentries =>
      rw [List.map_append]
      refine .report (hfront.within span) fun entries sink => ?_
      rw [Reporter.after_within, hentries]

/-- **One document, or nothing**, whatever entries were left behind; a flush that is refused takes nothing
    back. -/
theorem after (h : Tells steps results?) (entries : List ResultEntry) (refusesFlush : Bool)
    (held : Bytes) :
    (scribe.reporter.after (entries, { refusesFlush, held }) steps).2 =
      { refusesFlush, held := held ++ Document.output results? } := by
  cases h with
  | nothing hsteps => rw [Document.sink_after_quiet hsteps, Document.output, List.append_nil]
  | report hfront hentries =>
      rw [Reporter.after_append, hentries, Reporter.after_callback, Document.reporter_report]
      rfl

/-- **Nothing is written early**: behind any of the steps the sink is as it was, or no command is left. -/
theorem nothing_early (h : Tells steps results?) (entries : List ResultEntry) (sink : Sink) (i : Nat) :
    (scribe.reporter.after (entries, sink) (steps.take i)).2 = sink ∨
      (steps.drop i).filterMap Step.call? = [] := by
  cases h with
  | nothing hsteps => exact .inl (Document.sink_after_quiet (hsteps.take i) entries sink)
  | @report front results hfront hentries =>
      rcases Nat.lt_or_ge front.length i with hi | hi
      · refine .inr ?_
        rw [List.drop_eq_nil_of_le (by rw [List.length_append]; exact hi)]
        rfl
      · refine .inl ?_
        rw [List.take_append_of_le_length hi]
        exact Document.sink_after_quiet (hfront.take i) entries sink

/-- **The reporter cannot stop a plan early**: the only callback that it may refuse is the last. -/
theorem uncut {σ α : Type} {plan : Plan α} {runner : Runner σ}
    {session : Session σ (List ResultEntry × Sink)}
    (h : Tells (plan.perform runner scribe.reporter.forgiving session).steps results?) :
    (plan.perform runner scribe.reporter session).steps =
      (plan.perform runner scribe.reporter.forgiving session).steps := by
  rcases Plan.perform_uncut_or_cut runner scribe.reporter plan session with
    ⟨_, heq⟩ | ⟨error, ⟨before, c, rest, hwhole, hcut, _, herror⟩, _⟩
  · rw [heq]
  · have hreport : (Step.callback c).isReport = true := by
      cases hc : (Step.callback c).isReport with
      | true => rfl
      | false => rw [Document.reporter_of_not_report hc] at herror; cases herror
    rw [hwhole] at h ⊢
    rw [hcut]
    generalize hsteps : before ++ Step.callback c :: rest = steps at h
    cases h with
    | nothing hquiet =>
        rw [hquiet (.callback c) (hsteps ▸ List.mem_append_right before List.mem_cons_self)] at hreport
        cases hreport
    | report hquiet _ =>
        -- A report before the last step would not be quiet.
        rcases List.eq_nil_or_concat rest with rfl | ⟨rest, last, rfl⟩
        · exact hsteps
        · rw [List.concat_eq_append, ← List.cons_append, ← List.append_assoc] at hsteps
          have hfront := (List.append_inj' hsteps rfl).1
          rw [hquiet (.callback c) (hfront ▸ List.mem_append_right before List.mem_cons_self)] at hreport
          cases hreport

end Tells

/-! ## 3. Episodes -/

/-- What is told about an episode. -/
def Episode.timed {σ : Type} (e : Episode σ) : TimedResult :=
  (e.test, e.verdict, e.elapsed)

/-- The harness and the reporter count the same. -/
theorem Report.ofEpisodes_eq_ofTimed {σ : Type} (es : List (Episode σ)) :
    ofEpisodes es = ofTimed (es.map Episode.timed) := by
  obtain ⟨htotal, hfailed⟩ := foldl_record es empty
  rw [ofTimed, ofResults, List.map_map, List.foldl_map]
  exact ext_failedTests (htotal.trans (Nat.zero_add _)).symm (hfailed.trans (List.nil_append _)).symm

namespace Harness

variable {σ : Type} (harness : Harness)

theorem quiet_buildSteps (runner : Runner σ) (world : World σ) :
    Quiet (harness.buildSteps runner world) := by
  unfold buildSteps
  cases harness.config.build with
  | none => exact .cons rfl .nil
  | some build => exact .cons rfl (.cons rfl (.cons rfl (.cons rfl .nil)))

theorem quiet_work (e : Episode σ) : Quiet (harness.work e) :=
  (Quiet.cons rfl (.events _)).append (.cons rfl (.events _))

theorem quiet_caseSteps (e : Episode σ) : Quiet (harness.caseSteps e) :=
  (Quiet.cons rfl (harness.quiet_work e)).append (.cons rfl .nil)

/-- A case adds its entry. -/
theorem after_caseSteps (e : Episode σ) (entries : List ResultEntry) (sink : Sink) :
    scribe.reporter.after (entries, sink) (harness.caseSteps e) =
      (entries ++ entriesOf [e.timed], sink) := by
  have hstart : scribe.reporter (.testStart e.test) (entries, sink) = (none, entries, sink) := rfl
  have hcomplete : scribe.reporter (.testComplete e.test e.verdict e.elapsed) (entries, sink) =
      (none, entries ++ entriesOf [e.timed], sink) := rfl
  simp only [caseSteps, work, List.cons_append, Reporter.after_callback, Reporter.after_append, hstart,
    Reporter.after_command, Reporter.after_events, hcomplete, Reporter.after_nil]

/-- Case after case adds the entries in order. -/
theorem after_cases (es : List (Episode σ)) (entries : List ResultEntry) (sink : Sink) :
    scribe.reporter.after (entries, sink) (es.flatMap harness.caseSteps) =
      (entries ++ entriesOf (es.map Episode.timed), sink) := by
  induction es generalizing entries with
  | nil => rw [List.map_nil, entriesOf, List.map_nil, List.append_nil]; rfl
  | cons e es ih =>
      rw [List.flatMap_cons, Reporter.after_append, after_caseSteps, ih, List.append_assoc]
      rfl

/-- **A run tells its own results**: its start drops the entries that were left behind. -/
theorem tells_runSteps (finding : Finding) (es : List (Episode σ)) :
    Tells (harness.runSteps finding es) (some (es.map Episode.timed)) := by
  have hsplit : harness.runSteps finding es =
      (finding.events.map .event ++ .callback (.runStart finding.cases.length) ::
        es.flatMap harness.caseSteps ++ [.event (RunEvent.complete (.ofEpisodes es))]) ++
        [.callback (.runComplete (.ofTimed (es.map Episode.timed)))] := by
    simp only [runSteps, Report.ofEpisodes_eq_ofTimed, List.append_assoc, List.cons_append,
      List.nil_append]
  have hstart (entries : List ResultEntry) (sink : Sink) :
      scribe.reporter (.runStart finding.cases.length) (entries, sink) = (none, [], sink) := rfl
  rw [hsplit]
  refine .report ?_ fun entries sink => ?_
  · exact ((Quiet.events finding.events).append
      (.cons rfl (.flatMap harness.quiet_caseSteps es))).append (.cons rfl .nil)
  · simp only [Reporter.after_append, Reporter.after_events, Reporter.after_callback, hstart, after_cases,
      Reporter.after_event, Reporter.after_nil, List.nil_append]

section Obliging

variable {ρ : Type} (runner : Runner σ) {reporter : Reporter ρ} (session : Session σ ρ)

/-- What became of the cases that a run finds in a world; nothing if it finds no tests directory. -/
def resultsIn? (world : World σ) (laps : List Duration) : Option (List TimedResult) :=
  (discover world.files harness.config.testsDir).toOption.map fun finding =>
    (harness.episodes runner world laps finding.cases).map Episode.timed

theorem tells_run (obliging : reporter.Obliging) :
    Tells (harness.run.perform runner reporter session).steps
      (harness.resultsIn? runner session.world session.laps) := by
  unfold resultsIn?
  cases hdir : session.world.files.isDir harness.config.testsDir with
  | false =>
      rw [perform_run_of_not_isDir harness runner session reporter hdir, discover_of_not_isDir hdir]
      exact .nothing .nil
  | true =>
      obtain ⟨finding, hfound, _⟩ := discover_of_isDir hdir
      rw [perform_run_of_discover harness runner session obliging hfound, hfound]
      exact (harness.tells_runSteps finding _).within _

theorem tells_execute (obliging : reporter.Obliging) :
    Tells (harness.execute.perform runner reporter session).steps
      (harness.resultsIn? runner (harness.afterBuild runner session.world) session.laps) := by
  rw [execute, Plan.perform_bind, perform_build harness runner session obliging, Progress.andThen_ok]
  exact (harness.tells_run runner _ obliging).behind (harness.quiet_buildSteps runner session.world)

theorem quiet_discoverCases (reporter : Reporter ρ) :
    Quiet (harness.discoverCases.perform runner reporter session).steps := by
  simp only [discoverCases, Plan.perform_bind, Plan.perform_tree, Progress.andThen_ok,
    Plan.perform_ofExcept]
  cases discover session.world.files harness.config.testsDir with
  | error => exact .nil
  | ok finding => simpa using Quiet.events finding.events

end Obliging

end Harness

/-! ## 4. Errands -/

/-- What a harness can be asked for. -/
inductive Request where
  | run
  | execute
  | build
  | discover
  | runOne (test : TestCase)

/-- The plan of a request; its value is left out. -/
def Request.plan (harness : Harness) : Request → Plan Unit
  | .run => (fun _ => ()) <$> harness.run
  | .execute => (fun _ => ()) <$> harness.execute
  | .build => harness.build
  | .discover => (fun _ => ()) <$> harness.discoverCases
  | .runOne test => (fun _ => ()) <$> harness.runOne test

theorem Plan.steps_map {σ ρ α β : Type} (f : α → β) (plan : Plan α) (runner : Runner σ)
    (reporter : Reporter ρ) (session : Session σ ρ) :
    ((f <$> plan).perform runner reporter session).steps =
      (plan.perform runner reporter session).steps := by
  rw [map_eq_pure_bind, perform_bind, Progress.andThen]
  cases (plan.perform runner reporter session).outcome with
  | ok value => exact List.append_nil _
  | error => rfl

/-- A request to a harness, and all that it depends on: the runner, and the world and the stopwatch as they
    are at its beginning. -/
structure Errand where
  /-- The memories of the runner. -/
  Memory : Type
  harness : Harness
  runner : Runner Memory
  world : World Memory
  laps : List Duration
  /-- The sink refuses flushes for as long as the errand lasts. -/
  refusesFlush : Bool
  request : Request

namespace Errand

variable (errand : Errand)

/-- The beginning of an errand, with the entries and the bytes that were left behind. -/
def session (entries : List ResultEntry) (held : Bytes) :
    Session errand.Memory (List ResultEntry × Sink) :=
  { world := errand.world
    reporter := (entries, { refusesFlush := errand.refusesFlush, held })
    laps := errand.laps }

/-- An errand with the reporter that writes documents. -/
def perform (entries : List ResultEntry) (held : Bytes) :
    Progress errand.Memory (List ResultEntry × Sink) Unit :=
  (errand.request.plan errand.harness).perform errand.runner scribe.reporter (errand.session entries held)

/-- The entries and the bytes that an errand leaves behind. -/
def leaves (left : List ResultEntry × Bytes) : List ResultEntry × Bytes :=
  let reporter := (errand.perform left.1 left.2).session.reporter
  (reporter.1, reporter.2.held)

/-- The world in which a run looks for its cases, if the errand is a run. -/
def searched? : Option (World errand.Memory) :=
  match errand.request with
  | .run => some errand.world
  | .execute => some (errand.harness.afterBuild errand.runner errand.world)
  | _ => none

/-- The cases that a run finds, if the errand is a run and there is a tests directory. -/
def discovered? : Option (List TestCase) :=
  errand.searched?.bind fun world =>
    (discover world.files errand.harness.config.testsDir).toOption.map Finding.cases

/-- What became of these cases, one after the other. -/
def results? : Option (List TimedResult) :=
  errand.searched?.bind fun world => errand.harness.resultsIn? errand.runner world errand.laps

/-- Each case that was found has one result, in the same order. -/
theorem results?_map_test : errand.results?.map (List.map (·.1)) = errand.discovered? := by
  unfold results? discovered? Harness.resultsIn?
  cases errand.searched? with
  | none => rfl
  | some world =>
      cases hfound : discover world.files errand.harness.config.testsDir with
      | error => simp [Except.toOption, hfound]
      | ok finding =>
          simpa [Except.toOption, hfound, Function.comp_def, Episode.timed] using
            errand.harness.episodes_map_test errand.runner world errand.laps finding.cases

/-- **What an errand tells**: a run that found its cases tells their results, and nothing else does. -/
theorem tells (entries : List ResultEntry) (held : Bytes) :
    Tells (errand.perform entries held).steps errand.results? := by
  have obliging : scribe.reporter.forgiving.Obliging := Reporter.forgiving_obliging
  have hideal : Tells ((errand.request.plan errand.harness).perform errand.runner
      scribe.reporter.forgiving (errand.session entries held)).steps errand.results? := by
    cases hrequest : errand.request with
    | run =>
        simp only [results?, searched?, hrequest, Request.plan, Plan.steps_map]
        exact errand.harness.tells_run errand.runner (errand.session entries held) obliging
    | execute =>
        simp only [results?, searched?, hrequest, Request.plan, Plan.steps_map]
        exact errand.harness.tells_execute errand.runner (errand.session entries held) obliging
    | build =>
        simp only [results?, searched?, hrequest, Request.plan]
        rw [Harness.perform_build errand.harness errand.runner (errand.session entries held) obliging]
        exact .nothing (errand.harness.quiet_buildSteps _ _)
    | discover =>
        simp only [results?, searched?, hrequest, Request.plan, Plan.steps_map]
        exact .nothing (errand.harness.quiet_discoverCases _ _ _)
    | runOne test =>
        simp only [results?, searched?, hrequest, Request.plan, Plan.steps_map]
        rw [Harness.perform_runOne errand.harness errand.runner (errand.session entries held)
          scribe.reporter.forgiving test .zero]
        exact .nothing (errand.harness.quiet_work _)
  rw [perform, hideal.uncut]
  exact hideal

/-- **One errand** adds the document about its results, or nothing. -/
theorem leaves_snd (left : List ResultEntry × Bytes) :
    (errand.leaves left).2 = left.2 ++ Document.output errand.results? := by
  have htold := (errand.tells left.1 left.2).after left.1 errand.refusesFlush left.2
  rw [leaves, perform, Plan.perform_reporter]
  exact congrArg Sink.held htold

/-- **Errand after errand**: the documents stand in order, each with a line feed, and nothing between
    them. -/
theorem leaves_all (errands : List Errand) (left : List ResultEntry × Bytes) :
    (errands.foldl (fun left errand => errand.leaves left) left).2 =
      left.2 ++ (errands.filterMap results?).flatMap fun results =>
        utf8 (Document.text results) ++ [0x0A] := by
  induction errands generalizing left with
  | nil => simp
  | cons errand errands ih =>
      rw [List.foldl_cons, ih, leaves_snd, List.append_assoc]
      cases hresults : errand.results? with
      | none => rw [List.filterMap_cons_none hresults]; rfl
      | some results => rw [List.filterMap_cons_some hresults]; rfl

/-- **One document for each run**, whatever is done with the reporter in between. A reporter of documents,
    with any entries left behind, writes into a place without bounds that may refuse flushes. It is shared
    by any number of errands: runs, with or without a build, builds, discoveries, single cases, of any
    harnesses, each with its own runner and in a world of its own.

    * What is written is one document, and a line feed, for each errand that is a run and found its cases,
      in order, and nothing else.
    * The results of such a run are those of the cases that it found itself, each once and in order.
      Before the last command of an errand was run nothing is written.
    * A document says how many results there are, how many failed, the ids of these in the same order,
      and all results in order. -/
theorem one_document_for_each_run (errands : List Errand) (entries : List ResultEntry) (held : Bytes) :
    (errands.foldl (fun left errand => errand.leaves left) (entries, held)).2 =
      held ++ (errands.filterMap results?).flatMap (fun results =>
        utf8 (Document.text results) ++ [0x0A]) ∧
    (∀ errand : Errand, errand.results?.map (List.map (·.1)) = errand.discovered? ∧
      ∀ i, let steps := (errand.perform entries held).steps
        (scribe.reporter.after (errand.session entries held).reporter (steps.take i)).2.held = held ∨
          (steps.drop i).filterMap Step.call? = []) ∧
    ∀ results,
      let failed := results.filter (·.2.1 = .failed)
      let run := Json.Datum.record
        [("total", .natural results.length), ("failed", .natural failed.length),
          ("failed_tests", .list (failed.map (.text ·.1.id))),
          ("results", .list (results.map Document.resultDatum))]
      Json.Document (Document.text results) run ∧ Json.decode? (Document.text results) = some run := by
  refine ⟨leaves_all errands (entries, held), fun errand => ⟨errand.results?_map_test, fun i => ?_⟩,
    fun results => ?_⟩
  · exact ((errand.tells entries held).nothing_early entries _ i).imp_left (congrArg Sink.held)
  · intro failed run
    obtain ⟨htotal, hfailed⟩ := Report.ofTimed_counts results
    have hrun : run = .record (Document.reportData (.ofTimed results) ++
        [("results", .list (results.map Document.resultDatum))]) := by
      simp [run, failed, Document.reportData, Report.failed_eq_length, htotal, hfailed]
    have hdecoded : Json.decode? (Document.text results) = some run := by
      rw [Document.text, Json.decode?_pretty, Document.datum_ofRun, hrun]
    exact ⟨Json.decode?_eq_some_iff.mp hdecoded, hdecoded⟩

end Errand

end GoldenRun
