import GoldenRun.Proofs.Files.Times
import GoldenRun.Proofs.Run.Outputs
import GoldenRun.Proofs.Run.StaleOutput
import Mathlib.Data.List.Perm.Basic

/-!
# Cases do not come in each other's way

Each case of a run finds the files as the cases before it left them. If commands keep to their own files,
this makes no difference: the verdict of a case is the one that it has alone, and the files that are left
in the end are the same whatever the order.

* `Runner.WritesOutputs`: the command under test writes at most the actual output, as its input decides;
* `Runner.OnlyReads`: the comparison changes nothing and looks at two files only;
* `Harness.episode_files`, `Harness.verdict_settled`: one case; `Harness.episodes_settled`: case after case.

Main statement: `order_of_cases_irrelevant`.
-/

namespace GoldenRun

variable {σ ρ : Type}

/-! ## 1. Commands that keep to their files -/

namespace Runner

/-- For every case whose input is a file, the command under test writes the actual output or nothing, as
    the path of the input and what is read from it decide; the write may be refused. Where times do not
    count, any time may pass meanwhile. How the command ends is left open. -/
def WritesOutputs (runner : Runner σ) (harness : Harness) (times : Bool)
    (output : Bytes → Except Errno Bytes → Option Bytes) : Prop :=
  ∀ test world, world.files.isFile test.input = true →
    (runner (harness.testing test) world).2.files.seen times =
      (world.files.seen times).receive test.actual (output test.input (world.files.read test.input))

/-- The call changes no file, and what is read from the files named by its last two arguments decides
    whether it ends with exit code 0. Where times do not count, any time may pass. -/
def OnlyReads (runner : Runner σ) (times : Bool) (call : Invocation) : Prop :=
  ∃ answer : Except Errno Bytes → Except Errno Bytes → Bool,
    ∀ world a b, lastTwo call.args = some (a, b) →
      (runner call world).2.files.seen times = world.files.seen times ∧
      (runner call world).1.result.succeeded = answer (world.files.read a) (world.files.read b)

/-- Both files could be read, and have one content. -/
def oneContent : Except Errno Bytes → Except Errno Bytes → Bool
  | .ok x, .ok y => x == y
  | _, _ => false

/-- A comparison that changes no file, and ends with exit code 0 exactly for two readable files of one
    content, only reads. -/
theorem onlyReads_of_exact {runner : Runner σ} {times : Bool} {call : Invocation}
    (harmless : ∀ world, (runner call world).2.files.seen times = world.files.seen times)
    (honest : runner.Vouches call) (fair : runner.Approves call) : runner.OnlyReads times call := by
  refine ⟨oneContent, fun world a b hlast => ⟨harmless world, ?_⟩⟩
  have hsame : (runner call world).1.result.succeeded = true ↔ world.files.SameContent a b := by
    constructor
    · intro h
      obtain ⟨a', b', hlast', hsame⟩ := honest world h
      cases hlast.symm.trans hlast'
      exact hsame
    · exact fair world a b hlast
  rw [Bool.eq_iff_iff, hsame]
  unfold FileTree.SameContent
  cases world.files.read a with
  | error _ => simp [oneContent]
  | ok x =>
      cases world.files.read b with
      | error _ => simp [oneContent]
      | ok y =>
          constructor
          · rintro ⟨_, ⟨⟩, ⟨⟩⟩
            exact beq_self_eq_true x
          · intro h
            exact ⟨x, rfl, congrArg Except.ok (eq_of_beq h).symm⟩

end Runner

/-! ## 2. One case -/

/-- What the command under test writes for an input of `start`. -/
def wantedFrom (start : FileTree) (root : Bytes)
    (output : Bytes → Except Errno Bytes → Option Bytes) (names : Location) : Option Bytes :=
  output (Path.below root names) (start.read (Path.below root names))

namespace Harness

open FileTree (Settled)

section Settled

variable {harness : Harness} {runner : Runner σ} {times : Bool}
  {output : Bytes → Except Errno Bytes → Option Bytes} {start : FileTree} {root : Bytes}
  {base names : Location} {done done' : List Location}

/-- **One case**: its output is received, and nothing else happens to the files. -/
theorem episode_files (hstart : start.Ordinary) (writes : runner.WritesOutputs harness times output)
    (reads : ∀ test, runner.OnlyReads times (harness.comparing test)) {world : World σ}
    (hworld : Settled start root base (wantedFrom start root output) done (world.files.seen times))
    (hnames : start.InputAt root base names) (elapsed : Duration) :
    let e := harness.episode runner world elapsed (.along root names)
    e.middle.files.seen times = (world.files.seen times).receive (Path.below root (outputOf names))
        (wantedFrom start root output names) ∧
      e.finish.files.seen times = e.middle.files.seen times := by
  intro e
  have hfile := hworld.isFile_input hstart hnames
  have hread := hworld.read_input hstart hnames
  rw [FileTree.isFile_seen] at hfile
  rw [FileTree.read_seen] at hread
  obtain ⟨answer, hanswer⟩ := reads (.along root names)
  refine ⟨?_, (hanswer e.middle _ _ (harness.lastTwo_comparing _)).1⟩
  rw [wantedFrom, ← hread, ← TestCase.along_actual root hnames.ne_nil]
  exact writes (.along root names) world hfile

theorem episode_settled (hstart : start.Ordinary) (writes : runner.WritesOutputs harness times output)
    (reads : ∀ test, runner.OnlyReads times (harness.comparing test)) {world : World σ}
    (hworld : Settled start root base (wantedFrom start root output) done (world.files.seen times))
    (hnames : start.InputAt root base names) (elapsed : Duration) :
    Settled start root base (wantedFrom start root output) (names :: done)
      ((harness.episode runner world elapsed (.along root names)).middle.files.seen times) := by
  rw [(episode_files hstart writes reads hworld hnames elapsed).1]
  exact hworld.next hstart hnames

/-- **The verdict of a case** does not depend on the cases that were run before. -/
theorem verdict_settled (hstart : start.Ordinary) (writes : runner.WritesOutputs harness times output)
    (reads : ∀ test, runner.OnlyReads times (harness.comparing test)) {world world' : World σ}
    (hworld : Settled start root base (wantedFrom start root output) done (world.files.seen times))
    (hworld' : Settled start root base (wantedFrom start root output) done' (world'.files.seen times))
    (hnames : start.InputAt root base names) (elapsed elapsed' : Duration) :
    let e := harness.episode runner world elapsed (.along root names)
    let e' := harness.episode runner world' elapsed' (.along root names)
    e.verdict = e'.verdict := by
  intro e e'
  have hhere := episode_settled hstart writes reads hworld hnames elapsed
  have hthere := episode_settled hstart writes reads hworld' hnames elapsed'
  obtain ⟨answer, hanswer⟩ := reads (.along root names)
  have hanswer := fun middle => (hanswer middle _ _ (harness.lastTwo_comparing _)).2
  have hactual := hhere.read_output hthere hstart List.mem_cons_self List.mem_cons_self
  have hexpected := (hhere.read_golden hstart hnames).trans (hthere.read_golden hstart hnames).symm
  rw [← TestCase.along_actual root hnames.ne_nil, FileTree.read_seen, FileTree.read_seen] at hactual
  rw [← TestCase.along_expected root hnames.ne_nil, FileTree.read_seen, FileTree.read_seen] at hexpected
  have hsame : e.compared.result.succeeded = e'.compared.result.succeeded := by
    refine (hanswer e.middle).trans (Eq.trans ?_ (hanswer e'.middle).symm)
    rw [hactual, hexpected]
  rw [e.verdict_eq, e'.verdict_eq, Verdict.ofComparison, Verdict.ofComparison, hsame]

/-! ## 3. Case after case -/

/-- **Cases one after the other** have the verdicts that they have in `alone`, and leave their outputs. -/
theorem episodes_settled (hstart : start.Ordinary) (writes : runner.WritesOutputs harness times output)
    (reads : ∀ test, runner.OnlyReads times (harness.comparing test)) {alone : World σ}
    (halone : Settled start root base (wantedFrom start root output) done' (alone.files.seen times))
    {order : List Location} (horder : ∀ names ∈ order, start.InputAt root base names) {world : World σ}
    (hworld : Settled start root base (wantedFrom start root output) done (world.files.seen times))
    (laps : List Duration) :
    let es := harness.episodes runner world laps (order.map (.along root))
    es.map Episode.verdict =
        order.map (fun names => (harness.episode runner alone .zero (.along root names)).verdict) ∧
      Settled start root base (wantedFrom start root output) (order.reverse ++ done)
        ((Episode.lastWorld world es).files.seen times) := by
  induction order generalizing world laps done with
  | nil => exact ⟨rfl, hworld⟩
  | cons names order ih =>
      intro es
      obtain ⟨hnames, horder⟩ := List.forall_mem_cons.mp horder
      have hverdict := verdict_settled hstart writes reads hworld halone hnames (nextLap laps).1 .zero
      have hfinish := episode_settled hstart writes reads hworld hnames (nextLap laps).1
      rw [← (episode_files hstart writes reads hworld hnames (nextLap laps).1).2] at hfinish
      obtain ⟨hverdicts, hlast⟩ := ih horder hfinish (nextLap laps).2
      refine ⟨?_, ?_⟩
      · rw [List.map_cons, ← hverdict, ← hverdicts]
        rfl
      · rw [List.reverse_cons, List.append_assoc, List.singleton_append]
        exact hlast

end Settled

/-- Running cases one by one is their episodes. -/
theorem perform_mapM_runOne (harness : Harness) (runner : Runner σ) (reporter : Reporter ρ)
    (session : Session σ ρ) (laps : List Duration) (tests : List TestCase) :
    let es := harness.episodes runner session.world laps tests
    (tests.mapM harness.runOne).perform runner reporter session =
      ⟨.ok (es.map Episode.verdict), es.flatMap harness.work,
        { session with world := Episode.lastWorld session.world es }⟩ := by
  induction tests generalizing session laps with
  | nil => rfl
  | cons test tests ih =>
      have hone := harness.perform_runOne runner session reporter test (nextLap laps).1
      rw [List.mapM_cons, Plan.perform_bind, hone, Progress.andThen_ok, Plan.perform_bind,
        ih _ (nextLap laps).2]
      simp [episodes, Episode.lastWorld]

/-- **Cases run one by one** have the verdicts that they have alone, and leave their outputs. -/
theorem oneByOne_settled {harness : Harness} {runner : Runner σ} {reporter : Reporter ρ}
    {session : Session σ ρ} {times : Bool} {output : Bytes → Except Errno Bytes → Option Bytes}
    {root : Bytes} {base : Location} (ordinary : session.world.files.Ordinary)
    (writes : runner.WritesOutputs harness times output)
    (reads : ∀ test, runner.OnlyReads times (harness.comparing test)) {order : List Location}
    (horder : ∀ names ∈ order, (session.world.files.seen times).InputAt root base names) :
    let start := session.world.files.seen times
    let run := ((order.map (.along root)).mapM harness.runOne).perform runner reporter session
    run.outcome = .ok ((order.map (TestCase.along root)).map fun test =>
        (harness.episode runner session.world .zero test).verdict) ∧
      Settled start root base (wantedFrom start root output) order.reverse
        (run.session.world.files.seen times) := by
  intro start run
  have hrun : run = _ := harness.perform_mapM_runOne runner reporter session session.laps _
  obtain ⟨hverdicts, hsettled⟩ := episodes_settled (ordinary.seen times) writes reads
    (.nil (ordinary.seen times)) horder (.nil (ordinary.seen times)) session.laps
  rw [List.append_nil] at hsettled
  rw [hrun, List.map_map]
  exact ⟨congrArg Except.ok hverdicts, hsettled⟩

end Harness

/-! ## 4. The order of cases -/

/-- **The order of cases is irrelevant.** In a tree of files and directories, with commands that keep to
    their files, every case has one verdict:

    * it has it when it is run alone, on the tree as discovery saw it;
    * it has it when all cases are run one by one, whatever their order.

    And after all cases there is the same in every place of the tree, whatever their order. Where times
    count, this includes the times; where they do not, commands may take any time, and the trees are the
    same but for their times. -/
theorem order_of_cases_irrelevant (harness : Harness) (runner : Runner σ) (reporter : Reporter ρ)
    (session : Session σ ρ) (times : Bool) {output : Bytes → Except Errno Bytes → Option Bytes}
    {finding : Finding} (ordinary : session.world.files.Ordinary)
    (writes : runner.WritesOutputs harness times output)
    (reads : ∀ test, runner.OnlyReads times (harness.comparing test))
    (found : discover session.world.files harness.config.testsDir = .ok finding) :
    let run := fun tests : List TestCase =>
      (tests.mapM harness.runOne).perform runner reporter session
    ∃ verdict : TestCase → Verdict,
      (∀ test ∈ finding.cases,
        ((harness.runOne test).perform runner reporter session).outcome = .ok (verdict test)) ∧
      ∀ order : List TestCase, order.Perm finding.cases →
        (run order).outcome = .ok (order.map verdict) ∧
        ((run finding.cases).session.world.files.seen times).Alike
          ((run order).session.world.files.seen times) := by
  intro run
  rw [← FileTree.discover_seen times] at found
  obtain ⟨base, inputs, -, -, hcases, -, hmem⟩ := FileTree.exists_inputs (ordinary.seen times) found
  have hcases : finding.cases = inputs.map (.along harness.config.testsDir) := hcases
  let verdict := fun test => (harness.episode runner session.world .zero test).verdict
  refine ⟨verdict, fun test _ => ?_, fun order hperm => ?_⟩
  · rw [harness.perform_runOne runner session reporter test .zero]
  · have hinputs : ∀ names ∈ inputs, (session.world.files.seen times).InputAt _ base names :=
      fun names => (hmem names).mp
    rw [hcases] at hperm ⊢
    obtain ⟨names, rfl, hnames⟩ :=
      (congrFun₂ (List.eq_map_comp_perm (TestCase.along _)) order inputs).mpr hperm
    obtain ⟨-, hfirst⟩ := Harness.oneByOne_settled ordinary writes reads hinputs
    obtain ⟨hverdicts, hother⟩ := Harness.oneByOne_settled ordinary writes reads
      fun n hn => hinputs n (hnames.mem_iff.mp hn)
    refine ⟨hverdicts, hfirst.alike hother fun n => ?_⟩
    rw [List.mem_reverse, List.mem_reverse, hnames.mem_iff]

/-! ## 5. A command that copies -/

/-- What is copied of what was read: all of it, unless that is nothing. -/
def copied : Except Errno Bytes → Option Bytes
  | .ok (first :: rest) => some (first :: rest)
  | _ => none

/-- The same some time later. -/
def World.later (pause : Int) (world : World σ) : World σ :=
  { world with files := { world.files with clock := world.files.clock + pause } }

/-- A runner whose calls take a while, whose commands under test copy their inputs, and whose comparisons are
    exact. -/
def copyingRunner (pause : Int) : Runner Unit := fun call world =>
  if call.program = utf8 "diff" then hungRunner call (world.later pause)
  else
    let input := call.args.getD 2 []
    (.ofResult (.ok { exitCode := some 0 }),
      { world with files := (world.later pause).files.receive (Path.appendSuffix input actualSuffix)
                              (copied (world.files.read input)) })

/-- A tests directory `t` in which a directory with an input stands in the place of an output. -/
def crowded : FileTree :=
  { root := .dir .ofDir [(utf8 "t", .dir .ofDir [
      (utf8 "c.smt2.peticodiac.expected", .file .ofFile (utf8 "sat\n")),
      (utf8 "c.smt2", .file .ofFile (utf8 "sat\n")),
      (utf8 "a.smt2.peticodiac", .dir .ofDir [(utf8 "b.smt2", .file .ofFile [])]),
      (utf8 "a.smt2", .file .ofFile (utf8 "unsat\n"))])] }

theorem ordinary_crowded : crowded.Ordinary := by decide +kernel

section Copying

variable {times : Bool} {pause : Int}

/-- No time passes, or nobody looks. -/
theorem seen_later (h : times = true → pause = 0) (world : World σ) :
    (world.later pause).files.seen times = world.files.seen times := by
  cases times with
  | false => rfl
  | true =>
      rw [h rfl]
      show { world.files with clock := world.files.clock + 0 } = world.files
      rw [Int.add_zero]

theorem copyingRunner_writesOutputs (h : times = true → pause = 0) :
    (copyingRunner pause).WritesOutputs smallHarness times fun _ content => copied content := by
  intro test world _
  have hother := (smallHarness_testing test).2
  have hinput : (smallHarness.testing test).args.getD 2 [] = test.input := rfl
  rw [copyingRunner]
  simp only [if_neg hother, hinput, FileTree.seen_receive, seen_later h]
  rfl

theorem copyingRunner_onlyReads (h : times = true → pause = 0) (test : TestCase) :
    (copyingRunner pause).OnlyReads times (smallHarness.comparing test) := by
  have hprogram : (smallHarness.comparing test).program = utf8 "diff" := rfl
  have hdiff : ∀ world, copyingRunner pause (smallHarness.comparing test) world =
      hungRunner (smallHarness.comparing test) (world.later pause) := by
    intro world
    rw [copyingRunner, if_pos hprogram]
  refine Runner.onlyReads_of_exact (fun world => ?_) (fun world hok => ?_) fun world a b hlast hsame => ?_
  · rw [hdiff, hungRunner, if_pos hprogram]
    exact seen_later h world
  · rw [hdiff] at hok
    exact hungRunner_vouches test _ hok
  · rw [smallHarness.lastTwo_comparing] at hlast
    cases hlast
    rw [hdiff]
    exact (hungRunner_comparing test _).mpr hsame

end Copying

/-- Times count and no time passes; or time passes and does not count. -/
theorem order_of_cases_irrelevant_crowded :
    crowded.Ordinary ∧
    ∀ times, let runner := copyingRunner (if times then 0 else 1000000)
      runner.WritesOutputs smallHarness times (fun _ content => copied content) ∧
      (∀ test, runner.OnlyReads times (smallHarness.comparing test)) ∧
      ∃ finding, discover crowded (utf8 "t") = .ok finding ∧
        let run := fun tests : List TestCase => (tests.mapM smallHarness.runOne).perform runner
          silentReporter ⟨⟨crowded, ()⟩, (), []⟩
        ∃ verdict, (run finding.cases).outcome = .ok (finding.cases.map verdict) ∧
          (run finding.cases.reverse).outcome = .ok (finding.cases.reverse.map verdict) ∧
          ((run finding.cases).session.world.files.seen times).Alike
            ((run finding.cases.reverse).session.world.files.seen times) := by
  refine ⟨ordinary_crowded, fun times => ?_⟩
  have htimes : times = true → (if times then 0 else 1000000 : Int) = 0 := fun h => if_pos h
  have hdir : crowded.isDir (utf8 "t") = true := by decide +kernel
  obtain ⟨finding, hfound, -⟩ := discover_of_isDir hdir
  obtain ⟨verdict, -, horder⟩ := order_of_cases_irrelevant smallHarness _ silentReporter
    ⟨⟨crowded, ()⟩, (), []⟩ times ordinary_crowded (copyingRunner_writesOutputs htimes)
    (copyingRunner_onlyReads htimes) hfound
  obtain ⟨hreverse, halike⟩ := horder _ finding.cases.reverse_perm
  exact ⟨copyingRunner_writesOutputs htimes, copyingRunner_onlyReads htimes, finding, hfound, verdict,
    (horder _ (.refl _)).1, hreverse, halike⟩

end GoldenRun
