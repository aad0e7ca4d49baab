import GoldenRun.Proofs.Discovery.Spellings
import GoldenRun.Proofs.Run.Interruption

/-!
# Reports under another spelling of the root

A report says of a case its id and how it ended. The ids are those of the names below the root, however the
root is spelt, so two runs that look at one directory under different spellings, and tell the same verdicts,
have the same report.

* `verdictsTold`: the verdicts that a reporter was told;
* `Harness.Gives`: a run of the harness in a tree tells these verdicts and gives this report.

Main statement: `ids_whatever_the_spelling`.
-/

namespace GoldenRun

variable {σ ρ : Type}

/-! ## 1. What is told of the cases -/

/-- The verdict that is told in a step, if there is one. -/
def Step.verdict? : Step → Option Verdict
  | .callback (.testComplete _ verdict _) => some verdict
  | _ => none

/-- The verdicts that the reporter was told, in order. -/
def verdictsTold (steps : List Step) : List Verdict :=
  steps.filterMap Step.verdict?

theorem verdictsTold_append (a b : List Step) : verdictsTold (a ++ b) = verdictsTold a ++ verdictsTold b :=
  List.filterMap_append

/-- Verdicts are told in callbacks. -/
theorem verdictsTold_deeds (steps : List Step) : verdictsTold (deeds steps) = verdictsTold steps := by
  induction steps with
  | nil => rfl
  | cons step steps ih =>
      cases step with
      | callback c =>
          rw [deeds_callback, ← List.singleton_append, verdictsTold_append, ih, ← verdictsTold_append]
          rfl
      | command call reply => exact ih
      | event e => exact ih

namespace Harness

/-- Of each episode its verdict is told. -/
theorem verdictsTold_runSteps (harness : Harness) (finding : Finding) (es : List (Episode σ)) :
    verdictsTold (harness.runSteps finding es) = es.map Episode.verdict := by
  have hcases : verdictsTold (es.flatMap harness.caseDeeds) = es.map Episode.verdict := by
    induction es with
    | nil => rfl
    | cons e es ih => rw [List.flatMap_cons, verdictsTold_append, ih]; rfl
  rw [← verdictsTold_deeds, deeds_runSteps, List.cons_append, ← List.singleton_append,
    verdictsTold_append, verdictsTold_append, hcases]
  exact List.append_nil _

/-- A run of the harness that finds this tree tells these verdicts and gives this report. -/
def Gives (harness : Harness) (tree : FileTree) (verdicts : List Verdict) (report : Report) : Prop :=
  ∃ (σ ρ : Type) (runner : Runner σ) (reporter : Reporter ρ) (session : Session σ ρ),
    let run := harness.run.perform runner reporter session
    session.world.files = tree ∧ run.outcome = .ok report ∧ verdictsTold run.steps = verdicts

/-- The report counts the verdicts that are told, in the order of the cases. -/
theorem Gives.exists_episodes {harness : Harness} {tree : FileTree} {verdicts : List Verdict}
    {report : Report} (h : harness.Gives tree verdicts report) :
    ∃ finding, discover tree harness.config.testsDir = .ok finding ∧
      ∃ (σ : Type) (es : List (Episode σ)), es.map (·.test) = finding.cases ∧
        es.map Episode.verdict = verdicts ∧ report = .ofEpisodes es := by
  obtain ⟨σ, ρ, runner, reporter, session, rfl, houtcome, rfl⟩ := h
  obtain ⟨finding, hfinding, hdeeds, hreport⟩ := course_of_run houtcome
  refine ⟨finding, hfinding, σ, _, harness.episodes_map_test .., ?_, hreport⟩
  rw [← verdictsTold_deeds, hdeeds, verdictsTold_deeds, verdictsTold_runSteps]

end Harness

/-! ## 2. One directory, many spellings -/

/-- **Ids do not depend on how the root is spelt.** Let the root be any path that names a directory.

    * Every case of the discovery lies below the root over a list of names. The root is always taken away
      from its path, and the id is what is displayed for the names, joined by single slashes.
    * If two paths name one directory, and no path that is met below either of them is too long, their
      discoveries give the same ids in the same order, exactly if no case that is found under one of them
      has more links on its path under the other than may be followed.
    * If that is so, runs below the two paths that tell the same verdicts have the same report. -/
theorem ids_whatever_the_spelling (tree : FileTree) :
    (∀ root, tree.isDir root = true →
      ∃ finding, discover tree root = .ok finding ∧
        ∀ test ∈ finding.cases, ∃ names : Location, names ≠ [] ∧ (∀ name ∈ names, Path.IsName name) ∧
          test.input = Path.below root names ∧
          Path.stripPrefix? root test.input = some (join Path.slash names) ∧
          test.id = Bytes.lossy (join Path.slash names)) ∧
    (∀ a b, tree.SameDir a b → tree.WalksWithin a → tree.WalksWithin b →
      (∃ here there, discover tree a = .ok here ∧ discover tree b = .ok there ∧
        (here.cases.map (·.id) = there.cases.map (·.id) ↔
          tree.LinksSuffice a b ∧ tree.LinksSuffice b a)) ∧
      (tree.LinksSuffice a b → tree.LinksSuffice b a →
        ∀ (first second : Harness) (verdicts : List Verdict) (report other : Report),
          first.config.testsDir = a → second.config.testsDir = b →
          first.Gives tree verdicts report → second.Gives tree verdicts other → report = other)) := by
  constructor
  · intro root hdir
    obtain ⟨finding, hfinding, -⟩ := discover_of_isDir hdir
    obtain ⟨found, hroot, hcases, -, hnames⟩ := exists_found hfinding
    refine ⟨finding, hfinding, fun test htest => ?_⟩
    rw [hcases] at htest
    obtain ⟨names, hmem, rfl⟩ := List.mem_map.1 htest
    obtain ⟨hne, hallNames⟩ := hnames names hmem
    exact ⟨names, hne, hallNames, rfl, Path.stripPrefix?_below hroot hne hallNames,
      TestCase.idBelow_below hroot hne hallNames⟩
  · intro a b hsame hwithinA hwithinB
    obtain ⟨here, there, hhere, hthere, hids⟩ := hsame.ids_eq_iff hwithinA hwithinB
    refine ⟨⟨here, there, hhere, hthere, hids⟩, ?_⟩
    rintro hlinksAB hlinksBA first second verdicts report other rfl rfl hfirst hsecond
    obtain ⟨finding, hfinding, σ, es, htests, hverdicts, rfl⟩ := hfirst.exists_episodes
    obtain ⟨finding', hfinding', τ, es', htests', hverdicts', rfl⟩ := hsecond.exists_episodes
    cases hhere.symm.trans hfinding
    cases hthere.symm.trans hfinding'
    have hsameIds := hids.2 ⟨hlinksAB, hlinksBA⟩
    rw [← htests, ← htests', List.map_map, List.map_map] at hsameIds
    exact Report.ofEpisodes_eq_of_ids hsameIds (hverdicts.trans hverdicts'.symm)

/-- The harness with the defaults and this tests directory. -/
def harnessAt (root : Bytes) : Harness :=
  { config := { testsDir := root } }

/-- A runner whose commands all end with exit code 0 and change nothing. -/
def contentRunner : Runner Unit := fun _ world =>
  (.ofResult (.ok { exitCode := some 0 }), world)

/-- With commands that all end with exit code 0 every case passes. -/
theorem verdicts_contentRunner (harness : Harness) (world : World Unit) (laps : List Duration)
    (tests : List TestCase) :
    (harness.episodes contentRunner world laps tests).map Episode.verdict =
      tests.map fun _ => .passed := by
  induction tests generalizing world laps with
  | nil => rfl
  | cons test tests ih => exact congrArg (Verdict.passed :: ·) (ih _ _)

/-- So a run below a directory tells nothing else. -/
theorem gives_contentRunner {tree : FileTree} {root : Bytes} {finding : Finding}
    (h : discover tree root = .ok finding) :
    ∃ report, (harnessAt root).Gives tree (finding.cases.map fun _ => .passed) report := by
  let session : Session Unit Unit := ⟨⟨tree, ()⟩, (), []⟩
  have hobliging : silentReporter.Obliging := fun _ _ => rfl
  have hrun := (harnessAt root).perform_run_of_discover contentRunner session hobliging h
  have htold : verdictsTold ((harnessAt root).run.perform contentRunner silentReporter session).steps =
      finding.cases.map fun _ => .passed := by
    rw [hrun, ← verdictsTold_deeds, deeds_within, verdictsTold_deeds, Harness.verdictsTold_runSteps,
      verdicts_contentRunner]
  exact ⟨_, Unit, Unit, contentRunner, silentReporter, session, rfl, congrArg Progress.outcome hrun, htold⟩

theorem ids_whatever_the_spelling_coil :
    coil.SameDir (utf8 "d") (utf8 "/.//d/l/.") ∧
    coil.WalksWithin (utf8 "d") ∧ coil.WalksWithin (utf8 "/.//d/l/.") ∧
    coil.LinksSuffice (utf8 "d") (utf8 "/.//d/l/.") ∧
    coil.LinksSuffice (utf8 "/.//d/l/.") (utf8 "d") ∧
    (∃ here there, discover coil (utf8 "d") = .ok here ∧
      discover coil (utf8 "/.//d/l/.") = .ok there ∧
      here.cases.map (·.id) = there.cases.map (·.id)) ∧
    ∃ verdicts report, (harnessAt (utf8 "d")).Gives coil verdicts report ∧
      (harnessAt (utf8 "/.//d/l/.")).Gives coil verdicts report := by
  have hroot : coil.find true (utf8 "d") = .ok coilDir := rfl
  have hwinding : coil.find true (utf8 "/.//d/l/.") = .ok coilDir :=
    FileTree.find_eq_ok.2 ⟨[utf8 "d"], by decide +kernel, rfl⟩
  have hsame : coil.SameDir (utf8 "d") (utf8 "/.//d/l/.") :=
    ⟨[utf8 "d"], _, _, by decide +kernel, by decide +kernel, rfl⟩
  have hwithin : coil.WalksWithin (utf8 "d") :=
    FileTree.walksWithin_of_room hroot (by decide +kernel)
  have hwithinWinding : coil.WalksWithin (utf8 "/.//d/l/.") :=
    FileTree.walksWithin_of_room hwinding (by decide +kernel)
  have hlinks : coil.LinksSuffice (utf8 "d") (utf8 "/.//d/l/.") := by
    intro names hfinds
    rcases finds_coil hroot hfinds with rfl | rfl <;> decide +kernel
  have hlinksBack : coil.LinksSuffice (utf8 "/.//d/l/.") (utf8 "d") := by
    intro names hfinds
    rcases finds_coil hwinding hfinds with rfl | rfl <;> decide +kernel
  obtain ⟨⟨here, there, hhere, hthere, hids⟩, hreports⟩ :=
    (ids_whatever_the_spelling coil).2 (utf8 "d") (utf8 "/.//d/l/.") hsame hwithin
      hwithinWinding
  have hsameIds := hids.2 ⟨hlinks, hlinksBack⟩
  have hverdicts : (there.cases.map fun _ => Verdict.passed) = here.cases.map fun _ => .passed := by
    have hlength := congrArg List.length hsameIds
    rw [List.length_map, List.length_map] at hlength
    rw [List.map_const', List.map_const', hlength]
  obtain ⟨report, hgives⟩ := gives_contentRunner hhere
  obtain ⟨other, hgivesOther⟩ := gives_contentRunner hthere
  rw [hverdicts] at hgivesOther
  obtain rfl : report = other :=
    hreports hlinks hlinksBack _ _ _ report other rfl rfl hgives hgivesOther
  exact ⟨hsame, hwithin, hwithinWinding, hlinks, hlinksBack,
    ⟨here, there, hhere, hthere, hsameIds⟩, _, report, hgives, hgivesOther⟩

end GoldenRun
