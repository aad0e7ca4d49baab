import GoldenRun.Proofs.Bytes.Display
import GoldenRun.Proofs.Discovery.Trails
import GoldenRun.Proofs.Files.Resolution
import GoldenRun.Proofs.Files.Stripping

/-!
# What the ids tell

The id of a case is what is displayed for the names that lead to it from the root of the discovery. Where
names are texts, ids tell cases apart. A name that is not a text is kept, but it is displayed with U+FFFD in
the place of what cannot be read, and another name may be displayed like that as well.

* `TestCase.idBelow_below`: the id, by the names;
* `TestCase.idBelow_inj`: when two ids are the same;
* `exists_inputs_found`: the names that lead to the cases of a discovery;
* `ids_collide`: two files of one directory with the same id.

Main statement: `same_id_iff_displayed_alike`.
-/

namespace GoldenRun

/-! ## 1. The id of a case -/

namespace TestCase

variable {root : Bytes} {a b names : Location}

/-- **The id is the display of the names** below the root, with slashes between them. -/
theorem idBelow_below (hroot : root ≠ []) (hne : names ≠ [])
    (hnames : ∀ name ∈ names, Path.IsName name) :
    idBelow root (Path.below root names) = Bytes.lossy (join Path.slash names) := by
  rw [idBelow, Path.stripPrefix?_below hroot hne hnames, Option.getD_some]

/-- Ids are the same exactly if the names look the same, one by one. -/
theorem idBelow_inj (hroot : root ≠ []) (ha : a ≠ []) (hb : b ≠ [])
    (hnamesA : ∀ name ∈ a, Path.IsName name) (hnamesB : ∀ name ∈ b, Path.IsName name) :
    idBelow root (Path.below root a) = idBelow root (Path.below root b) ↔
      a.map Bytes.lossy = b.map Bytes.lossy := by
  rw [idBelow_below hroot ha hnamesA, idBelow_below hroot hb hnamesB]
  exact Bytes.lossy_join_inj ha hb (fun name hname => (hnamesA name hname).2.2)
    fun name hname => (hnamesB name hname).2.2

end TestCase

/-! ## 2. The ids of a discovery -/

/-- The cases of a discovery lie below its root over names, in the order of these, and the last name is that
    of an input. -/
theorem exists_inputs_found {tree : FileTree} {root : Bytes} {finding : Finding}
    (hfinding : discover tree root = .ok finding) :
    ∃ found : List Location, root ≠ [] ∧
      finding.cases = found.map (fun names => .below root (Path.below root names)) ∧
      found.Pairwise (· < ·) ∧
      ∀ names ∈ found, names.getLast?.any isInputName = true ∧ ∀ name ∈ names, Path.IsName name := by
  have hdir := isDir_of_discover hfinding
  obtain ⟨attributes, es, hroot⟩ := FileTree.isDir_iff.1 hdir
  obtain ⟨location, links, hreaches⟩ := FileTree.exists_reaches hroot
  have hdistinct : (Node.dir attributes es).Distinct := tree.wellFormed.distinct.at? hreaches.at_location
  refine ⟨_, hreaches.ne_nil, cases_of_discover hroot hfinding,
    (Node.trails_increasing root _ hdistinct).filter _, fun names hmem => ?_⟩
  obtain ⟨htrail, hends⟩ := List.mem_filter.1 hmem
  exact ⟨(Bool.and_eq_true_iff.1 hends).1, (FileTree.isName_of_trail hreaches.at_location htrail).2⟩

theorem exists_found {tree : FileTree} {root : Bytes} {finding : Finding}
    (hfinding : discover tree root = .ok finding) :
    ∃ found : List Location, root ≠ [] ∧
      finding.cases = found.map (fun names => .below root (Path.below root names)) ∧
      found.Pairwise (· < ·) ∧
      ∀ names ∈ found, names ≠ [] ∧ ∀ name ∈ names, Path.IsName name := by
  obtain ⟨found, hroot, hcases, hincreasing, hnames⟩ := exists_inputs_found hfinding
  refine ⟨found, hroot, hcases, hincreasing, fun names hmem => ⟨?_, (hnames names hmem).2⟩⟩
  rintro rfl
  cases (hnames [] hmem).1

/-- **Ids tell cases apart as far as their display does.** Every case of a discovery lies below the root
    over a list of names of its own, and its id is what is displayed for these.

    * Two cases have the same id exactly if their names are displayed alike, one by one.
    * If that happens to different cases, one of them has a name that is not the encoding of a text.
    * So if all names are texts, all ids are different. -/
theorem same_id_iff_displayed_alike (tree : FileTree) (root : Bytes) {finding : Finding}
    (hfinding : discover tree root = .ok finding) :
    ∃ found : List Location,
      finding.cases = found.map (fun names => .below root (Path.below root names)) ∧
      found.Pairwise (· < ·) ∧
      (∀ names ∈ found,
        TestCase.idBelow root (Path.below root names) = Bytes.lossy (join Path.slash names)) ∧
      (∀ a ∈ found, ∀ b ∈ found,
        TestCase.idBelow root (Path.below root a) = TestCase.idBelow root (Path.below root b) ↔
          a.map Bytes.lossy = b.map Bytes.lossy) ∧
      (∀ a ∈ found, ∀ b ∈ found, a ≠ b →
        TestCase.idBelow root (Path.below root a) = TestCase.idBelow root (Path.below root b) →
          ∃ name ∈ a ++ b, ¬ Bytes.IsText name) ∧
      ((∀ names ∈ found, ∀ name ∈ names, Bytes.IsText name) → (finding.cases.map (·.id)).Nodup) := by
  obtain ⟨found, hroot, hcases, hincreasing, hnames⟩ := exists_found hfinding
  have halike : ∀ a ∈ found, ∀ b ∈ found,
      TestCase.idBelow root (Path.below root a) = TestCase.idBelow root (Path.below root b) ↔
        a.map Bytes.lossy = b.map Bytes.lossy := fun a ha b hb =>
    TestCase.idBelow_inj hroot (hnames a ha).1 (hnames b hb).1 (hnames a ha).2 (hnames b hb).2
  have hcollision : ∀ a ∈ found, ∀ b ∈ found, a ≠ b →
      TestCase.idBelow root (Path.below root a) = TestCase.idBelow root (Path.below root b) →
        ∃ name ∈ a ++ b, ¬ Bytes.IsText name := by
    intro a ha b hb hne hsame
    refine Classical.byContradiction fun hnone => hne ?_
    have htext : ∀ name ∈ a ++ b, Bytes.IsText name := fun name hname =>
      Classical.byContradiction fun hnot => hnone ⟨name, hname, hnot⟩
    obtain ⟨htextA, htextB⟩ := List.forall_mem_append.1 htext
    exact Bytes.eq_of_map_lossy htextA htextB ((halike a ha b hb).1 hsame)
  refine ⟨found, hcases, hincreasing, fun names hmem =>
    TestCase.idBelow_below hroot (hnames names hmem).1 (hnames names hmem).2, halike, hcollision, ?_⟩
  intro htext
  rw [hcases, List.map_map]
  refine List.pairwise_map.2 (hincreasing.imp_of_mem ?_)
  intro a b ha hb hlt hsame
  have hne : a ≠ b := fun heq => List.lt_irrefl b (heq ▸ hlt)
  obtain ⟨name, hname, hnot⟩ := hcollision a ha b hb hne hsame
  rcases List.mem_append.1 hname with hname | hname
  · exact hnot (htext a ha name hname)
  · exact hnot (htext b hb name hname)

/-! ## 3. Names that look the same -/

/-- A directory with three inputs; only the name of the first is a text. -/
def twinDir : Node :=
  .dir .ofDir
    [(utf8 "a.smt2", .file .ofFile []), (0xFE :: utf8 ".smt2", .file .ofFile []),
      (0xFF :: utf8 ".smt2", .file .ofFile [])]

/-- The tree in which that directory is the tests directory `t`. -/
def twins : FileTree :=
  { root := .dir .ofDir [(utf8 "t", twinDir)] }

theorem discover_twins :
    ∃ finding, discover twins (utf8 "t") = .ok finding ∧
      finding.cases =
        [⟨utf8 "t/a.smt2", "a.smt2"⟩, ⟨utf8 "t/" ++ 0xFE :: utf8 ".smt2", "\uFFFD.smt2"⟩,
          ⟨utf8 "t/" ++ 0xFF :: utf8 ".smt2", "\uFFFD.smt2"⟩] := by
  have hlisted : listingFault? (utf8 "t") true = none := by decide +kernel
  have hdir : twins.isDir (utf8 "t") = true := by decide +kernel
  have hvisits : twins.visits (utf8 "t") = twinDir.visits (utf8 "t") := rfl
  have htrails : twinDir.trails (utf8 "t") =
      [[utf8 "a.smt2"], [0xFE :: utf8 ".smt2"], [0xFF :: utf8 ".smt2"]] := by
    rw [twinDir, Node.trails_dir hlisted, inNameOrder_of_sorted (by decide +kernel)]
    decide +kernel
  obtain ⟨finding, hfinding, hcases⟩ := discover_of_isDir hdir
  refine ⟨finding, hfinding, ?_⟩
  rw [hcases, hvisits, Node.filterMap_visits, htrails]
  decide +kernel

/-- Two files of one directory have the same id. -/
theorem ids_collide :
    ∃ finding, discover twins (utf8 "t") = .ok finding ∧
      (finding.cases.map (·.input)).Nodup ∧ ¬ (finding.cases.map (·.id)).Nodup := by
  obtain ⟨finding, hfinding, hcases⟩ := discover_twins
  refine ⟨finding, hfinding, ?_⟩
  rw [hcases]
  decide +kernel

theorem same_id_iff_displayed_alike_twins :
    ∃ finding, ∃ found : List Location, discover twins (utf8 "t") = .ok finding ∧
      finding.cases = found.map (fun names => .below (utf8 "t") (Path.below (utf8 "t") names)) ∧
      ∃ a ∈ found, ∃ b ∈ found, a ≠ b ∧
        TestCase.idBelow (utf8 "t") (Path.below (utf8 "t") a) =
          TestCase.idBelow (utf8 "t") (Path.below (utf8 "t") b) ∧
        ∃ name ∈ a ++ b, ¬ Bytes.IsText name := by
  obtain ⟨finding, hfinding, hcases⟩ := discover_twins
  obtain ⟨found, hfound, -, -, -, hcollision, -⟩ :=
    same_id_iff_displayed_alike twins (utf8 "t") hfinding
  have hmap := hfound.symm.trans hcases
  obtain ⟨first, rest, rfl, -, hrest⟩ := List.map_eq_cons_iff.1 hmap
  obtain ⟨a, rest, rfl, ha, hrest⟩ := List.map_eq_cons_iff.1 hrest
  obtain ⟨b, rest, rfl, hb, -⟩ := List.map_eq_cons_iff.1 hrest
  have hsame : TestCase.idBelow (utf8 "t") (Path.below (utf8 "t") a) =
      TestCase.idBelow (utf8 "t") (Path.below (utf8 "t") b) :=
    (congrArg TestCase.id ha).trans (congrArg TestCase.id hb).symm
  have hne : a ≠ b := by
    rintro rfl
    exact absurd (congrArg TestCase.input (ha.symm.trans hb)) (by decide +kernel)
  exact ⟨finding, _, hfinding, hfound, a, by simp, b, by simp, hne, hsame,
    hcollision a (by simp) b (by simp) hne hsame⟩

end GoldenRun
