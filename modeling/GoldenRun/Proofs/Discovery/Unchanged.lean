import GoldenRun.Proofs.Discovery.Trails
import GoldenRun.Proofs.Files.Receiving
import Mathlib.Data.List.Sort

/-!
# What discovery does not see

In a tree of files and directories the cases below a root are decided by the directories and by the files
that are called like inputs. Any other file may come, and may change, and discovery finds the same.

* `FileTree.InputAt`: the names lead to a discovered input, said with faces alone.

Main statements: `exists_inputs`, the discovered cases are those of the names that lead to inputs, in
their order; `discover_congr`, trees that agree but for files that are not inputs have the same cases.
-/

namespace GoldenRun

namespace FileTree

/-- The names lead from `root`, which is a directory at `base`, to an input that discovery finds. -/
structure InputAt (tree : FileTree) (root : Bytes) (base names : Location) : Prop where
  hosts : tree.Hosts root base names
  named : names.getLast?.any isInputName = true
  /-- The path is not refused. -/
  fits : ∃ location, placed base (Path.below root names) names = .ok location
  file : ∃ attributes content, tree.root.face? (base ++ names) = some (.file attributes content)
  /-- The directories on the way can be listed. -/
  listed : ∀ i < names.length, ∃ attributes,
    tree.root.face? (base ++ names.take i) = some (.dir attributes []) ∧
      attributes.listable = true ∧ (Path.below root (names.take i)).length ≤ maxPath

/-! ## 1. Inputs by their faces -/

section Inputs

variable {tree : FileTree} {root : Bytes} {base : Location} {attributes : Attributes}
  {es : List (Bytes × Node)}

theorem opens_iff_face? (hbase : tree.root.at? base = some (.dir attributes es)) (names : Location) :
    (Node.dir attributes es).Opens root names ↔ ∃ inner,
      tree.root.face? (base ++ names) = some (.dir inner []) ∧ inner.listable = true ∧
        (Path.below root names).length ≤ maxPath := by
  simp only [Node.Opens, Node.face?_append, hbase, Option.bind_some, Node.face?_eq_dir]
  constructor
  · rintro ⟨inner, entries, hat, hrest⟩
    exact ⟨inner, ⟨entries, hat⟩, hrest⟩
  · rintro ⟨inner, ⟨entries, hat⟩, hrest⟩
    exact ⟨inner, entries, hat, hrest⟩

/-- A path over hosted names is that of a file where the face of one is seen, unless it is refused. -/
theorem Hosts.isFile_iff (htree : tree.Ordinary) {names : Location}
    (h : tree.Hosts root base names) :
    tree.isFile (Path.below root names) = true ↔
      (∃ location, placed base (Path.below root names) names = .ok location) ∧
        ∃ attributes content, tree.root.face? (base ++ names) = some (.file attributes content) := by
  have hlocate := h.locate_eq htree true
  cases hplace : placed base (Path.below root names) names with
  | error e =>
      rw [hplace] at hlocate
      simp [not_isFile_of_refused hlocate]
  | ok location =>
      rw [hplace] at hlocate
      rw [isFile_of_locate hlocate, placed_eq_ok hplace]
      simp

/-- **Trails to inputs** are the names that lead to inputs. -/
theorem mem_trails_iff_inputAt (htree : tree.Ordinary) (hroot : tree.locate true root = .ok base)
    (hbase : tree.root.at? base = some (.dir attributes es)) (names : Location) :
    names ∈ ((Node.dir attributes es).trails root).filter (endsAtInput tree root) ↔
      tree.InputAt root base names := by
  have hdistinct : (Node.dir attributes es).Distinct := tree.wellFormed.distinct.at? hbase
  have hnamed : (Node.dir attributes es).Named := tree.wellFormed.named.at? hbase
  rw [List.mem_filter, Node.mem_trails_iff hdistinct, endsAtInput, Bool.and_eq_true]
  simp only [opens_iff_face? hbase]
  constructor
  · rintro ⟨⟨hne, hfound, hlisted⟩, hinput, hfile⟩
    obtain ⟨front, name, hsplit⟩ : ∃ front name, names = front ++ [name] :=
      ⟨_, _, (List.dropLast_concat_getLast hne).symm⟩
    have hhosts : tree.Hosts root base names := by
      refine ⟨hroot, ⟨_, _, hbase⟩, hnamed.isName_of_at? hfound, front, name, hsplit, ?_⟩
      obtain ⟨inner, hface, -⟩ := hlisted front.length (by simp [hsplit])
      rw [hsplit, List.take_left] at hface
      exact Node.dirAt_iff.mpr ⟨inner, hface⟩
    obtain ⟨hfits, hface⟩ := (hhosts.isFile_iff htree).mp hfile
    exact ⟨hhosts, hinput, hfits, hface, hlisted⟩
  · intro h
    obtain ⟨front, name, hsplit, -⟩ := h.hosts.way
    obtain ⟨inner, content, hface⟩ := h.file
    have hat := Node.face?_eq_file.mp hface
    rw [Node.at?_append, hbase] at hat
    refine ⟨⟨by simp [hsplit], ⟨_, hat⟩, h.listed⟩, h.named, ?_⟩
    exact (h.hosts.isFile_iff htree).mpr ⟨h.fits, h.file⟩

end Inputs

/-! ## 2. The cases -/

/-- **The discovered cases** are those of the names that lead to inputs, in the order of these. -/
theorem exists_inputs {tree : FileTree} (htree : tree.Ordinary) {root : Bytes} {finding : Finding}
    (h : discover tree root = .ok finding) :
    ∃ base, ∃ found : List Location, tree.locate true root = .ok base ∧ tree.root.DirAt base ∧
      finding.cases = found.map (fun names => .below root (Path.below root names)) ∧
      found.Pairwise (· < ·) ∧ ∀ names, names ∈ found ↔ tree.InputAt root base names := by
  obtain ⟨attributes, es, hfind⟩ := isDir_iff.mp (isDir_of_discover h)
  obtain ⟨base, hlocate, hbase⟩ := find_eq_ok.mp hfind
  have hincreasing := Node.trails_increasing root _ (tree.wellFormed.distinct.at? hbase)
  exact ⟨base, _, hlocate, ⟨_, _, hbase⟩, cases_of_discover hfind h, hincreasing.filter _,
    mem_trails_iff_inputAt htree hlocate hbase⟩

section Congr

variable {places : Location → Prop} {a b : FileTree} {root : Bytes} {base : Location}

/-- An input is an input in every tree that agrees but for files that are not inputs. -/
theorem AgreeBut.inputAt (h : AgreeBut places a b) (ha : a.Ordinary)
    (hplaces : ∀ l, places l → l.getLast?.any isInputName = false) {names : Location}
    (hinput : a.InputAt root base names) : b.InputAt root base names := by
  obtain ⟨front, name, hsplit, -⟩ := hinput.hosts.way
  have hlast : (base ++ names).getLast?.any isInputName = true := by
    rw [hsplit, ← List.append_assoc, List.getLast?_concat]
    have hnamed := hinput.named
    rwa [hsplit, List.getLast?_concat] at hnamed
  have hplace : ¬ places (base ++ names) := by
    intro hp
    rw [hplaces _ hp] at hlast
    cases hlast
  refine ⟨h.hosts ha hinput.hosts, hinput.named, hinput.fits, ?_, fun i hi => ?_⟩
  · rw [h.face_eq hplace]
    exact hinput.file
  · obtain ⟨inner, hface, hrest⟩ := hinput.listed i hi
    refine ⟨inner, ?_, hrest⟩
    rcases h.faces (base ++ names.take i) with heq | ⟨-, hnone, -⟩
    · rw [heq, hface]
    · exact absurd (Node.dirAt_iff.mpr ⟨inner, hface⟩) hnone

theorem AgreeBut.isDir_eq (h : AgreeBut places a b) (ha : a.Ordinary) (hb : b.Ordinary)
    (root : Bytes) : b.isDir root = a.isDir root := by
  rw [Bool.eq_iff_iff, isDir_iff, isDir_iff]
  simp only [find_eq_ok]
  constructor
  · rintro ⟨attributes, es, base, hroot, hat⟩
    have hlocate := h.symm.locate_dir hb hroot ⟨attributes, es, hat⟩
    obtain ⟨inner, entries, hdir⟩ := (h.dirAt_iff base).mp ⟨attributes, es, hat⟩
    exact ⟨inner, entries, base, hlocate, hdir⟩
  · rintro ⟨attributes, es, base, hroot, hat⟩
    have hlocate := h.locate_dir ha hroot ⟨attributes, es, hat⟩
    obtain ⟨inner, entries, hdir⟩ := (h.dirAt_iff base).mpr ⟨attributes, es, hat⟩
    exact ⟨inner, entries, base, hlocate, hdir⟩

/-- **What discovery does not see.** Trees that agree but for files that are not called like inputs have
    the same cases. -/
theorem AgreeBut.discover_congr (h : AgreeBut places a b) (ha : a.Ordinary) (hb : b.Ordinary)
    (hplaces : ∀ l, places l → l.getLast?.any isInputName = false) (root : Bytes) :
    (discover b root).map Finding.cases = (discover a root).map Finding.cases := by
  have hdirs := h.isDir_eq ha hb root
  cases hdir : a.isDir root with
  | false =>
      rw [hdir] at hdirs
      rw [discover_of_not_isDir hdir, discover_of_not_isDir hdirs]
  | true =>
      rw [hdir] at hdirs
      obtain ⟨_, hfa, -⟩ := discover_of_isDir hdir
      obtain ⟨_, hfb, -⟩ := discover_of_isDir hdirs
      obtain ⟨base, found, hroot, hbase, hcases, hsorted, hmem⟩ := exists_inputs ha hfa
      obtain ⟨other, found', hroot', -, hcases', hsorted', hmem'⟩ := exists_inputs hb hfb
      cases (h.locate_dir ha hroot hbase).symm.trans hroot'
      have hfound : found' = found := by
        refine hsorted'.eq_of_mem_iff hsorted fun names => ?_
        rw [hmem, hmem']
        exact ⟨h.symm.inputAt hb hplaces, h.inputAt ha hplaces⟩
      rw [hfa, hfb]
      exact congrArg Except.ok (by rw [hcases, hcases', hfound])

end Congr

end FileTree

end GoldenRun
