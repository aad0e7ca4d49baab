import GoldenRun.Proofs.Discovery.Unchanged

/-!
# Where outputs go

The output of a case lies beside its input, under a longer name. Such a name is never that of an input or
of a golden file, and different inputs have different outputs. So in a tree of files and directories no
case comes in the way of another: each changes one face, and no case reads a face that another changes.

* `suffixed`: a location with a suffix behind its last name; `outputOf`, `goldenOf`: those of an input;
* `FileTree.Settled`: what a tree is when the outputs of some inputs were received, whatever the order;
* `FileTree.Alike`: trees with the same faces.

Main statements: `Settled.next`, one more output is received; `Settled.again`, an output is received once
more; `Settled.alike`, the order of the outputs makes no difference; `Settled.read_output`,
`Settled.read_golden`, what there is to compare.
-/

namespace GoldenRun

/-! ## 1. Suffixes -/

theorem Path.child_append (dir name suffix : Bytes) :
    Path.child dir (name ++ suffix) = Path.child dir name ++ suffix := by
  unfold Path.child
  split
  · rw [List.append_assoc]
  · rw [List.append_assoc, List.cons_append]

/-- A name stays one with a suffix behind it that has no slash and is longer than `..`. -/
theorem Path.IsName.append {name suffix : Bytes} (h : Path.IsName name)
    (hslash : Path.slash ∉ suffix) (hlong : 2 < suffix.length) : Path.IsName (name ++ suffix) :=
  Path.isName_append hslash hlong h.2.2

/-- Of two suffixes the longer one decides whether something ends in the shorter one. -/
theorem Path.endsWith_append_eq {name short long : Bytes} (h : short.length ≤ long.length) :
    Path.endsWith (name ++ long) short = Path.endsWith long short := by
  rw [Path.endsWith, Path.endsWith, Bool.eq_iff_iff, List.isSuffixOf_iff_suffix,
    List.isSuffixOf_iff_suffix]
  constructor
  · intro hshort
    exact List.suffix_of_suffix_length_le hshort (List.suffix_append name long) h
  · intro hshort
    exact hshort.trans (List.suffix_append name long)

/-- The location of the same names, the last of them with a suffix behind it. -/
def suffixed (suffix : Bytes) (names : Location) : Location :=
  names.dropLast ++ names.getLast?.toList.map (· ++ suffix)

theorem exists_last {names : Location} (hne : names ≠ []) : ∃ front name, names = front ++ [name] :=
  ⟨_, _, (List.dropLast_concat_getLast hne).symm⟩

@[simp] theorem suffixed_concat (suffix : Bytes) (front : Location) (name : Bytes) :
    suffixed suffix (front ++ [name]) = front ++ [name ++ suffix] := by
  simp [suffixed]

/-- The path over such names is the path with the suffix. -/
theorem below_suffixed (suffix root : Bytes) {names : Location} (hne : names ≠ []) :
    Path.below root (suffixed suffix names) = Path.appendSuffix (Path.below root names) suffix := by
  obtain ⟨front, name, rfl⟩ := exists_last hne
  rw [suffixed_concat, Path.below_append, Path.below_append]
  exact Path.child_append _ name suffix

theorem suffixed_injective {suffix : Bytes} {a b : Location} (ha : a ≠ []) (hb : b ≠ [])
    (h : suffixed suffix a = suffixed suffix b) : a = b := by
  obtain ⟨front, name, rfl⟩ := exists_last ha
  obtain ⟨front', name', rfl⟩ := exists_last hb
  rw [suffixed_concat, suffixed_concat] at h
  obtain ⟨rfl, hlast⟩ := List.append_inj' h rfl
  rw [List.append_cancel_right (List.singleton_inj.mp hlast)]

/-- Where a root hosts names, it hosts them with a suffix. -/
theorem FileTree.Hosts.suffixed {tree : FileTree} {root : Bytes} {base names : Location}
    (h : tree.Hosts root base names) {suffix : Bytes} (hslash : Path.slash ∉ suffix)
    (hlong : 2 < suffix.length) : tree.Hosts root base (suffixed suffix names) := by
  obtain ⟨front, name, rfl, hfront⟩ := h.way
  rw [suffixed_concat]
  refine ⟨h.root_at, h.root_dir, fun n hn => ?_, front, _, rfl, hfront⟩
  rcases List.mem_append.mp hn with hn | hn
  · exact h.named n (List.mem_append_left _ hn)
  · rw [List.mem_singleton.mp hn]
    exact (h.named name (by simp)).append hslash hlong

/-! ## 2. Outputs and golden files -/

/-- The case of the input to which the names lead. -/
def TestCase.along (root : Bytes) (names : Location) : TestCase :=
  .below root (Path.below root names)

/-- Where the actual output of an input goes. -/
def outputOf (names : Location) : Location :=
  suffixed actualSuffix names

/-- Where the golden file of an input is. -/
def goldenOf (names : Location) : Location :=
  suffixed expectedSuffix (outputOf names)

section Places

variable {names other : Location}

theorem TestCase.along_actual (root : Bytes) (hne : names ≠ []) :
    (along root names).actual = Path.below root (outputOf names) :=
  (below_suffixed actualSuffix root hne).symm

theorem outputOf_ne_nil (hne : names ≠ []) : outputOf names ≠ [] := by
  obtain ⟨front, name, rfl⟩ := exists_last hne
  simp [outputOf]

theorem TestCase.along_expected (root : Bytes) (hne : names ≠ []) :
    (along root names).expected = Path.below root (goldenOf names) := by
  rw [goldenOf, below_suffixed expectedSuffix root (outputOf_ne_nil hne), ← along_actual root hne]
  rfl

/-- No output is called like an input. -/
theorem outputOf_not_input (base : Location) (hne : names ≠ []) :
    (base ++ outputOf names).getLast?.any isInputName = false := by
  obtain ⟨front, name, rfl⟩ := exists_last hne
  rw [outputOf, suffixed_concat, ← List.append_assoc, List.getLast?_concat, Option.any_some,
    isInputName, Path.endsWith_append_eq (by decide +kernel)]
  decide +kernel

/-- No output is in the place of a golden file. -/
theorem outputOf_ne_goldenOf (hne : names ≠ []) (hother : other ≠ []) :
    outputOf other ≠ goldenOf names := by
  obtain ⟨front, name, rfl⟩ := exists_last hne
  obtain ⟨front', name', rfl⟩ := exists_last hother
  rw [goldenOf, outputOf, outputOf, suffixed_concat, suffixed_concat, suffixed_concat]
  intro h
  have hname := List.singleton_inj.mp (List.append_inj' h rfl).2
  have hends : Path.endsWith (name' ++ actualSuffix) expectedSuffix = true := by
    rw [hname, Path.endsWith_append_eq (Nat.le_refl _)]
    decide +kernel
  rw [Path.endsWith_append_eq (by decide +kernel)] at hends
  exact absurd hends (by decide +kernel)

end Places

namespace FileTree

namespace InputAt

variable {tree : FileTree} {root : Bytes} {base names : Location}

theorem ne_nil (h : tree.InputAt root base names) : names ≠ [] := by
  obtain ⟨front, name, rfl, -⟩ := h.hosts.way
  simp

theorem hosts_output (h : tree.InputAt root base names) : tree.Hosts root base (outputOf names) :=
  h.hosts.suffixed (by decide +kernel) (by decide +kernel)

theorem hosts_golden (h : tree.InputAt root base names) : tree.Hosts root base (goldenOf names) :=
  h.hosts_output.suffixed (by decide +kernel) (by decide +kernel)

/-- An input is a file, though perhaps not one that may be read. -/
theorem isFile (h : tree.InputAt root base names) (htree : tree.Ordinary) :
    tree.isFile (Path.below root names) = true :=
  (h.hosts.isFile_iff htree).mpr ⟨h.fits, h.file⟩

end InputAt

/-! ## 3. Outputs received -/

/-- Two trees have the same faces, and the same settings. -/
structure Alike (a b : FileTree) : Prop where
  current : b.current = a.current
  clock : b.clock = a.clock
  mask : b.mask = a.mask
  privileged : b.privileged = a.privileged
  faces : ∀ location, b.root.face? location = a.root.face? location

/-- What can be received at a place depends on the tree's settings only. -/
theorem AgreeBut.received_eq {places : Location → Prop} {a b : FileTree} (h : AgreeBut places a b)
    (place : Except Errno Location) (content? : Option Bytes) (old : Option Node) :
    b.received place content? old = a.received place content? old := by
  unfold received fileAfter newFile permitsWriting permits
  rw [h.clock, h.mask, h.privileged]

/-- What is left in the place of an input's output when it has received `content?`. -/
def outcome (start : FileTree) (root : Bytes) (base names : Location) (content? : Option Bytes) :
    Option Node :=
  start.received (placed base (Path.below root (outputOf names)) (outputOf names)) content?
    (start.root.face? (base ++ outputOf names))

/-- The tree is `start`, but the inputs in `done` have their outputs: each what `wanted` says. -/
structure Settled (start : FileTree) (root : Bytes) (base : Location)
    (wanted : Location → Option Bytes) (done : List Location) (tree : FileTree) : Prop where
  ordinary : tree.Ordinary
  inputs : ∀ names ∈ done, start.InputAt root base names
  agree : AgreeBut (fun place => ∃ names ∈ done, place = base ++ outputOf names) start tree
  outcomes : ∀ names ∈ done, tree.root.face? (base ++ outputOf names) =
    start.outcome root base names (wanted names)

namespace Settled

variable {start : FileTree} {root : Bytes} {base : Location} {wanted : Location → Option Bytes}
  {done done' : List Location} {tree tree' : FileTree} {names : Location}

/-- Nothing is done yet. -/
theorem nil (h : start.Ordinary) : Settled start root base wanted [] start where
  ordinary := h
  inputs := by simp
  agree := AgreeBut.refl _ _
  outcomes := by simp

/-- Inputs have their outputs in places of their own. -/
theorem place_injective {other : Location} (h : start.InputAt root base names)
    (hother : start.InputAt root base other)
    (heq : base ++ outputOf other = base ++ outputOf names) : other = names :=
  suffixed_injective hother.ne_nil h.ne_nil (List.append_cancel_left heq)

/-- What an input's output receives for the first time is received where `start` left the place. -/
theorem outcome_eq (h : Settled start root base wanted done tree)
    (hnames : start.InputAt root base names) (hnew : names ∉ done) :
    tree.outcome root base names (wanted names) = start.outcome root base names (wanted names) := by
  have hplace : ¬ ∃ other ∈ done, base ++ outputOf names = base ++ outputOf other := by
    rintro ⟨other, hother, heq⟩
    exact hnew (place_injective hnames (h.inputs other hother) heq.symm ▸ hother)
  rw [outcome, outcome, h.agree.received_eq, h.agree.face_eq hplace]

/-- **An output received once more** changes nothing. -/
theorem again (h : Settled start root base wanted done tree) (hstart : start.Ordinary)
    (hdone : names ∈ done) :
    tree.receive (Path.below root (outputOf names)) (wanted names) = tree := by
  have hhosts := h.agree.hosts hstart (h.inputs names hdone).hosts_output
  have hface := h.outcomes names hdone
  rw [outcome, ← h.agree.received_eq] at hface
  exact hhosts.receive_again h.ordinary hface

/-- **One more output** is received. -/
theorem next (h : Settled start root base wanted done tree) (hstart : start.Ordinary)
    (hnames : start.InputAt root base names) :
    Settled start root base wanted (names :: done)
      (tree.receive (Path.below root (outputOf names)) (wanted names)) := by
  by_cases hdone : names ∈ done
  · rw [h.again hstart hdone]
    have hmem : ∀ other, other ∈ names :: done → other ∈ done := by
      intro other hother
      rcases List.mem_cons.mp hother with rfl | hother
      · exact hdone
      · exact hother
    refine ⟨h.ordinary, fun other hother => h.inputs other (hmem other hother), ?_,
      fun other hother => h.outcomes other (hmem other hother)⟩
    exact h.agree.mono fun place ⟨other, hother, hplace⟩ =>
      ⟨other, List.mem_cons_of_mem _ hother, hplace⟩
  · have hhosts := h.agree.hosts hstart hnames.hosts_output
    obtain ⟨hface, hagree⟩ := hhosts.face?_receive h.ordinary (wanted names)
    refine ⟨hhosts.ordinary_receive h.ordinary _, ?_, ?_, ?_⟩
    · exact List.forall_mem_cons.mpr ⟨hnames, h.inputs⟩
    · refine (h.agree.mono ?_).trans (hagree.mono ?_)
      · rintro place ⟨other, hother, hplace⟩
        exact ⟨other, List.mem_cons_of_mem _ hother, hplace⟩
      · intro place hplace
        exact ⟨names, List.mem_cons_self, hplace⟩
    · refine List.forall_mem_cons.mpr ⟨?_, fun other hother => ?_⟩
      · rw [hface]
        exact h.outcome_eq hnames hdone
      · have hplace : base ++ outputOf other ≠ base ++ outputOf names := fun heq =>
          hdone (place_injective hnames (h.inputs other hother) heq ▸ hother)
        rw [hagree.face_eq hplace, h.outcomes other hother]

/-- **The order of the outputs makes no difference.** -/
theorem alike (h : Settled start root base wanted done tree)
    (h' : Settled start root base wanted done' tree') (hmem : ∀ names, names ∈ done ↔ names ∈ done') :
    tree.Alike tree' where
  current := h'.agree.current.trans h.agree.current.symm
  clock := h'.agree.clock.trans h.agree.clock.symm
  mask := h'.agree.mask.trans h.agree.mask.symm
  privileged := h'.agree.privileged.trans h.agree.privileged.symm
  faces := by
    intro location
    by_cases hplace : ∃ names ∈ done, location = base ++ outputOf names
    · obtain ⟨names, hdone, rfl⟩ := hplace
      rw [h.outcomes names hdone, h'.outcomes names ((hmem names).mp hdone)]
    · have hplace' : ¬ ∃ names ∈ done', location = base ++ outputOf names := by
        rintro ⟨names, hdone, heq⟩
        exact hplace ⟨names, (hmem names).mpr hdone, heq⟩
      rw [h.agree.face_eq hplace, h'.agree.face_eq hplace']

/-! ## 4. What there is to read -/

/-- Away from the outputs, the same is read as in the beginning. -/
theorem read_eq (h : Settled start root base wanted done tree) (hstart : start.Ordinary)
    {other : Location} (hhosts : start.Hosts root base other)
    (hplace : ∀ names ∈ done, outputOf names ≠ other) :
    tree.read (Path.below root other) = start.read (Path.below root other) := by
  refine Hosts.read_congr hstart h.ordinary hhosts (h.agree.hosts hstart hhosts) h.agree.privileged ?_
  refine h.agree.face_eq ?_
  rintro ⟨names, hdone, heq⟩
  exact hplace names hdone (List.append_cancel_left heq).symm

theorem read_input (h : Settled start root base wanted done tree) (hstart : start.Ordinary)
    (hnames : start.InputAt root base names) :
    tree.read (Path.below root names) = start.read (Path.below root names) := by
  refine h.read_eq hstart hnames.hosts fun other hother heq => ?_
  have hinput := outputOf_not_input [] (h.inputs other hother).ne_nil
  rw [List.nil_append, heq, hnames.named] at hinput
  cases hinput

theorem isFile_input (h : Settled start root base wanted done tree) (hstart : start.Ordinary)
    (hnames : start.InputAt root base names) : tree.isFile (Path.below root names) = true := by
  refine (h.agree.inputAt hstart ?_ hnames).isFile h.ordinary
  rintro place ⟨other, hother, rfl⟩
  exact outputOf_not_input base (h.inputs other hother).ne_nil

/-- Golden files are as in the beginning. -/
theorem read_golden (h : Settled start root base wanted done tree) (hstart : start.Ordinary)
    (hnames : start.InputAt root base names) :
    tree.read (Path.below root (goldenOf names)) = start.read (Path.below root (goldenOf names)) :=
  h.read_eq hstart hnames.hosts_golden fun other hother =>
    outputOf_ne_goldenOf hnames.ne_nil (h.inputs other hother).ne_nil

/-- The output of an input that is done is the same in all trees where it is done. -/
theorem read_output (h : Settled start root base wanted done tree)
    (h' : Settled start root base wanted done' tree') (hstart : start.Ordinary)
    (hdone : names ∈ done) (hdone' : names ∈ done') :
    tree.read (Path.below root (outputOf names)) = tree'.read (Path.below root (outputOf names)) := by
  have hhosts := (h.inputs names hdone).hosts_output
  refine Hosts.read_congr h'.ordinary h.ordinary (h'.agree.hosts hstart hhosts)
    (h.agree.hosts hstart hhosts) (h.agree.privileged.trans h'.agree.privileged.symm) ?_
  rw [h.outcomes names hdone, h'.outcomes names hdone']

/-- Discovery finds the same cases. -/
theorem discover_eq (h : Settled start root base wanted done tree) (hstart : start.Ordinary) :
    (discover tree root).map Finding.cases = (discover start root).map Finding.cases := by
  refine h.agree.discover_congr hstart h.ordinary ?_ root
  rintro place ⟨names, hdone, rfl⟩
  exact outputOf_not_input base (h.inputs names hdone).ne_nil

theorem discover_again (h : Settled start root base wanted done tree) (hstart : start.Ordinary)
    {finding : Finding} (hfound : discover start root = .ok finding) :
    ∃ again, discover tree root = .ok again ∧ again.cases = finding.cases := by
  have hsame := h.discover_eq hstart
  rw [hfound] at hsame
  cases hdiscover : discover tree root with
  | error e =>
      rw [hdiscover] at hsame
      cases hsame
  | ok again =>
      rw [hdiscover] at hsame
      exact ⟨again, rfl, Except.ok.inj hsame⟩

end Settled

end FileTree

end GoldenRun
