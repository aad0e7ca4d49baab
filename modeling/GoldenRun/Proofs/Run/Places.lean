import GoldenRun.Proofs.Discovery.Ids
import GoldenRun.Proofs.Files.Suffixes
import GoldenRun.Proofs.Run.Outputs

/-!
# The files of all cases are different files

Three files belong to a case: its input, its actual output, and its expected output. The path of such a file
tells what it is to its case, by the end of its name, and which case that is, by all that stands before the
end. Names of inputs may have the ends of the others in them, as in `a.smt2.peticodiac.smt2`; what counts is
the last one.

* `Role`: what a file is to its case; `Role.eq_of_ending`, no name ends in two ways;
* `Path.components_below`: the components of a path below a root;
* `Path.fileName?`: the name of the file at a path;
* `same_file_iff`: when two files of discovered cases have the same path.

Main statement: `files_never_collide`.
-/

namespace GoldenRun

/-! ## 1. The files of a case -/

/-- What a file is to its case. -/
inductive Role where
  | input
  | actual
  | expected
  deriving DecidableEq, Repr

namespace Role

/-- What is put behind the input's path. -/
def addition : Role → Bytes
  | input => []
  | actual => actualSuffix
  | expected => actualSuffix ++ expectedSuffix

/-- How the name of the file ends. -/
def ending : Role → Bytes
  | input => inputSuffix
  | actual => actualSuffix
  | expected => expectedSuffix

/-- **No name ends in two of these ways.** -/
theorem eq_of_ending {r s : Role} {name : Bytes} (hr : r.ending <:+ name) (hs : s.ending <:+ name) :
    r = s := by
  have hnested : ∀ r s : Role, r ≠ s → Path.endsWith s.ending r.ending = false := by
    intro r s hne
    cases r <;> cases s <;> first | exact absurd rfl hne | decide +kernel
  refine Decidable.byContradiction fun hne => ?_
  rcases List.suffix_or_suffix_of_suffix hr hs with h | h
  · exact absurd (List.isSuffixOf_iff_suffix.2 h) (Bool.eq_false_iff.1 (hnested r s hne))
  · exact absurd (List.isSuffixOf_iff_suffix.2 h) (Bool.eq_false_iff.1 (hnested s r (Ne.symm hne)))

/-- Behind the name of an input, the addition makes the ending. -/
theorem ending_suffix {name : Bytes} (h : isInputName name = true) (role : Role) :
    role.ending <:+ name ++ role.addition := by
  cases role with
  | input =>
      rw [addition, List.append_nil]
      exact List.isSuffixOf_iff_suffix.1 h
  | actual => exact List.suffix_append name actualSuffix
  | expected =>
      rw [addition, ← List.append_assoc]
      exact List.suffix_append (name ++ actualSuffix) expectedSuffix

/-- **The name of a file tells the role and the input's name.** -/
theorem append_addition_inj {r s : Role} {a b : Bytes} (ha : isInputName a = true)
    (hb : isInputName b = true) (h : a ++ r.addition = b ++ s.addition) : r = s ∧ a = b := by
  obtain rfl : r = s := eq_of_ending (ending_suffix ha r) (h ▸ ending_suffix hb s)
  exact ⟨rfl, List.append_cancel_right h⟩

/-- With its addition, the name of an input is one of an input only if nothing was added. -/
theorem isInputName_append_addition {name : Bytes} (h : isInputName name = true) (role : Role) :
    isInputName (name ++ role.addition) = true ↔ role = input := by
  constructor
  · intro hinput
    exact eq_of_ending (ending_suffix h role) (List.isSuffixOf_iff_suffix.1 hinput)
  · rintro rfl
    rw [addition, List.append_nil, h]

/-- What is added to a name leaves it a name. -/
theorem isName_append_addition {name : Bytes} (h : Path.IsName name) (role : Role) :
    Path.IsName (name ++ role.addition) := by
  cases role with
  | input => rwa [addition, List.append_nil]
  | actual => exact Path.isName_append (by decide +kernel) (by decide +kernel) h.2.2
  | expected => exact Path.isName_append (by decide +kernel) (by decide +kernel) h.2.2

end Role

/-- The path of a file of a case. -/
def TestCase.file (test : TestCase) : Role → Bytes
  | .input => test.input
  | .actual => test.actual
  | .expected => test.expected

theorem TestCase.file_eq (test : TestCase) (role : Role) :
    test.file role = Path.appendSuffix test.input role.addition := by
  cases role with
  | input => exact (List.append_nil _).symm
  | actual => rfl
  | expected => exact List.append_assoc _ _ _

/-! ## 2. Paths below a root -/

namespace Path

section Below

variable {root : Bytes} {names : Location}

/-- **The components below a root** are those of the root and then the names. -/
theorem components_below (hroot : root ≠ []) (hnames : ∀ name ∈ names, IsName name) :
    components (below root names) = components root ++ names.map .name := by
  induction names generalizing root with
  | nil => exact (List.append_nil _).symm
  | cons name names ih =>
      obtain ⟨hname, hrest⟩ := List.forall_mem_cons.1 hnames
      rw [below_cons, ih (child_ne_nil hroot name) hrest, components_child hroot, hname.segments_eq,
        innerComponents_cons_of_some hname.component?_eq, List.append_assoc]
      rfl

/-- The name of the file at a path: its last component, if that is a name. -/
def fileName? (path : Bytes) : Option Bytes :=
  (components path).getLast?.bind fun
    | .name name => some name
    | _ => none

theorem fileName?_below (hroot : root ≠ []) {front : Location} {name : Bytes}
    (hnames : ∀ n ∈ front ++ [name], IsName n) : fileName? (below root (front ++ [name])) = some name := by
  rw [fileName?, components_below hroot hnames, List.map_append, ← List.append_assoc]
  exact congrArg (Option.bind · _) List.getLast?_concat

end Below

end Path

/-! ## 3. Cases below a root -/

/-- The names lead to something that is called like an input. -/
structure CallsInput (names : Location) : Prop where
  input : names.getLast?.any isInputName = true
  named : ∀ name ∈ names, Path.IsName name

namespace CallsInput

variable {root : Bytes} {names a b : Location} {r s : Role}

theorem exists_name (h : CallsInput names) :
    ∃ front name, names = front ++ [name] ∧ isInputName name = true := by
  have hinput := h.input
  rcases List.eq_nil_or_concat' names with rfl | ⟨front, name, rfl⟩
  · cases hinput
  · rw [List.getLast?_concat] at hinput
    exact ⟨front, name, rfl, hinput⟩

/-- **Where the files of a case are**: under its names, with an addition to the last. -/
theorem exists_file (h : CallsInput names) (root : Bytes) :
    ∃ front name, names = front ++ [name] ∧ isInputName name = true ∧ ∀ role : Role,
      (TestCase.along root names).file role = Path.below root (front ++ [name ++ role.addition]) ∧
        ∀ n ∈ front ++ [name ++ role.addition], Path.IsName n := by
  obtain ⟨front, name, rfl, hinput⟩ := h.exists_name
  obtain ⟨hfront, hname⟩ := List.forall_mem_append.1 h.named
  refine ⟨front, name, rfl, hinput, fun role => ⟨?_, List.forall_mem_append.2 ⟨hfront, ?_⟩⟩⟩
  · rw [TestCase.file_eq, ← suffixed_concat, below_suffixed _ _ (by simp)]
    rfl
  · exact List.forall_mem_singleton.2
      (role.isName_append_addition (hname name (List.mem_singleton_self name)))

/-- **When files have the same path**: only if they are the same file of the same case. -/
theorem same_file_iff (hroot : root ≠ []) (ha : CallsInput a) (hb : CallsInput b) :
    Path.same ((TestCase.along root a).file r) ((TestCase.along root b).file s) = true ↔
      r = s ∧ a = b := by
  constructor
  · obtain ⟨front, name, rfl, hinput, hfile⟩ := ha.exists_file root
    obtain ⟨front', name', rfl, hinput', hfile'⟩ := hb.exists_file root
    rw [(hfile r).1, (hfile' s).1, Path.same, beq_iff_eq, Path.components_below hroot (hfile r).2,
      Path.components_below hroot (hfile' s).2]
    intro h
    have hnames := (List.map_inj_right fun _ _ => Path.Component.name.inj).1 (List.append_cancel_left h)
    obtain ⟨rfl, hlast⟩ := List.append_inj' hnames rfl
    obtain ⟨rfl, rfl⟩ := Role.append_addition_inj hinput hinput' (List.singleton_inj.1 hlast)
    exact ⟨rfl, rfl⟩
  · rintro ⟨rfl, rfl⟩
    exact beq_self_eq_true _

/-- A file of a case is called like an input exactly if it is the input. -/
theorem exists_fileName? (hroot : root ≠ []) (h : CallsInput names) (role : Role) :
    ∃ name, Path.fileName? ((TestCase.along root names).file role) = some name ∧
      (isInputName name = true ↔ role = .input) := by
  obtain ⟨front, name, rfl, hinput, hfile⟩ := h.exists_file root
  refine ⟨name ++ role.addition, ?_, Role.isInputName_append_addition hinput role⟩
  rw [(hfile role).1, Path.fileName?_below hroot (hfile role).2]

end CallsInput

/-- **The files of all cases are different files.** For every file tree and every root, of all inputs, actual
    outputs and expected outputs of the discovered cases no two have the same path; and the names of the
    inputs are such as discovery selects, but the name of no output is. -/
theorem files_never_collide (tree : FileTree) (root : Bytes) {finding : Finding}
    (hfinding : discover tree root = .ok finding) :
    (finding.cases.flatMap fun test => [test.input, test.actual, test.expected]).Pairwise
      (fun a b => Path.same a b = false) ∧
    ∀ test ∈ finding.cases,
      (∃ name, Path.fileName? test.input = some name ∧ isInputName name = true) ∧
      ∀ path ∈ [test.actual, test.expected],
        ∃ name, Path.fileName? path = some name ∧ isInputName name = false := by
  obtain ⟨found, hroot, hcases, hincreasing, hfound⟩ := exists_inputs_found hfinding
  have hcalls : ∀ names ∈ found, CallsInput names := fun names hmem =>
    ⟨(hfound names hmem).1, (hfound names hmem).2⟩
  have hfiles : ∀ test : TestCase,
      [test.input, test.actual, test.expected] = [Role.input, .actual, .expected].map test.file :=
    fun _ => rfl
  have hapart : ∀ a ∈ found, ∀ b ∈ found, ∀ r s : Role, ¬ (r = s ∧ a = b) →
      Path.same ((TestCase.along root a).file r) ((TestCase.along root b).file s) = false :=
    fun a ha b hb r s hne => Bool.eq_false_iff.2 fun hsame =>
      hne ((CallsInput.same_file_iff hroot (hcalls a ha) (hcalls b hb)).1 hsame)
  rw [hcases]
  constructor
  · simp only [List.flatMap_map, hfiles]
    refine List.pairwise_flatMap.2 ⟨fun names hmem => List.pairwise_map.2 ?_, ?_⟩
    · have hroles : [Role.input, .actual, .expected].Pairwise (· ≠ ·) := by decide
      exact hroles.imp fun hne => hapart names hmem names hmem _ _ fun heq => hne heq.1
    · refine hincreasing.imp_of_mem fun ha hb hlt x hx y hy => ?_
      obtain ⟨r, -, rfl⟩ := List.mem_map.1 hx
      obtain ⟨s, -, rfl⟩ := List.mem_map.1 hy
      refine hapart _ ha _ hb r s fun heq => ?_
      exact List.lt_irrefl _ (heq.2 ▸ hlt)
  · intro test htest
    obtain ⟨names, hmem, rfl⟩ := List.mem_map.1 htest
    have hname := (hcalls names hmem).exists_fileName? hroot
    have houtput : ∀ role : Role, role ≠ .input →
        ∃ name, Path.fileName? ((TestCase.along root names).file role) = some name ∧
          isInputName name = false := by
      intro role hne
      obtain ⟨name, hfile, hiff⟩ := hname role
      exact ⟨name, hfile, Bool.eq_false_iff.2 fun hinput => hne (hiff.1 hinput)⟩
    obtain ⟨name, hfile, hiff⟩ := hname .input
    refine ⟨⟨name, hfile, hiff.2 rfl⟩, ?_⟩
    exact List.forall_mem_cons.2 ⟨houtput .actual nofun,
      List.forall_mem_singleton.2 (houtput .expected nofun)⟩

/-- A directory with inputs that borrow the endings of outputs, one of them in a directory that stands where
    another one's output goes. -/
def borrowedDir : Node :=
  .dir .ofDir
    [(utf8 ".smt2", .file .ofFile []), (utf8 "a.smt2", .file .ofFile []),
      (utf8 "a.smt2.peticodiac", .dir .ofDir [(utf8 "b.smt2", .file .ofFile [])]),
      (utf8 "a.smt2.peticodiac.smt2", .file .ofFile []),
      (0xFF :: utf8 ".expected.smt2", .file .ofFile [])]

/-- The tree in which that directory is the tests directory `t`. -/
def borrowed : FileTree :=
  { root := .dir .ofDir [(utf8 "t", borrowedDir)] }

theorem discover_borrowed :
    ∃ finding, discover borrowed (utf8 "t") = .ok finding ∧
      finding.cases.map (·.input) =
        [utf8 "t/.smt2", utf8 "t/a.smt2", utf8 "t/a.smt2.peticodiac/b.smt2",
          utf8 "t/a.smt2.peticodiac.smt2", utf8 "t/" ++ 0xFF :: utf8 ".expected.smt2"] := by
  have hlisted : listingFault? (utf8 "t") true = none := by decide +kernel
  have hdir : borrowed.isDir (utf8 "t") = true := by decide +kernel
  have hvisits : borrowed.visits (utf8 "t") = borrowedDir.visits (utf8 "t") := rfl
  have htrails : borrowedDir.trails (utf8 "t") =
      [[utf8 ".smt2"], [utf8 "a.smt2"], [utf8 "a.smt2.peticodiac"],
        [utf8 "a.smt2.peticodiac", utf8 "b.smt2"], [utf8 "a.smt2.peticodiac.smt2"],
        [0xFF :: utf8 ".expected.smt2"]] := by
    rw [borrowedDir, Node.trails_dir hlisted, inNameOrder_of_sorted (by decide +kernel)]
    decide +kernel
  obtain ⟨finding, hfinding, hcases⟩ := discover_of_isDir hdir
  refine ⟨finding, hfinding, ?_⟩
  rw [hcases, hvisits, Node.filterMap_visits, htrails]
  decide +kernel

theorem files_never_collide_borrowed :
    ∃ finding, discover borrowed (utf8 "t") = .ok finding ∧
      finding.cases.map (·.input) =
        [utf8 "t/.smt2", utf8 "t/a.smt2", utf8 "t/a.smt2.peticodiac/b.smt2",
          utf8 "t/a.smt2.peticodiac.smt2", utf8 "t/" ++ 0xFF :: utf8 ".expected.smt2"] ∧
      (finding.cases.flatMap fun test => [test.input, test.actual, test.expected]).Pairwise
        (fun a b => Path.same a b = false) ∧
      ∀ test ∈ finding.cases, ∀ path ∈ [test.actual, test.expected],
        ∃ name, Path.fileName? path = some name ∧ isInputName name = false := by
  obtain ⟨finding, hfinding, hinputs⟩ := discover_borrowed
  obtain ⟨hapart, hnames⟩ := files_never_collide borrowed (utf8 "t") hfinding
  exact ⟨finding, hfinding, hinputs, hapart, fun test htest => (hnames test htest).2⟩

end GoldenRun
