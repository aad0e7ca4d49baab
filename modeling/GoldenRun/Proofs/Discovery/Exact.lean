import GoldenRun.Proofs.Discovery.Trails
import GoldenRun.Proofs.Files.Resolution

/-!
# What discovery finds

Seen from outside, discovery is asked for a directory and answers with paths below it. Which ones, and in
which order, is said here with paths alone: what they name, and what the directories on their way are.

* `FileTree.InputBelow`: the names lead over directories, none of them a link, to a test input;
* `FileTree.CanList`: the path names a directory that can be listed.

Main statement: `discover_exact`, discovery fails exactly if there is no directory, and otherwise finds
the inputs below it once each in the order of their names, but for those on whose own way a directory
cannot be listed.
-/

namespace GoldenRun

namespace FileTree

/-! ## 1. Inputs below a root -/

/-- The path names a directory, links followed, whose entries can be listed. -/
def CanList (tree : FileTree) (path : Bytes) : Prop :=
  ∃ attributes es, tree.find true path = .ok (.dir attributes es) ∧ attributes.listable = true

/-- The names lead from `root` to a test input. -/
structure InputBelow (tree : FileTree) (root : Bytes) (names : Location) : Prop where
  named : ∀ name ∈ names, Path.IsName name
  /-- The last name is that of an input. -/
  input : ∃ front name, names = front ++ [name] ∧ inputSuffix <:+ name
  /-- The whole path names a regular file, links followed. -/
  file : tree.isFile (Path.below root names) = true
  /-- All shorter paths below the root name directories, and these are not links. -/
  way : ∀ i, 1 ≤ i → i < names.length →
    ∃ attributes es, tree.find false (Path.below root (names.take i)) = .ok (.dir attributes es)

theorem endsAtInput_iff {tree : FileTree} {root : Bytes} {names : Location} :
    endsAtInput tree root names = true ↔
      (∃ front name, names = front ++ [name] ∧ inputSuffix <:+ name) ∧
        tree.isFile (Path.below root names) = true := by
  unfold endsAtInput
  rw [Bool.and_eq_true, and_congr_left_iff]
  intro _
  rcases List.eq_nil_or_concat names with rfl | ⟨front, name, rfl⟩
  · simp
  · have hlast : (front.concat name).getLast? = some name := by simp
    rw [hlast, Option.any_some, isInputName, Path.endsWith, List.isSuffixOf_iff_suffix]
    constructor
    · exact fun h => ⟨front, name, List.concat_eq_append, h⟩
    · rintro ⟨_, _, heq, h⟩
      rw [List.concat_eq_append] at heq
      obtain ⟨-, hname⟩ := List.append_inj' heq rfl
      cases hname
      exact h

/-! ## 2. Locations and paths -/

namespace Reaches

variable {tree : FileTree} {root : Bytes} {attributes : Attributes} {es : List (Bytes × Node)}
  {location : Location} {links : Nat} {names : Location}

/-- The whole path is admissible, all its names are short, and there is a node at its location, if a
    directory is there just before. -/
theorem of_isFile (h : tree.Reaches root (.dir attributes es) location links)
    (hnames : ∀ name ∈ names, Path.IsName name) {front : Location} {name : Bytes}
    (hsplit : names = front ++ [name]) (hfile : tree.isFile (Path.below root names) = true)
    (hfront : (Node.dir attributes es).Opens root front) :
    Admissible (Path.below root names) ∧ (∀ n ∈ names, n.length ≤ maxName) ∧
      ∃ found, (Node.dir attributes es).at? names = some found := by
  subst hsplit
  obtain ⟨_, _, hfind⟩ := isFile_iff.1 hfile
  obtain ⟨_, _, hat, -⟩ := hfront
  obtain ⟨hshort, found, hfound, -⟩ := h.found hat hnames hfind
  exact ⟨admissible_of_find hfind, hshort, found, hfound⟩

/-- If the locations on the way can be listed, so can the paths. -/
theorem way_of_opens (h : tree.Reaches root (.dir attributes es) location links)
    (hroot : tree.find true root = .ok (.dir attributes es))
    (hnames : ∀ name ∈ names, Path.IsName name) (hshort : ∀ name ∈ names, name.length ≤ maxName)
    (hadmissible : Admissible (Path.below root names)) {i : Nat}
    (hopens : (Node.dir attributes es).Opens root (names.take i)) (hi : i < names.length) :
    (1 ≤ i → ∃ attributes es,
        tree.find false (Path.below root (names.take i)) = .ok (.dir attributes es)) ∧
      tree.CanList (Path.below root (names.take i)) := by
  obtain ⟨attributes', es', hat, hlistable, -⟩ := hopens
  cases i with
  | zero =>
      rw [List.take_zero, Node.at?_nil, Option.some.injEq, Node.dir.injEq] at hat
      obtain ⟨rfl, rfl⟩ := hat
      exact ⟨fun h0 => absurd h0 (by omega), attributes, es, hroot, hlistable⟩
  | succ i =>
      have hne : names.take (i + 1) ≠ [] := by
        intro hnil
        have hlength := congrArg List.length hnil
        rw [List.length_take, List.length_nil] at hlength
        omega
      have hprefix := Path.below_prefix_below root (List.take_prefix (i + 1) names)
      have hfind := fun followLast =>
        h.find_dir hat hne (fun n hn => hnames n (List.mem_of_mem_take hn))
          (fun n hn => hshort n (List.mem_of_mem_take hn))
          (hadmissible.of_prefix hprefix (Path.below_ne_nil h.ne_nil _)) followLast
      exact ⟨fun _ => ⟨attributes', es', hfind false⟩, attributes', es', hfind true, hlistable⟩

/-- If the paths on the way name directories that can be listed, so can the locations be. -/
theorem opens_of_way (h : tree.Reaches root (.dir attributes es) location links)
    (hroot : tree.find true root = .ok (.dir attributes es))
    (hnames : ∀ name ∈ names, Path.IsName name)
    (hway : ∀ i, 1 ≤ i → i < names.length →
      ∃ attributes es, tree.find false (Path.below root (names.take i)) = .ok (.dir attributes es))
    (hlist : ∀ i < names.length, tree.CanList (Path.below root (names.take i))) {i : Nat}
    (hi : i < names.length) : (Node.dir attributes es).Opens root (names.take i) := by
  induction i with
  | zero =>
      obtain ⟨attributes', es', hfind, hlistable⟩ := hlist 0 hi
      rw [List.take_zero, Path.below_nil, hroot, Except.ok.injEq, Node.dir.injEq] at hfind
      obtain ⟨rfl, rfl⟩ := hfind
      exact ⟨attributes, es, rfl, hlistable, (admissible_of_find hroot).2.2⟩
  | succ i ih =>
      obtain ⟨_, _, hat, -⟩ := ih (Nat.lt_of_succ_lt hi)
      obtain ⟨attributes', es', hfind⟩ := hway (i + 1) (Nat.succ_pos i) hi
      obtain ⟨name, htake⟩ : ∃ name, names.take (i + 1) = names.take i ++ [name] :=
        ⟨_, List.take_succ_eq_append_getElem (Nat.lt_of_succ_lt hi)⟩
      have hnamesTake : ∀ n ∈ names.take (i + 1), Path.IsName n :=
        fun n hn => hnames n (List.mem_of_mem_take hn)
      have hadmissible := admissible_of_find hfind
      rw [htake] at hfind hnamesTake
      obtain ⟨hshort, child, hchild, hsame⟩ := h.found hat hnamesTake hfind
      rw [hsame rfl, ← htake] at hchild
      rw [← htake] at hshort hnamesTake
      have hfindTrue := h.find_dir hchild (by rw [htake]; simp) hnamesTake hshort hadmissible true
      obtain ⟨_, _, hfindList, hlistable⟩ := hlist (i + 1) hi
      rw [hfindTrue, Except.ok.injEq, Node.dir.injEq] at hfindList
      obtain ⟨rfl, rfl⟩ := hfindList
      exact ⟨attributes', es', hchild, hlistable, hadmissible.2.2⟩

/-- **Trails and paths.** The trails to inputs are the names that lead to inputs over paths that can be
    listed. -/
theorem mem_trails (h : tree.Reaches root (.dir attributes es) location links)
    (hroot : tree.find true root = .ok (.dir attributes es))
    (hdistinct : (Node.dir attributes es).Distinct) (hnamed : (Node.dir attributes es).Named)
    (names : Location) :
    names ∈ ((Node.dir attributes es).trails root).filter (endsAtInput tree root) ↔
      tree.InputBelow root names ∧
        ∀ i < names.length, tree.CanList (Path.below root (names.take i)) := by
  rw [List.mem_filter, Node.mem_trails_iff hdistinct, endsAtInput_iff]
  constructor
  · rintro ⟨⟨-, hfound, hopens⟩, ⟨front, name, hsplit, hsuffix⟩, hfile⟩
    have hnames : ∀ n ∈ names, Path.IsName n := hnamed.isName_of_at? hfound
    have hfront : (Node.dir attributes es).Opens root front := by
      have htake := hopens front.length (by simp [hsplit])
      rwa [hsplit, List.take_left] at htake
    obtain ⟨hadmissible, hshort, -⟩ := h.of_isFile hnames hsplit hfile hfront
    have hway := fun i hi => h.way_of_opens hroot hnames hshort hadmissible (hopens i hi) hi
    exact ⟨⟨hnames, ⟨front, name, hsplit, hsuffix⟩, hfile, fun i h1 hi => (hway i hi).1 h1⟩,
      fun i hi => (hway i hi).2⟩
  · rintro ⟨⟨hnames, ⟨front, name, hsplit, hsuffix⟩, hfile, hway⟩, hlist⟩
    have hopens := fun i hi => h.opens_of_way hroot hnames hway hlist (i := i) hi
    have hfront : (Node.dir attributes es).Opens root front := by
      have htake := hopens front.length (by simp [hsplit])
      rwa [hsplit, List.take_left] at htake
    obtain ⟨-, -, hfound⟩ := h.of_isFile hnames hsplit hfile hfront
    exact ⟨⟨by simp [hsplit], hfound, hopens⟩, ⟨front, name, hsplit, hsuffix⟩, hfile⟩

end Reaches

end FileTree

/-! ## 3. Discovery -/

/-- **Discovery is exact and ordered.** It fails exactly if the root names no directory. Otherwise the
    cases are the inputs below the root, each once, in the strict order of their names, except those
    with a directory on their way that cannot be listed: such a directory loses what is below it and
    nothing else. -/
theorem discover_exact (tree : FileTree) (root : Bytes) :
    (discover tree root = .error (.testsDirNotFound root) ↔
      ¬ ∃ attributes es, tree.find true root = .ok (.dir attributes es)) ∧
    ((∃ attributes es, tree.find true root = .ok (.dir attributes es)) →
      ∃ finding, ∃ found : List Location, discover tree root = .ok finding ∧
        finding.cases = found.map (fun names => .below root (Path.below root names)) ∧
        (∀ names, names ∈ found ↔
          tree.InputBelow root names ∧
            ∀ i < names.length, tree.CanList (Path.below root (names.take i))) ∧
        found.Pairwise (· < ·) ∧
        (finding.cases.map (·.input)).Nodup) := by
  constructor
  · rw [← FileTree.isDir_iff]
    constructor
    · intro hfail hdir
      obtain ⟨finding, hfinding, -⟩ := discover_of_isDir hdir
      rw [hfinding] at hfail
      cases hfail
    · intro hdir
      exact discover_of_not_isDir (Bool.eq_false_iff.2 hdir)
  · rintro ⟨attributes, es, hroot⟩
    obtain ⟨location, links, hreaches⟩ := FileTree.exists_reaches hroot
    have hdistinct : (Node.dir attributes es).Distinct := tree.wellFormed.distinct.at? hreaches.at_location
    have hnamed : (Node.dir attributes es).Named := tree.wellFormed.named.at? hreaches.at_location
    obtain ⟨finding, hfinding, hcases⟩ := discover_of_isDir (FileTree.isDir_iff.2 ⟨_, _, hroot⟩)
    have hvisits : tree.visits root = (Node.dir attributes es).visits root := by
      rw [FileTree.visits, hroot]
    rw [hvisits, Node.filterMap_visits, filterMap_caseAlong?] at hcases
    have hmem := hreaches.mem_trails hroot hdistinct hnamed
    have hincreasing := (Node.trails_increasing root _ hdistinct).filter (endsAtInput tree root)
    refine ⟨finding, _, hfinding, hcases, hmem, hincreasing, ?_⟩
    rw [hcases, List.map_map]
    refine List.pairwise_map.2 (hincreasing.imp_of_mem ?_)
    intro a b ha hb hlt heq
    obtain ⟨⟨hnamesA, ⟨frontA, lastA, hsplitA, -⟩, -, -⟩, -⟩ := (hmem a).1 ha
    obtain ⟨⟨hnamesB, ⟨frontB, lastB, hsplitB, -⟩, -, -⟩, -⟩ := (hmem b).1 hb
    have hsame : a = b := Path.below_injective hreaches.ne_nil (by simp [hsplitA])
      (by simp [hsplitB]) hnamesA hnamesB heq
    exact List.lt_irrefl b (hsame ▸ hlt)

/-- A tests directory `t` with an input, a link to that, a directory that cannot be listed, and a link
    back to `t`. -/
def tangled : FileTree :=
  { root := .dir .ofDir
      [(utf8 "t", .dir .ofDir
        [(utf8 "shut", .dir { mode := 0, listable := false } [(utf8 "y.smt2", .file .ofFile [])]),
          (utf8 "a.smt2", .link (utf8 "a/x.smt2")),
          (utf8 "back.smt2", .link (utf8 ".")),
          (utf8 "a", .dir .ofDir [(utf8 "x.smt2", .file .ofFile [])])])] }

theorem discover_exact_tangled :
    ∃ finding, ∃ found : List Location, discover tangled (utf8 "t") = .ok finding ∧
      finding.cases = found.map (fun names => .below (utf8 "t") (Path.below (utf8 "t") names)) ∧
      found.Pairwise (· < ·) ∧
      [utf8 "a", utf8 "x.smt2"] ∈ found ∧ [utf8 "a.smt2"] ∈ found ∧
      [utf8 "back.smt2"] ∉ found ∧ [utf8 "shut", utf8 "y.smt2"] ∉ found := by
  have hroot : tangled.CanList (utf8 "t") := ⟨_, _, rfl, rfl⟩
  have hinner : tangled.CanList (utf8 "t/a") := ⟨_, _, rfl, rfl⟩
  have hshut : ¬ tangled.CanList (utf8 "t/shut") := by
    rintro ⟨attributes, es, hfind, hlistable⟩
    have hreal : tangled.find true (utf8 "t/shut") =
        .ok (.dir { mode := 0, listable := false } [(utf8 "y.smt2", .file .ofFile [])]) := rfl
    rw [hreal] at hfind
    cases hfind
    cases hlistable
  obtain ⟨attributes, es, hfind, -⟩ := id hroot
  obtain ⟨finding, found, hfinding, hcases, hmem, hincreasing, -⟩ :=
    (discover_exact tangled (utf8 "t")).2 ⟨attributes, es, hfind⟩
  refine ⟨finding, found, hfinding, hcases, hincreasing, ?_, ?_, ?_, ?_⟩
  · refine (hmem _).2 ⟨⟨by decide +kernel, ⟨[utf8 "a"], _, rfl, by decide +kernel⟩,
      by decide +kernel, ?_⟩, ?_⟩
    · intro i hpos hlt
      obtain rfl : i = 1 := by simp at hlt; omega
      exact ⟨_, _, rfl⟩
    · intro i hlt
      obtain rfl | rfl : i = 0 ∨ i = 1 := by simp at hlt; omega
      · exact hroot
      · exact hinner
  · refine (hmem _).2 ⟨⟨by decide +kernel, ⟨[], _, rfl, by decide +kernel⟩, by decide +kernel, ?_⟩, ?_⟩
    · intro i hpos hlt
      simp at hlt
      omega
    · intro i hlt
      obtain rfl : i = 0 := by simp at hlt; omega
      exact hroot
  · intro h
    exact absurd ((hmem _).1 h).1.file (by decide +kernel)
  · intro h
    exact hshut (((hmem _).1 h).2 1 (by simp))

end GoldenRun
