import GoldenRun.Proofs.Discovery.Ids
import Mathlib.Data.List.Sort

/-!
# Spellings of a root

A directory has many paths: relative or absolute ones, with a `.`, a doubled slash or a slash at the end, by
way of its parent or of links. Whichever of them discovery is given, it looks at the same directory, and the
ids are made of the names below it. Two limits still tell paths of one directory apart: how long a path may
be, and how many links may be followed for it.

* `FileTree.SameDir`: two paths name one directory;
* `FileTree.WalksWithin`: a walk meets no path that is too long;
* `FileTree.Finds`: discovery finds a case over these names;
* `FileTree.LinksSuffice`: what is found from one root does not run out of links from the other.

Main statements: `Node.trail_of_within`, trails are the same where nothing is too long; `finds_of_reaches`,
what is found below one spelling is found below another one that leaves enough links; `SameDir.ids_eq_iff`,
two spellings give the same ids exactly if links suffice; `spelling_loses_case`, they need not suffice.
-/

namespace GoldenRun

/-- The path of what is visited. -/
def Visit.path : Visit → Bytes
  | .entry path _ => path
  | .unlisted path _ => path

namespace FileTree

/-- Both paths name the same directory, links followed. -/
def SameDir (tree : FileTree) (a b : Bytes) : Prop :=
  ∃ location attributes es, tree.locate true a = .ok location ∧ tree.locate true b = .ok location ∧
    tree.root.at? location = some (.dir attributes es)

/-- No path that the walk below `root` meets is too long. -/
def WalksWithin (tree : FileTree) (root : Bytes) : Prop :=
  ∀ visit ∈ tree.visits root, visit.path.length ≤ maxPath

/-- Discovery finds a case below `root` over the names. -/
def Finds (tree : FileTree) (root : Bytes) (names : Location) : Prop :=
  names ≠ [] ∧ (∀ name ∈ names, Path.IsName name) ∧
    ∃ finding, discover tree root = .ok finding ∧
      Path.below root names ∈ finding.cases.map (·.input)

/-- For no case that is found below `root` are there too many links on its path below `other`. -/
def LinksSuffice (tree : FileTree) (root other : Bytes) : Prop :=
  ∀ names, tree.Finds root names →
    tree.locate true (Path.below other names) ≠ .error .tooManyLinks

end FileTree

/-! ## 1. Trails under two roots -/

namespace Node

variable {node : Node} {a b : Bytes} {names : Location}

/-- A trail below one path is one below another if no path behind that is too long. -/
theorem trail_of_within (hnode : node.Distinct) (hb : b.length ≤ FileTree.maxPath)
    (hwithin : ∀ visit ∈ node.visits b, visit.path.length ≤ FileTree.maxPath)
    (h : names ∈ node.trails a) : names ∈ node.trails b := by
  obtain ⟨hne, hfound, hopens⟩ := (mem_trails_iff hnode a names).1 h
  have hopensB : ∀ i < names.length, node.Opens b (names.take i) := by
    intro i
    induction i using Nat.strongRecOn with
    | ind i ih =>
        intro hi
        obtain ⟨attributes, es, hat, hlistable, -⟩ := hopens i hi
        refine ⟨attributes, es, hat, hlistable, ?_⟩
        cases i with
        | zero => exact hb
        | succ i =>
            -- the directory is at the end of a trail itself, so its path is one that the walk meets
            have htrail : names.take (i + 1) ∈ node.trails b := by
              refine (mem_trails_iff hnode b _).2 ⟨?_, ⟨_, hat⟩, fun j hj => ?_⟩
              · exact List.ne_nil_of_length_pos (by rw [List.length_take]; omega)
              · have hshorter : j < i + 1 := by rw [List.length_take] at hj; omega
                rw [List.take_take, Nat.min_eq_left (Nat.le_of_lt hshorter)]
                exact ih j hshorter (Nat.lt_trans hshorter hi)
            obtain ⟨name, hvisit⟩ := exists_visit_of_trail htrail
            exact hwithin _ hvisit
  exact (mem_trails_iff hnode b names).2 ⟨hne, hfound, hopensB⟩

end Node

/-! ## 2. Cases under two roots -/

namespace FileTree

variable {tree : FileTree} {a b root : Bytes} {base : Location} {attributes : Attributes}
  {es : List (Bytes × Node)} {leftA leftB : Nat} {names : Location}

/-- The cases that are found are those of the trails to inputs. -/
theorem finds_iff (hroot : tree.find true root = .ok (.dir attributes es))
    (names : Location) :
    tree.Finds root names ↔
      names ∈ ((Node.dir attributes es).trails root).filter (endsAtInput tree root) := by
  obtain ⟨base, hlocate, hat⟩ := find_eq_ok.1 hroot
  have hne : root ≠ [] := (admissible_of_locate hlocate).1
  have hnames : ∀ names ∈ ((Node.dir attributes es).trails root).filter (endsAtInput tree root),
      names ≠ [] ∧ ∀ name ∈ names, Path.IsName name := fun names hmem =>
    isName_of_trail hat (List.mem_filter.1 hmem).1
  obtain ⟨finding, hfinding, -⟩ := discover_of_isDir (isDir_iff.2 ⟨_, _, hroot⟩)
  have hcases := cases_of_discover hroot hfinding
  constructor
  · rintro ⟨hnotNil, hallNames, other, hother, hmem⟩
    cases hfinding.symm.trans hother
    rw [hcases, List.map_map] at hmem
    obtain ⟨found, hfound, hsame⟩ := List.mem_map.1 hmem
    obtain ⟨hfoundNe, hfoundNames⟩ := hnames found hfound
    exact Path.below_injective hne hfoundNe hnotNil hfoundNames hallNames hsame ▸ hfound
  · intro hmem
    obtain ⟨hnotNil, hallNames⟩ := hnames names hmem
    refine ⟨hnotNil, hallNames, finding, hfinding, ?_⟩
    rw [hcases, List.map_map]
    exact List.mem_map.2 ⟨names, hmem, rfl⟩

/-- No trail of a walk leads to a path that is too long, if the walk meets none. -/
theorem WalksWithin.of_trail (hwithin : tree.WalksWithin root)
    (hroot : tree.find true root = .ok (.dir attributes es))
    (h : names ∈ (Node.dir attributes es).trails root) :
    (Path.below root names).length ≤ maxPath := by
  obtain ⟨name, hvisit⟩ := Node.exists_visit_of_trail h
  refine hwithin (.entry (Path.below root names) name) ?_
  rw [visits, hroot]
  exact hvisit

/-- What ends at an input below one spelling of a directory does so below another one, if this has as many
    links left, or enough. -/
theorem endsAtInput_of_reaches (ha : tree.Reaches a (.dir attributes es) base leftA)
    (hb : tree.Reaches b (.dir attributes es) base leftB)
    (hroot : tree.find true b = .ok (.dir attributes es)) (hwithin : tree.WalksWithin b)
    (htrail : names ∈ (Node.dir attributes es).trails b)
    (hlinks : leftA ≤ leftB ∨ tree.locate true (Path.below b names) ≠ .error .tooManyLinks)
    (hinput : endsAtInput tree a names = true) : endsAtInput tree b names = true := by
  obtain ⟨hne, hnames⟩ := isName_of_trail hb.at_location htrail
  rw [endsAtInput, Bool.and_eq_true] at hinput ⊢
  obtain ⟨hinput, hfile⟩ := hinput
  obtain ⟨_, _, hfind⟩ := isFile_iff.1 hfile
  have hadmissibleA := admissible_of_find hfind
  have hadmissibleB : Admissible (Path.below b names) := by
    refine ⟨Path.below_ne_nil hb.ne_nil names, fun hzero => ?_, hwithin.of_trail hroot htrail⟩
    rcases (Path.mem_below (by decide)).1 hzero with hzero | hzero
    · exact (admissible_of_find hroot).2.1 hzero
    · exact hadmissibleA.2.1 ((Path.mem_below (by decide)).2 (Or.inr hzero))
  obtain ⟨place, hplace, hat⟩ := find_eq_ok.1 hfind
  have hsame : tree.locate true (Path.below b names) = tree.locate true (Path.below a names) := by
    by_cases hle : leftA ≤ leftB
    · exact ha.locate_more hb hle hne hnames hadmissibleA hadmissibleB (by rw [hplace]; nofun)
    · exact (hb.locate_more ha (Nat.le_of_not_le hle) hne hnames hadmissibleB hadmissibleA
        (hlinks.resolve_left hle)).symm
  exact ⟨hinput, isFile_iff.2 ⟨_, _, find_eq_ok.2 ⟨place, hsame.trans hplace, hat⟩⟩⟩

/-- **What is found below one spelling** of a directory is found below another one, if nothing is too long
    there and it has as many links left, or enough. -/
theorem finds_of_reaches (ha : tree.Reaches a (.dir attributes es) base leftA)
    (hb : tree.Reaches b (.dir attributes es) base leftB)
    (hrootA : tree.find true a = .ok (.dir attributes es))
    (hrootB : tree.find true b = .ok (.dir attributes es)) (hwithin : tree.WalksWithin b)
    (names : Location)
    (hlinks : leftA ≤ leftB ∨ tree.locate true (Path.below b names) ≠ .error .tooManyLinks)
    (hfinds : tree.Finds a names) : tree.Finds b names := by
  have hvisits : tree.visits b = (Node.dir attributes es).visits b := by rw [visits, hrootB]
  rw [finds_iff hrootA, List.mem_filter] at hfinds
  rw [finds_iff hrootB, List.mem_filter]
  obtain ⟨htrailA, hinput⟩ := hfinds
  have hdistinct := tree.wellFormed.distinct.at? hb.at_location
  have htrail := Node.trail_of_within hdistinct (admissible_of_find hrootB).2.2 (hvisits ▸ hwithin) htrailA
  exact ⟨htrail, endsAtInput_of_reaches ha hb hrootB hwithin htrail hlinks hinput⟩

/-- A case that is found has not too many links on its path. -/
theorem Finds.links (hroot : tree.find true root = .ok (.dir attributes es))
    (hfinds : tree.Finds root names) :
    tree.locate true (Path.below root names) ≠ .error .tooManyLinks := by
  have hinput := (List.mem_filter.1 ((finds_iff hroot names).1 hfinds)).2
  rw [endsAtInput, Bool.and_eq_true] at hinput
  obtain ⟨_, _, hfind⟩ := isFile_iff.1 hinput.2
  obtain ⟨place, hplace, -⟩ := find_eq_ok.1 hfind
  rw [hplace]
  nofun

/-- The ids of a discovery are those of the names over which it finds cases, in the order of these. -/
theorem exists_finds (hroot : tree.find true root = .ok (.dir attributes es)) :
    ∃ finding, ∃ found : List Location, discover tree root = .ok finding ∧
      finding.cases.map (·.id) = found.map (fun names => Bytes.lossy (join Path.slash names)) ∧
      found.Pairwise (· < ·) ∧ ∀ names, names ∈ found ↔ tree.Finds root names := by
  obtain ⟨base, hlocate, hat⟩ := find_eq_ok.1 hroot
  obtain ⟨finding, hfinding, -⟩ := discover_of_isDir (isDir_iff.2 ⟨_, _, hroot⟩)
  have hincreasing := Node.trails_increasing root _ (tree.wellFormed.distinct.at? hat)
  refine ⟨finding, _, hfinding, ?_, hincreasing.filter _, fun names => (finds_iff hroot names).symm⟩
  rw [cases_of_discover hroot hfinding, List.map_map]
  refine List.map_congr_left fun names hmem => ?_
  obtain ⟨hne, hnames⟩ := isName_of_trail hat (List.mem_filter.1 hmem).1
  exact TestCase.idBelow_below (admissible_of_locate hlocate).1 hne hnames

/-- Of increasing lists of one length neither has less than the other. -/
theorem increasing_eq_of_subset {l k : List Location} (hl : l.Pairwise (· < ·))
    (hk : k.Pairwise (· < ·)) (hsubset : l ⊆ k) (hlength : l.length = k.length) : l = k := by
  have hsubperm : l.Subperm k := List.subperm_of_subset hl.nodup hsubset
  exact (List.sublist_of_subperm_of_pairwise hsubperm hl hk).eq_of_length hlength

/-- **Spellings of one root.** As long as no path is too long under either of them, two paths of one
    directory give the same ids in the same order exactly if no case that is found under one of them has
    too many links on its path under the other. -/
theorem SameDir.ids_eq_iff (hsame : tree.SameDir a b)
    (hwithinA : tree.WalksWithin a) (hwithinB : tree.WalksWithin b) :
    ∃ here there, discover tree a = .ok here ∧ discover tree b = .ok there ∧
      (here.cases.map (·.id) = there.cases.map (·.id) ↔
        tree.LinksSuffice a b ∧ tree.LinksSuffice b a) := by
  obtain ⟨base, attributes, es, hlocateA, hlocateB, hat⟩ := hsame
  obtain ⟨leftA, hreachesA⟩ := reaches_of_locate hlocateA hat
  obtain ⟨leftB, hreachesB⟩ := reaches_of_locate hlocateB hat
  have hrootA := find_eq_ok.2 ⟨base, hlocateA, hat⟩
  have hrootB := find_eq_ok.2 ⟨base, hlocateB, hat⟩
  obtain ⟨here, foundA, hhere, hidsA, hsortedA, hmemA⟩ := exists_finds hrootA
  obtain ⟨there, foundB, hthere, hidsB, hsortedB, hmemB⟩ := exists_finds hrootB
  have hAB := finds_of_reaches hreachesA hreachesB hrootA hrootB hwithinB
  have hBA := finds_of_reaches hreachesB hreachesA hrootB hrootA hwithinA
  refine ⟨here, there, hhere, hthere, ?_⟩
  rw [hidsA, hidsB]
  constructor
  · intro hids
    have hlength := congrArg List.length hids
    rw [List.length_map, List.length_map] at hlength
    -- one of the spellings has as many links left, so all that is found under the other is found there
    have hfound : foundA = foundB := by
      rcases Nat.le_total leftA leftB with hle | hle
      · refine increasing_eq_of_subset hsortedA hsortedB (fun names hmem => ?_) hlength
        exact (hmemB names).2 (hAB names (Or.inl hle) ((hmemA names).1 hmem))
      · refine (increasing_eq_of_subset hsortedB hsortedA (fun names hmem => ?_) hlength.symm).symm
        exact (hmemA names).2 (hBA names (Or.inl hle) ((hmemB names).1 hmem))
    have hiff : ∀ names, tree.Finds a names ↔ tree.Finds b names := fun names => by
      rw [← hmemA, ← hmemB, hfound]
    exact ⟨fun names hfinds => ((hiff names).1 hfinds).links hrootB,
      fun names hfinds => ((hiff names).2 hfinds).links hrootA⟩
  · rintro ⟨hlinksAB, hlinksBA⟩
    refine congrArg (List.map _) (hsortedA.eq_of_mem_iff hsortedB fun names => ?_)
    rw [hmemA, hmemB]
    exact ⟨fun hfinds => hAB names (Or.inr (hlinksAB names hfinds)) hfinds,
      fun hfinds => hBA names (Or.inr (hlinksBA names hfinds)) hfinds⟩

end FileTree

/-! ## 3. The room that paths need -/

namespace Node

mutual

/-- How much longer than the path of a node the paths below it get. -/
def room : Node → Nat
  | .dir _ es => entryRoom es
  | _ => 0

/-- The same for the entries of a directory. -/
def entryRoom : List (Bytes × Node) → Nat
  | [] => 0
  | (name, node) :: es => max (1 + name.length + node.room) (entryRoom es)

end

mutual

/-- A walk meets no path that needs more room. -/
theorem length_visits_le (path : Bytes) :
    ∀ node : Node, ∀ visit ∈ node.visits path, visit.path.length ≤ path.length + node.room
  | .dir attributes es, visit, h => by
      rw [visits] at h
      cases hfault : listingFault? path attributes.listable with
      | some cause =>
          rw [hfault] at h
          cases List.mem_singleton.1 h
          exact Nat.le_add_right _ _
      | none =>
          rw [hfault] at h
          obtain ⟨group, hgroup, hvisit⟩ := mem_inNameOrder.1 h
          exact length_entryVisits_le path es group hgroup visit hvisit
  | .file _ _, visit, h => by simp [visits] at h
  | .link _, visit, h => by simp [visits] at h
  | .pipe, visit, h => by simp [visits] at h
  | .device _, visit, h => by simp [visits] at h

/-- Nor does it do so for an entry. -/
theorem length_entryVisits_le (path : Bytes) :
    ∀ es : List (Bytes × Node), ∀ group ∈ entryVisits path es, ∀ visit ∈ group.2,
      visit.path.length ≤ path.length + entryRoom es
  | [], group, hgroup, _, _ => by simp [entryVisits] at hgroup
  | (name, node) :: es, group, hgroup, visit, hvisit => by
      have hchild := Path.length_child_le path name
      rw [entryVisits, List.mem_cons] at hgroup
      rw [entryRoom]
      rcases hgroup with rfl | hgroup
      · rcases List.mem_cons.1 hvisit with rfl | hvisit
        · rw [Visit.path]
          omega
        · have hbelow := length_visits_le (Path.child path name) node visit hvisit
          omega
      · have hrest := length_entryVisits_le path es group hgroup visit hvisit
        omega

end

end Node

/-- A walk meets no path that is too long if there is room for all below the root. -/
theorem FileTree.walksWithin_of_room {tree : FileTree} {root : Bytes} {node : Node}
    (hroot : tree.find true root = .ok node) (hroom : root.length + node.room ≤ maxPath) :
    tree.WalksWithin root := by
  intro visit hvisit
  rw [visits, hroot] at hvisit
  exact Nat.le_trans (node.length_visits_le root visit hvisit) hroom

/-! ## 4. A root that is wound up -/

/-- A directory with a link `l` to itself, with an input whose own target goes ten times through it, and
    with another input further down. -/
def coilDir : Node :=
  .dir .ofDir
    [(utf8 "a.smt2", .link (utf8 "l/l/l/l/l/l/l/l/l/l/x")), (utf8 "l", .link (utf8 ".")),
      (utf8 "s", .dir .ofDir [(utf8 "y.smt2", .file .ofFile [])]), (utf8 "x", .file .ofFile [])]

/-- The tree in which that directory is the tests directory `d`. -/
def coil : FileTree :=
  { root := .dir .ofDir [(utf8 "d", coilDir)] }

/-- The path of `d` that goes through the link so many times. -/
def wound (turns : Nat) : Bytes :=
  utf8 "d" ++ (List.replicate turns (utf8 "/l")).flatten

/-- There are no more cases than these two in that directory. -/
theorem finds_coil {root : Bytes} (hroot : coil.find true root = .ok coilDir) {names : Location}
    (h : coil.Finds root names) :
    names = [utf8 "a.smt2"] ∨ names = [utf8 "s", utf8 "y.smt2"] := by
  obtain ⟨htrail, hinput⟩ := List.mem_filter.1 ((FileTree.finds_iff hroot names).1 h)
  have hend : names.getLast?.any isInputName = true := by
    rw [endsAtInput, Bool.and_eq_true] at hinput
    exact hinput.1
  cases names with
  | nil => exact absurd htrail (Node.nil_not_mem_trails _ _)
  | cons name rest =>
      obtain ⟨-, child, hentry, hrest⟩ := Node.cons_mem_trails.1 htrail
      simp only [List.mem_cons, Prod.mk.injEq, List.not_mem_nil, or_false] at hentry
      rcases hentry with ⟨rfl, rfl⟩ | ⟨rfl, rfl⟩ | ⟨rfl, rfl⟩ | ⟨rfl, rfl⟩
      · simp only [Node.trails, List.not_mem_nil, or_false] at hrest
        exact Or.inl (by rw [hrest])
      · simp only [Node.trails, List.not_mem_nil, or_false] at hrest
        subst hrest
        exact absurd hend (by decide +kernel)
      · rcases hrest with rfl | hrest
        · exact absurd hend (by decide +kernel)
        · cases rest with
          | nil => exact absurd hrest (Node.nil_not_mem_trails _ _)
          | cons name rest =>
              obtain ⟨-, child, hentry, hrest⟩ := Node.cons_mem_trails.1 hrest
              simp only [List.mem_singleton, Prod.mk.injEq] at hentry
              obtain ⟨rfl, rfl⟩ := hentry
              simp only [Node.trails, List.not_mem_nil, or_false] at hrest
              exact Or.inr (by rw [hrest])
      · simp only [Node.trails, List.not_mem_nil, or_false] at hrest
        subst hrest
        exact absurd hend (by decide +kernel)

/-- Going through the link does not leave the directory, as often as that is allowed. -/
theorem sameDir_wound : coil.SameDir (utf8 "d") (wound 35) :=
  ⟨[utf8 "d"], _, _, by decide +kernel, by decide +kernel, rfl⟩

/-- **Links are counted along the whole path.** The two paths name one directory, and nothing is too long
    below either of them. But the link `a.smt2` needs eleven links of the forty that may be followed for
    one path, and the second spelling leaves five of them. So its discovery finds fewer ids. -/
theorem spelling_loses_case :
    coil.SameDir (utf8 "d") (wound 35) ∧ coil.WalksWithin (utf8 "d") ∧
      coil.WalksWithin (wound 35) ∧
    ∃ here there, discover coil (utf8 "d") = .ok here ∧ discover coil (wound 35) = .ok there ∧
      here.cases.map (·.id) ≠ there.cases.map (·.id) := by
  have hroot : coil.find true (utf8 "d") = .ok coilDir := rfl
  have hwound : coil.find true (wound 35) = .ok coilDir :=
    FileTree.find_eq_ok.2 ⟨[utf8 "d"], by decide +kernel, rfl⟩
  have hwithin : coil.WalksWithin (utf8 "d") :=
    FileTree.walksWithin_of_room hroot (by decide +kernel)
  have hwithinWound : coil.WalksWithin (wound 35) :=
    FileTree.walksWithin_of_room hwound (by decide +kernel)
  have htrail : [utf8 "a.smt2"] ∈ coilDir.trails (utf8 "d") :=
    Node.cons_mem_trails.2 ⟨by decide +kernel, _, List.mem_cons_self, Or.inl rfl⟩
  have hfinds : coil.Finds (utf8 "d") [utf8 "a.smt2"] :=
    (FileTree.finds_iff hroot _).2 (List.mem_filter.2 ⟨htrail, by decide +kernel⟩)
  obtain ⟨here, there, hhere, hthere, hids⟩ :=
    sameDir_wound.ids_eq_iff hwithin hwithinWound
  refine ⟨sameDir_wound, hwithin, hwithinWound, here, there, hhere, hthere, ?_⟩
  intro heq
  exact (hids.1 heq).1 _ hfinds (by decide +kernel)

end GoldenRun
