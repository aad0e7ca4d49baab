import GoldenRun.Discovery
import GoldenRun.Proofs.Files.WellFormed

/-!
# Trails of a walk

A walk visits an entry under a path, but what decides its place in the walk is the list of names that
leads to it. These lists are the *trails*: the walk again, with nothing but the names.

* `Node.trails`: the trails of a walk, in its order;
* `Node.Opens`: the directory at a location can be listed under its path.

Main statements: `mem_trails_iff`, a trail leads to a node through directories that can be listed, and
all such lists are trails; `trails_increasing`, trails are strictly increasing, name by name;
`filterMap_entry?`, a walk visits the entries along its trails; `cases_of_discover`, and discovery finds the
cases among them.
-/

namespace GoldenRun

/-! ## 1. Groups in the order of names -/

section Groups

variable {α β : Type} {groups : List (Bytes × List α)}

theorem mem_inNameOrder {x : α} : x ∈ inNameOrder groups ↔ ∃ group ∈ groups, x ∈ group.2 := by
  unfold inNameOrder
  rw [List.mem_flatMap]
  simp only [List.mem_mergeSort]

/-- What is kept of the groups does not change their order. -/
theorem filterMap_inNameOrder (f : α → Option β) (groups : List (Bytes × List α)) :
    (inNameOrder groups).filterMap f =
      inNameOrder (groups.map fun group => (group.1, group.2.filterMap f)) := by
  have hsort := List.map_mergeSort (l := groups) (r := fun a b => Bytes.atMost a.1 b.1)
    (s := fun a b => Bytes.atMost a.1 b.1) (f := fun group => (group.1, group.2.filterMap f))
    fun _ _ _ _ => rfl
  unfold inNameOrder
  rw [List.filterMap_flatMap, ← hsort, List.flatMap_map]

/-- Sorted by distinct names, the groups stand in the strict order of these. -/
theorem pairwise_sorted (hnodup : (groups.map Prod.fst).Nodup) :
    (groups.mergeSort fun a b => Bytes.atMost a.1 b.1).Pairwise fun a b => a.1 < b.1 := by
  have hperm := List.mergeSort_perm groups fun a b => Bytes.atMost a.1 b.1
  have hdistinct : (groups.mergeSort fun a b => Bytes.atMost a.1 b.1).Pairwise
      fun a b => a.1 ≠ b.1 :=
    List.pairwise_map.1 ((hperm.map Prod.fst).nodup_iff.2 hnodup)
  have htrans : ∀ a b c : Bytes × List α, Bytes.atMost a.1 b.1 = true →
      Bytes.atMost b.1 c.1 = true → Bytes.atMost a.1 c.1 = true := by
    intro a b c hab hbc
    rw [Bytes.atMost_iff_le] at hab hbc ⊢
    exact List.le_trans hab hbc
  have htotal : ∀ a b : Bytes × List α, (Bytes.atMost a.1 b.1 || Bytes.atMost b.1 a.1) = true := by
    intro a b
    rw [Bool.or_eq_true, Bytes.atMost_iff_le, Bytes.atMost_iff_le]
    exact List.le_total a.1 b.1
  have hsorted := List.pairwise_mergeSort htrans htotal groups
  refine hsorted.imp₂ ?_ hdistinct
  intro a b hle hne
  rw [Bytes.atMost_iff_le] at hle
  by_cases hlt : a.1 < b.1
  · exact hlt
  · exact absurd (List.le_antisymm hle (List.not_lt.1 hlt)) hne

/-- Groups that are increasing, each with its own name in front, make an increasing list. -/
theorem inNameOrder_increasing {groups : List (Bytes × List Location)}
    (hnodup : (groups.map Prod.fst).Nodup)
    (hheads : ∀ group ∈ groups, ∀ names ∈ group.2, names.head? = some group.1)
    (hgroups : ∀ group ∈ groups, group.2.Pairwise (· < ·)) :
    (inNameOrder groups).Pairwise (· < ·) := by
  unfold inNameOrder
  rw [List.pairwise_flatMap]
  refine ⟨fun group hgroup => hgroups group (List.mem_mergeSort.1 hgroup), ?_⟩
  refine (pairwise_sorted hnodup).imp_of_mem ?_
  intro a b ha hb hlt x hx y hy
  obtain ⟨restX, rfl⟩ := List.head?_eq_some_iff.1 (hheads a (List.mem_mergeSort.1 ha) x hx)
  obtain ⟨restY, rfl⟩ := List.head?_eq_some_iff.1 (hheads b (List.mem_mergeSort.1 hb) y hy)
  exact List.cons_lt_cons_iff.2 (Or.inl hlt)

end Groups

/-! ## 2. Trails -/

namespace Node

mutual

/-- The lists of names that lead to what a walk below the directory at `path` visits. -/
def trails (path : Bytes) : Node → List Location
  | .dir attributes es =>
    match listingFault? path attributes.listable with
    | some _ => []
    | none => inNameOrder (entryTrails path es)
  | _ => []

/-- For each entry of the directory at `path`, its name, and the trails that begin with it. -/
def entryTrails (path : Bytes) : List (Bytes × Node) → List (Bytes × List Location)
  | [] => []
  | (name, node) :: rest =>
    (name, [name] :: (node.trails (Path.child path name)).map (name :: ·)) :: entryTrails path rest

end

/-- The directory at the location, below the one at `path`, can be listed. -/
def Opens (node : Node) (path : Bytes) (location : Location) : Prop :=
  ∃ attributes es, node.at? location = some (.dir attributes es) ∧ attributes.listable = true ∧
    (Path.below path location).length ≤ FileTree.maxPath

theorem listingFault?_eq_none {path : Bytes} {listable : Bool} :
    listingFault? path listable = none ↔ listable = true ∧ path.length ≤ FileTree.maxPath := by
  unfold listingFault?
  by_cases hlong : FileTree.maxPath < path.length
  · simp [hlong]
  · rw [if_neg hlong]
    cases listable <;> simp [Nat.not_lt.1 hlong]

/-- A group holds the trails that begin with one entry. -/
theorem mem_entryTrails {path : Bytes} {es : List (Bytes × Node)} {group : Bytes × List Location} :
    group ∈ entryTrails path es ↔
      ∃ name child, (name, child) ∈ es ∧
        group = (name, [name] :: (child.trails (Path.child path name)).map (name :: ·)) := by
  induction es with
  | nil => simp [entryTrails]
  | cons e es ih =>
      obtain ⟨name, child⟩ := e
      rw [entryTrails, List.mem_cons, ih]
      constructor
      · rintro (rfl | ⟨n, c, hmem, rfl⟩)
        · exact ⟨name, child, List.mem_cons_self, rfl⟩
        · exact ⟨n, c, List.mem_cons_of_mem _ hmem, rfl⟩
      · rintro ⟨n, c, hmem, rfl⟩
        rcases List.mem_cons.1 hmem with heq | hmem
        · cases heq
          exact Or.inl rfl
        · exact Or.inr ⟨n, c, hmem, rfl⟩

theorem map_fst_entryTrails (path : Bytes) (es : List (Bytes × Node)) :
    (entryTrails path es).map Prod.fst = es.map Prod.fst := by
  induction es with
  | nil => simp [entryTrails]
  | cons e es ih => rw [entryTrails, List.map_cons, List.map_cons, ih]

section Directory

variable {path : Bytes} {attributes : Attributes} {es : List (Bytes × Node)}

theorem trails_dir (h : listingFault? path attributes.listable = none) :
    (Node.dir attributes es).trails path = inNameOrder (entryTrails path es) := by
  rw [trails, h]

theorem trails_unlisted {cause : Errno} (h : listingFault? path attributes.listable = some cause) :
    (Node.dir attributes es).trails path = [] := by
  rw [trails, h]

/-- A trail in a directory is the name of an entry, alone or before a trail below the entry. -/
theorem cons_mem_trails {name : Bytes} {rest : Location} :
    name :: rest ∈ (Node.dir attributes es).trails path ↔
      listingFault? path attributes.listable = none ∧
        ∃ child, (name, child) ∈ es ∧ (rest = [] ∨ rest ∈ child.trails (Path.child path name)) := by
  cases hfault : listingFault? path attributes.listable with
  | some cause => simp [trails_unlisted hfault]
  | none =>
      rw [trails_dir hfault, mem_inNameOrder, eq_self, true_and]
      constructor
      · rintro ⟨group, hgroup, hmem⟩
        obtain ⟨n, child, he, rfl⟩ := mem_entryTrails.1 hgroup
        rcases List.mem_cons.1 hmem with heq | hmem
        · cases heq
          exact ⟨child, he, Or.inl rfl⟩
        · obtain ⟨_, hrest, heq⟩ := List.mem_map.1 hmem
          cases heq
          exact ⟨child, he, Or.inr hrest⟩
      · rintro ⟨child, he, hrest⟩
        refine ⟨_, mem_entryTrails.2 ⟨name, child, he, rfl⟩, ?_⟩
        rcases hrest with rfl | hrest
        · exact List.mem_cons_self
        · exact List.mem_cons_of_mem _ (List.mem_map_of_mem hrest)

theorem nil_not_mem_trails (node : Node) (path : Bytes) : [] ∉ node.trails path := by
  cases node with
  | dir attributes es =>
      cases hfault : listingFault? path attributes.listable with
      | some cause => simp [trails_unlisted hfault]
      | none =>
          rw [trails_dir hfault, mem_inNameOrder]
          rintro ⟨group, hgroup, hmem⟩
          obtain ⟨_, _, _, rfl⟩ := mem_entryTrails.1 hgroup
          simp at hmem
  | _ => simp [trails]

theorem opens_nil :
    (Node.dir attributes es).Opens path [] ↔ listingFault? path attributes.listable = none := by
  rw [listingFault?_eq_none]
  simp [Opens]

theorem opens_cons {name : Bytes} {child : Node} (h : es.lookup name = some child)
    (location : Location) :
    (Node.dir attributes es).Opens path (name :: location) ↔
      child.Opens (Path.child path name) location := by
  unfold Opens
  rw [at?_cons_of_lookup h, Path.below_cons]

end Directory

/-- **Where trails lead.** The trails of a walk are the lists of names that lead to a node, over
    directories that can all be listed. -/
theorem mem_trails_iff {node : Node} (hnode : node.Distinct) (path : Bytes) (names : Location) :
    names ∈ node.trails path ↔
      names ≠ [] ∧ (∃ found, node.at? names = some found) ∧
        ∀ i < names.length, node.Opens path (names.take i) := by
  induction names generalizing node path with
  | nil => simp [nil_not_mem_trails]
  | cons name rest ih =>
      cases node with
      | dir attributes es =>
          rw [cons_mem_trails]
          constructor
          · rintro ⟨hfault, child, he, hrest⟩
            have hlookup := lookup_of_mem hnode.1 he
            have hchild := ih (distinct_of_mem hnode.2 he) (Path.child path name)
            have hbelow : (∃ found, child.at? rest = some found) ∧
                ∀ i < rest.length, child.Opens (Path.child path name) (rest.take i) := by
              rcases hrest with rfl | hrest
              · exact ⟨⟨child, rfl⟩, by simp⟩
              · exact (hchild.1 hrest).2
            refine ⟨List.cons_ne_nil _ _, ?_, ?_⟩
            · rw [at?_cons_of_lookup hlookup]
              exact hbelow.1
            · intro i hi
              cases i with
              | zero => exact opens_nil.2 hfault
              | succ i =>
                  exact (opens_cons hlookup _).2 (hbelow.2 i (Nat.lt_of_succ_lt_succ hi))
          · rintro ⟨-, ⟨found, hfound⟩, hopens⟩
            rw [at?_cons] at hfound
            obtain ⟨child, hlookup, hfound⟩ := Option.bind_eq_some_iff.1 hfound
            have hlookup : es.lookup name = some child := hlookup
            have he := mem_of_lookup hlookup
            refine ⟨opens_nil.1 (hopens 0 (Nat.succ_pos _)), child, he, ?_⟩
            by_cases hrest : rest = []
            · exact Or.inl hrest
            · refine Or.inr ((ih (distinct_of_mem hnode.2 he) _).2 ⟨hrest, ⟨found, hfound⟩, ?_⟩)
              intro i hi
              exact (opens_cons hlookup _).1 (hopens (i + 1) (Nat.succ_lt_succ hi))
      | _ =>
          refine iff_of_false (by simp [trails]) ?_
          rintro ⟨-, -, hopens⟩
          obtain ⟨_, _, hdir, -⟩ := hopens 0 (Nat.succ_pos _)
          cases hdir

/-! ## 3. The order of trails -/

theorem head?_of_mem_entryTrails {path : Bytes} {es : List (Bytes × Node)}
    {group : Bytes × List Location} (h : group ∈ entryTrails path es) {names : Location}
    (hnames : names ∈ group.2) : names.head? = some group.1 := by
  obtain ⟨name, child, -, rfl⟩ := mem_entryTrails.1 h
  rcases List.mem_cons.1 hnames with rfl | hmem
  · rfl
  · obtain ⟨_, -, rfl⟩ := List.mem_map.1 hmem
    rfl

mutual

/-- **The order of trails.** They are strictly increasing, compared name by name. -/
theorem trails_increasing (path : Bytes) :
    ∀ node : Node, node.Distinct → (node.trails path).Pairwise (· < ·)
  | .dir attributes es, h => by
      cases hfault : listingFault? path attributes.listable with
      | some cause => rw [trails_unlisted hfault]; exact List.Pairwise.nil
      | none =>
          rw [trails_dir hfault]
          refine inNameOrder_increasing ?_ (fun _ hgroup _ => head?_of_mem_entryTrails hgroup)
            (entryTrails_increasing path es h.2)
          rw [map_fst_entryTrails]
          exact h.1
  | .file _ _, _ => by simp [trails]
  | .link _, _ => by simp [trails]
  | .pipe, _ => by simp [trails]
  | .device _, _ => by simp [trails]

/-- An entry comes before what is below it, and that is increasing. -/
theorem entryTrails_increasing (path : Bytes) :
    ∀ es : List (Bytes × Node), DistinctEntries es →
      ∀ group ∈ entryTrails path es, group.2.Pairwise (· < ·)
  | [], _, group, hgroup => by simp [entryTrails] at hgroup
  | (name, node) :: es, h, group, hgroup => by
      rw [entryTrails, List.mem_cons] at hgroup
      rcases hgroup with rfl | hgroup
      · have hbelow := trails_increasing (Path.child path name) node h.1
        refine List.pairwise_cons.2 ⟨?_, List.pairwise_map.2 (hbelow.imp ?_)⟩
        · intro names hnames
          obtain ⟨rest, hrest, rfl⟩ := List.mem_map.1 hnames
          cases rest with
          | nil => exact absurd hrest (nil_not_mem_trails node _)
          | cons first rest => exact List.cons_lt_cons_iff.2 (Or.inr ⟨rfl, List.nil_lt_cons _ _⟩)
        · exact fun hlt => List.cons_lt_cons_iff.2 (Or.inr ⟨rfl, hlt⟩)
      · exact entryTrails_increasing path es h.2 group hgroup

end

end Node

/-- Trails are made of names. -/
theorem FileTree.isName_of_trail {tree : FileTree} {location : Location} {node : Node}
    (hat : tree.root.at? location = some node) {path : Bytes} {names : Location}
    (htrail : names ∈ node.trails path) : names ≠ [] ∧ ∀ name ∈ names, Path.IsName name := by
  obtain ⟨hne, hfound, -⟩ := (Node.mem_trails_iff (tree.wellFormed.distinct.at? hat) path names).1 htrail
  exact ⟨hne, (tree.wellFormed.named.at? hat).isName_of_at? hfound⟩

/-! ## 4. Entries along trails -/

/-- The path and the name of a visited entry. -/
def Visit.entry? : Visit → Option (Bytes × Bytes)
  | .entry path name => some (path, name)
  | .unlisted _ _ => none

/-- The entry at the end of a trail below the directory at `path`. -/
def entryAlong? (path : Bytes) (names : Location) : Option (Bytes × Bytes) :=
  names.getLast?.map fun name => (Path.below path names, name)

/-- One name further down. -/
theorem entryAlong?_cons {path name : Bytes} {names : Location} (h : names ≠ []) :
    entryAlong? path (name :: names) = entryAlong? (Path.child path name) names := by
  unfold entryAlong?
  rw [List.getLast?_cons_of_ne_nil h, Path.below_cons]

namespace Node

mutual

/-- **A walk follows its trails.** The entries that it visits are those along the trails, in the same
    order. -/
theorem filterMap_entry? (path : Bytes) :
    ∀ node : Node,
      (node.visits path).filterMap Visit.entry? = (node.trails path).filterMap (entryAlong? path)
  | .dir attributes es => by
      rw [visits, trails]
      cases listingFault? path attributes.listable with
      | some cause => rfl
      | none =>
          show (inNameOrder (entryVisits path es)).filterMap _ =
            (inNameOrder (entryTrails path es)).filterMap _
          rw [filterMap_inNameOrder, filterMap_inNameOrder, map_entryVisits path es]
  | .file _ _ => by simp [visits, trails]
  | .link _ => by simp [visits, trails]
  | .pipe => by simp [visits, trails]
  | .device _ => by simp [visits, trails]

/-- The same for each entry. -/
theorem map_entryVisits (path : Bytes) :
    ∀ es : List (Bytes × Node),
      (entryVisits path es).map (fun group => (group.1, group.2.filterMap Visit.entry?)) =
        (entryTrails path es).map fun group => (group.1, group.2.filterMap (entryAlong? path))
  | [] => by simp [entryVisits, entryTrails]
  | (name, node) :: es => by
      have hbelow := filterMap_entry? (Path.child path name) node
      have halong : ∀ names ∈ node.trails (Path.child path name),
          entryAlong? path (name :: names) = entryAlong? (Path.child path name) names := by
        intro names hnames
        exact entryAlong?_cons fun hnil => nil_not_mem_trails node _ (hnil ▸ hnames)
      have hentries : (node.trails (Path.child path name)).filterMap (entryAlong? path ∘ (name :: ·)) =
          (node.trails (Path.child path name)).filterMap (entryAlong? (Path.child path name)) := by
        have hmapped := congrArg (List.filterMap id) (List.map_congr_left halong)
        rw [List.filterMap_map, List.filterMap_map] at hmapped
        exact hmapped
      have hhere : Visit.entry? (.entry (Path.child path name) name) =
          entryAlong? path [name] := rfl
      rw [entryVisits, entryTrails, List.map_cons, List.map_cons, map_entryVisits path es,
        List.filterMap_cons, List.filterMap_cons, List.filterMap_map, hhere, hbelow, hentries]

end

/-- What a trail leads to is visited. -/
theorem exists_visit_of_trail {path : Bytes} {node : Node} {names : Location}
    (h : names ∈ node.trails path) :
    ∃ name, Visit.entry (Path.below path names) name ∈ node.visits path := by
  obtain ⟨name, hlast⟩ : ∃ name, names.getLast? = some name := by
    cases hlast : names.getLast? with
    | none => exact absurd (List.getLast?_eq_none_iff.1 hlast ▸ h) (nil_not_mem_trails node path)
    | some name => exact ⟨name, rfl⟩
  have hentry : (Path.below path names, name) ∈ (node.trails path).filterMap (entryAlong? path) :=
    List.mem_filterMap.2 ⟨names, h, by rw [entryAlong?, hlast, Option.map_some]⟩
  rw [← filterMap_entry?] at hentry
  obtain ⟨visit, hvisit, hpair⟩ := List.mem_filterMap.1 hentry
  refine ⟨name, ?_⟩
  cases visit with
  | entry path name =>
      cases hpair
      exact hvisit
  | unlisted => cases hpair

end Node

/-! ## 5. Cases along trails -/

/-- The case of an entry, if it is called like an input and names a regular file. -/
def entryCase? (tree : FileTree) (root : Bytes) (entry : Bytes × Bytes) : Option TestCase :=
  if isInputName entry.2 && tree.isFile entry.1 then some (.below root entry.1) else none

/-- The names lead from the directory at `path` to a regular file that is called like an input. -/
def endsAtInput (tree : FileTree) (path : Bytes) (names : Location) : Bool :=
  names.getLast?.any isInputName && tree.isFile (Path.below path names)

/-- The case at the end of a trail below the directory at `path`, if it is one. -/
def caseAlong? (tree : FileTree) (root path : Bytes) (names : Location) : Option TestCase :=
  if endsAtInput tree path names then some (.below root (Path.below path names)) else none

theorem Visit.case?_eq (tree : FileTree) (root : Bytes) (visit : Visit) :
    visit.case? tree root = visit.entry?.bind (entryCase? tree root) := by
  cases visit <;> rfl

theorem caseAlong?_eq (tree : FileTree) (root path : Bytes) (names : Location) :
    caseAlong? tree root path names = (entryAlong? path names).bind (entryCase? tree root) := by
  unfold caseAlong? endsAtInput entryAlong?
  cases names.getLast? <;> rfl

/-- The cases along a list of trails are those of the trails that end at an input. -/
theorem filterMap_caseAlong? (tree : FileTree) (root path : Bytes) (trails : List Location) :
    trails.filterMap (caseAlong? tree root path) =
      (trails.filter (endsAtInput tree path)).map
        fun names => .below root (Path.below path names) := by
  rw [← List.filterMap_eq_map, List.filterMap_filter]
  rfl

/-- The cases of what a walk visits are those along the trails, in the same order. -/
theorem Node.filterMap_visits (tree : FileTree) (root path : Bytes) (node : Node) :
    (node.visits path).filterMap (·.case? tree root) =
      (node.trails path).filterMap (caseAlong? tree root path) := by
  have hentries := congrArg (List.filterMap (entryCase? tree root)) (node.filterMap_entry? path)
  have halong : caseAlong? tree root path = fun names => (entryAlong? path names).bind _ :=
    funext (caseAlong?_eq tree root path)
  rw [List.filterMap_filterMap, List.filterMap_filterMap] at hentries
  simp only [Visit.case?_eq, halong]
  exact hentries

/-- **The cases of a discovery** are those at the ends of the trails below its root. -/
theorem cases_of_discover {tree : FileTree} {root : Bytes} {node : Node}
    (hroot : tree.find true root = .ok node) {finding : Finding}
    (hfinding : discover tree root = .ok finding) :
    finding.cases = ((node.trails root).filter (endsAtInput tree root)).map
      fun names => .below root (Path.below root names) := by
  have hvisits : tree.visits root = node.visits root := by
    rw [FileTree.visits, hroot]
  obtain ⟨other, hother, hcases⟩ := discover_of_isDir (isDir_of_discover hfinding)
  cases hfinding.symm.trans hother
  rw [hcases, hvisits, Node.filterMap_visits, filterMap_caseAlong?]

end GoldenRun
