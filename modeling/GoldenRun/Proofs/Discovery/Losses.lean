import GoldenRun.Proofs.Discovery.Trails
import GoldenRun.Proofs.Files.Resolution

/-!
# What a walk loses

A directory that cannot be listed is noticed once, when the walk comes to it, and what is below it is lost.
Which directories these are is said with locations, as the trails say it of all that is visited: the path of
such a directory may be too long to be looked up at all.

* `Node.Shut`: at the location there is a directory that cannot be listed, for the given cause;
* `Node.losses`: the shut directories of a walk, in its order, each with its cause;
* `skippedEvent`: what is logged about one.

Main statements: `filterMap_event?`, a walk logs one event for each loss and nothing else; `mem_losses_iff`
and `losses_increasing`, the losses are the shut directories that the walk comes to, once each and in the
strict order of their names.
-/

namespace GoldenRun

/-! ## 1. Shut directories -/

namespace Node

/-- The names lead from the directory at `path` to a directory that cannot be listed under its path. -/
def Shut (node : Node) (path : Bytes) (names : Location) (cause : Errno) : Prop :=
  ∃ attributes es, node.at? names = some (.dir attributes es) ∧
    if FileTree.maxPath < (Path.below path names).length then cause = .nameTooLong
    else attributes.listable = false ∧ cause = .accessDenied

/-- Why the directory at the location cannot be listed, if there is one and it cannot. -/
def fault? (node : Node) (path : Bytes) (names : Location) : Option Errno :=
  match node.at? names with
  | some (.dir attributes _) => listingFault? (Path.below path names) attributes.listable
  | _ => none

/-- The shut directories of a walk below the directory at `path`, that one included. -/
def losses (path : Bytes) (node : Node) : List (Location × Errno) :=
  ([] :: node.trails path).filterMap fun names => (node.fault? path names).map (names, ·)

theorem listingFault?_eq_some_iff {path : Bytes} {listable : Bool} {cause : Errno} :
    listingFault? path listable = some cause ↔
      if FileTree.maxPath < path.length then cause = .nameTooLong
      else listable = false ∧ cause = .accessDenied := by
  unfold listingFault?
  by_cases hlong : FileTree.maxPath < path.length
  · rw [if_pos hlong, if_pos hlong, Option.some.injEq, eq_comm]
  · rw [if_neg hlong, if_neg hlong]
    cases listable <;> simp [eq_comm]

theorem fault?_eq_some_iff {node : Node} {path : Bytes} {names : Location} {cause : Errno} :
    node.fault? path names = some cause ↔ node.Shut path names cause := by
  unfold fault? Shut
  constructor
  · intro h
    split at h
    · rename_i attributes es hat
      exact ⟨attributes, es, hat, listingFault?_eq_some_iff.1 h⟩
    · cases h
  · rintro ⟨attributes, es, hat, hcause⟩
    rw [hat]
    exact listingFault?_eq_some_iff.2 hcause

section Directory

variable {path : Bytes} {attributes : Attributes} {es : List (Bytes × Node)}

theorem fault?_nil :
    (Node.dir attributes es).fault? path [] = listingFault? path attributes.listable := rfl

theorem fault?_cons {name : Bytes} {child : Node} (h : es.lookup name = some child)
    (names : Location) :
    (Node.dir attributes es).fault? path (name :: names) =
      child.fault? (Path.child path name) names := by
  unfold fault?
  rw [at?_cons_of_lookup h, Path.below_cons]

end Directory

/-! ## 2. Which they are -/

/-- **Which directories are lost**: those that are shut, if all on the way can be listed. -/
theorem mem_losses_iff {node : Node} (hnode : node.Distinct) (path : Bytes) (names : Location)
    (cause : Errno) :
    (names, cause) ∈ node.losses path ↔
      node.Shut path names cause ∧ ∀ i < names.length, node.Opens path (names.take i) := by
  have hmem : (names, cause) ∈ node.losses path ↔
      (names = [] ∨ names ∈ node.trails path) ∧ node.fault? path names = some cause := by
    simp only [losses, List.mem_filterMap, List.mem_cons, Option.map_eq_some_iff, Prod.mk.injEq]
    exact ⟨fun ⟨_, hmem, _, hfault, hn, hc⟩ => hn ▸ hc ▸ ⟨hmem, hfault⟩,
      fun ⟨hmem, hfault⟩ => ⟨names, hmem, cause, hfault, rfl, rfl⟩⟩
  rw [hmem, fault?_eq_some_iff, mem_trails_iff hnode]
  constructor
  · rintro ⟨rfl | ⟨-, -, hway⟩, hshut⟩
    · exact ⟨hshut, by simp⟩
    · exact ⟨hshut, hway⟩
  · rintro ⟨hshut, hway⟩
    obtain ⟨_, _, hat, -⟩ := id hshut
    refine ⟨?_, hshut⟩
    by_cases hne : names = []
    · exact Or.inl hne
    · exact Or.inr ⟨hne, ⟨_, hat⟩, hway⟩

/-- **The order of losses.** They are strictly increasing, so no directory is lost twice. -/
theorem losses_increasing {node : Node} (hnode : node.Distinct) (path : Bytes) :
    (node.losses path).Pairwise fun a b => a.1 < b.1 := by
  have htrails : ([] :: node.trails path).Pairwise (· < ·) := by
    refine List.pairwise_cons.2 ⟨?_, trails_increasing path node hnode⟩
    intro names hnames
    cases names with
    | nil => exact absurd hnames (nil_not_mem_trails node path)
    | cons name names => exact List.nil_lt_cons name names
  refine htrails.filterMap _ ?_
  intro a b hlt x hx y hy
  obtain ⟨_, -, rfl⟩ := Option.map_eq_some_iff.1 hx
  obtain ⟨_, -, rfl⟩ := Option.map_eq_some_iff.1 hy
  exact hlt

end Node

/-! ## 3. What is logged about them -/

/-- What is logged about a directory that cannot be listed. -/
def skippedEvent (path : Bytes) (cause : Errno) : Event :=
  { level := .warn, origin := .discovery,
    message := "skipping unreadable entry: IO error for operation on " ++ path.lossy ++ ": " ++
      (IoError.os cause).message }

namespace Node

theorem entryVisits_eq (path : Bytes) (es : List (Bytes × Node)) :
    entryVisits path es = es.map fun e =>
      (e.1, .entry (Path.child path e.1) e.1 :: e.2.visits (Path.child path e.1)) := by
  induction es with
  | nil => rw [entryVisits, List.map_nil]
  | cons e es ih => rw [entryVisits, List.map_cons, ih]

theorem entryTrails_eq (path : Bytes) (es : List (Bytes × Node)) :
    entryTrails path es = es.map fun e =>
      (e.1, ([] :: e.2.trails (Path.child path e.1)).map (e.1 :: ·)) := by
  induction es with
  | nil => rw [entryTrails, List.map_nil]
  | cons e es ih => rw [entryTrails, List.map_cons, ih, List.map_cons]

/-- What is logged about the directory at a location, if it is shut. -/
def notice? (node : Node) (path : Bytes) (names : Location) : Option Event :=
  (node.fault? path names).map (skippedEvent (Path.below path names))

theorem map_losses (node : Node) (path : Bytes) :
    (node.losses path).map (fun loss => skippedEvent (Path.below path loss.1) loss.2) =
      ([] :: node.trails path).filterMap (node.notice? path) := by
  unfold losses notice?
  rw [List.map_filterMap]
  simp only [Option.map_map, Function.comp_def]

/-- Without a fault of its own, a directory loses what its entries lose, entry after entry. -/
theorem map_losses_dir {path : Bytes} {attributes : Attributes} {es : List (Bytes × Node)}
    (hfault : listingFault? path attributes.listable = none) (hes : (es.map Prod.fst).Nodup) :
    ((Node.dir attributes es).losses path).map
        (fun loss => skippedEvent (Path.below path loss.1) loss.2) =
      inNameOrder (es.map fun e => (e.1, (e.2.losses (Path.child path e.1)).map fun loss =>
        skippedEvent (Path.below (Path.child path e.1) loss.1) loss.2)) := by
  have hroot : (Node.dir attributes es).notice? path [] = none := by
    rw [notice?, fault?_nil, hfault, Option.map_none]
  rw [map_losses, List.filterMap_cons_none hroot, trails_dir hfault, filterMap_inNameOrder,
    entryTrails_eq, List.map_map]
  refine congrArg inNameOrder (List.map_congr_left fun e he => ?_)
  have hlookup : es.lookup e.1 = some e.2 := lookup_of_mem hes he
  have hbelow : ∀ names, (Node.dir attributes es).notice? path (e.1 :: names) =
      e.2.notice? (Path.child path e.1) names := by
    intro names
    rw [notice?, fault?_cons hlookup, Path.below_cons, notice?]
  rw [Function.comp_apply, List.filterMap_map, map_losses]
  simp only [Function.comp_def, hbelow]

mutual

/-- **A walk logs its losses**: one event for each, in their order, and nothing else. -/
theorem filterMap_event? (path : Bytes) :
    ∀ node : Node, node.Distinct →
      (node.visits path).filterMap Visit.event? =
        (node.losses path).map fun loss => skippedEvent (Path.below path loss.1) loss.2
  | .dir attributes es, h => by
      cases hfault : listingFault? path attributes.listable with
      | some cause =>
          have htrails : (Node.dir attributes es).trails path = [] := trails_unlisted hfault
          have hroot : (Node.dir attributes es).fault? path [] = some cause := hfault
          rw [map_losses, htrails, visits, hfault]
          simp [notice?, hroot, Visit.event?, skippedEvent]
      | none =>
          have hentries := entries_event? path es h.2
          rw [map_losses_dir hfault h.1, visits, hfault]
          show (inNameOrder (entryVisits path es)).filterMap _ = _
          rw [filterMap_inNameOrder, entryVisits_eq, List.map_map]
          refine congrArg inNameOrder (List.map_congr_left fun e he => ?_)
          rw [← hentries e he]
          rfl
  | .file _ _, _ => by simp [visits, losses, trails, fault?]
  | .link _, _ => by simp [visits, losses, trails, fault?]
  | .pipe, _ => by simp [visits, losses, trails, fault?]
  | .device _, _ => by simp [visits, losses, trails, fault?]

/-- The same below each entry. -/
theorem entries_event? (path : Bytes) :
    ∀ es : List (Bytes × Node), DistinctEntries es → ∀ e ∈ es,
      (e.2.visits (Path.child path e.1)).filterMap Visit.event? =
        (e.2.losses (Path.child path e.1)).map fun loss =>
          skippedEvent (Path.below (Path.child path e.1) loss.1) loss.2
  | [], _, e, he => by cases he
  | (name, node) :: es, h, e, he => by
      rcases List.mem_cons.1 he with rfl | he
      · exact filterMap_event? (Path.child path name) node h.1
      · exact entries_event? path es h.2 e he

end

end Node

/-! ## 4. What discovery logs -/

/-- Every node that a path names has distinct names. -/
theorem FileTree.distinct_of_find {tree : FileTree} {path : Bytes}
    {followLast : Bool} {node : Node} (hfind : tree.find followLast path = .ok node) :
    node.Distinct := by
  obtain ⟨location, -, hat⟩ := FileTree.find_eq_ok.1 hfind
  exact tree.wellFormed.distinct.at? hat

/-- **Discovery logs the losses of its walk**, and then how many cases it found. -/
theorem discover_logs {tree : FileTree} {root : Bytes} {node : Node}
    (hroot : tree.find true root = .ok node) {finding : Finding}
    (hfinding : discover tree root = .ok finding) :
    finding.events =
      ((node.losses root).map (fun loss => skippedEvent (Path.below root loss.1) loss.2) ++
        [discoveredEvent finding.cases]).map (·.within (.discovery root)) := by
  have hdir := isDir_of_discover hfinding
  have hvisits : tree.visits root = node.visits root := by
    rw [FileTree.visits, hroot]
  rw [discover, if_pos hdir, Except.ok.injEq] at hfinding
  rw [← hfinding, hvisits, Node.filterMap_event? root node (FileTree.distinct_of_find hroot)]

end GoldenRun
