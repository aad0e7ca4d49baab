import GoldenRun.Event
import GoldenRun.Files.Tree
import GoldenRun.TestCase

/-!
# Discovery of test cases

The test cases are the files below the tests directory whose names end in `.smt2`. Discovery *walks* the
directory: every entry is visited before what is below it, and the entries of one directory in the order
of their names. So the cases come in the order of their paths, compared name by name.

* The walk goes down into directories, not into links to directories; the tests directory itself may be
  a link.
* A directory that cannot be listed loses what is below it and nothing else; the loss is logged.
* A visited entry is a case if its path, with links followed, names a regular file.
-/

namespace GoldenRun

/-! ## 1. The walk -/

/-- What a walk meets. -/
inductive Visit where
  /-- An entry, with its path and its name. -/
  | entry (path name : Bytes)
  /-- A directory that could not be listed. -/
  | unlisted (path : Bytes) (cause : Errno)
  deriving DecidableEq, Repr

/-- Why the directory at the path cannot be listed, if it cannot. -/
def listingFault? (path : Bytes) (listable : Bool) : Option Errno :=
  if FileTree.maxPath < path.length then some .nameTooLong
  else if listable then none
  else some .accessDenied

/-- Groups one after the other, in the order of the names in front of them. -/
def inNameOrder {α : Type} (groups : List (Bytes × List α)) : List α :=
  (groups.mergeSort fun a b => Bytes.atMost a.1 b.1).flatMap Prod.snd

/-- Groups that stand in the order of their names stay where they are. -/
theorem inNameOrder_of_sorted {α : Type} {groups : List (Bytes × List α)}
    (h : groups.Pairwise fun a b => Bytes.atMost a.1 b.1 = true) :
    inNameOrder groups = groups.flatMap Prod.snd := by
  rw [inNameOrder, List.mergeSort_of_pairwise h]

namespace Node

mutual

/-- The walk below the directory at `path`; below anything else there is nothing. -/
def visits (path : Bytes) : Node → List Visit
  | .dir attributes entries =>
    match listingFault? path attributes.listable with
    | some cause => [.unlisted path cause]
    | none => inNameOrder (entryVisits path entries)
  | _ => []

/-- For each entry of the directory at `path`, its name, its visit and the walk below it. -/
def entryVisits (path : Bytes) : List (Bytes × Node) → List (Bytes × List Visit)
  | [] => []
  | (name, node) :: rest =>
    let here := Path.child path name
    (name, .entry here name :: node.visits here) :: entryVisits path rest

end

end Node

/-- The walk below a path that names a directory, links followed. -/
def FileTree.visits (tree : FileTree) (path : Bytes) : List Visit :=
  match tree.find true path with
  | .ok node => node.visits path
  | .error _ => []

/-! ## 2. Cases -/

/-- The case that a visit finds. -/
def Visit.case? (tree : FileTree) (root : Bytes) : Visit → Option TestCase
  | .entry path name =>
    if isInputName name && tree.isFile path then some (.below root path) else none
  | .unlisted _ _ => none

/-- What is logged about a visit. -/
def Visit.event? : Visit → Option Event
  | .entry _ _ => none
  | .unlisted path cause =>
    some {
      level := .warn
      origin := .discovery
      message := "skipping unreadable entry: IO error for operation on " ++ path.lossy ++ ": " ++
        (IoError.os cause).message }

/-- What discovery finds, and what it logs. -/
structure Finding where
  cases : List TestCase
  events : List Event
  deriving DecidableEq, Repr

/-- What is logged at the end of a discovery. -/
def discoveredEvent (cases : List TestCase) : Event :=
  { level := .debug, origin := .discovery, message := "discovered test cases",
    fields := [("count", .ofNat cases.length)] }

/-- The cases below `root`, if it is a directory. -/
def discover (tree : FileTree) (root : Bytes) : Except RunError Finding :=
  if tree.isDir root then
    let visits := tree.visits root
    let cases := visits.filterMap (·.case? tree root)
    let events := visits.filterMap Visit.event? ++ [discoveredEvent cases]
    .ok { cases, events := events.map (·.within (.discovery root)) }
  else .error (.testsDirNotFound root)

/-- Without a directory there is one failure. -/
theorem discover_of_not_isDir {tree : FileTree} {root : Bytes} (h : tree.isDir root = false) :
    discover tree root = .error (.testsDirNotFound root) := by
  simp [discover, h]

/-- In a directory the cases are those that its walk visits. -/
theorem discover_of_isDir {tree : FileTree} {root : Bytes} (h : tree.isDir root = true) :
    ∃ finding, discover tree root = .ok finding ∧
      finding.cases = (tree.visits root).filterMap (·.case? tree root) :=
  ⟨_, if_pos h, rfl⟩

/-- Only in a directory is there anything to be found. -/
theorem isDir_of_discover {tree : FileTree} {root : Bytes} {finding : Finding}
    (h : discover tree root = .ok finding) : tree.isDir root = true := by
  cases hdir : tree.isDir root with
  | true => rfl
  | false =>
    rw [discover_of_not_isDir hdir] at h
    cases h

end GoldenRun
