import GoldenRun.Discovery
import GoldenRun.Proofs.Files.Receiving

/-!
# Trees without their times

Time passes while commands run: the clock goes on, and what is written bears its time. Who does not look
at times sees the *timeless* tree, in which all of them are 0. Paths lead to the same places in it, the
same is read, and the same cases are found.

* `Node.timeless`, `FileTree.timeless`: all times set to 0, nothing else changed;
* `FileTree.seen`: the tree itself for one who looks at times, and the timeless tree for one who does not.

Main statements: `read_seen`, `isFile_seen`, `isDir_seen` and `discover_seen`, what the harness learns from a
tree does not depend on its times; `seen_receive`, what is written is written whatever the time.
-/

namespace GoldenRun

/-- The attributes without a time. -/
def Attributes.timeless (attributes : Attributes) : Attributes :=
  { attributes with modified := 0 }

namespace Node

/-! ## 1. Nodes -/

mutual

/-- The node with all times at and below it set to 0. -/
def timeless : Node → Node
  | .file attributes content => .file attributes.timeless content
  | .dir attributes es => .dir attributes.timeless (timelessEntries es)
  | .link target => .link target
  | .pipe => .pipe
  | .device kind => .device kind

/-- The same for the entries of a directory. -/
def timelessEntries : List (Bytes × Node) → List (Bytes × Node)
  | [] => []
  | (name, node) :: es => (name, node.timeless) :: timelessEntries es

end

section Entries

variable (es : List (Bytes × Node))

theorem timelessEntries_eq_map : timelessEntries es = es.map fun e => (e.1, e.2.timeless) := by
  induction es with
  | nil => rfl
  | cons e es ih => rw [timelessEntries, ih, List.map_cons]

theorem lookup_timelessEntries (name : Bytes) :
    (timelessEntries es).lookup name = (es.lookup name).map timeless := by
  induction es with
  | nil => rfl
  | cons e es ih =>
      obtain ⟨first, node⟩ := e
      rw [timelessEntries, List.lookup_cons, List.lookup_cons]
      cases name == first
      · exact ih
      · rfl

theorem map_fst_timelessEntries : (timelessEntries es).map Prod.fst = es.map Prod.fst := by
  rw [timelessEntries_eq_map, List.map_map]
  rfl

theorem timelessEntries_assignEntry (name : Bytes) (new : Option Node) :
    timelessEntries (assignEntry es name new) =
      assignEntry (timelessEntries es) name (new.map timeless) := by
  rw [timelessEntries_eq_map, timelessEntries_eq_map]
  cases new with
  | none =>
      rw [assignEntry, Option.map_none, assignEntry, List.filter_map]
      rfl
  | some node =>
      rw [assignEntry, Option.map_some, assignEntry, List.any_map]
      simp only [Function.comp_def]
      split
      · rw [List.map_map, List.map_map]
        refine List.map_congr_left fun e _ => ?_
        simp only [Function.comp_def]
        split <;> rfl
      · rw [List.map_append]
        rfl

end Entries

/-- A node and its timeless form have the same places. -/
theorem at?_timeless (node : Node) (location : Location) :
    node.timeless.at? location = (node.at? location).map timeless := by
  induction location generalizing node with
  | nil => rfl
  | cons name rest ih =>
      rw [at?_cons, at?_cons]
      cases node with
      | dir attributes es =>
          have hentry : Node.entry? (Node.dir attributes es).timeless name =
              ( Node.entry? (.dir attributes es) name).map timeless := lookup_timelessEntries es name
          rw [hentry]
          cases Node.entry? (.dir attributes es) name with
          | none => rfl
          | some child => exact ih child
      | _ => rfl

/-- A change at a place is one of the timeless form. -/
theorem timeless_assign (node : Node) (new : Option Node) (location : Location) :
    (node.assign new location).timeless = node.timeless.assign (new.map timeless) location := by
  induction location generalizing node with
  | nil => cases new <;> rfl
  | cons name rest ih =>
      cases node with
      | dir attributes es =>
          rw [timeless, assign, assign, lookup_timelessEntries]
          split
          · rw [timeless, timelessEntries_assignEntry]
          · cases es.lookup name with
            | none => rfl
            | some child =>
                simp only [Option.map_some]
                rw [timeless, timelessEntries_assignEntry, Option.map_some, ih]
      | _ => rfl

/-! ## 2. What stays true of a node -/

mutual

theorem Distinct.timeless : {node : Node} → node.Distinct → node.timeless.Distinct
  | .dir _ es, h => ⟨map_fst_timelessEntries es ▸ h.1, DistinctEntries.timeless h.2⟩
  | .file _ _, _ | .link _, _ | .pipe, _ | .device _, _ => trivial

theorem DistinctEntries.timeless : {es : List (Bytes × Node)} → DistinctEntries es →
    DistinctEntries (timelessEntries es)
  | [], _ => trivial
  | _ :: _, h => ⟨h.1.timeless, DistinctEntries.timeless h.2⟩

end

mutual

theorem Named.timeless : {node : Node} → node.Named → node.timeless.Named
  | .dir _ _, h => NamedEntries.timeless h
  | .file _ _, _ | .link _, _ | .pipe, _ | .device _, _ => trivial

theorem NamedEntries.timeless : {es : List (Bytes × Node)} → NamedEntries es →
    NamedEntries (timelessEntries es)
  | [], _ => trivial
  | _ :: _, h => ⟨h.1, h.2.1.timeless, NamedEntries.timeless h.2.2⟩

end

mutual

theorem Plain.timeless : {node : Node} → node.Plain → node.timeless.Plain
  | .file _ _, _ => trivial
  | .dir _ _, h => PlainEntries.timeless h

theorem PlainEntries.timeless : {es : List (Bytes × Node)} → PlainEntries es →
    PlainEntries (timelessEntries es)
  | [], _ => trivial
  | _ :: _, h => ⟨h.1.timeless, PlainEntries.timeless h.2⟩

end

mutual

/-- A walk does not look at times. -/
theorem visits_timeless (path : Bytes) : (node : Node) → node.timeless.visits path = node.visits path
  | .dir attributes es => by
      rw [Node.timeless, visits, visits, entryVisits_timelessEntries path es]
      rfl
  | .file _ _ | .link _ | .pipe | .device _ => rfl

theorem entryVisits_timelessEntries (path : Bytes) : (es : List (Bytes × Node)) →
    entryVisits path (timelessEntries es) = entryVisits path es
  | [] => rfl
  | (name, node) :: es => by
      rw [timelessEntries, entryVisits, entryVisits, visits_timeless (Path.child path name) node,
        entryVisits_timelessEntries path es]

end

end Node

namespace FileTree

/-! ## 3. Trees -/

/-- The tree with its clock and all times set to 0. -/
def timeless (tree : FileTree) : FileTree :=
  { tree with
    root := tree.root.timeless
    clock := 0
    wellFormed := ⟨tree.wellFormed.distinct.timeless, tree.wellFormed.named.timeless⟩ }

/-- What one sees of the tree, who looks at times or does not. -/
def seen (times : Bool) (tree : FileTree) : FileTree :=
  if times then tree else tree.timeless

theorem walk_timeless (root : Node) (followLast : Bool)
    {follow follow' : Location → List Bytes → Except Errno Location}
    (hfollow : ∀ start segments, follow' start segments = follow start segments) (here : Location)
    (segments : List Bytes) :
    walk root.timeless followLast follow' here segments = walk root followLast follow here segments := by
  induction segments generalizing here with
  | nil => rfl
  | cons segment rest ih =>
      rw [walk, walk, Node.at?_timeless]
      cases root.at? here with
      | none => rfl
      | some node =>
          cases node with
          | dir attributes es =>
              simp only [Option.map_some, Node.timeless, Node.lookup_timelessEntries, ih]
              cases es.lookup segment with
              | none => rfl
              | some child => cases child <;> simp only [Option.map_some, Node.timeless, hfollow]
          | _ => rfl

theorem resolve_timeless (root : Node) (followLast : Bool) (links : Nat) (here : Location)
    (segments : List Bytes) :
    resolve root.timeless followLast links here segments =
      resolve root followLast links here segments := by
  induction links generalizing here segments with
  | zero => exact walk_timeless root followLast (fun _ _ => rfl) here segments
  | succ links ih => exact walk_timeless root followLast ih here segments

/-- **Paths** lead to the same places. -/
theorem locate_timeless (tree : FileTree) (followLast : Bool) (path : Bytes) :
    tree.timeless.locate followLast path = tree.locate followLast path := by
  unfold locate
  rw [timeless, resolve_timeless]

theorem find_timeless (tree : FileTree) (followLast : Bool) (path : Bytes) :
    tree.timeless.find followLast path = (tree.find followLast path).map Node.timeless := by
  unfold find
  rw [locate_timeless]
  cases tree.locate followLast path with
  | error e => rfl
  | ok location =>
      have hat : tree.timeless.at? location = (tree.at? location).map Node.timeless :=
        tree.root.at?_timeless location
      simp only [hat]
      cases tree.at? location <;> rfl

theorem timeless_assign_file (tree : FileTree) (location : Location) (attributes : Attributes)
    (content : Bytes) :
    (tree.assign location (some (.file attributes content))).timeless =
      tree.timeless.assign location (some (.file attributes.timeless content)) := by
  unfold assign
  have hwell := fun attributes => Node.wellFormed_file attributes content
  by_cases hnames : ∀ name ∈ location, Path.IsName name
  · rw [dif_pos (Node.assignable_some hnames (hwell _)), dif_pos (Node.assignable_some hnames (hwell _))]
    simp only [timeless, mk.injEq, and_true]
    exact tree.root.timeless_assign _ location
  · rw [dif_neg fun h => hnames h.1, dif_neg fun h => hnames h.1]

theorem timeless_writeAt (tree : FileTree) (location : Location) (content : Bytes) :
    tree.timeless.writeAt location content = (tree.writeAt location content).map timeless := by
  have hat : tree.timeless.at? location = (tree.at? location).map Node.timeless :=
    tree.root.at?_timeless location
  unfold writeAt
  rw [hat]
  cases tree.at? location with
  | none => exact congrArg Except.ok (tree.timeless_assign_file location tree.newFile content).symm
  | some node =>
      cases node with
      | file attributes old =>
          simp only [Option.map_some, Node.timeless]
          by_cases hmay : tree.permitsWriting attributes = true
          · have hmay' : tree.timeless.permitsWriting attributes.timeless = true := hmay
            rw [if_pos hmay, if_pos hmay']
            exact congrArg Except.ok (tree.timeless_assign_file location
              { attributes with modified := tree.clock } content).symm
          · have hmay' : ¬ tree.timeless.permitsWriting attributes.timeless = true := hmay
            rw [if_neg hmay, if_neg hmay']
            rfl
      | device device => cases device <;> rfl
      | _ => rfl

theorem timeless_receive (tree : FileTree) (path : Bytes) (content? : Option Bytes) :
    (tree.receive path content?).timeless = tree.timeless.receive path content? := by
  cases content? with
  | none => rfl
  | some content =>
      have hlocate : tree.timeless.locateFile path = tree.locateFile path := by
        unfold locateFile
        simp only [locate_timeless]
      rw [receive, receive, write, write, hlocate]
      cases tree.locateFile path with
      | error e => rfl
      | ok location =>
          simp only [timeless_writeAt]
          cases tree.writeAt location content <;> rfl

section Seen

variable (times : Bool) (tree : FileTree)

theorem seen_induction {P : FileTree → Prop} (here : P tree) (timeless : P tree.timeless) :
    P (tree.seen times) := by
  cases times with
  | true => exact here
  | false => exact timeless

/-- **The same is read**, or refused for the same reason. -/
@[simp] theorem read_seen (path : Bytes) : (tree.seen times).read path = tree.read path := by
  refine seen_induction times tree (P := fun other => other.read path = tree.read path) rfl ?_
  unfold read
  rw [find_timeless]
  cases tree.find true path with
  | error e => rfl
  | ok node => cases node <;> rfl

@[simp] theorem isFile_seen (path : Bytes) : (tree.seen times).isFile path = tree.isFile path := by
  refine seen_induction times tree (P := fun other => other.isFile path = tree.isFile path) rfl ?_
  unfold isFile
  rw [find_timeless]
  cases tree.find true path with
  | error e => rfl
  | ok node => cases node <;> rfl

@[simp] theorem isDir_seen (path : Bytes) : (tree.seen times).isDir path = tree.isDir path := by
  refine seen_induction times tree (P := fun other => other.isDir path = tree.isDir path) rfl ?_
  unfold isDir
  rw [find_timeless]
  cases tree.find true path with
  | error e => rfl
  | ok node => cases node <;> rfl

theorem visits_seen (path : Bytes) : (tree.seen times).visits path = tree.visits path := by
  refine seen_induction times tree (P := fun other => other.visits path = tree.visits path) rfl ?_
  unfold visits
  rw [find_timeless]
  cases tree.find true path with
  | error e => rfl
  | ok node => exact node.visits_timeless path

/-- **The same cases are found**, and the same is logged about it. -/
@[simp] theorem discover_seen (root : Bytes) : discover (tree.seen times) root = discover tree root := by
  have hcase : (fun visit => Visit.case? (tree.seen times) root visit) = Visit.case? tree root := by
    funext visit
    cases visit with
    | entry path name => rw [Visit.case?, Visit.case?, isFile_seen]
    | unlisted => rfl
  unfold discover
  rw [isDir_seen, visits_seen, hcase]

/-- **Receiving** does the same to both. -/
theorem seen_receive (path : Bytes) (content? : Option Bytes) :
    (tree.receive path content?).seen times = (tree.seen times).receive path content? := by
  cases times with
  | true => rfl
  | false => exact tree.timeless_receive path content?

/-- A tree of files and directories is one without its times. -/
theorem Ordinary.seen {tree : FileTree} (h : tree.Ordinary) (times : Bool) : (tree.seen times).Ordinary := by
  cases times with
  | true => exact h
  | false => exact ⟨h.plain.timeless⟩

end Seen

end FileTree

end GoldenRun
