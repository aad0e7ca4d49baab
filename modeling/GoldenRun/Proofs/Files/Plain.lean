import GoldenRun.Proofs.Files.Faces
import GoldenRun.Proofs.Files.Upkeep

/-!
# Trees of files and directories

In a tree without links, pipes and devices a path leads over directories only, and what is in a directory
besides other directories does not matter for where it leads.

* `Node.Plain`: only files and directories at and below the node;
* `FileTree.Ordinary`: the tree is plain at its root;
* `FileTree.placed`: where names lead from a directory, found without a look at the tree;
* `FileTree.Hosts`: the names lead from a root over directories to a place in one.

Main statements: `resolve_of_dirs`, a path to a directory leads there in every tree that has the same
directories; `Hosts.locate_eq`, a path over names that the tree hosts leads to where they are placed.
-/

namespace GoldenRun

namespace Node

/-! ## 1. Plain nodes -/

mutual

/-- There are only files and directories at and below the node. -/
def Plain : Node → Prop
  | .file _ _ => True
  | .dir _ es => PlainEntries es
  | _ => False

/-- The nodes of all entries are plain. -/
def PlainEntries : List (Bytes × Node) → Prop
  | [] => True
  | (_, node) :: es => Plain node ∧ PlainEntries es

end

mutual

/-- `Plain` is decided along the tree. -/
instance decidablePlain : (node : Node) → Decidable node.Plain
  | .file _ _ => isTrue trivial
  | .dir _ es => decidablePlainEntries es
  | .link _ | .pipe | .device _ => isFalse id

instance decidablePlainEntries : (es : List (Bytes × Node)) → Decidable (PlainEntries es)
  | [] => isTrue trivial
  | (_, node) :: es =>
    have := decidablePlain node
    have := decidablePlainEntries es
    inferInstanceAs (Decidable (_ ∧ _))

end

theorem plainEntries_iff {es : List (Bytes × Node)} : PlainEntries es ↔ ∀ e ∈ es, e.2.Plain := by
  induction es with
  | nil => simp [PlainEntries]
  | cons e es ih =>
      obtain ⟨name, child⟩ := e
      rw [PlainEntries, ih, List.forall_mem_cons]

theorem Plain.at? {node found : Node} (hnode : node.Plain) {location : Location}
    (h : node.at? location = some found) : found.Plain :=
  at?_induction (P := Plain) (fun _ _ _ child hdir hmem => plainEntries_iff.mp hdir (_, child) hmem)
    hnode h

theorem Plain.assign {node : Node} (hnode : node.Plain) {new : Option Node}
    (hnew : ∀ node, new = some node → node.Plain) (location : Location) :
    (node.assign new location).Plain := by
  refine assign_induction (P := Plain)
    (fun _ _ _ child hdir hmem => plainEntries_iff.mp hdir (_, child) hmem) ?_ hnode hnew
  intro attributes es new name _ hdir hnew
  refine plainEntries_iff.mpr fun e he => ?_
  rcases mem_of_mem_assignEntry he with hold | ⟨-, hnode⟩
  · exact plainEntries_iff.mp hdir e hold
  · exact hnew e.2 hnode

/-- A plain node is a file or a directory. -/
theorem Plain.file_or_dir {node : Node} (h : node.Plain) :
    (∃ attributes content, node = .file attributes content) ∨
      ∃ attributes es, node = .dir attributes es := by
  cases node with
  | file attributes content => exact .inl ⟨attributes, content, rfl⟩
  | dir attributes es => exact .inr ⟨attributes, es, rfl⟩
  | link | pipe | device => exact absurd h id

/-- There is a directory at the location. -/
def DirAt (node : Node) (location : Location) : Prop :=
  ∃ attributes es, node.at? location = some (.dir attributes es)

theorem dirAt_iff {node : Node} {location : Location} :
    node.DirAt location ↔ ∃ attributes, node.face? location = some (.dir attributes []) := by
  simp only [DirAt, face?_eq_dir]

theorem DirAt.lookup {node : Node} {location : Location} {name : Bytes}
    {attributes : Attributes} {es : List (Bytes × Node)}
    (hhere : node.at? location = some (.dir attributes es)) (h : node.DirAt (location ++ [name])) :
    ∃ inner entries, es.lookup name = some (.dir inner entries) := by
  obtain ⟨inner, entries, hat⟩ := h
  rw [at?_concat hhere] at hat
  exact ⟨inner, entries, hat⟩

end Node

namespace FileTree

/-- A tree of files and directories. -/
structure Ordinary (tree : FileTree) : Prop where
  plain : tree.root.Plain

instance (tree : FileTree) : Decidable tree.Ordinary :=
  decidable_of_iff tree.root.Plain ⟨fun h => ⟨h⟩, fun h => h.plain⟩

/-! ## 2. Paths to directories -/

section Resolve

variable {root other : Node} {followLast : Bool} {links : Nat} {here location : Location}

/-- What is in a plain directory is no link. -/
theorem nameMove_of_plain {attributes : Attributes} {es : List (Bytes × Node)} (hplain : root.Plain)
    (hhere : root.at? here = some (.dir attributes es)) (name : Bytes) :
    nameMove es here name =
      if es.lookup name = none then .missing else .step (here ++ [name]) := by
  unfold nameMove
  cases hlookup : es.lookup name with
  | none => rfl
  | some child =>
      have hchild : child.Plain :=
        Node.plainEntries_iff.mp (hplain.at? hhere) _ (Node.mem_of_lookup hlookup)
      cases child with
      | link => exact absurd hchild id
      | _ => rfl

/-- **A path to a directory** leads there in every tree that has the same directories, whatever else is
    in these. -/
theorem resolve_of_dirs (hplain : root.Plain) (hdirs : ∀ l, root.DirAt l → other.DirAt l)
    {segments : List Bytes} (h : resolve root followLast links here segments = .ok location)
    (hdir : root.DirAt location) (links' : Nat) :
    resolve other followLast links' here segments = .ok location := by
  induction segments generalizing here with
  | nil => rwa [resolve_nil] at h ⊢
  | cons segment rest ih =>
      obtain ⟨attributes, es, hhere⟩ := exists_dir_of_resolve h
      obtain ⟨attributes', es', hhere'⟩ := hdirs here ⟨attributes, es, hhere⟩
      rw [resolve_cons hhere] at h
      rw [resolve_cons hhere']
      unfold move at h ⊢
      by_cases hidle : Path.isIdle segment = true
      · rw [if_pos hidle] at h ⊢
        exact ih h
      · rw [if_neg hidle] at h ⊢
        by_cases hdots : (segment == Path.dotDot) = true
        · rw [if_pos hdots] at h ⊢
          exact ih h
        · rw [if_neg hdots] at h ⊢
          by_cases hlong : maxName < segment.length
          · rw [if_pos hlong] at h
            cases h
          · rw [if_neg hlong, nameMove_of_plain hplain hhere] at h
            rw [if_neg hlong]
            split at h
            · rename_i hnone
              rw [advance] at h
              split at h
              · cases h
                obtain ⟨_, _, hchild⟩ := Node.DirAt.lookup hhere hdir
                rw [hnone] at hchild
                cases hchild
              · cases h
            · -- the segment leads to a directory: either it is the last, or one more starts there
              rw [advance] at h
              have hnext : root.DirAt (here ++ [segment]) := by
                cases rest with
                | nil =>
                    rw [resolve_nil, Except.ok.injEq] at h
                    exact h ▸ hdir
                | cons _ _ => exact exists_dir_of_resolve h
              obtain ⟨_, _, hchild⟩ := Node.DirAt.lookup hhere' (hdirs _ hnext)
              rw [nameMove, hchild]
              exact ih h

end Resolve

/-! ## 3. Places below a root -/

/-- Where the path over `names` leads from a directory at `base`, if there are directories all the way:
    it may be refused because of its length, and for nothing else that the tree holds. -/
def placed (base : Location) (path : Bytes) (names : Location) : Except Errno Location :=
  if path.contains 0 then .error .invalidArgument
  else if maxPath < path.length then .error .nameTooLong
  else if ∀ name ∈ names, name.length ≤ maxName then .ok (base ++ names)
  else .error .nameTooLong

/-- The root leads to a directory at `base`, and from there the names lead over directories to a place in
    the last of these, which may be empty. -/
structure Hosts (tree : FileTree) (root : Bytes) (base names : Location) : Prop where
  root_at : tree.locate true root = .ok base
  root_dir : tree.root.DirAt base
  named : ∀ name ∈ names, Path.IsName name
  way : ∃ front name, names = front ++ [name] ∧ tree.root.DirAt (base ++ front)

namespace Hosts

variable {tree : FileTree} {root : Bytes} {base names : Location}

/-- **Paths lead to where their names are placed.** -/
theorem locate_eq (h : tree.Hosts root base names) (htree : tree.Ordinary) (followLast : Bool) :
    tree.locate followLast (Path.below root names) = placed base (Path.below root names) names := by
  obtain ⟨front, name, rfl, hdir⟩ := h.way
  obtain ⟨_, _, hroot⟩ := h.root_dir
  obtain ⟨links, hreaches⟩ := reaches_of_locate h.root_at hroot
  have hne : Path.below root (front ++ [name]) ≠ [] := Path.below_ne_nil hreaches.ne_nil _
  unfold placed
  by_cases hzero : (Path.below root (front ++ [name])).contains 0 = true
  · rw [if_pos hzero, locate, if_neg (by simp [hne]), if_pos hzero]
  · by_cases hlong : maxPath < (Path.below root (front ++ [name])).length
    · rw [if_neg hzero, if_pos hlong, locate, if_neg (by simp [hne]), if_neg hzero, if_pos hlong]
    · have hadmissible : Admissible (Path.below root (front ++ [name])) :=
        ⟨hne, by simpa using hzero, Nat.not_lt.mp hlong⟩
      obtain ⟨attributes, es, hat⟩ := hdir
      have hname : Path.IsName name := h.named name (by simp)
      rw [if_neg hzero, if_neg hlong, hreaches.locate_below followLast _ (by simp) h.named hadmissible,
        resolve_dirs (fun n hn => h.named n (List.mem_append_left _ hn)) hat]
      by_cases hfront : ∀ n ∈ front, n.length ≤ maxName
      · rw [if_pos hfront, resolve_cons hat, move_of_isName hname]
        by_cases hlast : maxName < name.length
        · rw [if_pos hlast, if_neg (by simp [hlast]), advance]
        · have hall : ∀ n ∈ front ++ [name], n.length ≤ maxName := by
            intro n hn
            rcases List.mem_append.mp hn with hn | hn
            · exact hfront n hn
            · exact List.mem_singleton.mp hn ▸ Nat.not_lt.mp hlast
          rw [if_neg hlast, if_pos hall, nameMove_of_plain htree.plain hat]
          split
          · rw [advance, List.isEmpty_nil, if_pos rfl, List.append_assoc]
          · rw [advance, resolve_nil, List.append_assoc]
      · have hall : ¬ ∀ n ∈ front ++ [name], n.length ≤ maxName :=
          fun hall => hfront fun n hn => hall n (List.mem_append_left _ hn)
        rw [if_neg hfront, if_neg hall]

end Hosts

end FileTree

end GoldenRun
