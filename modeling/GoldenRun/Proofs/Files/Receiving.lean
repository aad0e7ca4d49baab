import GoldenRun.Files.Planting
import GoldenRun.Proofs.Files.Plain

/-!
# Reading and receiving in ordinary trees

In a tree of files and directories what is read from a path, and what a write leaves there, depend on
where the path leads and on the face that is seen at that place. A write changes that one face.

* `FileTree.receive`: a path is given a content, or nothing; a write that is refused changes nothing;
* `FileTree.received`: the face that this leaves;
* `FileTree.AgreeBut`: two trees have the same face everywhere but at some places, where neither has a
  directory.

Main statements: `Hosts.face?_receive`, what receiving does to faces; `Hosts.receive_again`, receiving
what has been received changes nothing.
-/

namespace GoldenRun.FileTree

/-! ## 1. Reading -/

/-- What is read where this face is seen. -/
def contentOf (tree : FileTree) : Option Node → Except Errno Bytes
  | some (.file attributes content) =>
    if tree.permitsReading attributes then .ok content else .error .accessDenied
  | some (.dir _ _) => .error .isDirectory
  | some (.device .null) => .ok []
  | some _ => .error .invalidArgument
  | none => .error .notFound

section Reading

variable {tree : FileTree} {path : Bytes} {location : Location}

theorem find_of_locate {followLast : Bool} (h : tree.locate followLast path = .ok location) :
    tree.find followLast path =
      match tree.root.at? location with
      | some node => .ok node
      | none => .error .notFound := by
  rw [find, h]
  rfl

/-- What is read depends on the face alone. -/
theorem read_of_locate (h : tree.locate true path = .ok location) :
    tree.read path = tree.contentOf (tree.root.face? location) := by
  rw [read, find_of_locate h, Node.face?]
  cases tree.root.at? location with
  | none => rfl
  | some node =>
      cases node with
      | device device => cases device <;> rfl
      | _ => rfl

theorem read_of_refused {e : Errno} (h : tree.locate true path = .error e) :
    tree.read path = .error e := by
  unfold read find
  rw [h]

/-- A path names a file where the face of one is seen. -/
theorem isFile_of_locate (h : tree.locate true path = .ok location) :
    tree.isFile path = true ↔
      ∃ attributes content, tree.root.face? location = some (.file attributes content) := by
  simp only [isFile_iff, find_eq_ok, h, Node.face?_eq_file, Except.ok.injEq]
  constructor
  · rintro ⟨attributes, content, _, rfl, hat⟩
    exact ⟨attributes, content, hat⟩
  · rintro ⟨attributes, content, hat⟩
    exact ⟨attributes, content, location, rfl, hat⟩

theorem not_isFile_of_refused {e : Errno} (h : tree.locate true path = .error e) :
    tree.isFile path = false := by
  unfold isFile find
  rw [h]

end Reading

/-! ## 2. Writing -/

/-- The file that a write leaves where this face was seen, unless that is no place for a file. -/
def fileAfter (tree : FileTree) (content : Bytes) : Option Node → Option Node
  | none => some (.file tree.newFile content)
  | some (.file attributes _) =>
    if tree.permitsWriting attributes then
      some (.file { attributes with modified := tree.clock } content)
    else none
  | some _ => none

/-- The tree after the path was given a content, or nothing. A write that is refused changes nothing. -/
def receive (tree : FileTree) (path : Bytes) : Option Bytes → FileTree
  | none => tree
  | some content => tree.orSame (tree.write path content)

/-- The face that this leaves where `old` was seen, at the place to which the path leads. -/
def received (tree : FileTree) (place : Except Errno Location) :
    Option Bytes → Option Node → Option Node
  | some content, old =>
    match place with
    | .ok _ => (tree.fileAfter content old).or old
    | .error _ => old
  | none, old => old

section Writing

variable {tree : FileTree}

/-- A file that was written belongs to the tree: it is new, or changed now. -/
theorem fileAfter_eq_some {content : Bytes} {old : Option Node} {new : Node}
    (h : tree.fileAfter content old = some new) :
    ∃ attributes, attributes.modified = tree.clock ∧ new = .file attributes content := by
  unfold fileAfter at h
  split at h
  · cases h
    exact ⟨_, rfl, rfl⟩
  · split at h
    · cases h
      exact ⟨_, rfl, rfl⟩
    · cases h
  · cases h

/-- In an ordinary tree a write is refused only where a directory is or a file that may not be written. -/
theorem writeAt_eq (htree : tree.Ordinary) (location : Location) (content : Bytes) :
    ∃ refusal, tree.writeAt location content =
      match tree.fileAfter content (tree.root.face? location) with
      | some new => .ok (tree.assign location (some new))
      | none => .error refusal := by
  unfold writeAt FileTree.at? Node.face? fileAfter
  cases hat : tree.root.at? location with
  | none => exact ⟨.isDirectory, rfl⟩
  | some node =>
      rcases (htree.plain.at? hat).file_or_dir with ⟨attributes, _, rfl⟩ | ⟨_, _, rfl⟩
      · refine ⟨.accessDenied, ?_⟩
        simp only [Option.map_some, Node.face]
        cases tree.permitsWriting attributes <;> rfl
      · exact ⟨.isDirectory, rfl⟩

/-- A file is put where it already is to no effect. -/
theorem assign_self {location : Location} {old : Node} (h : tree.root.at? location = some old) :
    tree.assign location (some old) = tree := by
  unfold assign
  split
  · have hroot := Node.assign_self tree.wellFormed.distinct h
    obtain ⟨root, current, clock, mask, privileged, hwell⟩ := tree
    simp only [mk.injEq, and_true]
    exact hroot
  · rfl

/-- A path without a slash at its end is not that of a directory. -/
theorem locateFile_eq {path : Bytes} (h : path.getLast? ≠ some Path.slash) :
    tree.locateFile path = tree.locate true path := by
  have hbare : path.reverse.dropWhile (· == Path.slash) = path.reverse := by
    cases hrev : path.reverse with
    | nil => rfl
    | cons last rest =>
        refine List.dropWhile_cons_of_neg ?_
        rw [← List.head?_reverse, hrev, List.head?_cons, ne_eq, Option.some.injEq] at h
        simpa using h
  unfold locateFile
  rw [hbare, List.reverse_reverse]
  simp

end Writing

/-! ## 3. Trees that agree -/

/-- The two trees have the same face everywhere, but perhaps at the given places, and then neither has a
    directory there. -/
structure AgreeBut (places : Location → Prop) (a b : FileTree) : Prop where
  current : b.current = a.current
  clock : b.clock = a.clock
  mask : b.mask = a.mask
  privileged : b.privileged = a.privileged
  faces : ∀ location, b.root.face? location = a.root.face? location ∨
    places location ∧ ¬ a.root.DirAt location ∧ ¬ b.root.DirAt location

namespace AgreeBut

variable {places : Location → Prop} {a b c : FileTree}

theorem refl (places : Location → Prop) (a : FileTree) : AgreeBut places a a :=
  ⟨rfl, rfl, rfl, rfl, fun _ => .inl rfl⟩

theorem symm (h : AgreeBut places a b) : AgreeBut places b a where
  current := h.current.symm
  clock := h.clock.symm
  mask := h.mask.symm
  privileged := h.privileged.symm
  faces := fun location => (h.faces location).imp Eq.symm fun ⟨hp, ha, hb⟩ => ⟨hp, hb, ha⟩

/-- The same directories are in both. -/
theorem dirAt_iff (h : AgreeBut places a b) (location : Location) :
    b.root.DirAt location ↔ a.root.DirAt location := by
  rcases h.faces location with heq | ⟨-, ha, hb⟩
  · rw [Node.dirAt_iff, Node.dirAt_iff, heq]
  · exact iff_of_false hb ha

theorem trans (h : AgreeBut places a b) (h' : AgreeBut places b c) : AgreeBut places a c where
  current := h'.current.trans h.current
  clock := h'.clock.trans h.clock
  mask := h'.mask.trans h.mask
  privileged := h'.privileged.trans h.privileged
  faces := by
    intro location
    rcases h.faces location with heq | ⟨hp, ha, hb⟩
    · rcases h'.faces location with heq' | ⟨hp', hb', hc⟩
      · exact .inl (heq'.trans heq)
      · exact .inr ⟨hp', fun ha => hb' ((h.dirAt_iff location).mpr ha), hc⟩
    · exact .inr ⟨hp, ha, fun hc => hb ((h'.dirAt_iff location).mp hc)⟩

theorem mono {more : Location → Prop} (h : AgreeBut places a b) (hmore : ∀ l, places l → more l) :
    AgreeBut more a b :=
  { h with faces := fun location => (h.faces location).imp_right fun ⟨hp, hrest⟩ =>
      ⟨hmore location hp, hrest⟩ }

theorem face_eq (h : AgreeBut places a b) {location : Location} (hp : ¬ places location) :
    b.root.face? location = a.root.face? location :=
  (h.faces location).resolve_right fun hother => hp hother.1

/-- A path to a directory leads there in both. -/
theorem locate_dir (h : AgreeBut places a b) (ha : a.Ordinary) {root : Bytes} {base : Location}
    (hroot : a.locate true root = .ok base) (hdir : a.root.DirAt base) :
    b.locate true root = .ok base := by
  have hadmissible := admissible_of_locate hroot
  rw [FileTree.locate_eq hadmissible] at hroot ⊢
  rw [h.current]
  exact resolve_of_dirs ha.plain (fun l => (h.dirAt_iff l).mpr) hroot hdir maxLinks

/-- What one of them hosts, the other hosts. -/
theorem hosts (h : AgreeBut places a b) (ha : a.Ordinary) {root : Bytes} {base names : Location}
    (hhosts : a.Hosts root base names) : b.Hosts root base names := by
  obtain ⟨front, name, hsplit, hfront⟩ := hhosts.way
  exact ⟨h.locate_dir ha hhosts.root_at hhosts.root_dir, (h.dirAt_iff base).mpr hhosts.root_dir,
    hhosts.named, front, name, hsplit, (h.dirAt_iff _).mpr hfront⟩

end AgreeBut

/-! ## 4. Reading and receiving at a place -/

theorem placed_eq_ok {base names location : Location} {path : Bytes}
    (h : placed base path names = .ok location) : location = base ++ names := by
  unfold placed at h
  split at h
  · cases h
  · split at h
    · cases h
    · split at h
      · exact (Except.ok.inj h).symm
      · cases h

namespace Hosts

variable {tree : FileTree} {root : Bytes} {base names : Location}

/-- A hosted path ends in a name, not in a slash. -/
theorem getLast?_ne (h : tree.Hosts root base names) :
    (Path.below root names).getLast? ≠ some Path.slash := by
  obtain ⟨front, name, rfl, -⟩ := h.way
  have hname : Path.IsName name := h.named name (by simp)
  rw [Path.below_append, Path.below_cons, Path.below_nil, Path.getLast?_child hname]
  exact hname.getLast?_ne

/-- The names from the top to the place are proper. -/
theorem isName (h : tree.Hosts root base names) : ∀ name ∈ base ++ names, Path.IsName name := by
  intro n hn
  rcases List.mem_append.mp hn with hn | hn
  · exact isName_of_locate h.root_at n hn
  · exact h.named n hn

/-- A file may be put there. -/
theorem assignable (h : tree.Hosts root base names) (attributes : Attributes) (content : Bytes) :
    Node.Assignable (base ++ names) (some (.file attributes content)) :=
  Node.assignable_some h.isName (Node.wellFormed_file attributes content)

/-- In trees that agree at the place, the same is read from a path to it. -/
theorem read_congr {a b : FileTree} (ha : a.Ordinary) (hb : b.Ordinary)
    (hhosts : a.Hosts root base names) (hhosts' : b.Hosts root base names)
    (huser : b.privileged = a.privileged)
    (hface : b.root.face? (base ++ names) = a.root.face? (base ++ names)) :
    b.read (Path.below root names) = a.read (Path.below root names) := by
  have hlocate := hhosts.locate_eq ha true
  have hlocate' := hhosts'.locate_eq hb true
  cases hplace : placed base (Path.below root names) names with
  | error e =>
      rw [hplace] at hlocate hlocate'
      rw [read_of_refused hlocate, read_of_refused hlocate']
  | ok location =>
      rw [hplace] at hlocate hlocate'
      rw [read_of_locate hlocate, read_of_locate hlocate', placed_eq_ok hplace, hface]
      unfold contentOf permitsReading permits
      rw [huser]

/-- Receiving is assigning a file, where a file may be and the path is not refused. -/
theorem receive_eq (h : tree.Hosts root base names) (htree : tree.Ordinary) (content : Bytes) :
    tree.receive (Path.below root names) (some content) =
      match placed base (Path.below root names) names,
          tree.fileAfter content (tree.root.face? (base ++ names)) with
      | .ok _, some new => tree.assign (base ++ names) (some new)
      | _, _ => tree := by
  rw [receive, write, locateFile_eq h.getLast?_ne, h.locate_eq htree]
  cases hplace : placed base (Path.below root names) names with
  | error e => rfl
  | ok location =>
      rw [placed_eq_ok hplace]
      obtain ⟨refusal, hwrite⟩ := writeAt_eq htree (base ++ names) content
      simp only [hwrite]
      cases tree.fileAfter content (tree.root.face? (base ++ names)) <;> rfl

/-- Either a file is assigned where none but a file was, or nothing happens. -/
theorem receive_cases (h : tree.Hosts root base names) (htree : tree.Ordinary)
    (content? : Option Bytes) :
    let old := tree.root.face? (base ++ names)
    let next := tree.received (placed base (Path.below root names) names) content? old
    (∃ attributes content, next = some (.file attributes content) ∧
      (∀ node, tree.root.at? (base ++ names) = some node →
        ∃ attributes content, node = .file attributes content) ∧
      tree.receive (Path.below root names) content? =
        tree.assign (base ++ names) (some (.file attributes content))) ∨
    next = old ∧ tree.receive (Path.below root names) content? = tree := by
  intro old next
  cases content? with
  | none => exact .inr ⟨rfl, rfl⟩
  | some content =>
      have hreceive := h.receive_eq htree content
      cases hplace : placed base (Path.below root names) names with
      | error e =>
          rw [hplace] at hreceive
          exact .inr ⟨by simp only [next, hplace, received], hreceive⟩
      | ok location =>
          cases hafter : tree.fileAfter content old with
          | none =>
              rw [hplace, hafter] at hreceive
              exact .inr ⟨by simp only [next, hplace, received, hafter, Option.none_or], hreceive⟩
          | some new =>
              obtain ⟨attributes, -, rfl⟩ := fileAfter_eq_some hafter
              rw [hplace, hafter] at hreceive
              refine .inl ⟨attributes, content, ?_, ?_, hreceive⟩
              · simp only [next, hplace, received, hafter, Option.some_or]
              · intro node hat
                refine (htree.plain.at? hat).file_or_dir.resolve_right ?_
                rintro ⟨_, es, rfl⟩
                have hface : old = some (.dir _ []) := congrArg (Option.map Node.face) hat
                rw [hface] at hafter
                cases hafter

/-- **What receiving does**: it changes one face, to what is received there. -/
theorem face?_receive (h : tree.Hosts root base names) (htree : tree.Ordinary)
    (content? : Option Bytes) :
    (tree.receive (Path.below root names) content?).root.face? (base ++ names) =
        tree.received (placed base (Path.below root names) names) content?
          (tree.root.face? (base ++ names)) ∧
      AgreeBut (· = base ++ names) tree (tree.receive (Path.below root names) content?) := by
  rcases h.receive_cases htree content? with ⟨attributes, content, hnext, hfile, hreceive⟩ | ⟨hold, hsame⟩
  · obtain ⟨front, name, hsplit, hdir⟩ := h.way
    have hmay := h.assignable attributes content
    have hplace : base ++ names = (base ++ front) ++ [name] := by rw [hsplit, List.append_assoc]
    rw [hplace] at hmay hfile
    rw [hnext, hreceive, hplace, tree.assign_eq hmay]
    have hbare : ∀ node, tree.root.at? (base ++ front ++ [name]) = some node → node.Bare := by
      intro node hat
      obtain ⟨_, _, rfl⟩ := hfile node hat
      rfl
    have hnew : (Node.file attributes content).Bare := rfl
    have hassign := Node.face?_assign hnew hdir hbare
    have hhere : (tree.root.assign (some (.file attributes content))
        (base ++ front ++ [name])).face? (base ++ front ++ [name]) =
          some (.file attributes content) := by
      rw [hassign, if_pos rfl]
      rfl
    refine ⟨hhere, rfl, rfl, rfl, rfl, fun location => ?_⟩
    by_cases hlocation : location = base ++ front ++ [name]
    · subst hlocation
      refine .inr ⟨rfl, ?_, ?_⟩
      · rintro ⟨_, es, hat⟩
        obtain ⟨_, _, heq⟩ := hfile _ hat
        cases heq
      · rw [Node.dirAt_iff, hhere]
        rintro ⟨_, heq⟩
        cases heq
    · exact .inl ((hassign location).trans (if_neg hlocation))
  · rw [hsame, hold]
    exact ⟨rfl, AgreeBut.refl _ _⟩

theorem ordinary_receive (h : tree.Hosts root base names) (htree : tree.Ordinary)
    (content? : Option Bytes) : (tree.receive (Path.below root names) content?).Ordinary := by
  rcases h.receive_cases htree content? with ⟨attributes, content, -, -, hreceive⟩ | ⟨-, hsame⟩
  · rw [hreceive, tree.assign_eq (h.assignable attributes content)]
    refine ⟨htree.plain.assign ?_ _⟩
    rintro _ ⟨⟩
    exact trivial
  · rw [hsame]
    exact htree

/-- **Receiving again.** Where the face is seen that receiving leaves, receiving the same changes
    nothing. -/
theorem receive_again (h : tree.Hosts root base names) (htree : tree.Ordinary)
    {content? : Option Bytes} {old : Option Node}
    (hface : tree.root.face? (base ++ names) =
      tree.received (placed base (Path.below root names) names) content? old) :
    tree.receive (Path.below root names) content? = tree := by
  cases content? with
  | none => rfl
  | some content =>
      rw [h.receive_eq htree content]
      cases hplace : placed base (Path.below root names) names with
      | error e => rfl
      | ok location =>
          rw [hplace, received] at hface
          cases hafter : tree.fileAfter content old with
          | none =>
              rw [hafter, Option.none_or] at hface
              rw [hface, hafter]
          | some new =>
              obtain ⟨attributes, hnow, rfl⟩ := fileAfter_eq_some hafter
              rw [hafter, Option.some_or] at hface
              have hsame : ({ attributes with modified := tree.clock } : Attributes) = attributes := by
                rw [← hnow]
              rw [hface, fileAfter, hsame]
              split
              · rename_i hagain
                split at hagain
                · cases hagain
                  exact assign_self (Node.face?_eq_file.mp hface)
                · cases hagain
              · rfl

end Hosts

end GoldenRun.FileTree
