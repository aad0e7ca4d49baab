import GoldenRun.Machine.Utility.Basic

/-!
# Properties of files

What a condition can say of one path or of two. Whoever asks may read and write everything, and may execute
what anyone may execute.
-/

namespace GoldenRun.Machine

/-- A property of the node that a path names, links followed or not. -/
def nodeHas (tree : FileTree) (followed : Bool) (path : String) (property : Node → Bool) : Bool :=
  match tree.find followed (ByteText.toBytes path) with
  | .ok node => property node
  | .error _ => false

/-- A bit of the mode is set. -/
def isMarked (bits : Nat) (node : Node) : Bool :=
  match node with
  | .file attributes _ | .dir attributes _ => attributes.mode &&& bits != 0
  | _ => false

/-- What the operator of the given letter says of a path; `none` if there is no such operator. -/
def fileProperty? (tree : FileTree) (letter : Char) (path : String) : Option Bool :=
  match letter with
  | 'e' | 'r' | 'w' | 'O' | 'G' => some (nodeHas tree true path fun _ => true)
  | 'f' => some (tree.isFile (ByteText.toBytes path))
  | 'd' => some (tree.isDir (ByteText.toBytes path))
  | 'x' => some <| nodeHas tree true path fun node => match node with
    | .file attributes _ => attributes.mode &&& 0o111 != 0
    | .dir _ _ => true
    | _ => false
  | 's' => some <| nodeHas tree true path fun node => match node with
    | .file _ content => !content.isEmpty
    | .dir _ _ => true
    | _ => false
  | 'L' | 'h' => some <| nodeHas tree false path fun node => match node with
    | .link _ => true
    | _ => false
  | 'p' => some <| nodeHas tree true path fun node => match node with
    | .pipe => true
    | _ => false
  | 'c' => some <| nodeHas tree true path fun node => match node with
    | .device _ => true
    | _ => false
  | 'u' => some (nodeHas tree true path (isMarked 0o4000))
  | 'g' => some (nodeHas tree true path (isMarked 0o2000))
  | 'k' => some (nodeHas tree true path (isMarked 0o1000))
  | 'b' | 'S' => some false
  | _ => none

/-- When the node that a path names was changed, if there is one. -/
def modified? (tree : FileTree) (path : String) : Option Int :=
  match tree.find true (ByteText.toBytes path) with
  | .ok (.file attributes _) | .ok (.dir attributes _) => some attributes.modified
  | .ok _ => some 0
  | .error _ => none

/-- Two paths name one node. -/
def isSameNode (tree : FileTree) (a b : String) : Bool :=
  match tree.locate true (ByteText.toBytes a), tree.locate true (ByteText.toBytes b) with
  | .ok x, .ok y => x == y && tree.exists? (ByteText.toBytes a)
  | _, _ => false

end GoldenRun.Machine
