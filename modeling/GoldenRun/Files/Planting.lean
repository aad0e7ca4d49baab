import GoldenRun.Files.Tree

/-!
# Planting a file tree

A tree can be laid out from a list of plantings, each at a path below the current directory. Directories
on the way are made as needed. What cannot be planted is left out.
-/

namespace GoldenRun

/-- What is planted at a path. -/
inductive Planting where
  /-- A file; without permission bits of its own it keeps those it has, or gets the usual ones. -/
  | file (mode : Option Nat) (content : Bytes)
  | dir
  | link (target : Bytes)
  | pipe
  /-- A directory with `depth` directories inside one another, all of one name, and in each of these an
      empty file. Their paths may be too long to be used. -/
  | chain (name : Bytes) (depth : Nat) (file : Bytes)
  deriving DecidableEq, Repr

/-- Directories inside one another, with an empty file in each. -/
def Node.chain (name file : Bytes) : Nat → Node
  | 0 => .dir .ofDir [(file, .file .ofFile [])]
  | depth + 1 => .dir .ofDir [(file, .file .ofFile []), (name, chain name file depth)]

namespace FileTree

/-- The tree after a change that may be refused. -/
def orSame (tree : FileTree) : Change → FileTree
  | .ok changed => changed
  | .error _ => tree

/-- The tree with other permission bits at the path. -/
def setMode (tree : FileTree) (path : Bytes) (mode : Nat) : FileTree :=
  match tree.locate true path with
  | .error _ => tree
  | .ok location =>
    match tree.at? location with
    | some (.file attributes content) =>
      tree.assign location (some (.file { attributes with mode } content))
    | _ => tree

/-- The directory part of a path: all before its last slash. -/
def parentPath (path : Bytes) : Bytes :=
  join Path.slash (Path.segments path).dropLast

/-- The tree with one planting. -/
def plant (tree : FileTree) (path : Bytes) (planting : Planting) : FileTree :=
  let tree := tree.orSame (tree.makeDirs (parentPath path))
  match planting with
  | .file mode content =>
    let tree := tree.orSame (tree.write path content)
    match mode with
    | none => tree
    | some mode => tree.setMode path mode
  | .dir => tree.orSame (tree.makeDirs path)
  | .link target => tree.orSame (tree.create path (.link target))
  | .pipe => tree.orSame (tree.create path .pipe)
  | .chain name depth file =>
    let tree := tree.orSame (tree.makeDirs path)
    match depth, tree.locate true path with
    | depth + 1, .ok location =>
      tree.assign (location ++ [name]) (some (Node.chain name file depth))
    | _, _ => tree

/-- The tree with plantings, one after the other. -/
def plantAll (tree : FileTree) (plantings : List (Bytes × Planting)) : FileTree :=
  plantings.foldl (fun tree p => tree.plant p.1 p.2) tree

end FileTree

end GoldenRun
