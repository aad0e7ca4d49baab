import GoldenRun.Bytes.Basic

/-!
# Nodes of a file tree

A node is a regular file, a directory, a symbolic link, a pipe or a device. A directory holds its
entries in no particular order. A *location* is the list of names that lead from the root to a node,
with no link and no `.` or `..` in it.

* `Node.at?` is the node at a location below a node.
* `Node.assign` puts a node at a location, or takes it away; nothing else changes.
-/

namespace GoldenRun

/-- A device. -/
inductive Device where
  /-- Empty to read; takes everything. -/
  | null
  /-- Endless zero bytes; takes everything. -/
  | zero
  /-- Endless zero bytes; takes nothing. -/
  | full
  deriving DecidableEq, Repr

/-- What is known of a file or a directory besides its content. -/
structure Attributes where
  /-- The permission bits. -/
  mode : Nat
  /-- When it was changed last, in nanoseconds since the start of the clock. -/
  modified : Int := 0
  /-- The entries of a directory can be listed. If they cannot, they can still be reached by name. -/
  listable : Bool := true
  deriving DecidableEq, Repr, Inhabited

namespace Attributes

/-- A file that anyone can read. -/
def ofFile : Attributes := { mode := 0o644 }

/-- A directory that anyone can read. -/
def ofDir : Attributes := { mode := 0o755 }

end Attributes

/-- A node of a file tree. -/
inductive Node where
  | file (attributes : Attributes) (content : Bytes)
  | dir (attributes : Attributes) (entries : List (Bytes × Node))
  /-- A symbolic link. -/
  | link (target : Bytes)
  /-- A named pipe. -/
  | pipe
  | device (device : Device)
  deriving Repr, Inhabited

/-- The names from the root to a node. -/
abbrev Location := List Bytes

namespace Node

/-- An empty directory. -/
def emptyDir : Node := .dir .ofDir []

/-! ## 1. Entries -/

/-- The entries of a node; only directories have any. -/
def entries : Node → List (Bytes × Node)
  | .dir _ es => es
  | _ => []

/-- The entry of the given name. -/
def entry? (node : Node) (name : Bytes) : Option Node :=
  node.entries.lookup name

/-- Entries with the one of the given name replaced, added or, for `none`, left out. -/
def assignEntry (entries : List (Bytes × Node)) (name : Bytes) : Option Node → List (Bytes × Node)
  | none => entries.filter (·.1 != name)
  | some node =>
    if entries.any (·.1 == name) then
      entries.map fun e => if e.1 == name then (name, node) else e
    else entries ++ [(name, node)]

/-! ## 2. Locations -/

/-- The node at a location below a node. -/
def at? (node : Node) : Location → Option Node
  | [] => some node
  | name :: rest =>
    match node.entry? name with
    | some child => child.at? rest
    | none => none

/-- The node with `new` at the location, if the directory that is to hold it exists. -/
def assign (new : Option Node) (node : Node) : Location → Node
  | [] => new.getD node
  | name :: rest =>
    match node with
    | .dir attributes es =>
      if rest.isEmpty then .dir attributes (assignEntry es name new)
      else
        match es.lookup name with
        | some child => .dir attributes (assignEntry es name (some (child.assign new rest)))
        | none => node
    | _ => node

@[simp] theorem at?_nil (node : Node) : node.at? [] = some node := rfl

/-- Going down name by name. -/
theorem at?_cons (node : Node) (name : Bytes) (rest : Location) :
    node.at? (name :: rest) = (node.entry? name).bind (·.at? rest) := by
  rw [at?]
  cases node.entry? name <;> rfl

/-- A location of two parts is reached in two steps. -/
theorem at?_append (node : Node) (a b : Location) :
    node.at? (a ++ b) = (node.at? a).bind (·.at? b) := by
  induction a generalizing node with
  | nil => rfl
  | cons name a ih =>
    rw [List.cons_append, at?_cons, at?_cons]
    cases node.entry? name with
    | none => rfl
    | some child => exact ih child

/-! ## 3. Files -/

mutual

/-- All regular files at and below a node, with their paths behind the given one. -/
def files (path : Bytes) : Node → List (Bytes × Bytes)
  | .file _ content => [(path, content)]
  | .dir _ es => entryFiles path es
  | _ => []

/-- All regular files at and below entries, with their paths behind that of their directory. -/
def entryFiles (path : Bytes) : List (Bytes × Node) → List (Bytes × Bytes)
  | [] => []
  | (name, node) :: es => files (path ++ 0x2F :: name) node ++ entryFiles path es

end

end Node

end GoldenRun
