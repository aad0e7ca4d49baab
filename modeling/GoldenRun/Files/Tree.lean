import GoldenRun.Failure
import GoldenRun.Files.WellFormed

/-!
# File trees

A file tree is a root directory and a current directory in it. Paths are *resolved* to locations,
segment by segment:

* an empty segment and `.` stay where they are, `..` goes to the parent, and all three need a
  directory to start from;
* a name goes to the entry of that name; only the last segment may name nothing;
* a link is replaced by its target, which is resolved from the link's own directory. A last segment
  that is a link is followed or not as the caller wants. At most 40 links are followed for one path.

A path is refused when it is empty, longer than 4095 bytes, or has a segment longer than 255 bytes.

The root is well-formed: a tree carries the proof, and `assign` puts nothing where it would not hold any
more. A file is read and written as the owner's permission bits say, unless the user is privileged.
-/

namespace GoldenRun

/-- A file tree with a current directory. -/
structure FileTree where
  root : Node
  current : Location := []
  /-- The time of changes, in nanoseconds since the start of the clock. -/
  clock : Int := 0
  /-- The permission bits that new files and directories do not get. -/
  mask : Nat := 0o022
  /-- The user may read and write every file, whatever its permission bits say. -/
  privileged : Bool := true
  /-- Names are proper, and those of one directory are distinct. -/
  wellFormed : root.WellFormed := by decide +kernel
  deriving Repr

namespace FileTree

instance : Inhabited FileTree := ⟨{ root := .emptyDir }⟩

/-! ## 1. Limits -/

/-- The longest path, in bytes. -/
def maxPath : Nat := 4095

/-- The longest segment, in bytes. -/
def maxName : Nat := 255

/-- How many links are followed for one path. -/
def maxLinks : Nat := 40

/-! ## 2. Resolution -/

/-- Where `segments` lead from the location `here`. What lies behind a link is found by `follow`. -/
def walk (root : Node) (followLast : Bool)
    (follow : Location → List Bytes → Except Errno Location) (here : Location) :
    List Bytes → Except Errno Location
  | [] => .ok here
  | segment :: rest =>
    match root.at? here with
    | some (.dir _ entries) =>
      if Path.isIdle segment then walk root followLast follow here rest
      else if segment == Path.dotDot then walk root followLast follow here.dropLast rest
      else if maxName < segment.length then .error .nameTooLong
      else
        match entries.lookup segment with
        | some (.link target) =>
          if rest.isEmpty && !followLast then .ok (here ++ [segment])
          else follow (if Path.isAbsolute target then [] else here) (Path.segments target ++ rest)
        | some _ => walk root followLast follow (here ++ [segment]) rest
        | none => if rest.isEmpty then .ok (here ++ [segment]) else .error .notFound
    | some _ => .error .notDirectory
    | none => .error .notFound

/-- Where segments lead if at most `links` links are followed. -/
def resolve (root : Node) (followLast : Bool) :
    (links : Nat) → Location → List Bytes → Except Errno Location
  | 0 => walk root followLast fun _ _ => .error .tooManyLinks
  | links + 1 => walk root followLast (resolve root followLast links)

/-- The location that a path names. The last name need not exist. -/
def locate (tree : FileTree) (followLast : Bool) (path : Bytes) : Except Errno Location :=
  if path.isEmpty then .error .notFound
  else if path.contains 0 then .error .invalidArgument
  else if maxPath < path.length then .error .nameTooLong
  else
    resolve tree.root followLast maxLinks (if Path.isAbsolute path then [] else tree.current)
      (Path.segments path)

/-- The node at a location. -/
def at? (tree : FileTree) (location : Location) : Option Node :=
  tree.root.at? location

/-- The tree with a node put at a location, or taken away, if that may be done. -/
def assign (tree : FileTree) (location : Location) (new : Option Node) : FileTree :=
  if h : Node.Assignable location new then
    { tree with root := tree.root.assign new location, wellFormed := tree.wellFormed.assign h }
  else tree

theorem assign_eq (tree : FileTree) {location : Location} {new : Option Node}
    (h : Node.Assignable location new) :
    tree.assign location new =
      { tree with root := tree.root.assign new location, wellFormed := tree.wellFormed.assign h } :=
  dif_pos h

theorem root_assign (tree : FileTree) {location : Location} {new : Option Node}
    (h : Node.Assignable location new) :
    (tree.assign location new).root = tree.root.assign new location :=
  congrArg root (tree.assign_eq h)

/-- The node that a path names. -/
def find (tree : FileTree) (followLast : Bool) (path : Bytes) : Except Errno Node :=
  match tree.locate followLast path with
  | .error e => .error e
  | .ok location =>
    match tree.at? location with
    | some node => .ok node
    | none => .error .notFound

/-! ## 3. Questions -/

/-- The path names a regular file, links followed. -/
def isFile (tree : FileTree) (path : Bytes) : Bool :=
  match tree.find true path with
  | .ok (.file _ _) => true
  | _ => false

/-- The path names a directory, links followed. -/
def isDir (tree : FileTree) (path : Bytes) : Bool :=
  match tree.find true path with
  | .ok (.dir _ _) => true
  | _ => false

/-- The path names something, links followed. -/
def exists? (tree : FileTree) (path : Bytes) : Bool :=
  match tree.find true path with
  | .ok _ => true
  | .error _ => false

/-- The user may do with a file what the given permission bit of its owner stands for. -/
def permits (tree : FileTree) (bit : Nat) (attributes : Attributes) : Bool :=
  tree.privileged || attributes.mode &&& bit != 0

/-- A file with these attributes can be read. -/
def permitsReading (tree : FileTree) (attributes : Attributes) : Bool :=
  tree.permits 0o400 attributes

/-- A file with these attributes can be written. -/
def permitsWriting (tree : FileTree) (attributes : Attributes) : Bool :=
  tree.permits 0o200 attributes

/-- What is read from the path to its end. A pipe that nobody writes to never ends, nor do most
    devices; they count as refusals. -/
def read (tree : FileTree) (path : Bytes) : Except Errno Bytes :=
  match tree.find true path with
  | .error e => .error e
  | .ok (.file attributes content) =>
    if tree.permitsReading attributes then .ok content else .error .accessDenied
  | .ok (.dir _ _) => .error .isDirectory
  | .ok (.device .null) => .ok []
  | .ok _ => .error .invalidArgument

/-! ## 4. Changes -/

/-- A change of a tree that may be refused. -/
abbrev Change := Except Errno FileTree

/-- Permission bits without those of a mask. -/
def unmasked (mask mode : Nat) : Nat :=
  mode - (mode &&& mask)

/-- The attributes of a new file. -/
def newFile (tree : FileTree) : Attributes :=
  { mode := unmasked tree.mask 0o666, modified := tree.clock }

/-- The attributes of a new directory. -/
def newDir (tree : FileTree) : Attributes :=
  { mode := unmasked tree.mask 0o777, modified := tree.clock }

/-- A new directory without anything in it. -/
def freshDir (tree : FileTree) : Node := .dir tree.newDir []

/-- The tree after the file at a location was given this content; a new file if there was none. -/
def writeAt (tree : FileTree) (location : Location) (content : Bytes) : Change :=
  match tree.at? location with
  | none => .ok (tree.assign location (some (.file tree.newFile content)))
  | some (.file attributes _) =>
    if tree.permitsWriting attributes then
      .ok (tree.assign location (some (.file { attributes with modified := tree.clock } content)))
    else .error .accessDenied
  | some (.dir _ _) => .error .isDirectory
  | some (.device .null) | some (.device .zero) => .ok tree
  | some (.device .full) => .error .noSpace
  | some .pipe | some (.link _) => .error .invalidArgument

/-- The location of a file to be written, which need not exist; links are followed. A path that ends in
    a slash is that of a directory. -/
def locateFile (tree : FileTree) (path : Bytes) : Except Errno Location :=
  let bare := (path.reverse.dropWhile (· == Path.slash)).reverse
  if bare.length < path.length && !bare.isEmpty then
    match tree.locate false bare with
    | .error e => .error e
    | .ok _ => .error .isDirectory
  else tree.locate true path

/-- The tree after a write to the path. -/
def write (tree : FileTree) (path content : Bytes) : Change :=
  match tree.locateFile path with
  | .error e => .error e
  | .ok location => tree.writeAt location content

/-- The tree with a new node at the path, where nothing may be. -/
def create (tree : FileTree) (path : Bytes) (node : Node) : Change :=
  match tree.locate false path with
  | .error e => .error e
  | .ok location =>
    match tree.at? location with
    | none => .ok (tree.assign location (some node))
    | some _ => .error .alreadyExists

/-- The tree without what the path names, directories with all that is in them; a link is removed
    itself. -/
def remove (tree : FileTree) (path : Bytes) : Change :=
  match tree.locate false path with
  | .error e => .error e
  | .ok location =>
    match tree.at? location with
    | some _ => .ok (tree.assign location none)
    | none => .error .notFound

/-- The tree with a directory at the path that `base` and `segments` spell, and at every shorter path
    on the way. -/
def makeDirsFrom (tree : FileTree) (base : Bytes) : List Bytes → Change
  | [] => .ok tree
  | segment :: rest =>
    let path := base ++ segment
    if Path.isIdle segment || tree.isDir path then
      tree.makeDirsFrom (path ++ [Path.slash]) rest
    else
      match tree.create path tree.freshDir with
      | .error e => .error e
      | .ok tree => tree.makeDirsFrom (path ++ [Path.slash]) rest

/-- The tree with a directory at the path and at every shorter path on the way. -/
def makeDirs (tree : FileTree) (path : Bytes) : Change :=
  tree.makeDirsFrom [] (Path.segments path)

end FileTree

end GoldenRun
