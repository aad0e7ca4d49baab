import GoldenRun.Machine.Utility.Deed

/-!
# Listings

`ls` writes names, one a line: first those of operands that are no directories, and then what is in
directories, in the order of the bytes. With more than one operand each directory has a heading.
-/

namespace GoldenRun.Machine

/-- Which names of a directory are shown, and how. -/
structure ListingStyle where
  /-- Names with a dot at their beginning are shown. -/
  hidden : Bool
  /-- The directory itself and its parent are shown. -/
  withSelf : Bool
  /-- The order is reversed. -/
  backwards : Bool
  /-- Directories have a slash behind their name. -/
  slashes : Bool
  /-- All kinds of files but the usual one have a mark behind their name. -/
  marks : Bool
  /-- Directories in a directory are listed behind it. -/
  deep : Bool
  deriving DecidableEq, Repr

/-- The style that options ask for. -/
def ListingStyle.ofOptions (arguments : Arguments) : ListingStyle where
  hidden := arguments.hasAny "aAf"
  withSelf := arguments.has "a" || arguments.has "f"
  backwards := arguments.has "r"
  slashes := arguments.has "p" || arguments.has "F"
  marks := arguments.has "F"
  deep := arguments.has "R"

/-- What stands behind the name of a node. -/
def ListingStyle.mark (style : ListingStyle) : Node → Bytes
  | .dir _ _ => if style.slashes then [0x2F] else []
  | .link _ => if style.marks then [0x40] else []
  | .pipe => if style.marks then [0x7C] else []
  | .file attributes _ => if style.marks && attributes.mode &&& 0o111 != 0 then [0x2A] else []
  | .device _ => []

/-- Entries in order. -/
def ListingStyle.ordered {α : Type} (style : ListingStyle) (entries : List (Bytes × α)) :
    List (Bytes × α) :=
  let sorted := entries.mergeSort fun a b => Bytes.atMost a.1 b.1
  if style.backwards then sorted.reverse else sorted

/-- A name is shown. -/
def ListingStyle.shows (style : ListingStyle) (name : Bytes) : Bool :=
  style.hidden || name.head? != some 0x2E

/-- The entries of a directory that are shown. -/
def ListingStyle.shown (style : ListingStyle) (entries : List (Bytes × Node)) : List (Bytes × Node) :=
  let visible := entries.filter fun e => style.shows e.1
  style.ordered
    (if style.withSelf then ([0x2E], .emptyDir) :: (Path.dotDot, .emptyDir) :: visible else visible)

/-- The line of an entry. -/
def ListingStyle.row (style : ListingStyle) (entry : Bytes × Node) : Bytes :=
  entry.1 ++ style.mark entry.2 ++ [0x0A]

/-- The names in a directory. -/
def ListingStyle.names (style : ListingStyle) (entries : List (Bytes × Node)) : Bytes :=
  (style.shown entries).flatMap style.row

/-- A directory that is listed: its path and its entries. -/
abbrev Listed := Bytes × List (Bytes × Node)

mutual

/-- The directories that are listed for a node at a path: itself, and for a deep listing those in it. -/
def ListingStyle.listed (style : ListingStyle) (path : Bytes) : Node → List Listed
  | .dir _ entries =>
    (path, entries) ::
      if style.deep then (style.ordered (style.listedIn path entries)).flatMap Prod.snd else []
  | _ => []

/-- The directories that are listed for every entry that is shown. -/
def ListingStyle.listedIn (style : ListingStyle) (path : Bytes) :
    List (Bytes × Node) → List (Bytes × List Listed)
  | [] => []
  | (name, node) :: rest =>
    let inner := style.listed
      (ByteText.toBytes (pathIn (ByteText.ofBytes path) (ByteText.ofBytes name))) node
    (if style.shows name then [(name, inner)] else []) ++ style.listedIn path rest

end

/-- Listings with headings, each apart from what stands above it. -/
def ListingStyle.headed (style : ListingStyle) (above : Bool) :
    List Listed → Bytes
  | [] => []
  | (path, entries) :: rest =>
    (if above then [0x0A] else []) ++ path ++ [0x3A, 0x0A] ++ style.names entries ++
      style.headed true rest

/-- Names of files, and then the names in directories. With `-d` a directory counts as a file. -/
def ls : Utility := fun errand =>
  let arguments := readOptions
    ([flag 'a' ["all"], flag 'A' ["almost-all"], flag 'd' ["directory"], flag 'r' ["reverse"],
        flag 'R' ["recursive"], flag 'F' ["classify"], valued 'I' ["ignore"], valued 'T' ["tabsize"],
        valued 'w' ["width"]] ++ flags "1pfUqNbcgGhHiklLmnoQsStuvxXZCDB") true errand.args
  match arguments.fault with
  | some fault => { errand.misused fault.message with code := 2 }
  | none =>
    let style := ListingStyle.ofOptions arguments
    let operands := (if arguments.operands.isEmpty then ["."] else arguments.operands).map ByteText.toBytes
    let find (path : Bytes) : Except Errno Node :=
      match style.marks, errand.files.find true path with
      | false, .ok node => .ok node
      | _, _ => errand.files.find false path
    let refusals := operands.filterMap fun path =>
      match find path with
      | .ok _ => none
      | .error e =>
        some (Outlet.err, ByteText.toBytes (errand.unable "cannot access" (ByteText.ofBytes path) e))
    let found := style.ordered
      (operands.filterMap fun path => (find path).toOption.map fun node => (path, node))
    let (folders, files) := found.partition fun e =>
      match e.2 with
      | .dir _ _ => !arguments.has "d"
      | _ => false
    let listed := folders.flatMap fun e => style.listed e.1 e.2
    let out :=
      match operands, listed with
      | [_], [(_, entries)] => if style.deep then style.headed false listed else style.names entries
      | _, _ => files.flatMap style.row ++ style.headed (!files.isEmpty) listed
    errand.finish (if refusals.isEmpty then 0 else 2) (refusals ++ [(.out, out)])

end GoldenRun.Machine
