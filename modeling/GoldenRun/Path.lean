import GoldenRun.Bytes.Utf8
import GoldenRun.Split

/-!
# Paths

A path is a byte string, kept as it was written. Read as a *name of a place* it is a list of
components: doubled slashes and inner `.` do not count, a leading slash and a leading `.` do, and `..`
is a component like any other, since what it means depends on the file tree.

* `components`: the reading. Two paths are equal when their components are (`Path.same`), so
  `a//b/` equals `a/b`, but `./a` differs from `a`.
* `stripPrefix?`: what is left of a path below a root, in the path's own spelling: slashes and dots in
  its middle stay, those at its ends go.
* `child`: the path of a name in a directory.
* `appendSuffix`: the suffix is put behind the last byte, without looking at components.
-/

namespace GoldenRun.Path

/-! ## 1. Segments -/

/-- The byte `/`. -/
def slash : UInt8 := 0x2F

/-- The segment `.`. -/
def dot : Bytes := [0x2E]

/-- The segment `..`. -/
def dotDot : Bytes := [0x2E, 0x2E]

/-- The stretches of a path between its slashes, empty ones included. -/
def segments (path : Bytes) : List Bytes :=
  cut (· == slash) path

/-- A segment that names nothing: empty, or `.`. -/
def isIdle (segment : Bytes) : Bool :=
  segment.isEmpty || segment == dot

/-- What an entry of a directory can be called: not empty, neither `.` nor `..`, and without a slash. -/
def IsName (name : Bytes) : Prop :=
  isIdle name = false ∧ name ≠ dotDot ∧ slash ∉ name

instance (name : Bytes) : Decidable (IsName name) :=
  inferInstanceAs (Decidable (_ ∧ _ ∧ _))

/-- A path that starts at the root directory. -/
def isAbsolute (path : Bytes) : Bool :=
  path.head? == some slash

/-! ## 2. Components -/

/-- One step of a path. -/
inductive Component where
  /-- The root directory, from a leading slash. -/
  | root
  /-- The current directory, from a leading `.`. -/
  | here
  /-- The parent directory. -/
  | parent
  /-- An entry of that name. -/
  | name (bytes : Bytes)
  deriving DecidableEq, Repr

/-- The component that a segment stands for, if it is not idle. -/
def component? (segment : Bytes) : Option Component :=
  if isIdle segment then none
  else if segment == dotDot then some .parent
  else some (.name segment)

/-- The components of segments that do not stand at the beginning of a path. -/
def innerComponents (segments : List Bytes) : List Component :=
  segments.filterMap component?

/-- The component that only the beginning of a path can have, and the segments behind it. A leading
    slash shows as an empty first segment that is not the only one. -/
def leading (segments : List Bytes) : Option Component × List Bytes :=
  match segments with
  | [] :: next :: rest => (some .root, next :: rest)
  | first :: rest => if first == dot then (some .here, rest) else (none, first :: rest)
  | [] => (none, [])

/-- The components of a path. -/
def components (path : Bytes) : List Component :=
  match leading (segments path) with
  | (some c, rest) => c :: innerComponents rest
  | (none, rest) => innerComponents rest

/-- Equality of paths: the same components in the same order. -/
def same (a b : Bytes) : Bool :=
  components a == components b

/-! ## 3. Below a root -/

/-- Segments without the idle ones at the end. -/
def trimEnd (segments : List Bytes) : List Bytes :=
  (segments.reverse.dropWhile isIdle).reverse

/-- Segments written out again, without the idle ones at either end. -/
def spell (segments : List Bytes) : Bytes :=
  join slash (trimEnd (segments.dropWhile isIdle))

/-- The segments behind the given inner components, if the segments begin with these. -/
def stripInner? : List Component → List Bytes → Option (List Bytes)
  | [], segments => some segments
  | _ :: _, [] => none
  | c :: cs, segment :: rest =>
    match component? segment with
    | none => stripInner? (c :: cs) rest
    | some d => if c = d then stripInner? cs rest else none

/-- A whole path without the idle segments at its end; a leading slash or `.` stays. -/
def trimmed (path : Bytes) : Bytes :=
  match leading (segments path) with
  | (some .root, rest) => slash :: join slash (trimEnd rest)
  | (some _, []) => dot
  | (some _, rest) =>
    match trimEnd rest with
    | [] => dot
    | kept => dot ++ slash :: join slash kept
  | (none, rest) => join slash (trimEnd rest)

/-- What is left of `path` below `root`, if the components of `root` begin those of `path`. Nothing is
    stripped from the front when `root` has no components. -/
def stripPrefix? (root path : Bytes) : Option Bytes :=
  match components root with
  | [] => some (trimmed path)
  | c :: cs =>
    match leading (segments path) with
    | (some d, rest) => if c = d then (stripInner? cs rest).map spell else none
    | (none, rest) => (stripInner? (c :: cs) rest).map spell

/-! ## 4. Building paths -/

/-- The path of the entry `name` in the directory at `dir`. -/
def child (dir name : Bytes) : Bytes :=
  if dir.isEmpty || dir.getLast? == some slash then dir ++ name else dir ++ slash :: name

/-- `tail` seen from `base`: an absolute `tail` stands for itself. -/
def joined (base tail : Bytes) : Bytes :=
  if isAbsolute tail then tail else child base tail

/-- The path with `suffix` behind its last byte. -/
def appendSuffix (path suffix : Bytes) : Bytes :=
  path ++ suffix

/-- A path ends in the given bytes. -/
def endsWith (path suffix : Bytes) : Bool :=
  suffix.isSuffixOf path

end GoldenRun.Path
