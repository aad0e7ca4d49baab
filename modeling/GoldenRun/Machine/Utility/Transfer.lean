import GoldenRun.Machine.Utility.Deed

/-!
# Copies, moves and links

`cp`, `mv` and `ln` bring what their operands name to a target. The target is the last operand or the
value of `-t`; in a target that is a directory each gets its last name.

* `targetsOf` says what goes where.
* A hard link shares nothing with its file: it is a copy of it.
-/

namespace GoldenRun.Machine

/-! ## 1. Targets -/

/-- The path of something brought to a target: inside of it if that is a directory. -/
def pathAt (tree : FileTree) (source target : String) : String :=
  if tree.isDir (ByteText.toBytes target) then pathIn target (lastName source) else target

/-- The options that say what the target is. -/
def targetOptions : List OptionKind :=
  [valued 't' ["target-directory"], flag 'T' ["no-target-directory"], flag 'v' ["verbose"],
    flag 'f' ["force"], flag 'i' ["interactive"], flag 'b' [], valued 'S' ["suffix"]]

/-- Why a path is no directory. -/
def noDirectory? (tree : FileTree) (path : String) : Option Errno :=
  match tree.find true (ByteText.toBytes path) with
  | .error e => some e
  | .ok (.dir _ _) => none
  | .ok _ => some .notDirectory

/-- Every source with the path that it is brought to; or an errand that is over. -/
def targetsOf (errand : Errand) (arguments : Arguments) : Except Effort (List (String × String)) :=
  let into (directory : String) (sources : List String) : List (String × String) :=
    sources.map fun source => (source, pathIn directory (lastName source))
  let operands := arguments.operands
  let given := (arguments.values "t").getLast?
  match given, operands with
  | _, [] => .error (errand.misused "missing file operand")
  | some directory, sources =>
    match noDirectory? errand.files directory with
    | some e => .error (errand.complain 1 (errand.unable "target directory" directory e))
    | none => .ok (into directory sources)
  | none, [source] =>
    .error (errand.misused ("missing destination file operand after " ++ quotedName source))
  | none, [source, target] =>
    .ok [(source, if arguments.has "T" then target else pathAt errand.files source target)]
  | none, _ :: _ :: third :: _ =>
    let target := operands.getLastD ""
    if arguments.has "T" then .error (errand.misused ("extra operand " ++ quotedName third))
    else
      match noDirectory? errand.files target with
      | some e => .error (errand.complain 1 (errand.unable "target" target e))
      | none => .ok (into target operands.dropLast)

/-! ## 2. Obstacles -/

/-- The first of some reasons that holds. -/
def firstReason (reasons : List (Bool × String)) : Option String :=
  (reasons.find? (·.1)).map Prod.snd

/-- A node is a directory. -/
def isDirNode : Node → Bool
  | .dir _ _ => true
  | _ => false

/-- Reasons why one node cannot take the place of another. -/
def obstacles (source path : String) (new : Node) (old : Option Node) : List (Bool × String) :=
  let isDir := isDirNode new
  [(isDir && old.any (!isDirNode ·),
      "cannot overwrite non-directory " ++ quotedName path ++ " with directory " ++ quotedName source),
    (!isDir && old.any isDirNode,
      "cannot overwrite directory " ++ quotedName path ++ " with non-directory")]

/-- Words for two paths of one node. -/
def sameWords (source path : String) : String :=
  quotedName source ++ " and " ++ quotedName path ++ " are the same file"

/-- Two paths name the same node, if links at the end of each are followed or not. -/
def sameNode (tree : FileTree) (followA followB : Bool) (a b : String) : Bool :=
  match tree.locate followA (ByteText.toBytes a), tree.locate followB (ByteText.toBytes b) with
  | .ok here, .ok there => here = there && (tree.at? here).isSome
  | _, _ => false

/-- Why it cannot be seen whether something is at a path: the way there leads through a file, for one. -/
def unseen? (tree : FileTree) (path : String) : Option Errno :=
  match tree.find false (ByteText.toBytes (withoutEndSlash path)) with
  | .ok _ => none
  | .error e => if e = .notFound then none else some e

/-- A path leads to a directory or below it. -/
def leadsInto (tree : FileTree) (directory path : String) : Bool :=
  match tree.locate true (ByteText.toBytes directory), tree.locate true (ByteText.toBytes path) with
  | .ok here, .ok there => here.isPrefixOf there
  | _, _ => false

/-! ## 3. Copies -/

mutual

/-- A node with another one laid over it: directories are joined. -/
def Node.overlaid (new : Node) : Option Node → Node
  | some (.dir attributes entries) =>
    match new with
    | .dir _ added => .dir attributes (Node.overlaidEntries entries added)
    | new => new
  | some (.file attributes _) =>
    match new with
    | .file other content => .file { attributes with modified := other.modified } content
    | new => new
  | _ => new

/-- Entries with others laid over them. -/
def Node.overlaidEntries (entries : List (Bytes × Node)) : List (Bytes × Node) → List (Bytes × Node)
  | [] => entries
  | (name, node) :: rest =>
    Node.overlaidEntries
      (Node.assignEntry entries name (some (Node.overlaid node (entries.lookup name)))) rest

end

mutual

/-- What is told while a node is copied. -/
def copies (source path : String) : Node → List String
  | .dir _ entries =>
    (quotedName source ++ " -> " ++ quotedName path ++ "\n") :: entryCopies source path entries
  | _ => [quotedName source ++ " -> " ++ quotedName path ++ "\n"]

/-- What is told while entries are copied. -/
def entryCopies (source path : String) : List (Bytes × Node) → List String
  | [] => []
  | (name, node) :: rest =>
    copies (pathIn source (ByteText.ofBytes name)) (pathIn path (ByteText.ofBytes name)) node ++
      entryCopies source path rest

end

/-- One source copied to a path. -/
def copyOne (errand : Errand) (arguments : Arguments) (tree : FileTree) (source path : String) : Deed :=
  let deep := arguments.hasAny "aRr"
  let follows := arguments.has "L" || !(deep || arguments.hasAny "dP")
  match tree.find follows (ByteText.toBytes source), unseen? tree path with
  | .error e, _ => .refuse tree (errand.unable "cannot stat" source e)
  | .ok _, some e => .refuse tree (errand.unable "cannot stat" path e)
  | .ok node, none =>
    let isDir := isDirNode node
    let isLink := match node with
      | .link _ => true
      | _ => false
    let place := withoutEndSlash path
    let old := (tree.find (!isLink) (ByteText.toBytes path)).toOption
    let dangling := old.isNone && (tree.find false (ByteText.toBytes path)).toOption.isSome
    let what := if isDir then "cannot create directory" else "cannot create regular file"
    let before :=
      [(isDir && !deep, "-r not specified; omitting directory " ++ quotedName source),
        (sameNode tree follows follows source path, sameWords source path)] ++ obstacles source path node old
    let behind :=
      [(isDir && leadsInto tree source path,
          "cannot copy a directory, " ++ quotedName source ++ ", into itself, " ++ quotedName path),
        (dangling && !isLink, "not writing through dangling symlink " ++ quotedName path),
        (place != path && old.isNone && !isDir,
          what ++ " " ++ quotedName path ++ ": " ++ Errno.notDirectory.message)]
    match firstReason before, arguments.has "n" && old.isSome, firstReason behind with
    | some reason, _, _ | none, false, some reason => .refuse tree (errand.line reason)
    | none, true, _ => .done tree
    | none, false, none =>
      let new := if arguments.has "s" then .link (ByteText.toBytes source) else node
      let report := if arguments.has "v" then copies source path node else []
      match tree.locate (!isLink) (ByteText.toBytes place) with
      | .error e =>
        (Deed.done tree (report.take 1)).andThen fun tree => .refuse tree (errand.unable what path e)
      | .ok location => .done (tree.assign location (some (Node.overlaid new old))) report

/-- Copies of files, and with `-r` of directories. -/
def cp : Utility := fun errand =>
  errand.withOptions
    (targetOptions ++ [flag 'a' ["archive"], flag 'd' [], flag 'H' [], flag 'l' ["link"],
      flag 'L' ["dereference"], flag 'n' ["no-clobber"], flag 'p' [], flag 'P' ["no-dereference"],
      flag 'r' ["recursive"], flag 'R' [], flag 's' ["symbolic-link"], flag 'u' [],
      flag 'x' ["one-file-system"], flag 'Z' []])
    fun arguments =>
      match targetsOf errand arguments with
      | .error effort => effort
      | .ok targets =>
        errand.doEach (fun tree (source, path) => copyOne errand arguments tree source path) targets

/-! ## 4. Moves -/

/-- One source moved to a path. -/
def moveOne (errand : Errand) (arguments : Arguments) (tree : FileTree) (source path : String) : Deed :=
  let place := withoutEndSlash path
  let moving := "cannot move " ++ quotedName source ++ " to "
  let unable (e : Errno) : String := moving ++ quotedName path ++ ": " ++ e.message
  match tree.find false (ByteText.toBytes source), unseen? tree path with
  | .error e, _ => .refuse tree (errand.unable "cannot stat" source e)
  | .ok _, some e => .refuse tree (errand.unable "cannot stat" path e)
  | .ok node, none =>
    let isDir := isDirNode node
    let old := (tree.find false (ByteText.toBytes place)).toOption
    let behind := obstacles source path node old ++
      [(endsInDots source, unable .busy),
        (isDir && leadsInto tree source place, moving ++ "a subdirectory of itself, " ++ quotedName path),
        (place != path && old.isNone && !isDir, unable .notDirectory),
        (old.any (!·.entries.isEmpty),
          "cannot overwrite " ++ quotedName path ++ ": " ++ Errno.notEmpty.message)]
    match sameNode tree false false source place, arguments.has "n" && old.isSome, firstReason behind with
    | true, _, _ => .refuse tree (errand.line (sameWords source path))
    | false, true, _ => .done tree
    | false, false, some reason => .refuse tree (errand.line reason)
    | false, false, none =>
      match tree.locate false (ByteText.toBytes place), tree.remove (ByteText.toBytes source) with
      | .ok location, .ok rest =>
        .done (rest.assign location (some node))
          (if arguments.has "v" then
            ["renamed " ++ quotedName source ++ " -> " ++ quotedName path ++ "\n"]
          else [])
      | .error e, _ | _, .error e => .refuse tree (errand.line (unable e))

/-- Files with other names. -/
def mv : Utility := fun errand =>
  errand.withOptions (targetOptions ++ [flag 'n' ["no-clobber"], flag 'u' [], flag 'Z' []]) fun arguments =>
    match targetsOf errand arguments with
    | .error effort => effort
    | .ok targets =>
      errand.doEach (fun tree (source, path) => moveOne errand arguments tree source path) targets

/-! ## 5. Links -/

/-- The text of a link that stands at a path and is to lead to where a target leads now. -/
def relativeTarget (tree : FileTree) (target path : String) : String :=
  match tree.locate true (ByteText.toBytes target), tree.locate false (ByteText.toBytes path) with
  | .ok there, .ok here =>
    let directory := here.dropLast
    let shared := ((directory.zip there).takeWhile fun p => p.1 = p.2).length
    let names := List.replicate (directory.length - shared) Path.dotDot ++ there.drop shared
    if names.isEmpty then "." else ByteText.ofBytes (GoldenRun.join Path.slash names)
  | _, _ => target

/-- What a link to a target is, or the line that says why there can be none. -/
def linkNode (errand : Errand) (arguments : Arguments) (tree : FileTree) (target path : String) :
    Except String Node :=
  if arguments.has "s" then
    .ok (.link (ByteText.toBytes
      (if arguments.has "r" then relativeTarget tree target path else target)))
  else
    match tree.find false (ByteText.toBytes target) with
    | .error e => .error (errand.unable "failed to access" target e)
    | .ok (.dir _ _) =>
      .error (errand.line (shownName target ++ ": hard link not allowed for directory"))
    | .ok node => .ok node

/-- One link made at a path; with `-f` it may take the place of a file. -/
def linkOne (errand : Errand) (arguments : Arguments) (tree : FileTree) (target path : String) : Deed :=
  let isSymbolic := arguments.has "s"
  let name := ByteText.toBytes path
  let old := if arguments.has "f" then (tree.find false name).toOption else none
  let arrow := (if isSymbolic then " -> " else " => ") ++ quotedName target
  let change (node : Node) : FileTree.Change :=
    if target.isEmpty then .error .notFound
    else (if old.isSome then (tree.remove name).toOption.getD tree else tree).create name node
  match linkNode errand arguments tree target path,
      if arguments.has "f" then unseen? tree path else none with
  | .error line, _ => .refuse tree line
  | .ok _, some e => .refuse tree (errand.unable "failed to access" path e)
  | .ok node, none =>
    if old.any isDirNode then .refuse tree (errand.line (shownName path ++ ": cannot overwrite directory"))
    else if old.isSome && sameNode tree isSymbolic false target path then
      .refuse tree (errand.line (sameWords target path))
    else
      match change node with
      | .ok tree => .done tree (if arguments.has "v" then [quotedName path ++ arrow ++ "\n"] else [])
      | .error e =>
        let kind := if isSymbolic then "symbolic" else "hard"
        let isBare := if isSymbolic then !target.isEmpty && e != .nameTooLong else e = .alreadyExists
        .refuse tree (errand.line ("failed to create " ++ kind ++ " link " ++ quotedName path ++
          (if isBare then "" else arrow) ++ ": " ++ e.message))

/-- Links. A target that stands alone gets one of its own last name here. -/
def ln : Utility := fun errand =>
  errand.withOptions
    (targetOptions ++ [flag 's' ["symbolic"], flag 'r' ["relative"], flag 'L' ["logical"],
      flag 'P' ["physical"], flag 'd' ["directory"], flag 'F' [], flag 'n' ["no-dereference"]])
    fun arguments =>
      let arguments :=
        match arguments.operands, arguments.has "t" with
        | [target], false => { arguments with operands := [target, "."] }
        | _, _ => arguments
      match targetsOf errand arguments with
      | .error effort => effort
      | .ok targets =>
        errand.doEach (fun tree (target, path) => linkOne errand arguments tree target path) targets

end GoldenRun.Machine
