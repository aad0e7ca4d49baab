import GoldenRun.Machine.Utility.Content
import GoldenRun.Machine.Utility.Deed

/-!
# Places and surroundings

Utilities that tell where something is: the current directory (`pwd`), what a link holds (`readlink`), a path
without links (`realpath`); and utilities that tell what a program finds around it: variables (`printenv`), the
user (`whoami`, `id`, `groups`), the system (`uname`, `arch`) and the terminal (`tty`).

* `canonical` follows a path from the root on. What need not be there is said by a `PathRule`.
* `relativePath` leads from a directory to another place by steps back and forth.
-/

namespace GoldenRun.Machine

/-! ## 1. Paths without links -/

/-- The path of a location. -/
def pathOf (location : Location) : String :=
  if location.isEmpty then "/"
  else ByteText.ofBytes (location.flatMap fun name => Path.slash :: name)

/-- The current directory as a new program calls it, if its surroundings give it a name. -/
def directoryOf (files : FileTree) (given : Option String) : String :=
  match given with
  | some path =>
    match files.locate true (ByteText.toBytes path) with
    | .ok location =>
      if location = files.current && path.toList.head? = some '/' then path else pathOf files.current
    | .error _ => pathOf files.current
  | none => pathOf files.current

/-- What of a path has to be there. -/
inductive PathRule where
  | all
  | allButLast
  | nothing
  deriving DecidableEq, Repr

/-- What follows a name makes it a directory: slashes at the end of the path, or a step to the directory itself
    or back. -/
def wantsDirectory : List Bytes → Bool
  | [] => false
  | segment :: rest =>
    if Path.isIdle segment then rest.isEmpty || wantsDirectory rest else segment = Path.dotDot

/-- Why a place cannot be on a path, if it cannot; links are followed. -/
def placeFault (tree : FileTree) (place : Location) (isDirectory : Bool) : Option Errno :=
  match tree.find true (ByteText.toBytes (pathOf place)) with
  | .ok (.dir _ _) => none
  | .ok _ => if isDirectory then some .notDirectory else none
  | .error cause => some cause

/-- Where segments lead from a location. What lies behind a link is found by `follow`; without one, links are
    kept, and only the last place is looked at. -/
def canonicalFrom (tree : FileTree) (rule : PathRule)
    (follow : Option (Location → List Bytes → Except Errno Location)) (here : Location) :
    List Bytes → Except Errno Location
  | [] => .ok here
  | segment :: rest =>
    if Path.isIdle segment then canonicalFrom tree rule follow here rest
    else if segment = Path.dotDot then canonicalFrom tree rule follow here.dropLast rest
    else
      let place := here ++ [segment]
      match follow, tree.find false (ByteText.toBytes (pathOf place)) with
      | some follow, .ok (.link target) =>
        follow (if Path.isAbsolute target then [] else here) (Path.segments target ++ rest)
      | _, _ =>
        let isDirectory := wantsDirectory rest
        let isOnWay := follow.isNone && !rest.isEmpty && !isDirectory
        match if isOnWay then none else placeFault tree place isDirectory, rule with
        | none, _ | some _, .nothing => canonicalFrom tree rule follow place rest
        | some cause, .allButLast =>
          if cause = .notFound && rest.all (·.isEmpty) then canonicalFrom tree rule follow place rest
          else .error cause
        | some cause, .all => .error cause

/-- Where segments lead if at most `links` links are followed. If nothing has to be there, links that lead in a
    circle are kept. -/
def canonicalWithin (tree : FileTree) (rule : PathRule) :
    (links : Nat) → Location → List Bytes → Except Errno Location
  | 0 =>
    canonicalFrom tree rule
      (if rule = .nothing then none else some fun _ _ => .error .tooManyLinks)
  | links + 1 => canonicalFrom tree rule (some (canonicalWithin tree rule links))

/-- The location that a path leads to. -/
def canonical (tree : FileTree) (rule : PathRule) (follows : Bool) (path : String) :
    Except Errno Location :=
  let bytes := ByteText.toBytes path
  let here := if Path.isAbsolute bytes then [] else tree.current
  if path.isEmpty then .error .notFound
  else if follows then canonicalWithin tree rule FileTree.maxLinks here (Path.segments bytes)
  else canonicalFrom tree rule none here (Path.segments bytes)

/-- How many names two locations begin with alike. -/
def commonLength : Location → Location → Nat
  | a :: as, b :: bs => if a = b then commonLength as bs + 1 else 0
  | _, _ => 0

/-- The way from a directory to another place. -/
def relativePath (directory place : Location) : String :=
  let common := commonLength directory place
  let steps := List.replicate (directory.length - common) Path.dotDot ++ place.drop common
  if steps.isEmpty then "." else ByteText.ofBytes (List.intercalate [Path.slash] steps)

/-! ## 2. Links and paths told -/

/-- The path that a link holds, or with an option the path without links. -/
def readlink : Utility := fun errand =>
  errand.withOptions
    [flag 'f' ["canonicalize"], flag 'e' ["canonicalize-existing"], flag 'm' ["canonicalize-missing"],
      flag 'n' ["no-newline"], flag 'q' ["quiet"], flag 's' ["silent"], flag 'v' ["verbose"],
      flag 'z' ["zero"]] fun arguments =>
    let rule := (arguments.options.filterMap fun (key, _) =>
      match key with
      | "f" => some PathRule.allButLast
      | "e" => some PathRule.all
      | "m" => some PathRule.nothing
      | _ => none).getLast?
    let isLoud := (arguments.options.filterMap fun (key, _) =>
      if key = "v" then some true else if key = "q" || key = "s" then some false else none).getLast? = some true
    let several := arguments.operands.length > 1
    let ending := if arguments.has "n" && !several then "" else if arguments.has "z" then "\x00" else "\n"
    let told (path : String) : Except Errno String :=
      match rule with
      | some rule => (canonical errand.files rule true path).map pathOf
      | none =>
        match errand.files.find false (ByteText.toBytes path) with
        | .ok (.link target) => .ok (ByteText.ofBytes target)
        | .ok _ => .error .invalidArgument
        | .error cause => .error cause
    if arguments.operands.isEmpty then errand.misused "missing operand"
    else
      let warning :=
        if arguments.has "n" && several then
          [(Outlet.err, ByteText.toBytes (errand.line "ignoring --no-newline with multiple arguments"))]
        else []
      let answers := arguments.operands.map fun path => (path, told path)
      errand.finish (if answers.any fun a => a.2.toOption.isNone then 1 else 0)
        (warning ++ answers.flatMap fun (path, answer) =>
          match answer with
          | .ok text => [(.out, ByteText.toBytes (text ++ ending))]
          | .error cause =>
            if isLoud then [(.err, ByteText.toBytes (errand.refusal path cause))] else [])

/-- How `realpath` is to tell paths. -/
structure PathOrder where
  rule : PathRule := .allButLast
  /-- Steps back are taken before links are followed. -/
  isLogical : Bool := false
  follows : Bool := true
  isQuiet : Bool := false
  zero : Bool := false
  /-- Paths are told from this directory. -/
  relativeTo : Option String := none
  /-- Only paths below this directory are told so. -/
  relativeBase : Option String := none
  deriving DecidableEq, Repr

/-- The order with one more option. -/
def PathOrder.withOption (order : PathOrder) : String × String → Except Trouble PathOrder
  | ("e", _) => .ok { order with rule := .all }
  | ("m", _) => .ok { order with rule := .nothing }
  | ("L", _) => .ok { order with isLogical := true, follows := false }
  | ("P", _) => .ok { order with isLogical := false, follows := true }
  | ("s", _) => .ok { order with isLogical := false, follows := false }
  | ("q", _) => .ok { order with isQuiet := true }
  | ("z", _) => .ok { order with zero := true }
  | ("relative-to", path) => .ok { order with relativeTo := some path }
  | ("relative-base", path) => .ok { order with relativeBase := some path }
  | _ => .ok order

/-- The location that a path leads to under an order. -/
def PathOrder.locate (order : PathOrder) (tree : FileTree) (path : String) : Except Errno Location := do
  let location ← canonical tree order.rule order.follows path
  if order.isLogical then canonical tree order.rule true (pathOf location) else return location

/-- A directory that paths are told from. -/
def PathOrder.directory (order : PathOrder) (tree : FileTree) (path : String) :
    Except (String × Errno) Location :=
  match order.locate tree path with
  | .error cause => .error (path, cause)
  | .ok location =>
    match order.rule, tree.at? location with
    | .all, some (.dir _ _) => .ok location
    | .all, _ => .error (path, .notDirectory)
    | _, _ => .ok location

/-- The directories that paths are told from and below which they have to be. -/
def PathOrder.directories (order : PathOrder) (tree : FileTree) :
    Except (String × Errno) (Option Location × Option Location) := do
  match order.relativeTo, order.relativeBase with
  | none, none => return (none, none)
  | some path, none => return (some (← order.directory tree path), none)
  | none, some path =>
    let base ← order.directory tree path
    return (some base, some base)
  | some path, some basePath =>
    let directory ← order.directory tree path
    let base ← order.directory tree basePath
    return if base.isPrefixOf directory then (some directory, some base) else (none, none)

/-- Paths without links. -/
def realpath : Utility := fun errand =>
  let arguments := readOptions
    [flag 'e' ["canonicalize-existing"], flag 'm' ["canonicalize-missing"], flag 'L' ["logical"],
      flag 'P' ["physical"], flag 's' ["strip", "no-symlinks"], flag 'q' ["quiet"], flag 'z' ["zero"],
      long "relative-to" .always, long "relative-base" .always] true errand.args
  errand.foldOptions 1 arguments ({} : PathOrder) PathOrder.withOption fun order =>
    if arguments.operands.isEmpty then errand.misused "missing operand"
    else
      match order.directories errand.files with
      | .error (path, cause) => errand.complain 1 (errand.refusal path cause)
      | .ok (directory, base) =>
        let shown (location : Location) : String :=
          match directory with
          | none => pathOf location
          | some directory =>
            if base.all (·.isPrefixOf location) then relativePath directory location else pathOf location
        let answers := arguments.operands.map fun path => (path, order.locate errand.files path)
        errand.finish (if answers.any fun a => a.2.toOption.isNone then 1 else 0)
          (answers.flatMap fun (path, answer) =>
            match answer with
            | .ok location =>
              [(.out, ByteText.toBytes (shown location ++ if order.zero then "\x00" else "\n"))]
            | .error cause =>
              if order.isQuiet then [] else [(.err, ByteText.toBytes (errand.refusal path cause))])

/-- The current directory. -/
def pwd : Utility := fun errand =>
  errand.withOptions [flag 'L' ["logical"], flag 'P' ["physical"]] fun arguments =>
    let isLogical := (arguments.options.getLast?.map Prod.fst) = some "L"
    let path :=
      if isLogical then directoryOf errand.files (errand.environment.lookup "PWD")
      else pathOf errand.files.current
    let warning :=
      if arguments.operands.isEmpty then []
      else [(Outlet.err, ByteText.toBytes (errand.line "ignoring non-option arguments"))]
    errand.finish 0 (warning ++ [(.out, ByteText.toBytes (path ++ "\n"))])

/-! ## 3. Surroundings -/

/-- Variables. -/
def printenv : Utility := fun errand =>
  let arguments := readOptions [flag '0' ["null"]] false errand.args
  match arguments.fault with
  | some fault => { errand.misused fault.message with code := 2 }
  | none =>
    let ending := if arguments.has "0" then "\x00" else "\n"
    let put (texts : List String) : List (Outlet × Bytes) :=
      [(.out, ByteText.toBytes (String.join (texts.map (· ++ ending))))]
    if arguments.operands.isEmpty then
      errand.finish 0 (put (errand.environment.map fun (name, value) => name ++ "=" ++ value))
    else
      let found := arguments.operands.filterMap fun name => errand.environment.lookup name
      errand.finish (if found.length = arguments.operands.length then 0 else 1) (put found)

/-- An errand without operands that says a line. -/
def Errand.tell (errand : Errand) (text : String) : Effort :=
  errand.withOptions [] fun arguments =>
    match arguments.operands with
    | [] => errand.say (text ++ "\n")
    | extra :: _ => errand.misused ("extra operand " ++ quotedWord extra)

/-- The name of the user. -/
def whoami : Utility := fun errand => errand.tell "root"

/-- The architecture of the machine. -/
def arch : Utility := fun errand => errand.tell "x86_64"

/-- The name by which the user came in; there is none. -/
def logname : Utility := fun errand =>
  let effort := errand.tell ""
  if effort.code = 0 then errand.complain 1 (errand.line "no login name") else effort

/-- The terminal; there is none. -/
def tty : Utility := fun errand =>
  let arguments := readOptions [flag 's' ["silent", "quiet"]] true errand.args
  match arguments.fault, arguments.operands with
  | some fault, _ => { errand.misused fault.message with code := 2 }
  | none, extra :: _ => { errand.misused ("extra operand " ++ quotedWord extra) with code := 2 }
  | none, [] =>
    errand.finish 1 (if arguments.has "s" then [] else [(.out, ByteText.toBytes "not a tty\n")])

/-- What is known of the system: the letter that asks for it, its long names, and the text. -/
def systemFacts : List (Char × List String × String) :=
  [('s', ["kernel-name", "sysname"], "Linux"), ('n', ["nodename"], "localhost"),
    ('r', ["kernel-release", "release"], "6.1.0"), ('v', ["kernel-version"], "#1 SMP"),
    ('m', ["machine"], "x86_64"), ('p', ["processor"], "unknown"), ('i', ["hardware-platform"], "unknown"),
    ('o', ["operating-system"], "GNU/Linux")]

/-- Facts about the system. -/
def uname : Utility := fun errand =>
  errand.withOptions (flag 'a' ["all"] :: systemFacts.map fun (letter, names, _) => flag letter names)
    fun arguments =>
      match arguments.operands with
      | extra :: _ => errand.misused ("extra operand " ++ quotedWord extra)
      | [] =>
        let asked := systemFacts.filter fun (letter, _, text) =>
          if arguments.has "a" then text != "unknown"
          else arguments.has (String.singleton letter) || (arguments.options.isEmpty && letter = 's')
        errand.say (spaced (asked.map (·.2.2)) ++ "\n")

/-- The user and the groups; there is one user, and one group. -/
def idUtility : Utility := fun errand =>
  errand.withOptions
    [flag 'a' [], flag 'u' ["user"], flag 'g' ["group"], flag 'G' ["groups"], flag 'n' ["name"],
      flag 'r' ["real"], flag 'z' ["zero"], flag 'Z' ["context"]] fun arguments =>
    let chosen := "ugG".toList.filter fun letter => arguments.has (String.singleton letter)
    let isStranger (user : String) : Bool := user != "root" && decimal? user != some 0
    if arguments.has "Z" then
      errand.complain 1 (errand.line "--context (-Z) works only on an SELinux-enabled kernel")
    else if chosen.length > 1 then
      errand.complain 1 (errand.line "cannot print \"only\" of more than one choice")
    else if chosen.isEmpty && arguments.hasAny "nr" then
      errand.complain 1 (errand.line "cannot print only names or real IDs in default format")
    else if chosen.isEmpty && arguments.has "z" then
      errand.complain 1 (errand.line "option --zero not permitted in default format")
    else
      let text := if chosen.isEmpty then "uid=0(root) gid=0(root) groups=0(root)"
        else if arguments.has "n" then "root" else "0"
      let ending := if arguments.has "z" then "\x00" else "\n"
      let users := arguments.operands
      errand.finish (if users.any isStranger then 1 else 0)
        (if users.isEmpty then [(.out, ByteText.toBytes (text ++ ending))]
        else users.map fun user =>
          if isStranger user then
            (.err, ByteText.toBytes (errand.line (quotedWord user ++ ": no such user")))
          else (.out, ByteText.toBytes (text ++ ending)))

/-- The groups of users. -/
def groups : Utility := fun errand =>
  errand.withOptions [] fun arguments =>
    let users := arguments.operands
    if users.isEmpty then errand.say "root\n"
    else
      errand.finish (if users.any (· != "root") then 1 else 0)
        (users.map fun user =>
          if user = "root" then (.out, ByteText.toBytes "root : root\n")
          else (.err, ByteText.toBytes (errand.line (quotedWord user ++ ": no such user"))))

end GoldenRun.Machine
