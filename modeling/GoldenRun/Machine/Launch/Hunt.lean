import GoldenRun.Machine.Finding.Expression
import GoldenRun.Machine.Launch.Basic

/-!
# Going through directories

`find` visits the places that it is given and all that is in them, and evaluates its expression for each file: a
directory before what is in it, or behind it if that is asked for. Commands may change the tree meanwhile, so that
a directory is read when it is entered.

* `holds` evaluates a test, and `Hunt.evaluate` an expression.
* `Hunt.visit` visits a place. A link that leads to a directory on the way is told and not followed.
-/

namespace GoldenRun.Machine.Launch

open Shell Finding

/-! ## 1. Tests -/

/-- Links are followed at a depth. -/
def FindPlan.follows (plan : FindPlan) (depth : Nat) : Bool :=
  plan.links = .always || (plan.links = .atFirst && depth = 0)

/-- What a path names: what a link leads to, if that is wanted and there, or else the link. -/
def nodeAt (files : FileTree) (follows : Bool) (path : String) : Except Errno Node :=
  let bytes := ByteText.toBytes path
  match follows, files.find true bytes with
  | true, .ok node => .ok node
  | _, _ => files.find false bytes

/-- An age is as a bound says, which counts in units. -/
def ageHolds (bound : Bound) (unit first age : Nat) : Bool :=
  match bound.rule with
  | .lt => age < bound.value
  | .gt => if first = 0 then bound.value + unit ≤ age else bound.value < age
  | .eq =>
    if first = 0 then bound.value ≤ age && age < bound.value + unit
    else age < bound.value && bound.value ≤ age + unit

/-- A pattern describes a text, whose letters may be made small. -/
def describes (pattern : Pattern) (folded : Bool) (text : String) : Bool :=
  pattern.matchesText (if folded then text.toList.map Char.toLower else text.toList)

/-- A test holds for a file. -/
def holds (plan : FindPlan) (files : FileTree) (file : FoundFile) : FindTest → Bool
  | .always answer => answer
  | .name pattern folded => describes pattern folded file.name
  | .path pattern folded => describes pattern folded file.path
  | .target pattern folded =>
    match file.node with
    | .link target => describes pattern folded (ByteText.ofBytes target)
    | _ => false
  | .regex regex => regex.matchesAll file.path.toList
  | .kind letters otherWay =>
    let node :=
      if otherWay then (nodeAt files (!FindPlan.follows plan file.depth) file.path).toOption.getD file.node
      else file.node
    letters.contains (FoundFile.kindOf node)
  | .empty =>
    match file.node with
    | .file _ content => content.isEmpty
    | .dir _ entries => entries.isEmpty
    | _ => false
  | .size bound unit => bound.admits ((FoundFile.sizeOf file.node + unit - 1) / unit)
  | .age bound unit first =>
    ageHolds bound unit first (files.clock - max Calendar.start (FoundFile.timeOf file.node)).toNat
  | .newerThan moment => moment < FoundFile.timeOf file.node
  | .permission rule onFile onDirectory =>
    let wanted := match file.node with
      | .dir _ _ => onDirectory
      | _ => onFile
    let mode := FoundFile.modeOf file.node
    match rule with
    | .exactly => mode = wanted
    | .all => mode &&& wanted = wanted
    | .any => mode &&& wanted != 0
  | .links bound => bound.admits (FoundFile.linksOf file.node)
  | .owner bound => bound.admits 0
  | .accessible runs =>
    match files.find true (ByteText.toBytes file.path) with
    | .ok (.file attributes _) => !runs || attributes.mode &&& 0o111 != 0
    | .ok _ => true
    | .error _ => false
  | .sameAs location => file.location = location

/-! ## 2. The state of a search -/

/-- Paths that a command is to be started with. -/
structure Collection where
  number : Nat
  command : List String
  /-- The directory in which the command is started. -/
  folder : Option String
  /-- The paths, the newest first. -/
  paths : List String
  deriving DecidableEq, Repr

/-- The state of a search. -/
structure HuntState where
  code : Nat := 0
  /-- Nothing more is visited. -/
  isOver : Bool := false
  /-- A command does not end. -/
  isStuck : Bool := false
  /-- What is in the directory is left out. -/
  isPruned : Bool := false
  collections : List Collection := []

/-- What is done in a search. -/
abbrev Hunt := StateT HuntState Action

namespace Hunt

section

variable (launcher : Launcher) (name : String) (plan : FindPlan)

/-- Tell that something went wrong. -/
def fail (text : String) : Hunt Unit := do
  tell (name ++ ": " ++ text)
  modify fun state => { state with code := 1 }

/-- Do something in a directory. -/
def inFolder {α : Type} (folder : Option String) (action : Hunt α) : Hunt α := do
  let files := (← getSystem).files
  match folder.map fun folder => files.locate true (ByteText.toBytes folder) with
  | some (.ok location) => do
    modifySystem fun system => { system with files := { system.files with current := location } }
    let answer ← action
    modifySystem fun system => { system with files := { system.files with current := files.current } }
    return answer
  | _ => action

/-- Start a command, and whether it succeeded. -/
def start (folder : Option String) (command : List String) : Hunt Bool :=
  inFolder folder do
    let program := command.headD ""
    match ← launch launcher program (command.drop 1) with
    | .ok (.exited status) => return status = 0
    | .ok (.killed _) => return false
    | .ok .running => do
      modify fun state => { state with isOver := true, isStuck := true }
      return false
    | .error cause => do
      tell (name ++ ": " ++ quotedName program ++ ": " ++ cause.message)
      return false

/-- Start a command with the paths that were collected for it. -/
def startCollected (collection : Collection) : Hunt Unit := do
  unless ← start launcher name collection.folder (collection.command ++ collection.paths.reverse) do
    modify fun state => { state with code := 1 }

/-- How many bytes a command is started with at most. -/
def maxBytes : Nat := 131072

/-- Collect a path for a command. The command is started before, if its paths are from another directory or would
    be too many. -/
def collect (number : Nat) (command : List String) (folder : Option String) (path : String) : Hunt Unit := do
  let state ← get
  let fresh : Collection := { number, command, folder, paths := [path] }
  let bytes (words : List String) : Nat := words.foldl (fun n word => n + word.length + 1) 0
  let others := state.collections.filter (·.number != number)
  match state.collections.find? (·.number == number) with
  | some collection =>
    if collection.folder = folder &&
        bytes collection.command + bytes collection.paths + path.length + 1 ≤ maxBytes then
      set { state with
        collections := others ++ [{ collection with paths := path :: collection.paths }] }
    else do
      startCollected launcher name collection
      modify fun state => { state with collections := others ++ [fresh] }
  | none => set { state with collections := others ++ [fresh] }

/-- Write something, to a file if one is given. -/
def put (target : Option String) (text : Bytes) : Hunt Unit := do
  match target with
  | none | some "/dev/stdout" => do
    let _ ← write 1 text
  | some "/dev/stderr" => do
    let _ ← write 2 text
  | some path =>
    modifySystem fun system =>
      let files := system.filesNow
      let bytes := ByteText.toBytes path
      let old := (files.read bytes).toOption.getD []
      match files.write bytes (old ++ text) with
      | .ok files => { system with files }
      | .error _ => system

/-- A line of the input. -/
def readAnswer : Action String := do
  let scene ← get
  match scene.system.source scene.shell.channels with
  | .bytes content => do
    let line := content.takeWhile (· != 0x0A)
    modifySystem fun system =>
      system.setSource scene.shell.channels (.bytes (content.drop (line.length + 1)))
    return ByteText.ofBytes line
  | _ => return ""

/-- Take a file away. -/
def delete (file : FoundFile) : Hunt Bool := do
  let files := (← getSystem).filesNow
  let bytes := ByteText.toBytes file.path
  let change : FileTree.Change :=
    match file.node with
    | .dir _ _ =>
      if (files.find false bytes).toOption.any (!·.entries.isEmpty) then .error .notEmpty
      else files.remove bytes
    | _ => files.remove bytes
  if file.path = "." then return true
  match change with
  | .ok files => do
    modifySystem fun system => { system with files }
    return true
  | .error cause => do
    fail name ("cannot delete " ++ quotedName file.path ++ ": " ++ cause.message)
    return false

/-- Carry out an action for a file, and whether it succeeded. -/
def act (file : FoundFile) (action : FindAction) : Hunt Bool := do
  let inside := "./" ++ file.nameAsGiven
  match action with
  | .print ending target => do
    put target (ByteText.toBytes file.path ++ [ending])
    return true
  | .report parts target => do
    put target (ByteText.toBytes (String.ofList (reportText (← getSystem).files file parts)))
    return true
  | .start command isInside asks => do
    let path := if isInside then inside else file.path
    let filled := command.map fun word =>
      String.ofList (replaceMarker ['\x7b', '\x7d'] path.toList (word.length + 1) word.toList)
    let isWanted ← if asks then do
        let _ ← write 2 (ByteText.toBytes ("< " ++ command.headD "" ++ " ... " ++ file.path ++ " > ? "))
        let answer ← readAnswer
        pure (answer.toList.head?.any fun c => c = 'y' || c = 'Y')
      else pure true
    if isWanted then start launcher name (if isInside then some file.folder else none) filled
    else return false
  | .collect number command isInside => do
    collect launcher name number command (if isInside then some file.folder else none)
      (if isInside then inside else file.path)
    return true
  | .delete => delete name file
  | .prune => do
    modify fun state => { state with isPruned := true }
    return true
  | .quit => do
    modify fun state => { state with isOver := true }
    return true

/-- Evaluate an expression for a file. Nothing is evaluated when the search is over. -/
def evaluate (file : FoundFile) : Expression → Hunt Bool
  | .test test => do
    let system ← getSystem
    return holds plan system.filesNow file test
  | .act action => act launcher name file action
  | .negated finding => return !(← evaluate file finding)
  | .both first second => do
    if ← evaluate file first then
      if (← get).isOver then return false else evaluate file second
    else return false
  | .either first second => do
    let isFirst ← evaluate file first
    if isFirst || (← get).isOver then return true else evaluate file second
  | .list first second => do
    let isFirst ← evaluate file first
    if (← get).isOver then return false
    let isSecond ← evaluate file second
    return if Expression.isSwapped first second then isFirst else isSecond

/-- Visit a place and what is in it. `ways` are the directories on the way, with their paths; `fuel` bounds how
    many they can be. -/
def visit (finding : Expression) :
    (fuel : Nat) → (ways : List (Location × String)) → (depth : Nat) → (origin path : String) → Hunt Unit
  | 0, _, _, _, _ => return
  | fuel + 1, ways, depth, origin, path => do
    if (← get).isOver then return
    let files := (← getSystem).files
    let follows := FindPlan.follows plan depth
    match nodeAt files follows path with
    | .error cause => fail name (quotedName path ++ ": " ++ cause.message)
    | .ok node => do
      let bytes := ByteText.toBytes path
      let location := ((files.locate follows bytes).toOption.or (files.locate false bytes).toOption).getD []
      let file : FoundFile := { path, origin, depth, location, node }
      let isDirectory := match node with
        | .dir _ _ => true
        | _ => false
      match ways.find? fun (way, _) => isDirectory && way = location with
      | some (_, way) =>
        fail name ("File system loop detected; " ++ quotedName path ++
          " is part of the same file system loop as " ++ quotedName way ++ ".")
      | none => do
        modify fun state => { state with isPruned := false }
        if plan.least ≤ depth && !plan.isDeepFirst then
          let _ ← evaluate launcher name plan file finding
        let state ← get
        let isPruned := state.isPruned && !plan.isDeepFirst
        if isDirectory && plan.most.all (depth < ·) && !isPruned && !state.isOver then
          match (← getSystem).files.find follows bytes with
          | .ok (.dir _ entries) =>
            for (entry, _) in entries do
              visit finding fuel ((location, path) :: ways) (depth + 1) origin
                (pathIn path (ByteText.ofBytes entry))
          | .ok _ => fail name (quotedName path ++ ": " ++ Errno.message .notDirectory)
          | .error cause => fail name (quotedName path ++ ": " ++ cause.message)
        if plan.least ≤ depth && plan.isDeepFirst then
          unless (← get).isOver do
            let _ ← evaluate launcher name plan file finding

end

end Hunt

/-! ## 3. The program -/

/-- How many directories may lie in one another. -/
def maxFolders : Nat := 4096

/-- Make the files that are written to empty; the first one that cannot be written is the answer. -/
def clearTargets : List String → Action (Option (String × Errno))
  | [] => return none
  | path :: rest => do
    let files := (← getSystem).filesNow
    if path = "/dev/stdout" || path = "/dev/stderr" then clearTargets rest
    else
      match files.write (ByteText.toBytes path) [] with
      | .error cause => return some (path, cause)
      | .ok files => do
        modifySystem fun system => { system with files }
        clearTargets rest

/-- Go through directories. -/
def runHunt (launcher : Launcher) (name : String) (args : List String) : Action Ending := do
  match readPlan { tree := (← getSystem).files } args with
  | .error lines => do
    for line in lines do tell (name ++ ": " ++ line)
    return .exited 1
  | .ok (plan, finding) => do
    for line in plan.warnings do tell (name ++ ": " ++ line)
    match ← clearTargets plan.targets with
    | some (path, cause) => do
      tell (name ++ ": " ++ quotedName path ++ ": " ++ cause.message)
      return .exited 1
    | none => do
      let hunt : Hunt Unit := do
        for origin in plan.origins do
          Hunt.visit launcher name plan finding maxFolders [] 0 origin origin
        for collection in (← get).collections do
          Hunt.startCollected launcher name collection
      let (_, state) ← hunt.run {}
      return if state.isStuck then .running else .exited state.code

end GoldenRun.Machine.Launch
