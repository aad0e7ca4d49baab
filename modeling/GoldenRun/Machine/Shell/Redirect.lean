import GoldenRun.Machine.Shell.Expansion

/-!
# Redirections

A redirection gives a stream number of the shell another channel, or closes it. The words behind all
redirections of a command are expanded first. Then they are made from the left, and the first that fails
is told; those behind it are not made.
-/

namespace GoldenRun.Machine.Shell

/-- The channels with another one, or none, at a number. -/
def setChannel (channels : Channels) (number : Nat) (channel : Option Channel) : Channels :=
  let rest := channels.filter (·.1 != number)
  match channel with
  | some channel => (number, channel) :: rest
  | none => rest

/-- Why a path could not be opened, in the shell's words. -/
def openingFault (create : Bool) (path : String) (cause : Errno) : String :=
  let reason :=
    if cause = .notFound || cause = .notDirectory then
      (if create then "Directory nonexistent" else "No such file")
    else cause.message
  (if create then "cannot create " else "cannot open ") ++ path ++ ": " ++ reason

/-- The number of the stream that a path stands for. -/
def streamAt? (path : String) : Option Nat :=
  match path with
  | "/dev/stdin" => some 0
  | "/dev/stdout" => some 1
  | "/dev/stderr" => some 2
  | _ => (after? "/dev/fd/" path <|> after? "/proc/self/fd/" path).bind decimal?

/-- What becomes of a file that is opened to be written. -/
inductive OpenMode where
  /-- It is emptied. -/
  | overwrite
  /-- It is emptied, but a file that has been there already is refused. -/
  | create
  /-- What is written comes to its end. -/
  | append
  /-- It stays as it is. -/
  | update
  deriving DecidableEq, Repr

/-- The location of the file at a path, emptied or made if need be. -/
def openForWriting (tree : FileTree) (path : String) (mode : OpenMode) :
    Except Errno (Location × FileTree) := do
  let location ← tree.locateFile (ByteText.toBytes path)
  match tree.at? location, mode with
  | some (.device _), _ => return (location, tree)
  | some (.file _ _), .create => .error .alreadyExists
  | some (.file _ content), .append | some (.file _ content), .update =>
    return (location, ← tree.writeAt location content)
  | _, _ => return (location, ← tree.writeAt location [])

/-- The channel that a redirection opens, or the words for its failure. -/
def openChannel (redirection : Redirection) (target : String) :
    Action (Except String (Option Channel)) := do
  let scene ← get
  let opened (mode : OpenMode) (readable : Bool) : Action (Except String (Option Channel)) := do
    match openForWriting scene.system.filesNow target mode with
    | .ok (location, files) =>
      let (channel, system) := { scene.system with files := files }.addFile
        { location, readable, writable := true, appends := mode = OpenMode.append }
      set { scene with system := system }
      return .ok (some channel)
    | .error e => return .error (openingFault true target e)
  let reading (source : Source) : Action (Except String (Option Channel)) := do
    let (channel, system) := scene.system.addReader source
    set { scene with system := system }
    return .ok (some channel)
  let isPath := match redirection with
    | .document | .duplicate _ => false
    | _ => true
  match redirection, (if isPath then streamAt? target else none).bind fun n => scene.shell.channels.lookup n with
  | _, some channel => return .ok (some channel)
  | .input, _ =>
    let path := ByteText.toBytes target
    match Source.ofPath scene.system.files target, scene.system.files.locate true path with
    | .ok (.bytes content), .ok location =>
      if scene.system.files.isFile path then
        let (channel, system) := scene.system.addFile { location, readable := true }
        set { scene with system := system }
        return .ok (some channel)
      else reading (.bytes content)
    | .ok source, _ => reading source
    | .error e, _ =>
      if e = .isDirectory then reading (.refusing e)
      else return .error (openingFault false target e)
  | .document, _ => reading (.bytes (ByteText.toBytes target))
  | .both, _ => opened .update true
  | .output, _ => opened (if scene.shell.has "noclobber" then .create else .overwrite) false
  | .overwrite, _ => opened .overwrite false
  | .append, _ => opened .append false
  | .duplicate _, _ =>
    if target = "-" then return .ok none
    else
      match (decimal? target).bind fun n => scene.shell.channels.lookup n with
      | some channel => return .ok (some channel)
      | none => return .error (target ++ ": Bad file descriptor")

/-- The redirections with their words expanded. -/
def expandTargets (expand : Word → Action String) :
    List Redirect → Action (List (Nat × Redirection × String))
  | [] => return []
  | (number, redirection, word) :: rest => do
    let target ← expand word
    match redirection with
    | .duplicate _ =>
      unless target = "-" || (target.length = 1 && target.toList.all Char.isDigit) do
        refuse "Syntax error: Bad fd number"
    | _ => pure ()
    return (number, redirection, target) :: (← expandTargets expand rest)

/-- Make redirections; the answer says whether all could be made. -/
def redirectAll : List (Nat × Redirection × String) → Action Bool
  | [] => return true
  | (number, redirection, target) :: rest => do
    match ← openChannel redirection target with
    | .ok channel =>
      modifyShell fun shell => { shell with channels := setChannel shell.channels number channel }
      redirectAll rest
    | .error reason =>
      complain reason
      setStatus 2
      return false

/-- Do something with redirections made, or something else after they failed; afterwards the channels are
    what they were. -/
def withRedirects (expand : Word → Action String) (redirects : List Redirect)
    (failed action : Action Flow) : Action Flow := do
  let before := (← getShell).channels
  let targets ← expandTargets expand redirects
  andFinally (do if ← redirectAll targets then action else failed)
    (modifyShell fun shell => { shell with channels := before })

end GoldenRun.Machine.Shell
