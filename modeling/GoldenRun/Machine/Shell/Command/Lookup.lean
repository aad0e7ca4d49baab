import GoldenRun.Machine.Shell.Command.Basic

/-!
# What a name stands for

A shell looks for a name among its functions, its own commands and at last the programs in the directories
of `PATH`. It remembers where it found a program.

* `meaningOf` finds out what is to be carried out for a name, and `describe` tells about it;
* `hash`, `type` and the limits of `ulimit` are the commands that do no more than tell.
-/

namespace GoldenRun.Machine.Shell

/-! ## 1. Names of commands -/

/-- What is carried out for a name. -/
inductive Meaning where
  | function (body : Statement)
  | special
  | plain
  | program (path : String)
  | unknown (cause : Errno)

/-- What a name stands for, functions left out if that is asked for. -/
def meaningOf (shell : State) (tree : FileTree) (withFunctions : Bool) (searchPath name : String) :
    Meaning :=
  match if withFunctions then shell.functions.lookup name else none with
  | some body => .function body
  | none =>
    if specialCommands.contains name then .special
    else if plainCommands.contains name then .plain
    else if name.toList.contains '/' then .program name
    else
      match System.programPath tree searchPath name with
      | .ok path => .program path
      | .error cause => .unknown cause

/-- The words for a program that is not found. -/
def notFoundWords (name : String) (cause : Errno) : String :=
  name ++ ": " ++
    (if name.isEmpty then "Permission denied"
    else if cause = .notFound || cause = .notDirectory then "not found"
    else cause.message)

/-- Remember where a program is. -/
def remember (name path : String) : Action Unit :=
  modifyShell fun shell =>
    if (shell.known.lookup name).isSome then shell
    else { shell with known := shell.known ++ [(name, path)] }

/-- Tell what a name stands for, at length or so that it can be used; the answer is the status. -/
def describe (atLength : Bool) (searchPath name : String) : Action Nat := do
  let scene ← get
  let shell := scene.shell
  let told (long short : String) : Action Nat := do
    say ((if atLength then name ++ " is " ++ long else short) ++ "\n")
    return 0
  if reservedWords.contains name then told "a shell keyword" name
  else
    match shell.aliases.lookup name with
    | some value =>
      told ("an alias for " ++ value) ("alias " ++ assignmentText name (some value))
    | none =>
      match meaningOf shell scene.system.files true searchPath name with
      | .function _ => told "a shell function" name
      | .special => told "a special shell builtin" name
      | .plain => told "a shell builtin" name
      | .program path =>
        if scene.system.files.exists? (ByteText.toBytes path) then do
          unless name.toList.contains '/' || searchPath != shell.searchPath do remember name path
          told ((if (shell.known.lookup name).isSome then "a tracked alias for " else "") ++ path) path
        else missing
      | .unknown _ => missing
where
  missing : Action Nat := do
    if atLength then say (name ++ ": not found\n")
    return 127

/-- `type`. -/
def describeAll (args : List String) : Action Flow := do
  let (_, args) ← takeOptions "" "" args
  let mut status := 0
  for name in args do
    status := max status (← describe true (← getShell).searchPath name)
  ended status

/-- `hash`. -/
def hash (args : List String) : Action Flow := do
  let (options, args) ← takeOptions "r" "" args
  if !options.isEmpty then do
    modifyShell fun shell => { shell with known := [] }
    ended 0
  else do
    if args.isEmpty then
      for (_, path) in byBucket 31 Prod.fst (← getShell).known do say (path ++ "\n")
    let mut status := 0
    for name in args do
      let scene ← get
      match meaningOf scene.shell scene.system.files true scene.shell.searchPath name with
      | .program path => unless name.toList.contains '/' do remember name path
      | .unknown cause =>
        complain (notFoundWords name cause)
        status := 1
      | _ => pure ()
    ended status

/-! ## 2. Limits and times -/

/-- The limits of a process: letters, names, units and values. -/
def limits : List (Char × String × String × String) :=
  [('t', "time", "seconds", "unlimited"), ('f', "file", "blocks", "unlimited"),
    ('d', "data", "kbytes", "unlimited"), ('s', "stack", "kbytes", "8192"),
    ('c', "coredump", "blocks", "0"), ('m', "memory", "kbytes", "unlimited"),
    ('l', "locked memory", "kbytes", "8192"), ('p', "process", "", "unlimited"),
    ('n', "nofiles", "", "1024"), ('v', "vmemory", "kbytes", "unlimited"),
    ('w', "locks", "", "unlimited"), ('r', "rtprio", "", "0")]

/-- `ulimit`. Limits are shown; those that are set have no effect. -/
def showLimit (args : List String) : Action Flow := do
  let (options, args) ← takeOptions "HSatfdscmlpnvwr" "" args
  let letters := (options.map Prod.fst).filter fun c => c != 'H' && c != 'S'
  if letters.contains 'a' then
    for (_, name, unit, value) in limits do
      let place := name ++ (if unit.isEmpty then "" else "(" ++ unit ++ ")")
      say (place ++ String.ofList (List.replicate (20 - place.length) (Char.ofNat 32)) ++ " " ++ value ++ "\n")
  else
    match args, limits.lookup (letters.getLast?.getD 'f') with
    | [], some (_, _, value) => say (value ++ "\n")
    | _ :: _ :: _, _ => refuse "too many arguments"
    | [arg], _ =>
      unless arg = "unlimited" || arg.toList.all Char.isDigit do refuse "bad number"
    | _, none => pure ()
  ended 0

/-- `times`. -/
def showTimes : Action Flow := do
  say "0m0.000000s 0m0.000000s\n0m0.000000s 0m0.000000s\n"
  ended 0

end GoldenRun.Machine.Shell
