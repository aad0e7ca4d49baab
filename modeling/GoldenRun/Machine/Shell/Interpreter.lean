import GoldenRun.Machine.Launch.Batches
import GoldenRun.Machine.Launch.Hunt
import GoldenRun.Machine.Launch.Limits
import GoldenRun.Machine.Shell.Command.Directory
import GoldenRun.Machine.Shell.Command.Lookup
import GoldenRun.Machine.Shell.Command.Signal
import GoldenRun.Machine.Shell.Command.Utility
import GoldenRun.Machine.Shell.Command.Variable
import GoldenRun.Machine.Shell.Environment

/-!
# Carrying out shell scripts

`Interpreter.run` carries out one statement. It calls itself through `fuel`, which bounds how deep
statements, functions, scripts and programs lie in one another; loops have a bound of their own. What is
too deep or goes round too often counts as never ending.

* Time passes in sleeps only, and the clock of a job is its own.
* A subshell changes the machine but not the shell.
* The status of a pipeline is that of its last stage.
* A script is read line by line, so that what a line does counts for how the next one is read.
-/

namespace GoldenRun.Machine.Shell.Interpreter

/-- How often a loop may go round. -/
def maxRounds : Nat := 100000

/-- How a body leads on inside a loop: out of it, or to the next round. -/
def loopFlow : Flow → Option Flow
  | .next => none
  | .breakOut (n + 2) => some (.breakOut (n + 1))
  | .breakOut _ => some .next
  | .nextRound (n + 2) => some (.nextRound (n + 1))
  | .nextRound _ => none
  | flow => some flow

/-- What the interpreter of smaller things offers. -/
structure Means where
  /-- Carry out a statement. -/
  run : Statement → Action Flow

/-- Do something behind which the shell goes on. -/
def withoutYield {α : Type} (action : Action α) : Action α := do
  let before := (← getShell).yields
  modifyShell fun shell => { shell with yields := false }
  andFinally action (modifyShell fun shell => { shell with yields := before })

section

variable (means : Means)

/-! ## 1. Sequences -/

/-- Statements one after the other. -/
def runAll : List Statement → Action Flow
  | [] => return .next
  | [statement] => means.run statement
  | statement :: rest => do
    match ← withoutYield (means.run statement) with
    | .next => runAll rest
    | flow => return flow

/-- How a script is carried out. -/
structure ScriptRule where
  /-- Its lines are shown when they are read, if the shell does that. -/
  echoes : Bool := false

/-- A script from a cursor on, of which the given lines were not read yet. Its status is 0 if it holds no
    command. `steps` bounds the number of lines. -/
def runScriptFrom (rule : ScriptRule) :
    (steps : Nat) → (isEmpty : Bool) → (lines : List (List Char)) → Cursor → Action Flow
  | 0, _, _, _ => return .running
  | steps + 1, isEmpty, lines, cursor => do
    let shell ← getShell
    let show_ (count : Nat) : Action Unit := do
      if rule.echoes && shell.has "verbose" then
        for line in lines.take count do tell (String.ofList line)
    match nextCommand? { cursor with aliases := shell.aliases } with
    | .error (fault, line) => do
      show_ (line + 1 - cursor.line)
      modifyShell fun shell => { shell with line }
      refuse fault.message
    | .ok (none, _) => do
      show_ lines.length
      if isEmpty then setStatus 0
      return .next
    | .ok (some commands, behind) => do
      let isLast := behind.rest.isEmpty && behind.token.isSome
      let count := if isLast then lines.length else behind.line - cursor.line
      show_ count
      let flow ← if shell.has "noexec" then pure .next else runAll means commands
      match flow with
      | .next =>
        runScriptFrom rule steps (isEmpty && commands.isEmpty) (lines.drop count) behind
      | flow => return flow

/-- A whole script. -/
def runScript (rule : ScriptRule) (text : String) : Action Flow :=
  let lines := cut (· = '\n') text.toList
  let lines := if lines.getLast? = some [] then lines.dropLast else lines
  runScriptFrom means rule (text.length + 2) true lines (Cursor.ofText text)

/-- What is to be done at a signal, in a shell whose status stays what it is unless it is left. -/
def runTrap (action : String) : Action Flow := do
  let status := (← getShell).status
  match ← runScript means {} action with
  | .next => do
    setStatus status
    return .next
  | flow => return flow

/-- What is to be done at signals, in order. -/
def runTraps (traps : List (Nat × String)) : List Nat → Action Flow
  | [] => return .next
  | signal :: rest => do
    match ← runTrap means ((traps.lookup signal).getD "") with
    | .next => runTraps traps rest
    | flow => return flow

/-- What is to be done at the signals that came. -/
def runPending : Action Flow := do
  let shell ← getShell
  if shell.pending.isEmpty || shell.outerTraps.isSome then return .next
  modifyShell fun shell => { shell with pending := [] }
  runTraps means shell.traps shell.pending

/-- The end of a shell: what is to be done then is done unless a signal ends it. -/
def leave (flow : Flow) : Action Flow := do
  match flow, (← getShell).traps.lookup 0 with
  | .killed _, _ | .running, _ | _, none => return flow
  | _, some action => do
    modifyShell fun shell => { shell with traps := [] }
    match ← settled (runTrap means action) with
    | .next => return .exit
    | flow => return flow

/-- Do something in a shell of its own that begins like this one, and where signals do what they do
    without any care. The answer tells how it ended, with its status. -/
def forked (action : Action Flow) : Action (Flow × Nat) :=
  inSubshell do
    modifyShell fun shell =>
      { shell with
        traps := shell.traps.filter (·.2.isEmpty)
        outerTraps := some (shell.outerTraps.getD shell.traps)
        pending := [] }
    let flow ← settled action
    let flow ← leave means flow
    return (flow, (← getShell).status)

/-- A script in a shell of its own that ends like a process. -/
def runProcess (shell : State) (rule : ScriptRule) (text : String) : Action Ending :=
  inSubshell do
    modifyShell fun _ => shell
    let flow ← settled (runScript means rule text)
    let flow ← leave means flow
    return flow.ending (← getShell).status

/-- What something in a subshell writes to its first stream, with the flow of its end. One that writes
    over and over goes on until nobody reads that any more. -/
def capture (action : Action Flow) : Action (Source × Flow) := do
  let (stream, system) := (← getSystem).take
  modifySystem fun _ => system
  let (flow, status) ← forked means do
    modifyShell fun shell =>
      { shell with channels := setChannel shell.channels 1 (some (.stream stream)) }
    action
  let system ← getSystem
  let source := system.sourceOf stream
  let flow : Flow :=
    match flow, source, system.waitUntil? (system.heldUntil stream) with
    | .killed signal, _, _ => .killed signal
    | .running, .cycle _, _ => .next
    | .running, _, _ | _, _, none => .running
    | _, _, some _ => .next
  modifySystem fun system =>
    ((system.waitUntil? (system.heldUntil stream)).getD system).forget stream
  setStatus status
  return (source, flow)

/-- The output of commands, for an expansion. -/
def substitute (commands : List Statement) : Action Bytes := do
  let before := (← getShell).status
  let (source, _) ← capture means (asCondition (withoutYield (runAll means commands)) false)
  modifyShell fun shell =>
    { shell with
      status := before, substituted := some (if commands.isEmpty then 0 else shell.status) }
  return source.all?.getD []

/-! ## 2. Pipelines and jobs -/

/-- Stages, each reading what the one in front of it wrote. -/
def runStages : List Statement → Action Flow
  | [] => return .next
  | [statement] => do
    let (flow, status) ← forked means (means.run statement)
    setStatus status
    match flow with
    | .killed _ | .running => return flow
    | _ => return .next
  | statement :: rest => do
    let (source, flow) ← capture means (means.run statement)
    match flow with
    | .killed _ | .running => return flow
    | _ => do
      let (channel, system) := (← getSystem).addReader source
      modifySystem fun _ => system
      let channels := (← getShell).channels
      withChannels (setChannel channels 0 (some channel)) (runStages rest)

/-- The first place that no job has. -/
def freePlace (jobs : List (Nat × Nat)) : Nat :=
  ((List.range (jobs.length + 1)).find? fun n => !jobs.any (·.1 == n + 1)).getD 0 + 1

/-- A job: it is carried out at once, but its time is its own. -/
def runJob (statement : Statement) : Action Flow := do
  let (number, system) := (← getSystem).take
  let before := system
  let (channel, system) := system.addReader (.bytes [])
  modifySystem fun _ => { system with deadline := none }
  let channels := (← getShell).channels
  let (flow, status) ← withChannels (setChannel channels 0 (some channel)) <|
    forked means <| asCondition (do
      modifyShell fun shell => { shell with yields := true }
      means.run statement) false
  let ending := flow.ending status
  let held := channels.filterMap fun (_, channel) => match channel with
    | .stream stream => some (stream, number)
    | _ => none
  modifySystem fun system =>
    let ends := if ending = .running then never else system.now
    { system with
      now := before.now
      deadline := before.deadline
      jobs := ⟨number, ends, ending⟩ :: system.jobs
      holds := held ++ system.holds }
  let system ← getSystem
  modifyShell fun shell =>
    let jobs := shell.jobs.filter fun (_, process) =>
      !shell.waited.contains process ||
        system.jobs.any fun job => job.number == process && system.now < job.ends
    { shell with
      lastJob := some number, status := 0, jobs := (freePlace jobs, number) :: jobs }
  return .next

/-! ## 3. Programs -/

/-- The text of the script at a path; a directory is taken for an empty one. -/
def scriptAt (tree : FileTree) (path : String) : Except Errno String :=
  match Source.ofPath tree path with
  | .ok source => .ok (ByteText.ofBytes (source.all?.getD []))
  | .error e => if e = .isDirectory then .ok "" else .error e

/-- A new shell that is started from another. -/
def newShell (parent : State) (system : System) (name : String) : State :=
  let given := parent.bindings.filter (parent.exported.contains ·.1)
  let defaults := [("PATH", System.searchPath), ("OPTIND", "1"), ("PPID", "1"), ("PS4", "+ "),
    ("PS2", "> "), ("PS1", "# "), ("IFS", " \t\n")]
  let bindings := given ++ defaults.filter fun (name, _) => (given.lookup name).isNone
  let directory := directoryOf system.files (given.lookup "PWD")
  let shell : State := {
    name, bindings, directory
    exported := parent.exported.filter fun name => (given.lookup name).isSome
    traps := parent.traps.filter fun (signal, action) => action.isEmpty && signal != 0
    channels := parent.channels
    niceness := parent.niceness
    line := 0 }
  { shell.bind "PWD" directory with exported := "PWD" :: shell.exported.filter (· != "PWD") }

/-- Options in front of what a shell is started with: whether a text is to be carried out, and what follows
    them. `fuel` covers the arguments. -/
def startOptions : (fuel : Nat) → (givesText : Bool) → List String → Action (Bool × List String)
  | 0, givesText, args => return (givesText, args)
  | _, givesText, [] => return (givesText, [])
  | fuel + 1, givesText, arg :: rest => do
    let letters (text : String) : List Char := text.toList.filter fun c => c != 'c' && c != 'l'
    match after? "-" arg, after? "+" arg with
    | some "", _ | some "-", _ => return (givesText, rest)
    | some text, _ => do
      let rest ← setLetters true rest (letters text)
      startOptions fuel (givesText || text.toList.contains 'c') rest
    | none, some text => do
      let rest ← setLetters false rest (letters text)
      startOptions fuel (givesText || text.toList.contains 'c') rest
    | none, none => return (givesText, arg :: rest)

/-- The shell that a program `sh` with these arguments is, how it is carried out, and its script. -/
def openShell (system : System) (args : List String) : Action (State × ScriptRule × String) := do
  let (givesText, rest) ← startOptions (args.length + 1) false args
  let shell ← getShell
  match givesText, rest with
  | true, [] => refuse "-c requires an argument"
  | true, [text] => return (shell, {}, text)
  | true, text :: name :: args => return ({ shell with name, args }, {}, text)
  | false, rest =>
    if rest.isEmpty || shell.has "stdin" then
      let input := ByteText.ofBytes (((system.source shell.channels).all?).getD [])
      let system := system.setSource shell.channels (.bytes [])
      modifySystem fun _ => system
      return ({ shell.setOption true "stdin" with args := rest }, { echoes := true }, input)
    else
      let path := rest.headD ""
      match scriptAt system.files path with
      | .ok text => return ({ shell with name := path, args := rest.drop 1 }, { echoes := true }, text)
      | .error e => refuse (openingFault false path e)

/-- Start a shell and wait for its end. -/
def runShell (name : String) (args : List String) : Action Ending := do
  let scene ← get
  let opened? ← inSubshell <| OptionT.mk do
    let opened? ← (do
      modifyShell fun _ => newShell scene.shell scene.system name
      openShell scene.system args : Action (State × ScriptRule × String)).run
    return some opened?
  match opened? with
  | some (shell, rule, text) => runProcess means { shell with line := 1 } rule text
  | none => return .exited 2

/-- The variables that other programs get to know, in the order of the shell's table. -/
def environmentOf (shell : State) : List (String × String) :=
  (byBucket 39 Prod.fst shell.bindings.reverse).filter (shell.exported.contains ·.1)

/-- Start a shell or a utility and wait for its end. -/
def runFile (executable : System.Executable) : Action Ending := do
  let scene ← get
  if executable.program = "sh" then runShell means executable.calledAs executable.args
  else do
    let (ending, system) := scene.system.runProgram scene.shell.channels executable (environmentOf scene.shell)
    set { scene with system := system }
    return ending

/-- Start a program in another environment, by means of what starts a program. -/
def runInEnvironment (start : System.Executable → Action Ending) (name : String)
    (args : List String) : Action Ending := do
  let shell ← getShell
  let failed (status : Nat) (reason : String) : Action Ending := do
    tell (name ++ ": " ++ reason)
    return .exited status
  match EnvironmentOrder.ofArguments shell.value? args with
  | .error (reason, helps) =>
    failed 125 (reason ++ (if helps then "\nTry '" ++ name ++ " --help' for more information." else ""))
  | .ok order => do
    let kept := if order.clears then [] else environmentOf shell
    let kept := kept.filter fun (name, _) => !order.removed.contains name
    let bindings := order.given.foldl (fun bindings (name, value) =>
      if bindings.any (·.1 == name) then
        bindings.map fun (n, v) => (n, if n = name then value else v)
      else bindings ++ [(name, value)]) kept
    modifyShell fun shell =>
      { shell with bindings := bindings, exported := bindings.map Prod.fst }
    match order.program with
    | [] => do
      let between := if order.zero then "\x00" else "\n"
      say (String.join (bindings.map fun (name, value) => name ++ "=" ++ value ++ between))
      return .exited 0
    | program :: args => do
      let files := (← getSystem).files
      let moved : Except Errno FileTree :=
        match order.directory with
        | none => .ok files
        | some path =>
          match files.find true (ByteText.toBytes path), files.locate true (ByteText.toBytes path) with
          | .ok (.dir _ _), .ok location => .ok { files with current := location }
          | .error e, _ | _, .error e => .error e
          | _, _ => .error .notDirectory
      match moved with
      | .error e =>
        failed 125 ("cannot change directory to " ++ quotedName (order.directory.getD "") ++ ": " ++
          e.message)
      | .ok files => do
        modifySystem fun system => { system with files := files }
        let searched := (bindings.lookup "PATH").getD "/bin:/usr/bin"
        match ← Launch.launchIn start searched program args with
        | .ok ending => return ending
        | .error e => do
          let reason := quotedName program ++ ": " ++ e.message
          let hint := if e = .notFound && program.toList.contains ' ' then
              "\n" ++ name ++ ": use -[v]S to pass options in shebang lines"
            else ""
          failed (if e = .notFound then 127 else 126) (reason ++ hint)

/-- How many programs may start one another. -/
def maxLaunches : Nat := 200

/-- Start a program and wait for its end. `fuel` bounds how many programs may start one another. -/
def runStarting : (fuel : Nat) → System.Executable → Action Ending
  | 0, _ => return .running
  | fuel + 1, executable =>
    let ⟨program, name, args⟩ := executable
    let launcher := runStarting fuel
    match program with
    | "env" => inSubshell (runInEnvironment launcher name args)
    | "xargs" => inSubshell (Launch.runBatches launcher name args)
    | "find" => inSubshell (Launch.runHunt launcher name args)
    | "timeout" => inSubshell (Launch.runLimited launcher name args)
    | "nohup" => inSubshell (Launch.runUnhung launcher name args)
    | "setsid" => inSubshell (Launch.runApart launcher name args)
    | "stdbuf" => inSubshell (Launch.runBuffered launcher name args)
    | "nice" => inSubshell (Launch.runNicely launcher name args)
    | _ => runFile means executable

/-- Start a program and wait for its end. -/
def runExecutable (executable : System.Executable) : Action Ending :=
  runStarting means maxLaunches executable

/-- A file may be a script: no sign in its first line is one of those that texts do without. Only the first
    bytes count. -/
def looksLikeScript (content : Bytes) : Bool :=
  ((content.take 128).takeWhile (· != 0x0A)).all fun b =>
    !(b ≤ 0x08 || (0x10 ≤ b && b ≤ 0x1F && b != 0x1B) || b = 0x7F)

/-- Start the program of the given name, or tell why that cannot be. A file that is no program is taken
    for a script. -/
def runProgram (searchPath name : String) (args : List String) : Action Ending := do
  let scene ← get
  match scene.system.find searchPath name args with
  | .ok executable => runExecutable means executable
  | .error e =>
    if e = .execFormat then
      let path := match System.programPath scene.system.files searchPath name with
        | .ok path => path
        | .error _ => name
      let content := match scene.system.files.read (ByteText.toBytes path) with
        | .ok content => content
        | .error _ => []
      if looksLikeScript content then runShell means "sh" (path :: args)
      else do
        complain (name ++ ": " ++ e.message)
        return .exited 126
    else do
      complain (notFoundWords name e)
      return .exited
        (if e = .notFound || e = .notDirectory || e = .nameTooLong || e = .tooManyLinks || name.isEmpty
        then 127 else 126)

/-! ## 4. Simple statements -/

/-- Carry out the body of a function. -/
def callFunction (body : Statement) (args : List String) : Action Flow := do
  let before ← getShell
  modifyShell fun shell =>
    { shell with
      args, locals := some [], yields := false, loops := 0, optionPlace := (1, none) }
  let flow ← andFinally (means.run body) <| modifyShell fun shell =>
    let shell := (shell.locals.getD []).foldl State.putBack shell
    { shell with
      args := before.args
      locals := before.locals
      loops := before.loops
      optionPlace := before.optionPlace }
  return if flow = .finish then .next else flow

/-- Carry out a program for a command. -/
def runOutside (searchPath name : String) (args : List String) : Action Flow := do
  let shell ← getShell
  let ending ← runProgram means searchPath name args
  setStatus ending.status
  match ending, shell.yields && shell.traps.isEmpty with
  | .killed signal, true => return .killed signal
  | _, _ => do
    announce ending
    return flowAfter ending

/-- Replace the shell by a program. -/
def replaceShell (name : String) (args : List String) : Action Flow := do
  modifyShell fun shell => { shell with traps := [] }
  let ending ← runProgram means (← getShell).searchPath name args
  setStatus ending.status
  match ending with
  | .killed signal => return .killed signal
  | .running => return .running
  | .exited _ => return .exit

/-- Carry out the script at a path in the same shell. A name without a slash is looked for among the
    programs. -/
def runSource (args : List String) : Action Flow := do
  let (_, args) ← takeOptions "" "" args
  match args with
  | [] => ended 0
  | name :: _ => do
    let tree := (← getSystem).files
    match System.programPath tree (← getShell).searchPath name with
    | .error _ => refuse (name ++ ": not found")
    | .ok path =>
      match scriptAt tree path with
      | .error e => refuse (openingFault false path e)
      | .ok text => do
        let flow ← underName path (withoutYield (runScript means {} text))
        return if flow = .finish then .next else flow

/-- Leave loops, or go to their next round, as many as the arguments say. -/
def leaveLoops (flow : Nat → Flow) (args : List String) : Action Flow := do
  let count ← match args with
    | [] => pure 1
    | arg :: _ => do
      let n ← number arg
      if n = 0 then refuse ("Illegal number: " ++ arg) else pure n
  let loops := (← getShell).loops
  setStatus 0
  return if loops = 0 then .next else flow (min count loops)

/-- The status that the arguments of a command give, or the one that there is. -/
def givenStatus (args : List String) : Action Nat :=
  match args with
  | [] => do return (← getShell).status
  | arg :: _ => number arg

/-- Carry out a command of the shell. -/
def runOwn (name : String) (args : List String) : Action Flow := do
  match name with
  | "break" => leaveLoops .breakOut args
  | "continue" => leaveLoops .nextRound args
  | "exit" => do
    setStatus ((← givenStatus args) % 256)
    return .exit
  | "return" => do
    setStatus (← givenStatus args)
    return .finish
  | "eval" => if args.isEmpty then ended 0 else withoutYield (runScript means {} (spaced args))
  | "." => runSource means args
  | "exec" =>
    match args with
    | [] => ended 0
    | program :: args => replaceShell means program args
  | "export" => markAll name exportVariable State.exported args
  | "readonly" => markAll name freeze State.constant args
  | "local" => makeLocal args
  | "unset" => unset args
  | "set" => setOptions args
  | "shift" => shift args
  | "trap" => trap args
  | "times" => showTimes
  | ":" => ended 0
  | "kill" => kill args
  | "wait" => wait args
  | "jobs" => listJobs args
  | "fg" | "bg" => resume args
  | "read" => readLine args
  | "getopts" => getOption args
  | "alias" => defineAliases args
  | "unalias" => removeAliases args
  | "cd" | "chdir" => changeDirectory args
  | "pwd" => printDirectory args
  | "umask" => changeMask args
  | "ulimit" => showLimit args
  | "hash" => hash args
  | "type" => describeAll args
  | "command" => do
    let (options, args) ← takeOptions "pvV" "" args
    let own := (← getShell).searchPath
    let searched := if options.any (·.1 == 'p') then System.searchPath else own
    match args, (options.filter (·.1 != 'p')).getLast? with
    | name :: _, some (letter, _) => ended (← describe (letter = 'V') searched name)
    | _, _ => ended 0
  | _ =>
    match innerUtility? name with
    | some utility => runInner name utility args
    | none => ended 127

/-- How a simple command is carried out. -/
structure Order where
  fields : List String
  /-- `command` stands in front: functions do not count, and no failure ends the shell. -/
  isPlain : Bool := false
  /-- Programs are looked for in the usual places. -/
  isUsual : Bool := false

/-- The command behind `command`, of which the arguments are given; `none` if that is asked something
    itself. -/
def behindCommand : (fuel : Nat) → Order → Option Order
  | 0, _ => none
  | fuel + 1, order =>
    match order.fields with
    | [] => none
    | arg :: rest =>
      match after? "-" arg with
      | none | some "" => some order
      | some "-" => if rest.isEmpty then none else some { order with fields := rest }
      | some letters =>
        if letters.toList.all (· = 'p') then
          behindCommand fuel { order with fields := rest, isUsual := true }
        else none

/-- The command that is carried out at last. `fuel` covers the fields. -/
def peeled : (fuel : Nat) → Order → Order
  | 0, order => order
  | fuel + 1, order =>
    match order.fields with
    | "command" :: rest =>
      match behindCommand (rest.length + 1) { order with fields := rest, isPlain := true } with
      | some inner => peeled fuel inner
      | none => { order with isPlain := true }
    | _ => order

/-- The fields of the words of a command. Arguments that give variables values are not cut if the command
    is about variables. -/
def expandCommand : List String → List Word → Action (List String)
  | fields, [] => return fields
  | fields, word :: rest => do
    let isAboutVariables := match (peeled fields.length { fields }).fields with
      | name :: _ => ["export", "readonly", "local"].contains name
      | [] => false
    let new ← match if isAboutVariables then assignment? word else none with
      | some (name, value) => do pure [name ++ "=" ++ (← expandValue (substitute means) value)]
      | none => expandWord (substitute means) word
    expandCommand (fields ++ new) rest

/-- Values for names, each expanded in turn; the answer holds them as they are traced, and the variables
    as they were. Variables that are given to one command only are made known to it. -/
def assignAll (isForOne : Bool) :
    List (String × Word) → Action (List String × List Outside)
  | [] => return ([], [])
  | (name, word) :: rest => do
    let value ← expandValue (substitute means) word
    let before := (← getShell).outside name
    assign name value
    if isForOne then exportVariable name
    let (texts, outsides) ← assignAll isForOne rest
    return ((name ++ "=" ++ value) :: texts, outsides ++ [before])

/-- Tell what is carried out, if the shell does that. -/
def trace (channels : Channels) (words : List String) : Action Unit := do
  let shell ← getShell
  if shell.has "xtrace" then
    let heading := (shell.bindings.lookup "PS4").getD ""
    modifyShell (·.setOption false "xtrace")
    let text ← andFinally (expandText (substitute means) (documentWord heading))
      (modifyShell (·.setOption true "xtrace"))
    withChannels channels (tell (text ++ spaced words))

/-- Carry out fields of a simple command. -/
def runOrder (order : Order) : Action Flow := do
  let shell ← getShell
  let searched := if order.isUsual then System.searchPath else shell.searchPath
  match order.fields with
  | [] => do
    setStatus (shell.substituted.getD 0)
    return .next
  | name :: args =>
    match meaningOf shell (← getSystem).files (!order.isPlain) searched name with
    | .function body => callFunction means body args
    | .special => asCommand name (!order.isPlain) (runOwn means name args)
    | .plain => asCommand name false (runOwn means name args)
    | .program path => do
      unless name.toList.contains '/' || order.isUsual do remember name path
      runOutside means searched name args
    | .unknown _ => runOutside means searched name args

/-- A simple statement. -/
def runSimple (line : Nat) (assignments : List (String × Word)) (words : List Word)
    (redirects : List Redirect) : Action Flow := do
  modifyShell fun shell => { shell with substituted := none, line }
  let fields ← expandCommand means [] words
  let order := peeled fields.length { fields }
  let before := (← getShell).channels
  let isSpecial := !order.isPlain && order.fields.head?.any specialCommands.contains
  let keepsChannels := order.fields.head? = some "exec"
  let targets ← expandTargets (expandText (substitute means)) redirects
  andFinally (do
      if !(← redirectAll targets) then
        if isSpecial then failure else return .next
      let isForOne := !order.fields.isEmpty && !isSpecial
      let (texts, outsides) ← assignAll means isForOne assignments
      trace means before (texts ++ order.fields)
      let run := runOrder means order
      if isForOne then
        andFinally run (modifyShell fun shell => outsides.foldl State.putBack shell)
      else run)
    (unless keepsChannels do modifyShell fun shell => { shell with channels := before })

/-- How a statement leads on in a shell that stops at failures. -/
def stopOnFailure (flow : Flow) : Action Flow := do
  let shell ← getShell
  return if shell.has "errexit" && !shell.guarded && shell.status != 0 && flow = .next then .exit
    else flow

/-! ## 5. Compound statements -/

/-- The body of the first clause that describes a text. -/
def chooseClause (text : String) : List (List Word × Statement) → Action (Option Statement)
  | [] => return none
  | (patterns, body) :: rest => do
    if ← anyDescribes patterns then return some body
    else chooseClause text rest
where
  anyDescribes : List Word → Action Bool
    | [] => return false
    | word :: words => do
      let glyphs ← expandGlyphs (substitute means) word
      if (Pattern.ofGlyphs glyphs).matchesText text.toList then return true
      else anyDescribes words

/-- The rounds of a loop. Its status is that of the last body, 0 if there was none. -/
def runRounds (untilSuccess : Bool) (condition body : Statement) :
    (rounds status : Nat) → Action Flow
  | 0, _ => return .running
  | rounds + 1, status => do
    match ← asCondition (means.run condition) with
    | .next =>
      if ((← getShell).status == 0) == untilSuccess then ended status
      else
        match loopFlow (← means.run body) with
        | some flow => return flow
        | none => runRounds untilSuccess condition body rounds (← getShell).status
    | .nextRound 1 => runRounds untilSuccess condition body rounds status
    | flow => return (loopFlow flow).getD .next

/-- The body for each value. -/
def runForEach (name : String) (body : Statement) : List String → Action Flow
  | [] => return .next
  | value :: values => do
    assign name value
    match loopFlow (← means.run body) with
    | some flow => return flow
    | none => runForEach name body values

/-- Go on in the given line. -/
def atLine (line : Nat) : Action Unit :=
  modifyShell fun shell => { shell with line }

/-- A statement, with what smaller ones need. -/
def step : Statement → Action Flow
  | .simple line assignments words redirects => do
    stopOnFailure (← runSimple means line assignments words redirects)
  | .pipeline stages => do
    stopOnFailure (← withoutYield (runStages means stages))
  | .negated command => do
    let flow ← asCondition (withoutYield (means.run command))
    modifyShell fun shell => { shell with status := if shell.status = 0 then 1 else 0 }
    return flow
  | .both a b => do
    match ← asCondition (withoutYield (means.run a)) with
    | .next => if (← getShell).status = 0 then means.run b else return .next
    | flow => return flow
  | .either a b => do
    match ← asCondition (withoutYield (means.run a)) with
    | .next => if (← getShell).status = 0 then return .next else means.run b
    | flow => return flow
  | .sequence statements => runAll means statements
  | .background statement => runJob means statement
  | .subshell line body => do
    atLine line
    let (flow, status) ← forked means (withoutYield (means.run body))
    setStatus status
    match flow with
    | .killed _ | .running => return flow
    | _ => stopOnFailure .next
  | .choice condition body otherwise => do
    match ← asCondition (withoutYield (means.run condition)) with
    | .next =>
      if (← getShell).status = 0 then means.run body
      else
        match otherwise with
        | some statement => means.run statement
        | none => ended 0
    | flow => return flow
  | .loop untilSuccess condition body =>
    withoutYield (inLoop (runRounds means untilSuccess condition body maxRounds 0))
  | .forEach line name words body => do
    atLine line
    let values ← match words with
      | some words => expandWords (substitute means) words
      | none => pure (← getShell).args
    setStatus 0
    withoutYield (inLoop (runForEach means name body values))
  | .caseOf line word clauses => do
    atLine line
    let text ← expandText (substitute means) word
    match ← chooseClause means text clauses with
    | some body => do
      setStatus 0
      means.run body
    | none => ended 0
  | .define name body => do
    modifyShell fun shell =>
      { shell with functions := (name, body) :: shell.functions.filter (·.1 != name) }
    ended 0
  | .redirected line body redirects => do
    atLine line
    withRedirects (expandText (substitute means)) redirects (stopOnFailure .next)
      (withoutYield (means.run body))

end

/-- Carry out a statement, and what is to be done at signals that came meanwhile; `fuel` bounds the
    depth. -/
def run : (fuel : Nat) → Statement → Action Flow
  | 0, _ => return .running
  | fuel + 1, statement => do
    match ← step { run := run fuel } statement with
    | .next => runPending { run := run fuel }
    | flow => return flow

/-- How deep statements may lie in one another. -/
def maxDepth : Nat := 2000

/-- The interpreter. -/
def means : Means := { run := run maxDepth }

end GoldenRun.Machine.Shell.Interpreter
