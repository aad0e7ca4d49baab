import GoldenRun.Machine.Shell.Grammar
import GoldenRun.Machine.System

/-!
# The state of a shell

A shell has a name, arguments, variables, functions, channels and the status of its last command. A
*scene* is a shell on the machine; everything that a shell does is an `Action` on the scene.

* An action *gives up* when something is refused that leaves the shell no way to go on. Why is told at
  once, and the status is then 2.
* `andFinally`, `withChannels` and the others of their kind put things back even then.
-/

namespace GoldenRun.Machine.Shell

/-! ## 1. The state -/

/-- An option of a shell: its name and its letter. -/
abbrev ShellOption := String × Option Char

/-- The options in the order in which they are listed. -/
def shellOptions : List ShellOption :=
  [("errexit", some 'e'), ("noglob", some 'f'), ("ignoreeof", some 'I'), ("interactive", some 'i'),
    ("monitor", some 'm'), ("noexec", some 'n'), ("stdin", some 's'), ("xtrace", some 'x'),
    ("verbose", some 'v'), ("vi", some 'V'), ("emacs", some 'E'), ("noclobber", some 'C'),
    ("allexport", some 'a'), ("notify", some 'b'), ("nounset", some 'u'), ("privileged", some 'p'),
    ("nolog", none), ("debug", none)]

/-- A variable as it was outside of a function. -/
structure Outside where
  name : String
  value : Option String
  exported : Bool
  constant : Bool
  deriving DecidableEq, Repr

/-- What a shell keeps. -/
structure State where
  /-- The name in front of its messages. -/
  name : String
  args : List String := []
  bindings : List (String × String) := []
  /-- The variables that other programs get to know. -/
  exported : List String := []
  /-- The variables that keep their values. -/
  constant : List String := []
  aliases : List (String × String) := []
  functions : List (String × Statement) := []
  /-- Programs that were looked for, with their paths. -/
  known : List (String × String) := []
  /-- The current directory as the shell came to it. -/
  directory : String := "/"
  channels : Channels := []
  status : Nat := 0
  /-- The status of the last script whose output stands in the command. -/
  substituted : Option Nat := none
  lastJob : Option Nat := none
  /-- The jobs with their places and the numbers of their processes, the newest first. -/
  jobs : List (Nat × Nat) := []
  /-- The processes that were waited for. -/
  waited : List Nat := []
  /-- The names of the options that are on. -/
  options : List String := []
  /-- What to do at a signal, by its number; 0 stands for the end of the shell. -/
  traps : List (Nat × String) := []
  /-- Signals that came and were not dealt with yet. -/
  pending : List Nat := []
  /-- In a subshell: what the shell does at signals that all subshells are parts of. -/
  outerTraps : Option (List (Nat × String)) := none
  /-- The next program takes the place of the shell. -/
  yields : Bool := false
  /-- In a function: the names that are its own, as they are outside. -/
  locals : Option (List Outside) := none
  /-- The command is a condition, whose failure is no reason to stop. -/
  guarded : Bool := false
  /-- How many loops are gone through. -/
  loops : Nat := 0
  /-- How much of the processor is left to others. -/
  niceness : Int := 0
  /-- The line of the command that is carried out. -/
  line : Nat := 1
  /-- The command of the shell that is carried out, for its messages. -/
  command : Option String := none
  /-- The argument in which the next option is looked for, and where in it, if it holds more. -/
  optionPlace : Nat × Option Nat := (1, none)

namespace State

/-- An option is on. -/
def has (shell : State) (option : String) : Bool := shell.options.contains option

/-- The shell with an option turned on or off. -/
def setOption (shell : State) (on : Bool) (option : String) : State :=
  let others := shell.options.filter (· != option)
  { shell with options := if on then option :: others else others }

/-- The letters of the options that are on, those of the last ones first. -/
def letters (shell : State) : List Char :=
  shellOptions.reverse.filterMap fun (name, letter) => if shell.has name then letter else none

/-- The value of a variable. -/
def value? (shell : State) (name : String) : Option String := shell.bindings.lookup name

/-- Where programs are looked for. -/
def searchPath (shell : State) : String := (shell.bindings.lookup "PATH").getD ""

/-- The shell in which a variable has a value. -/
def bind (shell : State) (name value : String) : State :=
  { shell with
    bindings := (name, value) :: shell.bindings.filter (·.1 != name)
    exported := if shell.has "allexport" && !shell.exported.contains name then name :: shell.exported
      else shell.exported }

/-- The variable as it is. -/
def outside (shell : State) (name : String) : Outside :=
  { name, value := shell.bindings.lookup name, exported := shell.exported.contains name
    constant := shell.constant.contains name }

/-- The shell in which a variable is what it was. -/
def putBack (shell : State) (variable_ : Outside) : State :=
  let others := shell.bindings.filter (·.1 != variable_.name)
  let marked (on : Bool) (names : List String) : List String :=
    let names := names.filter (· != variable_.name)
    if on then variable_.name :: names else names
  { shell with
    bindings := match variable_.value with
      | some value => (variable_.name, value) :: others
      | none => others
    exported := marked variable_.exported shell.exported
    constant := marked variable_.constant shell.constant }

end State

/-- A shell on the machine. -/
structure Scene where
  shell : State
  system : System

/-- What is done on a scene. Nothing comes out of an action that gives up. -/
abbrev Action := OptionT (StateM Scene)

/-- How a command leads on. -/
inductive Flow where
  /-- To the next command. -/
  | next
  /-- Out of the shell. -/
  | exit
  /-- Out of this many loops. -/
  | breakOut (loops : Nat)
  /-- To the next round of this many loops. -/
  | nextRound (loops : Nat)
  /-- Out of the function. -/
  | finish
  /-- Nowhere: a signal ended the shell. -/
  | killed (signal : Nat)
  /-- Nowhere: the time is over. -/
  | running
  deriving DecidableEq, Repr

/-- The number of a shell's process. -/
def processNumber : Nat := 42

/-! ## 2. Looking and changing -/

/-- The shell as it is now. -/
def getShell : Action State := return (← get).shell

/-- The machine as it is now. -/
def getSystem : Action System := return (← get).system

/-- A change of the shell. -/
def modifyShell (f : State → State) : Action Unit :=
  modify fun scene => { scene with shell := f scene.shell }

/-- A change of the machine. -/
def modifySystem (f : System → System) : Action Unit :=
  modify fun scene => { scene with system := f scene.system }

/-- Note the status of a command. -/
def setStatus (status : Nat) : Action Unit :=
  modifyShell fun shell => { shell with status := status }

/-- Write to a numbered stream of the shell; the answer says whether that succeeded. -/
def write (number : Nat) (bytes : Bytes) : Action Bool := do
  let scene ← get
  if bytes.isEmpty then return true
  match scene.system.write scene.shell.channels number bytes with
  | .ok system =>
    set { scene with system := system }
    return true
  | .error _ => return false

/-- Write a text to the stream for output. -/
def say (text : String) : Action Unit := do
  let _ ← write 1 (ByteText.toBytes text)

/-- Write a line to the stream for errors. -/
def tell (text : String) : Action Unit := do
  let _ ← write 2 (ByteText.toBytes (text ++ "\n"))

/-- Say something about the command that is carried out. -/
def complain (text : String) : Action Unit := do
  let shell ← getShell
  let command := match shell.command with
    | some command => command ++ ": "
    | none => ""
  tell (shell.name ++ ": " ++ toString shell.line ++ ": " ++ command ++ text)

/-- Say why the command cannot be carried out, and give up. -/
def refuse {α : Type} (reason : String) : Action α := do
  complain reason
  setStatus 2
  failure

/-- Give a variable a value. -/
def assign (name value : String) : Action Unit := do
  let shell ← getShell
  if !isName name.toList then refuse (name ++ ": bad variable name")
  else if shell.constant.contains name then refuse (name ++ ": is read only")
  else
    modifyShell (·.bind name value)
    if name = "OPTIND" then
      match decimal? value with
      | some n => modifyShell fun shell => { shell with optionPlace := (max 1 n, none) }
      | none => refuse ("Illegal number: " ++ value)

/-- Take a variable away. -/
def unassign (name : String) : Action Unit := do
  let shell ← getShell
  if shell.constant.contains name then refuse (name ++ ": is read only")
  else
    modifyShell fun shell =>
      { shell with
        bindings := shell.bindings.filter (·.1 != name)
        exported := shell.exported.filter (· != name) }

/-! ## 3. For a while -/

/-- Do something, and then something else, even if the first gave up. -/
def andFinally {α : Type} (action : Action α) (after : Action Unit) : Action α :=
  OptionT.mk do
    let value ← action.run
    let _ ← after.run
    return value

/-- Do something with other channels. -/
def withChannels {α : Type} (channels : Channels) (action : Action α) : Action α := do
  let before := (← getShell).channels
  modifyShell fun shell => { shell with channels := channels }
  andFinally action (modifyShell fun shell => { shell with channels := before })

/-- Do something as a condition, or as none. -/
def asCondition {α : Type} (action : Action α) (guarded : Bool := true) : Action α := do
  let before := (← getShell).guarded
  modifyShell fun shell => { shell with guarded }
  andFinally action (modifyShell fun shell => { shell with guarded := before })

/-- Do something inside a loop. -/
def inLoop {α : Type} (action : Action α) : Action α := do
  let before := (← getShell).loops
  modifyShell fun shell => { shell with loops := before + 1 }
  andFinally action (modifyShell fun shell => { shell with loops := before })

/-- Do something for which messages name a command. -/
def underName {α : Type} (command : String) (action : Action α) : Action α := do
  let before := (← getShell).command
  modifyShell fun shell => { shell with command := some command }
  andFinally action (modifyShell fun shell => { shell with command := before })

/-- Who gives up leaves the shell. -/
def settled (action : Action Flow) : Action Flow :=
  action <|> pure .exit

/-- Do something in a shell of its own: afterwards only the machine has changed, and neither its current
    directory nor its mask. Signals that came to the shell from within are still to be dealt with. -/
def inSubshell {α : Type} (action : Action α) : Action α := do
  let before ← get
  let files := before.system.files
  andFinally action <| modify fun scene =>
    { shell :=
        { before.shell with
          pending := before.shell.pending ++
            if scene.shell.outerTraps.isSome then scene.shell.pending else [] }
      system := { scene.system with
        files := { scene.system.files with current := files.current, mask := files.mask } } }

/-- How a flow ends a shell whose last status is given. -/
def Flow.ending (status : Nat) : Flow → Ending
  | .killed signal => .killed signal
  | .running => .running
  | _ => .exited status

/-- The flow behind a command that ended so, in a shell that waited for it. -/
def flowAfter : Ending → Flow
  | .running => .running
  | _ => .next

end GoldenRun.Machine.Shell
