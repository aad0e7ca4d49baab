import GoldenRun.Machine.Shell.Redirect

/-!
# Programs that start programs

Some programs start others and wait for them. They are actions like those of a shell, with whatever starts a
program as a parameter.

* `launch` starts the program of a name as the surroundings say. A file that can be carried out but is no program
  is taken for a script.
-/

namespace GoldenRun.Machine.Launch

open Shell

/-- What starts a program and waits for its end. -/
abbrev Launcher := System.Executable → Action Ending

/-- The variables that programs get to know from a shell. -/
def surroundings (shell : State) : List (String × String) :=
  shell.bindings.filter fun (name, _) => shell.exported.contains name

/-- Start the program of a name, looked for in the given places, and wait for its end; or why that cannot be. -/
def launchIn (launcher : Launcher) (searched name : String) (args : List String) :
    Action (Except Errno Ending) := do
  let system ← getSystem
  match system.find searched name args with
  | .ok executable => return .ok (← launcher executable)
  | .error cause =>
    match cause == Errno.execFormat, System.programPath system.files searched name with
    | true, .ok path => return .ok (← launcher ⟨"sh", "/bin/sh", path :: args⟩)
    | _, _ => return .error cause

/-- Start the program of a name and wait for its end; or why that cannot be. -/
def launch (launcher : Launcher) (name : String) (args : List String) : Action (Except Errno Ending) := do
  let shell ← getShell
  launchIn launcher (((surroundings shell).lookup "PATH").getD "/bin:/usr/bin") name args

/-- Do something with a source as its input. -/
def withInput {α : Type} (source : Source) (action : Action α) : Action α := do
  let (channel, system) := (← getSystem).addReader source
  modifySystem fun _ => system
  let channels := (← getShell).channels
  withChannels (setChannel channels 0 (some channel)) action

/-- All that is to be read, nothing being left; `none` if there is no end. -/
def readInput : Action (Except Errno (Option Bytes)) := do
  let scene ← get
  match scene.system.source scene.shell.channels with
  | .refusing cause => return .error cause
  | source => do
    modifySystem fun system => system.setSource scene.shell.channels (.bytes [])
    return .ok source.all?

/-- The end of a program that is called wrongly. -/
def misused (name : String) (code : Nat) (fault : String) : Action Ending := do
  tell (name ++ ": " ++ fault)
  tell ("Try '" ++ name ++ " --help' for more information.")
  return .exited code

/-- The end of a program that comes to nothing. -/
def giveUp (name : String) (code : Nat) (trouble : Trouble) : Action Ending := do
  let code := trouble.code.getD code
  if trouble.helps then misused name code trouble.message
  else do
    tell (name ++ ": " ++ trouble.message)
    return .exited code

/-- Options put together from the first to the last, and what to do then; the first that cannot be used and a
    fault give up. -/
def withPlan {σ : Type} (name : String) (code : Nat) (arguments : Arguments) (start : σ)
    (step : σ → String × String → Except Trouble σ) (proceed : σ → Action Ending) : Action Ending :=
  match arguments.options.foldlM step start, arguments.fault with
  | .error trouble, _ => giveUp name code trouble
  | .ok _, some fault => giveUp name code (Trouble.ofFault fault)
  | .ok plan, none => proceed plan

/-- A text with another one in place of a marker. `fuel` covers the text. -/
def replaceMarker (marker new : List Char) : (fuel : Nat) → List Char → List Char
  | 0, cs => cs
  | _, [] => []
  | fuel + 1, c :: cs =>
    if !marker.isEmpty && marker.isPrefixOf (c :: cs) then
      new ++ replaceMarker marker new fuel ((c :: cs).drop marker.length)
    else c :: replaceMarker marker new fuel cs

end GoldenRun.Machine.Launch
