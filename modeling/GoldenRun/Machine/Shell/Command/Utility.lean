import GoldenRun.Machine.Shell.Command.Basic
import GoldenRun.Machine.Utility.Table

/-!
# Utilities inside the shell

Some utilities are carried out by the shell itself. What they complain about then tells the shell and the
line.
-/

namespace GoldenRun.Machine.Shell

/-- The utilities that a shell carries out itself. -/
def innerUtility? : String → Option Utility
  | "echo" => some innerEcho
  | "printf" => some innerPrintf
  | "true" => some trueUtility
  | "false" => some falseUtility
  | "test" => some innerTest
  | "[" => some innerBracket
  | _ => none

/-- A utility whose complaints begin with a heading. -/
def withHeading (heading : String) (utility : Utility) : Utility := fun errand =>
  let effort := utility errand
  { effort with
    said := effort.said.map fun (outlet, bytes) =>
      (outlet, if outlet = .err then utf8 heading ++ bytes else bytes) }

/-- Carry out a utility inside the shell. -/
def runInner (name : String) (utility : Utility) (args : List String) : Action Flow := do
  let scene ← get
  let heading := scene.shell.name ++ ": " ++ toString scene.shell.line ++ ": "
  let (ending, refused, system) :=
    scene.system.runUtility scene.shell.channels (withHeading heading utility) name args
  set { scene with system := system }
  if refused.isSome then complain (name ++ ": I/O error")
  setStatus ending.status
  return flowAfter ending

end GoldenRun.Machine.Shell
