import GoldenRun.Failure

/-!
# Commands

* `Command`: a program with its leading arguments, as it is configured.
* `Invocation`: a command on its way to a runner, with all its arguments and the treatment of its
  output.
* `Outcome`: what a command that ended leaves behind.
-/

namespace GoldenRun

/-- An external command: a program and its leading arguments. -/
structure Command where
  program : Bytes
  args : List Bytes := []
  deriving DecidableEq, Repr

/-- The command with further arguments behind those it has. -/
def Command.withArgs (command : Command) (more : List Bytes) : Command :=
  { command with args := command.args ++ more }

/-- What becomes of a command's output. -/
inductive OutputMode where
  /-- The command writes where the harness writes. -/
  | inherit
  /-- The output is collected. -/
  | capture
  deriving DecidableEq, Repr

/-- One call of an external command. -/
structure Invocation where
  program : Bytes
  args : List Bytes := []
  output : OutputMode := .inherit
  deriving DecidableEq, Repr

namespace Invocation

/-- A command as it stands. -/
def ofCommand (command : Command) : Invocation :=
  { program := command.program, args := command.args }

/-- The call with further arguments at the end. -/
def withArgs (call : Invocation) (more : List Bytes) : Invocation :=
  { call with args := call.args ++ more }

/-- The call with its output treated as `mode` says. -/
def withOutput (call : Invocation) (mode : OutputMode) : Invocation :=
  { call with output := mode }

/-- The program's name for display. -/
def programName (call : Invocation) : String :=
  call.program.lossy

end Invocation

/-- What a command that ended leaves behind. A command that a signal killed has no exit code; text is
    collected only where the call asked for it. -/
structure Outcome where
  exitCode : Option Int := none
  stdout : String := ""
  stderr : String := ""
  /-- How long the command ran, as the runner measured it. -/
  duration : Duration := .zero
  deriving DecidableEq, Repr

/-- Exit code 0, and nothing else, is success. -/
def Outcome.success (outcome : Outcome) : Bool :=
  outcome.exitCode == some 0

end GoldenRun
