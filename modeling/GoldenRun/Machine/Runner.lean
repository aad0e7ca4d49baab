import GoldenRun.Machine.Shell.Interpreter
import GoldenRun.Run.ProcessRunner

/-!
# The machine as a host

The machine starts the processes of the process runner. A command whose output is inherited writes to the
console; a command whose output is collected does not, and what it wrote waits in its streams.

* A process that is to be killed at a limit is followed up to that limit. Jobs that it started are not
  killed, and hold its streams until they end.
* Without a limit, a command that never ends counts as killed, so every call returns.
-/

namespace GoldenRun.Machine

/-- The program of a call, ready to be started. -/
def startable (files : FileTree) (call : Invocation) : Except IoError System.Executable :=
  match System.find { files := files } System.searchPath (ByteText.ofBytes call.program)
    (call.args.map ByteText.ofBytes) with
  | .ok executable => .ok executable
  | .error e => .error (.os e)

/-- The machine when a command begins: nothing to read, and two streams to write to. -/
def beginning (files : FileTree) (limit : Option Duration) : Shell.Scene :=
  let system : System := {
    files := files
    deadline := limit.map Duration.toNanos
    readers := [(0, .bytes [])] }
  { shell := {
      name := "sh"
      bindings := [("PATH", System.searchPath), ("HOME", "/root")]
      exported := ["PATH", "HOME"]
      channels := [(0, .reader 0), (1, .stream System.outStream), (2, .stream System.errStream)] }
    system := system }

/-- Run a program to its end. -/
def runToEnd (files : FileTree) (limit : Option Duration) (executable : System.Executable) :
    Ending × System :=
  let (ending, scene) :=
    (Shell.Interpreter.runExecutable Shell.Interpreter.means executable).run (beginning files limit)
  (ending.getD (.exited 2), { scene.system with files := { scene.system.files with current := files.current } })

/-- The exit code of a command; none if a signal killed it. -/
def Ending.exitCode : Ending → Option Int
  | .exited status => some (status % 256 : Nat)
  | .killed _ | .running => none

/-- When a process ends, and its exit code. With a limit it need not have ended. -/
def endOf (limit : Option Duration) (ending : Ending) (system : System) : Option (Nat × Option Int) :=
  match ending, limit with
  | .running, some _ => none
  | ending, _ => some (system.now, ending.exitCode)

/-- Without a limit a process ends, or counts as killed. -/
theorem endOf_none_isSome (ending : Ending) (system : System) : (endOf none ending system).isSome := by
  cases ending <;> rfl

/-- A stream of a process that has ended. -/
def pipeOf (system : System) (stream : Nat) : Pipe :=
  { bytes := system.collected stream, closes? := some (max system.now (system.heldUntil stream)) }

/-- What came to the console. -/
def echoOf (mode : OutputMode) (system : System) : Echo :=
  match mode with
  | .inherit =>
    { out := system.collected System.outStream, err := system.collected System.errStream }
  | .capture => {}

/-- The machine as a host of processes that are killed at a limit. It needs no memory. -/
def host (limit : Option Duration) : Host Unit := fun call world =>
  (startable world.files call).map fun executable =>
    let (ending, system) := runToEnd world.files limit executable
    { ends? := endOf limit ending system
      stdout := pipeOf system System.outStream
      stderr := pipeOf system System.errStream
      leaves := fun _ => (echoOf call.output system, { world with files := system.files }) }

/-- With a limit or without, every call on the machine returns. -/
theorem run?_host_isSome (limit : Option Duration) (call : Invocation) (world : World Unit) :
    (ProcessRunner.run? ⟨limit⟩ (host limit) call world).isSome := by
  rw [Option.isSome_iff_ne_none, ne_eq, ProcessRunner.run?_eq_none_iff]
  rintro ⟨hlimit, process, hspawn, -, hends⟩
  cases hlimit
  unfold ProcessRunner.spawn host at hspawn
  split at hspawn
  · cases hspawn
  · cases hexecutable : startable world.files call with
    | error cause =>
      rw [hexecutable] at hspawn
      cases hspawn
    | ok executable =>
      rw [hexecutable] at hspawn
      cases hspawn
      exact absurd hends (Option.isSome_iff_ne_none.mp (endOf_none_isSome _ _))

/-- The process runner on the machine, with a limit for each command. -/
def machineRunner (limit : Option Duration) : Runner Unit := fun call world =>
  let returned := (ProcessRunner.run? ⟨limit⟩ (host limit) call world).get (run?_host_isSome limit call world)
  (returned.reply, returned.world)

end GoldenRun.Machine
