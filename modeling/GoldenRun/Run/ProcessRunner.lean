import GoldenRun.Run.World

/-!
# Running processes

The process runner carries out a call by a process of the operating system. It starts the process, waits for
its end, and collects what it writes if the call asks for that.

* With a limit it waits no longer than that. A process that has not ended by then is killed, and the call has
  no result. Processes that it started in turn are not killed.
* A collected stream is read until all processes that hold it have closed it, but no longer than `drainGrace`
  after the end of the process that was started; the two streams share this time. A stream that is still open
  then counts as empty, and that is logged.
* Without a limit, a call whose process never ends does not return.

What the operating system does is left open. A *host* says of a call whether a process can be started, and if
so what becomes of it. Moments are counted in nanoseconds since the start of the process.
-/

namespace GoldenRun

/-- How long collected streams may stay open after the end of a process, in nanoseconds. -/
def drainGrace : Nat := 2000000000

/-! ## 1. Hosts -/

/-- A stream that a process writes to. -/
structure Pipe where
  /-- All that is written to it until it is closed. -/
  bytes : Bytes := []
  /-- When the last process that holds it closes it, if that ever happens. -/
  closes? : Option Nat := some 0
  deriving DecidableEq, Repr

/-- What becomes of a process. -/
structure Process (σ : Type) where
  /-- When it ends if it is left alone, and its exit code, which it lacks if a signal killed it. -/
  ends? : Option (Nat × Option Int)
  /-- Why its end cannot be awaited, if that is so. -/
  refusal? : Option IoError := none
  stdout : Pipe := {}
  stderr : Pipe := {}
  /-- What it leaves on the console and in the world, if it is killed at a moment or left alone. -/
  leaves : (killed? : Option Nat) → Echo × World σ

/-- An operating system. -/
abbrev Host (σ : Type) := Invocation → World σ → Except IoError (Process σ)

/-! ## 2. Waiting -/

/-- How the wait for a process ended. -/
inductive Waited where
  | ended (moment : Nat) (code : Option Int)
  /-- The limit came first. -/
  | overdue (limit : Duration)
  | refused (cause : IoError)
  deriving DecidableEq, Repr

/-- Wait for the end of a process, with a limit no longer than that; `none` if the wait has no end. -/
def Process.wait? {σ : Type} (process : Process σ) (limit : Option Duration) : Option Waited :=
  match process.refusal?, process.ends?, limit with
  | some cause, _, _ => some (.refused cause)
  | none, some (moment, code), none => some (.ended moment code)
  | none, some (moment, code), some limit =>
    some (if moment ≤ limit.toNanos then .ended moment code else .overdue limit)
  | none, none, some limit => some (.overdue limit)
  | none, none, none => none

/-- The only wait without an end is the one without a limit for a process without an end. -/
theorem Process.wait?_eq_none_iff {σ : Type} (process : Process σ) (limit : Option Duration) :
    process.wait? limit = none ↔ process.refusal? = none ∧ process.ends? = none ∧ limit = none := by
  unfold wait?
  cases process.refusal? <;> cases process.ends? <;> cases limit <;> simp

/-- The stream is still open at the moment. -/
def Pipe.isOpenAt (pipe : Pipe) (moment : Nat) : Bool :=
  match pipe.closes? with
  | some closes => moment < closes
  | none => true

namespace Pipe

/-- What is collected of a stream, if it is closed by the deadline. -/
def collected? (pipe : Pipe) (deadline : Nat) : Option Bytes :=
  if pipe.isOpenAt deadline then none else some pipe.bytes

/-- How long one waits for it, having waited until `now` before. -/
def waitedUntil (pipe : Pipe) (now deadline : Nat) : Nat :=
  if pipe.isOpenAt deadline then deadline else max now (pipe.closes?.getD 0)

/-- What is collected, as text for display. -/
def text (pipe : Pipe) (deadline : Nat) : String :=
  ((pipe.collected? deadline).getD []).lossy

end Pipe

/-! ## 3. Events -/

namespace RunEvent

/-- An event about a command. -/
def ofCommand (level : Level) (message name : String) (fields : List (String × FieldValue)) : Event :=
  { level, origin := .commands, message, fields := ("program", .bare name) :: fields }

/-- A call begins. -/
def running (name : String) : Event :=
  ofCommand .debug "running command" name []

/-- A stream was given up. -/
def dropped (name stream : String) : Event :=
  ofCommand .warn (stream ++ " still open after the command exited; output dropped") name []

/-- What is logged about a stream: nothing, if it is closed by the deadline. -/
def droppedIfOpen (name stream : String) (pipe : Pipe) (deadline : Nat) : List Event :=
  if pipe.isOpenAt deadline then [dropped name stream] else []

/-- A command has ended. -/
def finished (name : String) (code : Option Int) (duration : Duration) : Event :=
  ofCommand .debug "command finished" name
    [("code", .ofExitCode code), ("ms", .ofNat duration.millis)]

end RunEvent

/-! ## 4. The runner -/

/-- The process runner, with the limit for each call. -/
structure ProcessRunner where
  limit : Option Duration := none
  deriving DecidableEq, Repr

/-- What a call returned. -/
structure Returned (σ : Type) where
  reply : Reply
  world : World σ
  /-- When it returned. -/
  moment : Nat

namespace ProcessRunner

variable {σ : Type}

/-- The refusal of a zero byte. -/
def zeroByte : IoError :=
  .custom .invalidInput "nul byte found in provided data"

/-- Start the process of a call. A zero byte in its name or arguments cannot be handed on. -/
def spawn (host : Host σ) (call : Invocation) (world : World σ) : Except IoError (Process σ) :=
  if (call.program :: call.args).any (·.contains 0) then .error zeroByte else host call world

/-- What there is to return at the end of a process. -/
def atEnd (call : Invocation) (process : Process σ) (moment : Nat) (code : Option Int) : Returned σ :=
  let name := call.programName
  let duration := Duration.ofNanos moment
  let (echo, world) := process.leaves none
  match call.output with
  | .inherit =>
    { reply := {
        result := .ok { exitCode := code, duration }
        echo
        events := [RunEvent.running name, RunEvent.finished name code duration] }
      world, moment }
  | .capture =>
    let deadline := moment + drainGrace
    let drops := RunEvent.droppedIfOpen name "stdout" process.stdout deadline ++
      RunEvent.droppedIfOpen name "stderr" process.stderr deadline
    { reply := {
        result := .ok {
          exitCode := code
          stdout := process.stdout.text deadline
          stderr := process.stderr.text deadline
          duration }
        echo
        events := RunEvent.running name :: drops ++ [RunEvent.finished name code duration] }
      world
      moment := process.stderr.waitedUntil (process.stdout.waitedUntil moment deadline) deadline }

/-- What there is to return without a result. -/
def withoutResult (call : Invocation) (error : CommandError) (left : Echo × World σ) (moment : Nat) :
    Returned σ :=
  { reply := { result := .error error, echo := left.1, events := [RunEvent.running call.programName] }
    world := left.2
    moment }

/-- What there is to return after the wait. -/
def afterWait (call : Invocation) (process : Process σ) : Waited → Returned σ
  | .ended moment code => atEnd call process moment code
  | .overdue limit =>
    withoutResult call (.timedOut call.programName limit) (process.leaves (some limit.toNanos))
      limit.toNanos
  | .refused cause => withoutResult call (.wait call.programName cause) (process.leaves none) 0

/-- Run a call; `none` if it does not return. -/
def run? (runner : ProcessRunner) (host : Host σ) (call : Invocation) (world : World σ) :
    Option (Returned σ) :=
  match spawn host call world with
  | .error cause => some (withoutResult call (.spawn call.programName cause) ({}, world) 0)
  | .ok process => (process.wait? runner.limit).map (afterWait call process)

/-- **When a call does not return**: only without a limit, and if its process never ends. -/
theorem run?_eq_none_iff (runner : ProcessRunner) (host : Host σ) (call : Invocation) (world : World σ) :
    runner.run? host call world = none ↔
      runner.limit = none ∧ ∃ process, spawn host call world = .ok process ∧
        process.refusal? = none ∧ process.ends? = none := by
  unfold run?
  cases spawn host call world with
  | error cause => simp
  | ok process =>
    simp only [Option.map_eq_none_iff, process.wait?_eq_none_iff, Except.ok.injEq]
    constructor
    · rintro ⟨hrefusal, hends, hlimit⟩
      exact ⟨hlimit, process, rfl, hrefusal, hends⟩
    · rintro ⟨hlimit, _, rfl, hrefusal, hends⟩
      exact ⟨hrefusal, hends, hlimit⟩

end ProcessRunner

end GoldenRun
