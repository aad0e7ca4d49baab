import GoldenRun.Run.World

/-!
# Plans

A plan says what to do next, depending on what was learned so far. There are six things to do: tell the
reporter something, run a command, log an event, look at the file tree, read the stopwatch, and end,
with a value or with an error. A plan never learns how the reporter answered: an error of the reporter
ends it.

`Plan.perform` carries a plan out and keeps a *trace* of what was done.

* `Plan.bind` is one plan after the other; `Plan` is a lawful monad.
* `Progress.steps`, the trace, holds every callback, command and event, in order.
-/

namespace GoldenRun

/-! ## 1. Plans -/

/-- A plan with a value in `α`. -/
inductive Plan (α : Type) : Type where
  /-- End with a value. -/
  | done (value : α)
  /-- End with an error. -/
  | fail (error : RunError)
  /-- Tell the reporter. -/
  | notify (callback : Callback) (next : Plan α)
  /-- Run a command. -/
  | command (call : Invocation) (next : CommandResult → Plan α)
  /-- Log an event. -/
  | log (event : Event) (next : Plan α)
  /-- Look at the file tree. -/
  | look (next : FileTree → Plan α)
  /-- Read the time since the last reading. -/
  | lap (next : Duration → Plan α)

namespace Plan

variable {α β γ : Type}

/-- One plan, and then the one that its value asks for. -/
def bind : Plan α → (α → Plan β) → Plan β
  | done value, k => k value
  | fail error, _ => fail error
  | notify callback next, k => notify callback (next.bind k)
  | command call next, k => command call fun result => (next result).bind k
  | log event next, k => log event (next.bind k)
  | look next, k => look fun tree => (next tree).bind k
  | lap next, k => lap fun elapsed => (next elapsed).bind k

instance : Monad Plan where
  pure := done
  bind := bind

/-- Ending with the value is no further plan. -/
theorem bind_done (plan : Plan α) : plan.bind done = plan := by
  induction plan with
  | done | fail => rfl
  | notify callback next ih => exact congrArg (notify callback) ih
  | command call next ih => exact congrArg (command call) (funext ih)
  | log event next ih => exact congrArg (log event) ih
  | look next ih => exact congrArg look (funext ih)
  | lap next ih => exact congrArg lap (funext ih)

/-- Plans one after the other are grouped as one likes. -/
theorem bind_assoc (plan : Plan α) (f : α → Plan β) (g : β → Plan γ) :
    (plan.bind f).bind g = plan.bind fun value => (f value).bind g := by
  induction plan with
  | done | fail => rfl
  | notify callback next ih => exact congrArg (notify callback) ih
  | command call next ih => exact congrArg (command call) (funext ih)
  | log event next ih => exact congrArg (log event) ih
  | look next ih => exact congrArg look (funext ih)
  | lap next ih => exact congrArg lap (funext ih)

instance : LawfulMonad Plan := LawfulMonad.mk' Plan bind_done (fun _ _ => rfl) bind_assoc

/-- Tell the reporter. -/
def tell (callback : Callback) : Plan Unit := notify callback (done ())

/-- Run a command. -/
def call (invocation : Invocation) : Plan CommandResult := command invocation done

/-- Log an event. -/
def record (event : Event) : Plan Unit := log event (done ())

/-- Log events in order. -/
def recordAll : List Event → Plan Unit
  | [] => done ()
  | event :: rest => log event (recordAll rest)

/-- A plan whose own events lie in a stretch. -/
def within (span : Span) : Plan α → Plan α
  | done value => done value
  | fail error => fail error
  | notify callback next => notify callback (next.within span)
  | command call next => command call fun result => (next result).within span
  | log event next => log (event.within span) (next.within span)
  | look next => look fun tree => (next tree).within span
  | lap next => lap fun elapsed => (next elapsed).within span

/-- A stretch goes around plans one after the other. -/
theorem within_bind (span : Span) (plan : Plan α) (f : α → Plan β) :
    (plan.bind f).within span = (plan.within span).bind fun value => (f value).within span := by
  induction plan with
  | done | fail => rfl
  | notify callback next ih => exact congrArg (notify callback) ih
  | command call next ih => exact congrArg (command call) (funext ih)
  | log event next ih => exact congrArg (log (event.within span)) ih
  | look next ih => exact congrArg look (funext ih)
  | lap next ih => exact congrArg lap (funext ih)

/-- The file tree as it is now. -/
def tree : Plan FileTree := look done

/-- The time since the last reading. -/
def elapsed : Plan Duration := lap done

/-- The value, or the error. -/
def ofExcept : Except RunError α → Plan α
  | .ok value => done value
  | .error error => fail error

end Plan

/-! ## 2. Performance -/

/-- One thing that was done. -/
inductive Step where
  | callback (callback : Callback)
  | command (call : Invocation) (reply : Reply)
  | event (event : Event)
  deriving DecidableEq, Repr

/-- Everything that a plan acts on. -/
structure Session (σ ρ : Type) where
  world : World σ
  reporter : ρ
  /-- The readings of the stopwatch, used in turn and over again; none are zero. -/
  laps : List Duration := []

/-- What became of a plan: how it ended, what was done, and what it left behind. -/
structure Progress (σ ρ α : Type) where
  outcome : Except RunError α
  steps : List Step
  session : Session σ ρ

namespace Progress

variable {σ ρ α : Type}

/-- An end, nothing having been done. -/
def ended (session : Session σ ρ) (outcome : Except RunError α) : Progress σ ρ α :=
  ⟨outcome, [], session⟩

/-- One thing done before all others. -/
def after (step : Step) (progress : Progress σ ρ α) : Progress σ ρ α :=
  { progress with steps := step :: progress.steps }

end Progress

/-- The stopwatch's next reading, and the readings behind it. -/
def nextLap : List Duration → Duration × List Duration
  | [] => (.zero, [])
  | lap :: laps => (lap, laps ++ [lap])

namespace Plan

variable {σ ρ α : Type}

/-- Carry out a plan. -/
def perform (runner : Runner σ) (reporter : Reporter ρ) :
    Plan α → Session σ ρ → Progress σ ρ α
  | done value, session => .ended session (.ok value)
  | fail error, session => .ended session (.error error)
  | notify callback next, session =>
    let (answer, state) := reporter callback session.reporter
    let session := { session with reporter := state }
    Progress.after (.callback callback) <|
      match answer with
      | none => next.perform runner reporter session
      | some error => .ended session (.error (.io error))
  | command call next, session =>
    let (reply, world) := runner call session.world
    ((next reply.result).perform runner reporter { session with world := world }).after
      (.command call reply)
  | log event next, session => (next.perform runner reporter session).after (.event event)
  | look next, session => (next session.world.files).perform runner reporter session
  | lap next, session =>
    let (reading, laps) := nextLap session.laps
    (next reading).perform runner reporter { session with laps := laps }

end Plan

/-! ## 3. Views of a trace -/

namespace Step

/-- The callback, if the step is one. -/
def callback? : Step → Option Callback
  | callback c => some c
  | _ => none

/-- The command, if the step is one. -/
def call? : Step → Option Invocation
  | command c _ => some c
  | _ => none

/-- What was logged in a step. -/
def events : Step → List Event
  | command _ reply => reply.events
  | event e => [e]
  | callback _ => []

end Step

end GoldenRun
