import GoldenRun.Reporter.Callback

/-!
# Writing into a sink

A *scribe* turns callbacks into emissions: writes and flushes. A *sink* takes emissions. It may be
bounded, and it may refuse every flush.

* A bounded sink takes bytes until it is full, the first part of a write if the whole does not fit.
  A write of which something does not fit is refused; the empty write never is.
* A refused emission is the last of its callback: what the scribe has to say behind it is not tried.

A scribe and a sink together are a reporter. The scribe's state changes whether or not the sink takes
what it says.
-/

namespace GoldenRun

/-! ## 1. Emissions -/

/-- What is handed to a sink. -/
inductive Emission where
  | write (bytes : Bytes)
  | flush
  deriving DecidableEq, Repr

/-- The bytes of an emission. -/
def Emission.bytes : Emission → Bytes
  | .write bytes => bytes
  | .flush => []

/-- All bytes of a list of emissions. -/
def written (emissions : List Emission) : Bytes :=
  emissions.flatMap Emission.bytes

@[simp] theorem written_nil : written [] = [] := rfl

@[simp] theorem written_cons (e : Emission) (es : List Emission) :
    written (e :: es) = e.bytes ++ written es := rfl

/-! ## 2. Sinks -/

/-- A place for bytes. -/
structure Sink where
  /-- How many bytes there is room for in total, if there is a bound. -/
  capacity? : Option Nat := none
  /-- Every flush is refused. -/
  refusesFlush : Bool := false
  /-- The bytes taken so far. -/
  held : Bytes := []
  deriving DecidableEq, Repr

namespace Sink

/-- The refusal of a write that does not fit. -/
def full : IoError :=
  .custom .storageFull "sink is full"

/-- The refusal of a flush. -/
def unflushed : IoError :=
  .custom .brokenPipe "flush refused"

/-- The part of `bytes` that still fits. -/
def fitting (sink : Sink) (bytes : Bytes) : Bytes :=
  match sink.capacity? with
  | none => bytes
  | some n => bytes.take (n - sink.held.length)

/-- One emission. -/
def take (sink : Sink) : Emission → Option IoError × Sink
  | .write bytes =>
    let part := sink.fitting bytes
    (if part.length = bytes.length then none else some full,
      { sink with held := sink.held ++ part })
  | .flush => (if sink.refusesFlush then some unflushed else none, sink)

/-- Emissions up to the first that is refused. -/
def takeAll (sink : Sink) : List Emission → Option IoError × Sink
  | [] => (none, sink)
  | e :: es =>
    match sink.take e with
    | (none, sink') => sink'.takeAll es
    | (some error, sink') => (some error, sink')

/-- An unbounded sink takes every write. -/
theorem take_write_of_unbounded {sink : Sink} (h : sink.capacity? = none) (bytes : Bytes) :
    sink.take (.write bytes) = (none, { sink with held := sink.held ++ bytes }) := by
  simp [take, fitting, h]

end Sink

/-! ## 3. Scribes -/

/-- A machine with states in `α` that words callbacks. -/
abbrev Scribe (α : Type) := Callback → α → List Emission × α

/-- The reporter that hands a scribe's words to a sink. -/
def Scribe.reporter {α : Type} (scribe : Scribe α) : Reporter (α × Sink) := fun callback state =>
  let (emissions, next) := scribe callback state.1
  let (answer, sink) := state.2.takeAll emissions
  (answer, (next, sink))

end GoldenRun
