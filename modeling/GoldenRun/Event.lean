import GoldenRun.Bytes.Utf8

/-!
# Log events

Besides what a reporter is told, the harness logs events. An event has a level, an origin, a message and
named fields. A *text* field and a *bare* field differ only in a log file, where texts are quoted. An
event may lie in *spans*: stretches of the work that have a name and fields of their own.
-/

namespace GoldenRun

/-- How much an event matters. -/
inductive Level where
  | debug
  | info
  | warn
  | error
  deriving DecidableEq, Repr

namespace Level

/-- The rank of a level, `error` highest. -/
def rank : Level → Nat
  | .debug => 0
  | .info => 1
  | .warn => 2
  | .error => 3

/-- The level's name. -/
def name : Level → String
  | .debug => "DEBUG"
  | .info => "INFO"
  | .warn => "WARN"
  | .error => "ERROR"

/-- The level is `threshold` or above. -/
def reaches (level threshold : Level) : Bool :=
  threshold.rank ≤ level.rank

end Level

/-- The part of the program that logs. -/
inductive Origin where
  | discovery
  | runLoop
  | commands
  deriving DecidableEq, Repr

/-- The origin's name in a log file. -/
def Origin.name : Origin → String
  | .discovery => "functest::harness::case"
  | .runLoop => "functest::harness::runner"
  | .commands => "functest::harness::exec"

/-- The value of a field. -/
inductive FieldValue where
  | text (text : String)
  | bare (text : String)
  deriving DecidableEq, Repr

namespace FieldValue

/-- The value without quotes. -/
def plain : FieldValue → String
  | .text s | .bare s => s

/-- A count. -/
def ofNat (n : Nat) : FieldValue := .bare (toString n)

/-- An exit code, which a command that a signal killed does not have. -/
def ofExitCode : Option Int → FieldValue
  | some n => .bare ("Some(" ++ toString n ++ ")")
  | none => .bare "None"

end FieldValue

/-- A stretch of the work. Its own level is `info`. -/
structure Span where
  name : String
  origin : Origin
  /-- The names of its fields, and their values as they are displayed. -/
  fields : List (String × String)
  deriving DecidableEq, Repr

namespace Span

/-- The discovery of cases below a root. -/
def discovery (root : Bytes) : Span :=
  { name := "discover", origin := .discovery, fields := [("root", root.lossy)] }

/-- A run of all cases below a directory. -/
def run (testsDir : Bytes) : Span :=
  { name := "run", origin := .runLoop, fields := [("tests_dir", testsDir.lossy)] }

end Span

/-- One event. -/
structure Event where
  level : Level
  origin : Origin
  message : String
  fields : List (String × FieldValue) := []
  /-- The stretches that the event lies in. -/
  spans : List Span := []
  deriving DecidableEq, Repr

namespace Event

/-- The event as part of a stretch. -/
def within (span : Span) (event : Event) : Event :=
  { event with spans := span :: event.spans }

/-- The names of all parts of the event: its message, and its fields. -/
def fieldNames (event : Event) : List String :=
  "message" :: event.fields.map Prod.fst

/-- A stretch around an event changes nothing of what is logged about it. -/
@[simp] theorem message_within (span : Span) (event : Event) :
    (event.within span).message = event.message := rfl

end Event

end GoldenRun
