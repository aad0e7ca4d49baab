import GoldenRun.CommandLine.Option
import GoldenRun.CommandLine.Refusal

/-!
# Values of options

Each setting reads its value by one of four rules, and `Setting.Value` is what it reads.

* A *path* is any byte string but the empty one.
* A *text* is any UTF-8 text, also the empty one.
* A *number of seconds* is an optional `+` and one or more ASCII digits; its value is at least 1 and
  less than 2 ^ 64. Digits are read from the left, so the first fault is the one that is told.
* A *format* is one of two words.

A switch has a value only in the environment: one of twelve words, in any mixture of cases.
-/

namespace GoldenRun.CommandLine

/-- How the results of a run are told. -/
inductive ReportFormat where
  | console
  | json
  deriving DecidableEq, Repr

/-! ## 1. Numbers -/

/-- The largest number of seconds. -/
def maxSeconds : Nat := UInt64.size - 1

/-- The value of an ASCII digit. -/
def digit? (c : Char) : Option Nat :=
  if '0' ≤ c && c ≤ '9' then some (c.toNat - 48) else none

/-- Digits read from the left, behind a beginning of value `n`. -/
def readDigits (n : Nat) : List Char → Except BadValue Nat
  | [] => .ok n
  | c :: cs =>
    match digit? c with
    | none => .error .badDigit
    | some d => if maxSeconds < n * 10 + d then .error .numberTooLarge else readDigits (n * 10 + d) cs

/-- An unsigned number with an optional `+`. -/
def readNumber : List Char → Except BadValue Nat
  | [] => .error .emptyNumber
  | ['+'] => .error .badDigit
  | '+' :: cs => readDigits 0 cs
  | cs => readDigits 0 cs

/-- A number of seconds. -/
def readSeconds (chars : List Char) : Except BadValue Nat :=
  match readNumber chars with
  | .error e => .error e
  | .ok 0 => .error .zero
  | .ok n => .ok n

/-! ## 2. Words -/

/-- A lower-case letter for each upper-case ASCII letter. -/
def lowered (text : String) : String :=
  String.ofList (text.toList.map Char.toLower)

/-- The words for yes and for no. -/
def readBoolean? (text : String) : Option Bool :=
  let word := lowered text
  if ["y", "yes", "t", "true", "on", "1"].contains word then some true
  else if ["n", "no", "f", "false", "off", "0"].contains word then some false
  else none

/-- The names of the formats. -/
def readFormat? : String → Option ReportFormat
  | "console" => some .console
  | "json" => some .json
  | _ => none

/-! ## 3. Settings and switches -/

/-- What a setting reads. -/
abbrev Setting.Value : Setting → Type
  | .testsDir | .solverExec | .outputDir => Bytes
  | .buildCommand | .sutProgram | .sutArg | .solver | .outputKind | .diffProgram => String
  | .timeout => Nat
  | .format => ReportFormat

/-- A path value. -/
def readPath (setting : Setting) (value : Bytes) : Except Refusal Bytes :=
  if value.isEmpty then .error (.missingValue setting.shown) else .ok value

/-- A text value. -/
def readText (value : Bytes) : Except Refusal String :=
  match value.decode? with
  | some text => .ok text
  | none => .error .notUtf8

/-- The value of a setting. -/
def Setting.read : (setting : Setting) → Bytes → Except Refusal setting.Value
  | .testsDir, value => readPath .testsDir value
  | .solverExec, value => readPath .solverExec value
  | .outputDir, value => readPath .outputDir value
  | .buildCommand, value => readText value
  | .sutProgram, value => readText value
  | .sutArg, value => readText value
  | .solver, value => readText value
  | .outputKind, value => readText value
  | .diffProgram, value => readText value
  | .timeout, value =>
    match readText value with
    | .error e => .error e
    | .ok text =>
      match readSeconds text.toList with
      | .ok n => .ok n
      | .error reason => .error (.badValue text Setting.timeout.shown reason)
  | .format, value =>
    if value.isEmpty then .error (.missingValue Setting.format.shown)
    else
      match value.decode?.bind readFormat? with
      | some f => .ok f
      | none => .error (.impossibleValue value.lossy Setting.format.shown)

/-- The value of a switch's environment variable. -/
def Switch.read (switch : Switch) (value : Bytes) : Except Refusal Bool :=
  match readText value with
  | .error e => .error e
  | .ok text =>
    match readBoolean? text with
    | some b => .ok b
    | none => .error (.badValue text switch.shown .notBoolean)

end GoldenRun.CommandLine
