import GoldenRun.Text.Visible
import GoldenRun.Version

/-!
# Command lines that are not run

A command line that does not lead to a run ends in a *refusal*: a fault, or a request for the help text
or the version. A refusal has one sentence and one exit code. Asking for help or for the version is no
fault and has exit code 0; every fault has exit code 2.
-/

namespace GoldenRun.CommandLine

/-- Why a value is not admissible for its option, where the reason is told. -/
inductive BadValue where
  | emptyNumber
  | badDigit
  | numberTooLarge
  /-- The number is 0. -/
  | zero
  | notBoolean
  deriving DecidableEq, Repr

/-- The reason in words. -/
def BadValue.message : BadValue → String
  | .emptyNumber => "cannot parse integer from empty string"
  | .badDigit => "invalid digit found in string"
  | .numberTooLarge => "number too large to fit in target type"
  | .zero => "0 is not in 1..18446744073709551615"
  | .notBoolean => "value was not a boolean"

/-- Why a command line is not run. Options are named as messages show them. -/
inductive Refusal where
  /-- An argument that no option explains. -/
  | unknownArgument (argument : String)
  /-- A value attached to an option that takes none. -/
  | unexpectedValue (value option : String)
  /-- An option without its value, or with an empty one where none may be empty. -/
  | missingValue (option : String)
  /-- A value that is not among those possible. -/
  | impossibleValue (value option : String)
  /-- A value that is not admissible, and the reason. -/
  | badValue (value option : String) (reason : BadValue)
  /-- An option that occurs twice. -/
  | repeated (option : String)
  /-- A text value that is not UTF-8. -/
  | notUtf8
  /-- The help text is asked for. -/
  | help
  /-- The version is asked for. -/
  | version
  deriving DecidableEq, Repr

namespace Refusal

/-- Asking is no fault. -/
def isFault : Refusal → Bool
  | .help | .version => false
  | _ => true

/-- The exit code. -/
def exitCode (refusal : Refusal) : Int :=
  if refusal.isFault then 2 else 0

/-- What the program is for, in one line. -/
def about : String :=
  "Build the SMT wrapper, run it on every .smt2 test and diff against golden files"

/-- A word of the command line in a sentence. It is set in yellow, so that no escape sequence that the
    word begins reaches beyond it. -/
def marked (word : String) : String :=
  "\x1b[33m" ++ word ++ "\x1b[0m"

/-- The sentence, with its colors. -/
def message : Refusal → String
  | .unknownArgument argument => "error: unexpected argument '" ++ marked argument ++ "' found"
  | .unexpectedValue value option =>
    "error: unexpected value '" ++ marked value ++ "' for '" ++ option ++
      "' found; no more were expected"
  | .missingValue option => "error: a value is required for '" ++ option ++ "' but none was supplied"
  | .impossibleValue value option =>
    "error: invalid value '" ++ marked value ++ "' for '" ++ option ++ "'"
  | .badValue value option reason =>
    "error: invalid value '" ++ marked value ++ "' for '" ++ option ++ "': " ++ reason.message
  | .repeated option => "error: the argument '" ++ option ++ "' cannot be used multiple times"
  | .notUtf8 => "error: invalid UTF-8 was detected in one or more arguments"
  | .help => about
  | .version => "functest " ++ GoldenRun.version

/-- The first line of the sentence, as a terminal shows it. -/
def headline (refusal : Refusal) : String :=
  Text.firstLine (Text.visible refusal.message)

end Refusal

end GoldenRun.CommandLine
