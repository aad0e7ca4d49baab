import GoldenRun.CommandLine.Option
import GoldenRun.CommandLine.Refusal

/-!
# Occurrences of options

The arguments are read from the left into *occurrences*. A token `--NAME=VALUE` is cut at its first
`=`; behind `--NAME` the next token is the value if the setting takes it. A token of one `-` and letters
is a row of one-letter options. The token `--` ends the options, and nothing may follow it.

`scan` reads as far as the tokens can be explained. Whether values are admissible is not its question.
-/

namespace GoldenRun.CommandLine

/-- One option on the command line. -/
inductive Occurrence where
  /-- `--NAME=VALUE`, one token. -/
  | attached (setting : Setting) (value : Bytes)
  /-- `--NAME VALUE`, two tokens. -/
  | detached (setting : Setting) (value : Bytes)
  /-- `--NAME` with nothing behind it that could be its value. -/
  | bare (setting : Setting)
  /-- A switch. -/
  | switch (switch : Switch)
  /-- A request for the help text. -/
  | help
  /-- A request for the version. -/
  | version
  deriving DecidableEq, Repr

/-- An occurrence whose value was looked for in the next token. It is not settled before the token
    behind it is explained. -/
def Occurrence.isOpen : Occurrence → Bool
  | .detached _ _ | .bare _ => true
  | _ => false

/-- What the arguments say: occurrences, and where an argument could not be explained, its refusal. -/
structure Scan where
  occurrences : List Occurrence
  stop? : Option Refusal
  deriving DecidableEq, Repr

namespace Scan

/-- Nothing left to read. -/
def done : Scan := ⟨[], none⟩

/-- An argument that cannot be explained. -/
def stop (refusal : Refusal) : Scan := ⟨[], some refusal⟩

/-- An occurrence in front of a scan. -/
def cons (occurrence : Occurrence) (scan : Scan) : Scan :=
  { scan with occurrences := occurrence :: scan.occurrences }

end Scan

/-! ## 1. The forms of a token -/

/-- The byte `-`. -/
def hyphen : UInt8 := 0x2D

/-- The form of a token. -/
inductive Token where
  /-- `--`. -/
  | endOfOptions
  /-- `--NAME` or `--NAME=VALUE`. -/
  | long (name : Bytes) (value? : Option Bytes)
  /-- `-` and letters. -/
  | short (letters : Bytes)
  /-- Anything else, a lone `-` included. -/
  | word (token : Bytes)
  deriving DecidableEq, Repr

/-- The form of an argument. -/
def Token.ofArgument (argument : Bytes) : Token :=
  match argument with
  | [0x2D] => .word argument
  | [0x2D, 0x2D] => .endOfOptions
  | 0x2D :: 0x2D :: rest =>
    let name := rest.takeWhile (· != 0x3D)
    match rest.drop name.length with
    | [] => .long name none
    | _ :: value => .long name (some value)
  | 0x2D :: letters => .short letters
  | _ => .word argument

/-! ## 2. Reading -/

/-- A row of one-letter options, then what `rest` says. The first letter without an option ends the
    reading; so does the first ill-formed piece, and then all that follows it is named with it. -/
def scanLetters (letters : Bytes) (pieces : List (Option Char)) (rest : Scan) : Scan :=
  match pieces with
  | [] => rest
  | none :: _ => .stop (.unknownArgument ("-" ++ letters.lossy))
  | some c :: pieces =>
    let left := letters.drop (utf8 (String.singleton c)).length
    match Request.ofShort? c with
    | some (.switch s) => (scanLetters left pieces rest).cons (.switch s)
    | some .help => (scanLetters left pieces rest).cons .help
    | some .version => (scanLetters left pieces rest).cons .version
    | some (.setting _) | none => .stop (.unknownArgument (String.ofList ['-', c]))

/-- What stands behind `--`. -/
def scanTrailing : List Bytes → Scan
  | [] => .done
  | argument :: _ => .stop (.unknownArgument argument.lossy)

/-- A token that takes no value from the next one; `rest` is what the arguments behind it say, and
    `trailing` what they say behind `--`. -/
def scanToken (token : Token) (rest trailing : Scan) : Scan :=
  match token with
  | .endOfOptions => trailing
  | .word w => .stop (.unknownArgument w.lossy)
  | .short letters => scanLetters letters letters.decodePieces rest
  | .long name value? =>
    match Request.ofLong? name, value? with
    | none, _ => .stop (.unknownArgument ("--" ++ name.lossy))
    | some (.setting s), some v => rest.cons (.attached s v)
    | some (.setting s), none => rest.cons (.bare s)
    | some (.switch s), none => rest.cons (.switch s)
    | some .help, none => rest.cons .help
    | some .version, none => rest.cons .version
    | some r, some v => .stop (.unexpectedValue v.lossy ("--" ++ r.long))

/-- The setting that a token opens, if its value is to be looked for in the next token. -/
def Token.opens? : Token → Option Setting
  | .long name none =>
    match Request.ofLong? name with
    | some (.setting s) => some s
    | _ => none
  | _ => none

/-- The arguments, from the left. -/
def scan : List Bytes → Scan
  | [] => .done
  | [argument] => scanToken (.ofArgument argument) .done .done
  | argument :: next :: rest =>
    match (Token.ofArgument argument).opens? with
    | some s =>
      if s.takes next then (scan rest).cons (.detached s next)
      else (scan (next :: rest)).cons (.bare s)
    | none => scanToken (.ofArgument argument) (scan (next :: rest)) (scanTrailing (next :: rest))

end GoldenRun.CommandLine
