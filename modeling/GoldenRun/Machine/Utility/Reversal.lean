import GoldenRun.Machine.Utility.Content
import GoldenRun.Regex.Syntax

/-!
# Reversal

`tac` writes the records of its operands from the last to the first, and `rev` writes every line backwards.

* A record ends with a separator, or begins with one. Separators are looked for from the end, and none of
  them overlaps another.
-/

namespace GoldenRun.Machine

/-! ## 1. Records -/

/-- How records are told apart. -/
inductive RecordSeparator where
  | text (bytes : Bytes)
  | pattern (regex : Regex)
  deriving Repr

/-- The length of a separator at a place of a content, of which only a part of the given length counts. -/
def RecordSeparator.lengthAt? (separator : RecordSeparator) (content : Bytes) (limit place : Nat) : Option Nat :=
  let part := (content.take limit).drop place
  match separator with
  | .text bytes => if bytes.isPrefixOf part then some bytes.length else none
  | .pattern regex =>
    let before := (content.take place).reverse.map ByteText.charOf
    (regex.matchAt? { offset := place, before, after := part.map ByteText.charOf }).map (·.offset - place)

/-- The last separator of a content before a limit: its place and its length. Places are tried downwards from
    `place`. -/
def RecordSeparator.last? (separator : RecordSeparator) (content : Bytes) (limit : Nat) :
    (place : Nat) → Option (Nat × Nat)
  | 0 => (separator.lengthAt? content limit 0).map fun length => (0, length)
  | place + 1 =>
    match separator.lengthAt? content limit (place + 1) with
    | some length => some (place + 1, length)
    | none => separator.last? content limit place

/-- The separators of a content before a limit, from the last to the first. `fuel` covers the content. -/
def RecordSeparator.all (separator : RecordSeparator) (content : Bytes) :
    (fuel limit : Nat) → List (Nat × Nat)
  | 0, _ => []
  | fuel + 1, limit =>
    if limit = 0 then []
    else
      match separator.last? content limit (limit - 1) with
      | none => []
      | some (place, length) => (place, length) :: separator.all content fuel place

/-- The records of a content in front of an end, from the last to the first. `isEnded` says whether a record ends
    there. -/
def recordsBack (content : Bytes) (before : Bool) : (stop : Nat) → List (Nat × Nat) → List Bytes
  | stop, [] => [content.take stop]
  | stop, (place, length) :: rest =>
    let start := if before then place else place + length
    (content.take stop).drop start :: recordsBack content before start rest

/-- A content with its records in reverse order. -/
def reversedRecords (separator : RecordSeparator) (before : Bool) (content : Bytes) : Bytes :=
  (recordsBack content before content.length
    (separator.all content (content.length + 1) content.length)).flatten

/-- The options of `tac`. -/
def reversalOptions : List OptionKind :=
  [flag 'b' ["before"], flag 'r' ["regex"], valued 's' ["separator"]]

/-- Records from the last to the first. -/
def tac : Utility := fun errand =>
  errand.withOptions reversalOptions fun arguments =>
    let written := (arguments.values "s").getLastD "\n"
    let separator : Except String RecordSeparator :=
      if arguments.has "r" then
        if written.isEmpty then .error "separator cannot be empty"
        else
          match Regex.ofText .looseBasic false written.toList with
          | .ok regex => .ok (.pattern regex)
          | .error fault => .error fault.message
      else .ok (.text (if written.isEmpty then [0] else ByteText.toBytes written))
    match separator with
    | .error fault => errand.complain 1 (errand.line fault)
    | .ok separator =>
      let operands := orInput arguments.operands
      let refusal (path : String) (cause : Errno) : String :=
        if cause = .isDirectory then errand.line (shownName path ++ ": read error: " ++ Errno.invalidArgument.message)
        else errand.line ("failed to open " ++ quotedName path ++ " for reading: " ++ cause.message)
      errand.afterReading operands
        (readEach refusal errand (fun _ => reversedRecords separator (arguments.has "b")) operands)

/-! ## 2. Lines -/

/-- Every line of a content backwards. -/
def reversedLines (content : Bytes) : Bytes :=
  (linesOf content).flatMap fun line =>
    if line.getLast? = some 0x0A then line.dropLast.reverse ++ [0x0A] else line.reverse

/-- Lines backwards. -/
def rev : Utility := fun errand =>
  errand.withOptions [] fun arguments =>
    let refusal (path : String) (cause : Errno) : String :=
      if cause = .isDirectory then errand.line (path ++ ": " ++ cause.message)
      else errand.line ("cannot open " ++ path ++ ": " ++ cause.message)
    if arguments.operands.isEmpty then
      errand.afterReading ["-"] (readEach refusal errand (fun _ => reversedLines) ["-"])
    else
      let named := arguments.operands.map fun path => if path = "-" then "./-" else path
      errand.afterReading [] (readEach (fun path => refusal (if path = "./-" then "-" else path)) errand
        (fun _ => reversedLines) named)

end GoldenRun.Machine
