import GoldenRun.Files.Tree
import GoldenRun.Machine.Utility.Quoting

/-!
# Utilities

A utility is a program of the machine that starts no other program. It gets its arguments, something to
read and the file tree, and leaves an exit code, what it wrote, and a changed tree. Both of its output
streams are kept in one list, so that their order is known where they lead to one place.

Arguments are byte texts.
-/

namespace GoldenRun.Machine

/-- What can be read. -/
inductive Source where
  /-- Some bytes, and then the end. -/
  | bytes (content : Bytes)
  /-- These bytes over and over. -/
  | cycle (pattern : Bytes)
  /-- Nothing, and no end either. -/
  | silent
  /-- Every attempt to read is refused. -/
  | refusing (cause : Errno)
  deriving DecidableEq, Repr, Inhabited

/-- All that is to be read, if there is an end. -/
def Source.all? : Source → Option Bytes
  | .bytes content => some content
  | .refusing _ => some []
  | .cycle _ | .silent => none

/-- The first `n` bytes, or all if there are fewer. -/
def Source.first? (n : Nat) : Source → Option Bytes
  | .bytes content => some (content.take n)
  | .cycle pattern =>
    some ((List.replicate (n / max 1 pattern.length + 1) pattern).flatten.take n)
  | .refusing _ => some []
  | .silent => none

/-- The source that a path names. -/
def Source.ofPath (tree : FileTree) (path : String) : Except Errno Source :=
  match tree.find true (ByteText.toBytes path) with
  | .error e => .error e
  | .ok (.file _ content) => .ok (.bytes content)
  | .ok (.dir _ _) => .error .isDirectory
  | .ok (.device .null) => .ok (.bytes [])
  | .ok (.device _) => .ok (.cycle [0])
  | .ok _ => .ok .silent

/-- The two output streams. -/
inductive Outlet where
  | out
  | err
  deriving DecidableEq, Repr

/-- What a utility is given. -/
structure Errand where
  /-- The name by which the utility was called. -/
  name : String
  args : List String
  input : Source
  files : FileTree
  /-- What is not used of the input can be left for the next program. -/
  seekable : Bool := false
  /-- The variables that the utility gets to know. -/
  environment : List (String × String) := []

/-- What a utility leaves. -/
structure Effort where
  code : Nat := 0
  /-- What it wrote, in order. -/
  said : List (Outlet × Bytes) := []
  files : FileTree
  /-- What it did not read of its input. -/
  unread : Source := .bytes []
  /-- How long it slept, in nanoseconds. -/
  slept : Nat := 0
  /-- It waits for something that never comes, or never comes to an end of writing. -/
  endless : Bool := false
  /-- What it writes over and over. -/
  pours : Option Bytes := none

/-- A program that starts no other. -/
abbrev Utility := Errand → Effort

namespace Errand

/-- The end of an errand that changes no file and leaves its input alone. -/
def finish (errand : Errand) (code : Nat) (said : List (Outlet × Bytes) := []) : Effort :=
  { code, said, files := errand.files, unread := errand.input }

/-- The end of an errand that wrote a text. -/
def say (errand : Errand) (text : String) : Effort :=
  errand.finish 0 [(.out, ByteText.toBytes text)]

/-- The end of an errand that failed with a message. -/
def complain (errand : Errand) (code : Nat) (text : String) : Effort :=
  errand.finish code [(.err, ByteText.toBytes text)]

/-- An errand that never ends. -/
def hang (errand : Errand) : Effort :=
  { errand.finish 0 with endless := true }

/-- An errand that writes the same over and over. -/
def pour (errand : Errand) (pattern : Bytes) : Effort :=
  { errand.hang with pours := some pattern }

/-- The path stands for the input. -/
def isInput (path : String) : Bool :=
  ["-", "/dev/stdin", "/dev/fd/0", "/proc/self/fd/0"].contains path

/-- The content at a path, `-` being the input. -/
def read (errand : Errand) (path : String) : Except Errno Source :=
  if isInput path then
    match errand.input with
    | .refusing cause => .error cause
    | input => .ok input
  else Source.ofPath errand.files path

/-- The end of an errand with the wrong operands. -/
def misused (errand : Errand) (fault : String) : Effort :=
  errand.complain 1
    (errand.name ++ ": " ++ fault ++ "\nTry '" ++ errand.name ++ " --help' for more information.\n")

/-- A line of a message. -/
def line (errand : Errand) (text : String) : String :=
  errand.name ++ ": " ++ text ++ "\n"

/-- A line about a refused path. -/
def refusal (errand : Errand) (path : String) (cause : Errno) : String :=
  errand.line (shownName path ++ ": " ++ cause.message)

/-- A line about something that could not be done to a path. -/
def unable (errand : Errand) (what path : String) (cause : Errno) : String :=
  errand.line (what ++ " " ++ quotedName path ++ ": " ++ cause.message)

end Errand

/-- Lines of a byte string, each with the byte that ends it; the last one may have none. -/
def linesOf (content : Bytes) (ending : UInt8 := 0x0A) : List Bytes :=
  match content with
  | [] => []
  | b :: rest =>
    if b = ending then [b] :: linesOf rest ending
    else
      match linesOf rest ending with
      | [] => [[b]]
      | line :: lines => (b :: line) :: lines

/-- A natural number in decimal digits. -/
def decimal? (text : String) : Option Nat :=
  if text.isEmpty || !text.toList.all Char.isDigit then none
  else some (text.toList.foldl (fun n c => n * 10 + (c.toNat - 48)) 0)

/-- A text behind a beginning, if it has that beginning. -/
def after? (beginning text : String) : Option String :=
  if beginning.toList.isPrefixOf text.toList then
    some (String.ofList (text.toList.drop beginning.length))
  else none

end GoldenRun.Machine
