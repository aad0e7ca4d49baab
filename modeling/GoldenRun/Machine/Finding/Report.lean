import GoldenRun.Machine.Utility.Mode
import GoldenRun.Machine.Utility.Places

/-!
# Reports on found files

What `-printf` writes about a file: a text with directives, each of which stands for something that is known of
the file.

* `FoundFile` is a file that was found: its path, the path that the search began with, and what it is.
* `readReport` reads a format; what it cannot read stands for itself and is told.
-/

namespace GoldenRun.Machine.Finding

/-! ## 1. Files -/

/-- A file that was found. -/
structure FoundFile where
  path : String
  /-- Where the search began. -/
  origin : String
  depth : Nat
  location : Location
  /-- What the path names, links being followed if the search does that. -/
  node : Node

namespace FoundFile

/-- The last name of the path. -/
def name (file : FoundFile) : String := lastName file.path

/-- The last name of the path, with the slashes behind it. -/
def nameAsGiven (file : FoundFile) : String :=
  let slashes := file.path.toList.reverse.takeWhile (· = '/')
  if slashes.length = file.path.length then file.name
  else file.name ++ String.ofList slashes

/-- The letter of a kind of file. -/
def kindOf : Node → Char
  | .file _ _ => 'f'
  | .dir _ _ => 'd'
  | .link _ => 'l'
  | .pipe => 'p'
  | .device _ => 'c'

/-- The size in bytes. -/
def sizeOf : Node → Nat
  | .file _ content => content.length
  | .dir _ _ => 4096
  | .link target => target.length
  | .pipe | .device _ => 0

/-- The permission bits. -/
def modeOf : Node → Nat
  | .file attributes _ | .dir attributes _ => attributes.mode
  | .link _ => 0o777
  | .pipe => 0o644
  | .device _ => 0o666

/-- When it was changed last. -/
def timeOf : Node → Int
  | .file attributes _ | .dir attributes _ => attributes.modified
  | .link _ | .pipe | .device _ => 0

/-- How many names it has. A directory has one more for each directory in it. -/
def linksOf : Node → Nat
  | .dir _ entries => 2 + entries.countP fun (_, node) => kindOf node = 'd'
  | _ => 1

/-- The directory part of the path. -/
def folder (file : FoundFile) : String :=
  let cs := file.path.toList.reverse.dropWhile (· != '/')
  if cs.isEmpty then "." else String.ofList (cs.drop 1).reverse

/-- The path behind the place where the search began. -/
def behindOrigin (file : FoundFile) : String :=
  let cs := file.path.toList.drop file.origin.length
  String.ofList (if cs.head? = some '/' then cs.drop 1 else cs)

end FoundFile

/-! ## 2. Formats -/

/-- A part of a format. -/
inductive ReportPart where
  | text (cs : List Char)
  | field (isLeft isZeroed : Bool) (width : Nat) (precision : Option Nat) (letter : Char)
  /-- Nothing more is written. -/
  | stop
  deriving DecidableEq, Repr

/-- The letters of the fields that there are. -/
def fieldLetters : List Char := "bdfGghHklMmnPpsUuyY".toList

/-- A directive behind its sign, and what follows it; a warning if there is no such directive. -/
def readField (cs : List Char) : Except String (ReportPart × Option String × List Char) :=
  let flags := cs.takeWhile fun c => "-+ #0".toList.contains c
  let rest := cs.drop flags.length
  let (width, rest) := leadingDigits rest
  let (precision, rest) : Option Nat × List Char :=
    match rest with
    | '.' :: rest => let (n, rest) := leadingDigits rest; (some (n.getD 0), rest)
    | rest => (none, rest)
  match rest with
  | [] => .error "error: % at end of format string"
  | '%' :: rest => .ok (.text ['%'], none, rest)
  | letter :: rest =>
    let written := '%' :: cs.take (cs.length - rest.length)
    if fieldLetters.contains letter then
      .ok (.field (flags.contains '-') (flags.contains '0' || (letter = 'm' && flags.contains '#'))
        (if letter = 'm' && flags.contains '#' then 4 else width.getD 0) precision letter, none, rest)
    else if "ABCT".toList.contains letter && rest.isEmpty then
      .ok (.text written,
        some ("warning: format directive \x60%" ++ String.singleton letter ++
          "' should be followed by another character"), rest)
    else
      .ok (.text written, some ("warning: unrecognized format directive \x60" ++ String.ofList written ++ "'"),
        rest)

/-- An escape behind its backslash, and what follows it; a warning if there is no such escape. -/
def readReportEscape : List Char → ReportPart × Option String × List Char
  | [] => (.text ['\\'], some "warning: escape \x60\\' followed by nothing at all", [])
  | 'c' :: _ => (.stop, none, [])
  | c :: rest =>
    if (octal? c).isSome then
      let (n, rest) := takeDigits octal? 8 3 0 (c :: rest)
      (.text [Char.ofNat (n % 256)], none, rest)
    else
      match if c = 'e' then none else escaped? c with
      | some d => (.text [d], none, rest)
      | none =>
        (.text ['\\', c], some ("warning: unrecognized escape \x60\\" ++ String.singleton c ++ "'"), rest)

/-- The parts of a format, and warnings. `fuel` covers the format. -/
def readReport : (fuel : Nat) → List Char → Except String (List ReportPart × List String)
  | 0, _ | _, [] => .ok ([], [])
  | fuel + 1, '%' :: cs => do
    let (part, warning, rest) ← readField cs
    let (parts, warnings) ← readReport fuel rest
    return (part :: parts, warning.toList ++ warnings)
  | fuel + 1, '\\' :: cs => do
    let (part, warning, rest) := readReportEscape cs
    let (parts, warnings) ← readReport fuel rest
    return (part :: parts, warning.toList ++ warnings)
  | fuel + 1, c :: cs => do
    let (parts, warnings) ← readReport fuel cs
    return (.text [c] :: parts, warnings)

/-! ## 3. Writing -/

/-- What a field stands for; `tree` tells what links lead to. -/
def fieldText (tree : FileTree) (file : FoundFile) (letter : Char) : String :=
  let node := file.node
  let size := FoundFile.sizeOf node
  let blocks := match node with
    | .file _ _ | .dir _ _ => (size + 4095) / 4096
    | _ => 0
  match letter with
  | 'p' => file.path
  | 'f' => file.nameAsGiven
  | 'h' => file.folder
  | 'H' => file.origin
  | 'P' => file.behindOrigin
  | 'd' => toString file.depth
  | 's' => toString size
  | 'k' => toString (4 * blocks)
  | 'b' => toString (8 * blocks)
  | 'm' => Mode.octalText 1 (FoundFile.modeOf node)
  | 'M' => String.singleton (if FoundFile.kindOf node = 'f' then '-' else FoundFile.kindOf node) ++
      Mode.letters (FoundFile.modeOf node)
  | 'n' => toString (FoundFile.linksOf node)
  | 'u' | 'g' => "root"
  | 'U' | 'G' => "0"
  | 'l' =>
    match node with
    | .link target => ByteText.ofBytes target
    | _ => ""
  | 'y' => String.singleton (FoundFile.kindOf node)
  | 'Y' =>
    match tree.find true (ByteText.toBytes file.path) with
    | .ok node => String.singleton (FoundFile.kindOf node)
    | .error cause => if cause = .tooManyLinks then "L" else "N"
  | _ => ""

/-- What a format says about a file. -/
def reportText (tree : FileTree) (file : FoundFile) : List ReportPart → List Char
  | [] | .stop :: _ => []
  | .text cs :: rest => cs ++ reportText tree file rest
  | .field isLeft isZeroed width precision letter :: rest =>
    let text := (fieldText tree file letter).toList
    let text := if letter = 'd' || letter = 'm' then text else text.take (precision.getD text.length)
    let fill (c : Char) := List.replicate (width - text.length) c
    let shown :=
      if isLeft then text ++ fill ' '
      else if isZeroed && (letter = 'd' || letter = 'm') then fill '0' ++ text
      else fill ' ' ++ text
    shown ++ reportText tree file rest

end GoldenRun.Machine.Finding
