import GoldenRun.Machine.Calendar
import GoldenRun.Machine.Difference.Columns
import GoldenRun.Machine.Difference.Order
import GoldenRun.Machine.Difference.Script
import GoldenRun.Machine.Pattern
import GoldenRun.Machine.Utility.Compare
import GoldenRun.Machine.Utility.Deed

/-!
# Comparing files line by line

`diff` compares two files line by line and describes the changes that lead from the first to the second.
Directories are compared entry by entry in the order of the names. It ends with exit code 0 if there is no
difference, 1 if there is one, and 2 when something went wrong.
-/

namespace GoldenRun.Machine

namespace Difference

/-! ## 1. What of a line counts -/

/-- Each run of blanks made a single one. -/
def blanksMerged : Bytes → Bytes
  | [] => []
  | b :: rest =>
    if !isSpaceByte b then b :: blanksMerged rest
    else if (rest.head?.map isSpaceByte).getD false then blanksMerged rest
    else 0x20 :: blanksMerged rest

/-- A lower-case ASCII letter for each upper-case one. -/
def lowerByte (b : UInt8) : UInt8 :=
  if 0x41 ≤ b && b ≤ 0x5A then b + 32 else b

/-- Bytes without blanks at their end. -/
def withoutTail (line : Bytes) : Bytes :=
  (line.reverse.dropWhile isSpaceByte).reverse

/-- A line with blanks for its tabs, from a column on. -/
def tabsExpanded (tabSize column : Nat) : Bytes → Bytes
  | [] => []
  | b :: rest =>
    if b = 0x09 then
      let blanks := tabSize - column % tabSize
      List.replicate blanks 0x20 ++ tabsExpanded tabSize (column + blanks) rest
    else
      let column := if b = 0x08 then column - 1 else if b = 0x0D then 0 else column + 1
      b :: tabsExpanded tabSize column rest

/-- What of a line counts: with `-w` no blanks, with `-b` only where blanks are and none at the end, with
    `-Z` no blanks at the end, with `-E` tabs as blanks, with `-i` no case. -/
def lineKey (arguments : Arguments) (tabSize : Nat) (line : Bytes) : Bytes :=
  let key :=
    if arguments.has "w" then line.filter (!isSpaceByte ·)
    else if arguments.has "b" then withoutTail (blanksMerged line)
    else
      let line := if arguments.has "Z" then withoutTail line else line
      if arguments.has "E" then tabsExpanded tabSize 0 line else line
  if arguments.has "i" then key.map lowerByte else key

/-- Bytes without the carriage returns in front of line feeds and of the end. -/
def withoutReturns : Bytes → Bytes
  | [] => []
  | b :: rest =>
    if b = 0x0D && (rest.isEmpty || rest.head? = some 0x0A) then withoutReturns rest
    else b :: withoutReturns rest

/-! ## 2. What is compared -/

/-- What stays the same for all files that are compared. -/
structure Task where
  errand : Errand
  arguments : Arguments
  order : Order
  excluded : List Pattern

/-- What became of a comparison. -/
structure Verdict where
  status : Nat := 0
  said : List (Outlet × Bytes) := []
  endless : Bool := false

/-- A side of a comparison. -/
inductive Side where
  /-- A file that is not there and counts as empty. -/
  | absent
  | input
  | node (node : Node)
  deriving Repr

namespace Side

/-- The side is a directory. -/
def isDir : Side → Bool
  | .node (.dir _ _) => true
  | _ => false

/-- The side is a link. -/
def isLink : Side → Bool
  | .node (.link _) => true
  | _ => false

/-- There is nothing at this side. -/
def isAbsent : Side → Bool
  | .absent => true
  | _ => false

/-- The side is a file that holds lines, or a link. -/
def isOrdinary : Side → Bool
  | .node (.file _ _) | .node (.link _) => true
  | _ => false

/-- What kind of thing the side is. -/
def kind : Side → String
  | .node (.file _ []) => "regular empty file"
  | .node (.file _ _) => "regular file"
  | .node (.dir _ _) => "directory"
  | .node (.link _) => "symbolic link"
  | .node .pipe => "fifo"
  | .node (.device _) => "character special file"
  | .input | .absent => "fifo"

/-- When the side was changed last. -/
def modified : Side → Int
  | .node (.file attributes _) | .node (.dir attributes _) => attributes.modified
  | .absent => 0
  | _ => Calendar.start

end Side

namespace Verdict

/-- Something written, with a status. -/
def say (status : Nat) (text : Bytes) : Verdict := { status, said := [(.out, text)] }

/-- Something wrong. -/
def trouble (line : String) : Verdict := { status := 2, said := [(.err, ByteText.toBytes line)] }

/-- One verdict and then another. -/
def followedBy (verdict next : Verdict) : Verdict where
  status := max verdict.status next.status
  said := verdict.said ++ next.said
  endless := verdict.endless || next.endless

end Verdict

/-- A name as headings show it: in quotes if something in it is written with a backslash. -/
def headingName (name : String) : String :=
  let shown (c : Char) : List Char :=
    if c = '"' || c = '\\' then ['\\', c]
    else if c.toNat < 32 || 127 < c.toNat then '\\' :: escapeCode c
    else [c]
  let text := name.toList.flatMap shown
  if text.length = name.length && !name.toList.contains ' ' then name
  else "\"" ++ String.ofList text ++ "\""

namespace Task

variable (task : Task)

/-- An option is given. -/
def has (key : String) : Bool := task.arguments.has key

/-- Headings are looked for by a rule of this utility's own. -/
def marksFunctions : Bool := task.has "p"

/-- How changes are described. -/
def style : Style := task.order.chosenStyle task.marksFunctions

/-- How lines are shown. -/
def look : Look where
  expands := task.has "t"
  tabSize := task.order.tabSize.getD 8
  tabbed := task.has "T"
  bare := task.has "suppress-blank-empty"
  coloured := task.order.coloured

/-- Patterns as a single regular expression, if there are any. -/
def regexOf (patterns : List String) : Option Regex :=
  if patterns.isEmpty then none
  else (Regex.ofText .looseBasic false ("\\|".intercalate patterns).toList).toOption

/-- Which lines do not count. -/
def indifference : Indifference where
  empty := task.has "B"
  blank := task.has "B" && task.arguments.hasAny "Zbw"
  matching := regexOf task.order.ignored

/-- The layout of rows of two columns. -/
def columns : ColumnRule :=
  { ColumnRule.ofWidth task.look (task.order.width.getD 130) with
    leftOnly := task.has "left-column"
    changesOnly := task.has "suppress-common-lines" }

/-- Files without a difference need not be looked at. -/
def isSilentOnEqual : Bool :=
  match task.style with
  | .columns => task.has "suppress-common-lines"
  | .groups => task.order.chosenFormats.hidesCommon
  | _ => true

/-- The name of a file in a description. -/
def label (i : Nat) (name : String) : String :=
  (task.order.labels[i]?).getD name

/-- A line about two files. -/
def remark (start between ending : String) (a b : String) : Bytes :=
  ByteText.toBytes (start ++ task.label 0 a ++ between ++ task.label 1 b ++ ending ++ "\n")

/-! ## 3. Two contents -/

/-- What is written about the changes between two texts. -/
def description (comparison : Comparison) : Bytes :=
  let context := task.order.chosenContext task.marksFunctions
  let heading := regexOf task.order.headings
  match task.style with
  | .listed => comparison.listed task.look
  | .context => comparison.inContext task.look context heading
  | .unified => comparison.unified task.look context heading
  | .edScript => comparison.edScript task.look
  | .forwardScript => comparison.forwardScript task.look
  | .revision => comparison.revision task.look
  | .columns => comparison.sideBySide task.look task.columns
  | .groups => comparison.laidOver task.look task.order.chosenFormats

/-- The lines that tell which files changes are about. -/
def fileLines (a b : String) (modified : Int × Int) : Bytes :=
  let line (mark : String) (i : Nat) (name : String) (moment : Int) (format : String) : Bytes :=
    let text := match task.order.labels[i]? with
      | some label => mark ++ " " ++ label
      | none => mark ++ " " ++ headingName name ++ "\t" ++ Calendar.format moment format
    task.look.painted .heading (ByteText.toBytes text) ++ utf8 "\n"
  match task.style with
  | .context =>
    let format := "%a %b %e %H:%M:%S %Y"
    line "***" 0 a modified.1 format ++ line "---" 1 b modified.2 format
  | .unified =>
    let format := "%Y-%m-%d %H:%M:%S.%N %z"
    line "---" 0 a modified.1 format ++ line "+++" 1 b modified.2 format
  | _ => []

/-- The line in front of what is written about two files in directories. -/
def commandLine (a b : String) : Bytes :=
  let words := task.arguments.words.map fun word => " " ++ shownName word
  ByteText.toBytes
    ("diff" ++ String.join words ++ " " ++ headingName a ++ " " ++ headingName b ++ "\n")

/-- Two texts compared line by line, under the names of their files. -/
def compareTexts (nested : Bool) (a b : String) (modified : Int × Int) (x y : Bytes) : Verdict :=
  let isScript := task.style = .edScript || task.style = .forwardScript
  let isOpen (text : Bytes) : Bool := !text.isEmpty && text.getLast? != some 0x0A
  let lines (text : Bytes) : List Bytes :=
    let text := if task.has "strip-trailing-cr" then withoutReturns text else text
    linesOf (if isScript && isOpen text then text ++ [0x0A] else text)
  let keyed (line : Bytes) : Line := ⟨lineKey task.arguments task.look.tabSize line, line⟩
  let first := lines x
  let second := lines y
  let horizon := max task.order.horizon (task.order.chosenContext task.marksFunctions)
  let comparison : Comparison :=
    { first, second, indifference := task.indifference
      changes := changesOf (task.has "d") horizon (first.map keyed) (second.map keyed) }
  let status := if comparison.hasChanges then 1 else 0
  if task.has "q" then
    if status = 1 then .say 1 (task.remark "Files " " and " " differ" a b) else {}
  else if status = 0 && task.isSilentOnEqual then {}
  else
    let body := task.description comparison
    let isBegun := task.style = .columns || !body.isEmpty || status = 1
    let heading := if isBegun then
        (if nested then task.commandLine a b else []) ++ task.fileLines a b modified
      else []
    let remarks := if isScript then
        ([(x, task.label 0 a), (y, task.label 1 b)].filter (isOpen ·.1)).map fun (_, name) =>
          (Outlet.err,
            ByteText.toBytes (task.errand.line (name ++ ": No newline at end of file") ++ "\n"))
      else []
    { status := if remarks.isEmpty then status else 2
      said := (.out, heading ++ body) :: remarks }

/-- How many bytes at the beginning of a file decide whether it holds lines. -/
def probe : Nat := 4096

/-- Two sources compared. If one of them does not hold lines, they are compared as a whole. -/
def compareSources (nested : Bool) (a b : String) (modified : Int × Int) (x y : Source) : Verdict :=
  let isBinary (source : Source) : Bool := ((source.first? probe).getD []).contains 0
  let differ :=
    if task.has "q" then Verdict.say 1 (task.remark "Files " " and " " differ" a b)
    else .say 2 (task.remark "Binary files " " and " " differ" a b)
  if !task.has "a" && (isBinary x || isBinary y) then
    match x.all?, y.all? with
    | some x, some y => if x = y then {} else differ
    | none, none => { endless := true }
    | _, _ => differ
  else
    match x.all?, y.all? with
    | some x, some y => task.compareTexts nested a b modified x y
    | _, _ => { endless := true }

/-! ## 4. Files and directories -/

/-- The source at a side. -/
def sourceOf (path : String) : Side → Except Errno Source
  | .absent => .ok (.bytes [])
  | .input => task.errand.read "-"
  | .node _ => Source.ofPath task.errand.files path

/-- The side that a path is. -/
def sideAt (path : String) : Except Errno Side :=
  if path = "-" then
    match task.errand.input with
    | .refusing e => if e = .badDescriptor then .error e else .ok .input
    | _ => .ok .input
  else (task.errand.files.find (!task.has "no-dereference") (ByteText.toBytes path)).map .node

/-- The side is a file without content that nobody can read or write. -/
def isHollow : Side → Bool
  | .node (.file attributes []) => attributes.mode &&& 0o777 = 0
  | _ => false

/-- Sides of which the missing ones count as empty files if options say so. -/
def filledSides (nested : Bool) (x y : Except Errno Side) : Except Errno Side × Except Errno Side :=
  let all := task.has "N"
  let first := all || task.has "P"
  let isMissing (side : Except Errno Side) : Bool := match side with
    | .error e => e = .notFound || e = .badDescriptor
    | .ok _ => false
  let fill (wanted : Bool) (side other : Except Errno Side) : Except Errno Side :=
    match side with
    | .ok found => if wanted && isHollow found then .ok .absent else side
    | .error _ =>
      if wanted && isMissing side && !nested && other.toOption.isSome then .ok .absent else side
  (fill first x y, fill all y x)

/-- Both paths name the same node. -/
def isSame (a b : String) : Bool :=
  a = b || match task.errand.files.locate true (ByteText.toBytes a),
      task.errand.files.locate true (ByteText.toBytes b) with
    | .ok x, .ok y => x = y
    | _, _ => false

/-- The order of entries. -/
def namesInOrder (a b : String) : Bool :=
  if task.has "ignore-file-name-case" then
    let lower (text : String) := String.ofList (text.toList.map Char.toLower)
    lower a < lower b || (lower a = lower b && a ≤ b)
  else a ≤ b

/-- The names of the entries of a side that are compared, in order. -/
def entryNames (nested : Bool) : Side → List String
  | .node (.dir _ entries) =>
    let names := entries.map fun e => ByteText.ofBytes e.1
    let names := names.filter fun name => !task.excluded.any (·.matchesText name.toList)
    let sorted := names.mergeSort task.namesInOrder
    match nested, task.order.starting with
    | false, some starting => sorted.dropWhile fun name => !task.namesInOrder starting name
    | _, _ => sorted
  | _ => []

/-- Names in order paired with those of another row where they are the same. `fuel` covers both. -/
def pairNames : (fuel : Nat) → List String → List String → List (Option String × Option String)
  | 0, _, _ => []
  | _ + 1, [], names => names.map fun name => (none, some name)
  | _ + 1, names, [] => names.map fun name => (some name, none)
  | fuel + 1, a :: as, b :: bs =>
    let atMost := task.namesInOrder a b
    let atLeast := task.namesInOrder b a
    if atMost && atLeast then (some a, some b) :: pairNames fuel as bs
    else if atMost then (some a, none) :: pairNames fuel as (b :: bs)
    else (none, some b) :: pairNames fuel (a :: as) bs

/-- A directory and a file, one of them an operand: the file is compared with the one of its name in the
    directory. -/
def enteredPath (path other : String) : String :=
  pathIn path (lastName other)

/-- A link and what it leads to, if it is one. -/
def linkTarget? : Side → Option Bytes
  | .node (.link target) => some target
  | _ => none

/-- Two things that are there, neither of them a directory, and that are not compared. -/
def strangers (a b : String) (x y : Side) : Verdict :=
  .say 1 (ByteText.toBytes ("File " ++ task.label 0 a ++ " is a " ++ x.kind ++ " while file " ++
    task.label 1 b ++ " is a " ++ y.kind ++ "\n"))

/-- Two files compared. -/
def comparePlain (nested : Bool) (a b : String) (x y : Side) : Verdict :=
  match linkTarget? x, linkTarget? y with
  | some s, some t =>
    if s = t then {} else .say 1 (task.remark "Symbolic links " " and " " differ" a b)
  | some _, none | none, some _ => task.strangers a b x y
  | none, none =>
    let fault (path : String) (source : Except Errno Source) : List String := match source with
      | .ok _ => []
      | .error e => [task.errand.line (path ++ ": " ++ e.message)]
    match task.sourceOf a x, task.sourceOf b y with
    | .ok s, .ok t => task.compareSources nested a b (x.modified, y.modified) s t
    | s, t => .trouble (String.join (fault a s ++ fault b t))

/-- How entries of two directories are compared, by the paths of the directories and the names. -/
abbrev Below :=
  (parents : String × String) → (names : Option String × Option String) → Verdict

/-- The entries of two directories compared, in order. -/
def compareEntries (below : Below) (nested : Bool) (a b : String) (x y : Side) : Verdict :=
  let unlisted (path : String) (side : Side) : List String := match side with
    | .node (.dir attributes _) =>
      if attributes.listable then []
      else [task.errand.line (path ++ ": " ++ Errno.accessDenied.message)]
    | _ => []
  let faults := unlisted a x ++ unlisted b y
  if !faults.isEmpty then .trouble (String.join faults)
  else
    let names := task.entryNames nested x
    let others := task.entryNames nested y
    (task.pairNames (names.length + others.length + 1) names others).foldl
      (fun verdict pair => verdict.followedBy (below (a, b) pair)) {}

/-- Two directories compared. -/
def compareDirs (below : Below) (nested : Bool) (a b : String) (x y : Side) : Verdict :=
  if task.style = .groups then
    .trouble (task.errand.line "-D option not supported with directories")
  else if nested && !task.has "r" then
    .say 0 (ByteText.toBytes ("Common subdirectories: " ++ a ++ " and " ++ b ++ "\n"))
  else task.compareEntries below nested a b x y

/-- Two sides compared of which one alone is a directory, or one alone is there, or neither is a file. -/
def compareUnlike (below : Below) (nested : Bool) (only : Verdict) (a b : String) (x y : Side) :
    Verdict :=
  if x.isAbsent || y.isAbsent then
    if task.has "r" && (task.has "N" || (task.has "P" && x.isAbsent)) then
      task.compareEntries below nested a b x y
    else only
  else task.strangers a b x y

/-- Two sides compared that are both directories or both not, or entries of directories. -/
def compareSides (below : Below) (nested : Bool) (only : Verdict) (a b : String) (x y : Side) :
    Verdict :=
  let verdict : Verdict :=
    if x.isAbsent && y.isAbsent then {}
    else if !x.isAbsent && !y.isAbsent && task.isSame a b && task.isSilentOnEqual then {}
    else if x.isDir && y.isDir then task.compareDirs below nested a b x y
    else if x.isDir || y.isDir || (nested && !(x.isOrdinary && y.isOrdinary) && !x.isAbsent &&
        !y.isAbsent) then
      task.compareUnlike below nested only a b x y
    else task.comparePlain nested a b x y
  if verdict.status = 0 && task.has "s" && !x.isDir && !verdict.endless then
    verdict.followedBy (.say 0 (task.remark "Files " " and " " are identical" a b))
  else verdict

/-- Two sides compared under their paths. An operand that is a directory is entered if the other is not
    one. -/
def compareUnder (below : Below) (nested : Bool) (only : Verdict) (a b : String) (x y : Side) :
    Verdict :=
  if !nested && x.isDir != y.isDir && !x.isAbsent && !y.isAbsent then
    let (a', b') := if x.isDir then (enteredPath a b, b) else (a, enteredPath b a)
    let entered := if x.isDir then a' else b'
    if (if x.isDir then b else a) = "-" then
      .trouble (task.errand.line "cannot compare '-' to a directory")
    else
      match task.sideAt entered with
      | .error e => .trouble (task.errand.line (entered ++ ": " ++ e.message))
      | .ok side =>
        if x.isDir then task.compareSides below nested only a' b' side y
        else task.compareSides below nested only a' b' x side
  else task.compareSides below nested only a b x y

/-- Entries of two directories compared, or two operands. `parents` are the paths of the directories. -/
def compareNamed (below : Below) (parents : Option (String × String))
    (names : Option String × Option String) : Verdict :=
  let nested := parents.isSome
  let name := (names.1.orElse fun _ => names.2).getD ""
  let (dirA, dirB) := parents.getD ("", "")
  let only := Verdict.say 1 (ByteText.toBytes
    ("Only in " ++ (if names.1.isSome then dirA else dirB) ++ ": " ++ name ++ "\n"))
  let hasBoth := names.1.isSome && names.2.isSome
  if !hasBoth && !task.has "N" && !(task.has "P" && names.2.isSome) then only
  else
    let full (dir : String) (name? : Option String) : String :=
      let name := name?.getD name
      if nested then pathIn dir name else name
    let a := full dirA names.1
    let b := full dirB names.2
    let side (name? : Option String) (path : String) : Except Errno Side :=
      if name?.isNone then .ok .absent else task.sideAt path
    let (x, y) := task.filledSides nested (side names.1 a) (side names.2 b)
    match x, y with
    | .ok x, .ok y => task.compareUnder below nested only a b x y
    | x, y =>
      let fault (path : String) (side : Except Errno Side) : String := match side with
        | .ok _ => ""
        | .error e => task.errand.line (path ++ ": " ++ e.message)
      .trouble (fault a x ++ fault b y)

/-- The same with all directories below. `fuel` bounds how deep they lie in one another. -/
def comparePaths : (fuel : Nat) → (parents : Option (String × String)) →
    (names : Option String × Option String) → Verdict
  | 0, _, _ => {}
  | fuel + 1, parents, names =>
    task.compareNamed (fun parents names => comparePaths fuel (some parents) names) parents names

end Task

/-! ## 5. The utility -/

/-- The lines of the files that `-X` names, as patterns; or the line about one that cannot be read. -/
def excludedNames (errand : Errand) : List String → Except String (List String)
  | [] => .ok []
  | path :: rest =>
    match errand.read path with
    | .error e => .error (errand.line (path ++ ": " ++ e.message))
    | .ok source => do
      let lines := (linesOf (source.all?.getD [])).map bareLine
      return (lines.map ByteText.ofBytes).filter (!·.isEmpty) ++ (← excludedNames errand rest)

/-- The pairs of operands that are compared, or what is wrong with their number. -/
def pairsOf (errand : Errand) (order : Order) (operands : List String) :
    Except OrderFault (List (String × String)) :=
  match order.fixedFirst, order.fixedSecond, operands with
  | some _, some _, _ => .error (.refusal "--from-file and --to-file both specified")
  | some first, none, operands => .ok (operands.map fun operand => (first, operand))
  | none, some second, operands => .ok (operands.map fun operand => (operand, second))
  | none, none, operands =>
    match operandFault? (errand.args.getLastD errand.name) operands with
    | some fault => .error (.misuse fault)
    | none => .ok [(operands.headD "", (operands.drop 1).headD "")]

end Difference

open Difference in
/-- Two files or directories line by line. -/
def diff : Utility := fun errand =>
  let arguments := readOptions optionKinds true errand.args
  let fault? (fault : OrderFault) : Effort := match fault with
    | .misuse text => errand.uncompared text
    | .refusal text => errand.complain 2 (errand.line text)
  match Order.ofOptions arguments.options, arguments.fault with
  | .error fault, _ => fault? fault
  | .ok _, some fault => errand.uncompared fault.message
  | .ok order, none =>
    match excludedNames errand (arguments.values "X"), pairsOf errand order arguments.operands with
    | .error line, _ => errand.complain 2 line
    | .ok _, .error fault => fault? fault
    | .ok names, .ok pairs =>
      let excluded := (names ++ order.excluded).map Pattern.ofText
      let task : Task := { errand, arguments, order, excluded }
      let verdict := pairs.foldl (fun verdict (a, b) =>
        verdict.followedBy (task.comparePaths FileTree.maxPath none (some a, some b))) ({} : Verdict)
      { errand.finish verdict.status verdict.said with endless := verdict.endless }

end GoldenRun.Machine
