import GoldenRun.Machine.Pattern
import GoldenRun.Machine.Utility.Deed
import GoldenRun.Machine.Utility.Sorting
import GoldenRun.Regex.Syntax

/-!
# Searching

`grep` writes the lines of its operands in which a pattern is found, or those in which none is.

* A `Matcher` finds the first match in a line from a place on: of all patterns the one that begins first, and
  of those the longest.
* A line that is selected is written with lines around it as *context*; groups of lines that are apart have a
  separator between them.
* Whether anything was selected decides the exit code, and a file that cannot be read makes it 2.
-/

namespace GoldenRun.Machine

/-! ## 1. Matching -/

/-- Patterns, and how much of a line a match has to be. -/
structure Matcher where
  regexes : List Regex
  /-- A match does not begin or end inside a word. -/
  words : Bool := false
  /-- A match is a whole line. -/
  lines : Bool := false

namespace Matcher

/-- A text that stands for itself. -/
def literal (folded : Bool) (text : List Char) : Regex :=
  text.foldr (fun c rest =>
    let char := Regex.char { CharSet.single c with folded }
    if rest = .empty then char else .seq char rest) .empty

/-- The longest match of one pattern that begins at a spot. A longer match that ends inside a word gives way
    to a shorter one, unless that is empty. -/
def longest? (matcher : Matcher) (spot : Spot) (regex : Regex) : Option Spot :=
  let ends := Spot.tidy (regex.spots spot)
  if matcher.lines then
    if spot.before.isEmpty then ends.find? (·.after.isEmpty) else none
  else if matcher.words then
    let isFree (stop : Spot) : Bool :=
      !spot.before.head?.any isWordChar && !stop.after.head?.any isWordChar
    match ends with
    | [] => none
    | first :: rest =>
      if isFree first then some first
      else rest.find? fun stop => isFree stop && spot.offset < stop.offset
  else ends.head?

/-- The longest match of any pattern that begins at a spot. -/
def matchAt? (matcher : Matcher) (spot : Spot) : Option Spot :=
  (Spot.tidy (matcher.regexes.filterMap (matcher.longest? spot))).head?

/-- The beginning and the end of the first match from a spot on. `fuel` covers what is behind it. -/
def findFrom? (matcher : Matcher) : (fuel : Nat) → Spot → Option (Spot × Spot)
  | 0, _ => none
  | fuel + 1, spot =>
    match matcher.matchAt? spot with
    | some stop => some (spot, stop)
    | none => if spot.after.isEmpty then none else matcher.findFrom? fuel (spot.advance 1)

/-- A match is somewhere in a line. -/
def isIn (matcher : Matcher) (line : List Char) : Bool :=
  (matcher.findFrom? (line.length + 1) { after := line }).isSome

/-- The stretches of a line that are matches and not empty, as offsets and lengths. `fuel` covers the line. -/
def stretches (matcher : Matcher) : (fuel : Nat) → Spot → List (Nat × Nat)
  | 0, _ => []
  | fuel + 1, spot =>
    match matcher.findFrom? (spot.after.length + 1) spot with
    | none => []
    | some (start, stop) =>
      if start.after.isEmpty then []
      else if start.offset = stop.offset then stretches matcher fuel (start.advance 1)
      else (start.offset, stop.offset - start.offset) :: stretches matcher fuel stop

end Matcher

/-! ## 2. Plans -/

/-- How patterns are written. -/
inductive PatternForm where
  | basic
  | extended
  | fixed
  | modern
  deriving DecidableEq, Repr

/-- What is told of a file instead of its lines. -/
inductive SearchReport where
  | lines
  /-- Names of files in which lines are selected. -/
  | names
  /-- Names of the other files. -/
  | others
  deriving DecidableEq, Repr

/-- What is done with a directory. -/
inductive DirectoryUse where
  | read
  | skip
  /-- Everything below it is searched; links are followed or not. -/
  | recurse (followed : Bool)
  deriving DecidableEq, Repr

/-- What is done with a file that is no text. -/
inductive BinaryUse where
  | told
  | text
  | skipped
  deriving DecidableEq, Repr

/-- How a search is done. -/
structure SearchPlan where
  form : PatternForm := .basic
  /-- Texts and files of patterns, in order. -/
  sources : List (String ⊕ String) := []
  folded : Bool := false
  words : Bool := false
  wholeLines : Bool := false
  inverted : Bool := false
  listed : SearchReport := .lines
  counts : Bool := false
  quiet : Bool := false
  silent : Bool := false
  onlyMatching : Bool := false
  most : Option Nat := none
  before : Option Nat := none
  after : Option Nat := none
  around : Option Nat := none
  /-- The last option was a digit. -/
  inDigits : Bool := false
  named : Option Bool := none
  numbered : Bool := false
  offsets : Bool := false
  tabbed : Bool := false
  zeroNames : Bool := false
  zeroLines : Bool := false
  label : String := "(standard input)"
  separator : Option String := some "--"
  colored : Bool := false
  directories : DirectoryUse := .read
  binaries : BinaryUse := .told
  /-- Patterns of names, and whether files of such a name are searched. -/
  names : List (Bool × String) := []
  skippedDirs : List String := []

/-- The options of `grep`. -/
def searchOptions : List OptionKind :=
  [flag 'E' ["extended-regexp"], flag 'F' ["fixed-strings", "fixed-regexp"], flag 'G' ["basic-regexp"],
    flag 'P' ["perl-regexp"], valued 'e' ["regexp"], valued 'f' ["file"], flag 'i' ["ignore-case"],
    flag 'y' [], long "no-ignore-case", flag 'w' ["word-regexp"], flag 'x' ["line-regexp"],
    flag 'v' ["invert-match"], flag 'c' ["count"], flag 'l' ["files-with-matches"],
    flag 'L' ["files-without-match"], flag 'q' ["quiet", "silent"], flag 's' ["no-messages"],
    flag 'o' ["only-matching"], valued 'm' ["max-count"], valued 'A' ["after-context"],
    valued 'B' ["before-context"], valued 'C' ["context"], flag 'n' ["line-number"],
    flag 'b' ["byte-offset"], flag 'H' ["with-filename"], flag 'h' ["no-filename"],
    flag 'T' ["initial-tab"], flag 'Z' ["null"], flag 'z' ["null-data"], flag 'a' ["text"], flag 'I' [],
    flag 'U' ["binary"], flag 'u' ["unix-byte-offsets"], flag 'r' ["recursive"],
    flag 'R' ["dereference-recursive"], valued 'd' ["directories"], valued 'D' ["devices"],
    valued 'X' [], long "label" .always, long "line-buffered", long "binary-files" .always,
    long "color" (.attached "auto"), long "colour" (.attached "auto"), long "include" .always,
    long "exclude" .always, long "exclude-from" .always, long "exclude-dir" .always,
    long "group-separator" .always, long "no-group-separator"] ++ flags "0123456789"

namespace SearchPlan

/-- A number of lines of context. -/
def contextSize (text : String) : Except Trouble Nat :=
  match Size.ofText? false "" text with
  | some n => .ok n
  | none => Trouble.because (text ++ ": invalid context length argument")

/-- The plan with one more option. -/
def withOption (plan : SearchPlan) (option : String × String) : Except Trouble SearchPlan :=
  let inDigits := plan.inDigits
  let plan := { plan with inDigits := false }
  match option with
  | ("E", _) => .ok { plan with form := .extended }
  | ("F", _) => .ok { plan with form := .fixed }
  | ("G", _) => .ok { plan with form := .basic }
  | ("P", _) => .ok { plan with form := .modern }
  | ("e", text) => .ok { plan with sources := plan.sources ++ [.inl text] }
  | ("f", path) => .ok { plan with sources := plan.sources ++ [.inr path] }
  | ("i", _) | ("y", _) => .ok { plan with folded := true }
  | ("no-ignore-case", _) => .ok { plan with folded := false }
  | ("w", _) => .ok { plan with words := true }
  | ("x", _) => .ok { plan with wholeLines := true }
  | ("v", _) => .ok { plan with inverted := true }
  | ("c", _) => .ok { plan with counts := true }
  | ("l", _) => .ok { plan with listed := .names }
  | ("L", _) => .ok { plan with listed := .others }
  | ("q", _) => .ok { plan with quiet := true }
  | ("s", _) => .ok { plan with silent := true }
  | ("o", _) => .ok { plan with onlyMatching := true }
  | ("m", text) =>
    match Size.ofText? false "" text, text.toList with
    | some n, _ => .ok { plan with most := some n }
    | none, '-' :: digits =>
      if (decimal? (String.ofList digits)).isSome then .ok { plan with most := none }
      else Trouble.because "invalid max count"
    | none, _ => Trouble.because "invalid max count"
  | ("A", text) => do return { plan with after := some (← contextSize text) }
  | ("B", text) => do return { plan with before := some (← contextSize text) }
  | ("C", text) => do return { plan with around := some (← contextSize text) }
  | ("n", _) => .ok { plan with numbered := true }
  | ("b", _) => .ok { plan with offsets := true }
  | ("H", _) => .ok { plan with named := some true }
  | ("h", _) => .ok { plan with named := some false }
  | ("T", _) => .ok { plan with tabbed := true }
  | ("Z", _) => .ok { plan with zeroNames := true }
  | ("z", _) => .ok { plan with zeroLines := true }
  | ("a", _) => .ok { plan with binaries := .text }
  | ("I", _) => .ok { plan with binaries := .skipped }
  | ("r", _) => .ok { plan with directories := .recurse false }
  | ("R", _) => .ok { plan with directories := .recurse true }
  | ("d", word) => do
    let word ← oneOf "--directories" [["read"], ["recurse"], ["skip"]] word
    return { plan with
      directories := if word = "read" then .read else if word = "skip" then .skip else .recurse false }
  | ("D", word) =>
    if word = "read" || word = "skip" then .ok plan else Trouble.because "unknown devices method"
  | ("label", text) => .ok { plan with label := text }
  | ("binary-files", word) =>
    match word with
    | "binary" => .ok { plan with binaries := .told }
    | "text" => .ok { plan with binaries := .text }
    | "without-match" => .ok { plan with binaries := .skipped }
    | _ => Trouble.because "unknown binary-files type"
  | ("color", word) | ("colour", word) =>
    .ok { plan with colored := ["always", "yes", "force"].contains word }
  | ("include", text) => .ok { plan with names := plan.names ++ [(true, text)] }
  | ("exclude", text) => .ok { plan with names := plan.names ++ [(false, text)] }
  | ("exclude-dir", text) => .ok { plan with skippedDirs := plan.skippedDirs ++ [withoutEndSlash text] }
  | ("group-separator", text) => .ok { plan with separator := some text }
  | ("no-group-separator", _) => .ok { plan with separator := none }
  | (key, _) =>
    match decimal? key with
    | some digit =>
      let before := if inDigits then plan.around.getD 0 else 0
      .ok { plan with around := some (before * 10 + digit), inDigits := true }
    | none => .ok plan

/-- What ends a line. -/
def ending (plan : SearchPlan) : UInt8 := if plan.zeroLines then 0 else 0x0A

/-- Lines of context in front of a selected one and behind it, if there are to be any. -/
def leading (plan : SearchPlan) : Option Nat := plan.before <|> plan.around

/-- Lines of context behind a selected one, if there are to be any. -/
def trailing (plan : SearchPlan) : Option Nat := plan.after <|> plan.around

/-- Only the first selected line matters. -/
def stopsEarly (plan : SearchPlan) : Bool :=
  plan.quiet || plan.listed != .lines

/-! ## 3. Patterns -/

/-- The expression of a pattern, or what is wrong with it. -/
def regex (plan : SearchPlan) (pattern : List Char) : Except Regex.Fault Regex :=
  match plan.form with
  | .fixed => .ok (Matcher.literal plan.folded pattern)
  | .basic => Regex.ofText .looseBasic plan.folded pattern
  | .extended => Regex.ofText .looseExtended plan.folded pattern
  | .modern => Regex.ofText .modern plan.folded pattern

/-- Repetitions of nothing that are read past. -/
def idleWarnings (plan : SearchPlan) (pattern : List Char) : List String :=
  if plan.form != .extended then []
  else
    let tokens := Regex.tokens .looseExtended plan.folded (pattern.length + 1) none pattern
    let isWrong := tokens.getLast?.any fun
      | .wrong _ | .wrongTimes _ => true
      | _ => false
    if isWrong then []
    else
      (tokens.foldl (fun (atStart, warnings) token =>
        match token with
        | .times _ _ written =>
          if atStart then
            let shown := if written.head? = some '\x7b' then "\x7b...\x7d" else String.ofList written
            (atStart, warnings ++ ["warning: " ++ shown ++ " at start of expression"])
          else (atStart, warnings)
        | .opening | .bar => (true, warnings)
        | .place _ => (atStart, warnings)
        | _ => (false, warnings)) (true, ([] : List String))).2

end SearchPlan

/-! ## 4. Lines -/

/-- A line and where it is. -/
structure SearchLine where
  number : Nat
  offset : Nat
  text : Bytes
  deriving DecidableEq, Repr

/-- The lines of a content with their places. -/
def placedLines (ending : UInt8) (content : Bytes) : List SearchLine :=
  ((linesBy ending content).foldl (fun (lines, number, offset) text =>
    (⟨number, offset, text⟩ :: lines, number + 1, offset + text.length + 1)) (([], 1, 0) :
      List SearchLine × Nat × Nat)).1.reverse

/-- What stands in front of every line of a file. -/
structure SearchHead where
  name : Option String
  /-- The width of numbers, if they are to be in line. -/
  width : Nat
  deriving DecidableEq, Repr

/-- How far a file was searched. -/
structure SearchState where
  /-- What is written, the newest first. -/
  out : List Bytes := []
  count : Nat := 0
  /-- Lines that may become context of the next selected one, the newest first. -/
  held : List SearchLine := []
  /-- How many lines of context are still to come. -/
  pending : Nat := 0
  /-- The number of the last line that was written. -/
  last : Nat := 0
  /-- Something was written, of this file or of one in front of it. -/
  used : Bool := false
  /-- Where the last selected line ends. -/
  reached : Nat := 0

namespace SearchPlan

variable (plan : SearchPlan)

/-- A text in a color. -/
def painted (code : String) (text : Bytes) : Bytes :=
  if plan.colored then
    utf8 ("\x1b[" ++ code ++ "m\x1b[K") ++ text ++ utf8 "\x1b[m\x1b[K"
  else text

/-- What stands in front of a line: the name of the file, the number of the line and the place of the text, each
    with a sign behind it. -/
def heading (head : SearchHead) (sign : Char) (number offset : Nat) (isEmpty : Bool) : Bytes :=
  let sign := plan.painted "36" [ByteText.byteOf sign]
  let counted (n : Nat) : Bytes :=
    plan.painted "32" (ByteText.toBytes (countText head.width n)) ++ sign
  let named := match head.name with
    | some name =>
      plan.painted "35" (ByteText.toBytes name) ++ if plan.zeroNames then [0] else sign
    | none => []
  let text := named ++ (if plan.numbered then counted number else []) ++
    if plan.offsets then counted offset else []
  text ++ if plan.tabbed && !text.isEmpty && !isEmpty then [0x09] else []

/-- A line as it is written; `selected` tells a selected one from context. -/
def lineText (matcher : Matcher) (head : SearchHead) (selected : Bool) (line : SearchLine) : Bytes :=
  let sign := if selected then ':' else '-'
  let isMatch := selected != plan.inverted
  let found := fun _ : Unit =>
    if isMatch then
      matcher.stretches (line.text.length + 1) { after := line.text.map ByteText.charOf }
    else []
  if plan.onlyMatching then
    (found ()).flatMap fun (start, length) =>
      plan.heading head (if plan.inverted then '-' else ':') line.number (line.offset + start) false ++
        plan.painted "01;31" ((line.text.drop start).take length) ++ [plan.ending]
  else
    let front := plan.heading head sign line.number line.offset line.text.isEmpty
    if plan.colored then
      let (shown, stop) := (found ()).foldl (fun (shown, stop) (start, length) =>
        (shown ++ (line.text.drop stop).take (start - stop) ++
          plan.painted "01;31" ((line.text.drop start).take length), start + length)) (([], 0) : Bytes × Nat)
      front ++ shown ++ line.text.drop stop ++ [plan.ending]
    else front ++ line.text ++ [plan.ending]

/-- One more line searched. -/
def step (matcher : Matcher) (head : SearchHead) (state : SearchState) (line : SearchLine) :
    SearchState :=
  let isDone := plan.most.any (· ≤ state.count) || (plan.stopsEarly && 0 < state.count)
  let write (selected : Bool) (line : SearchLine) : Bytes := plan.lineText matcher head selected line
  let silent := plan.stopsEarly || plan.counts
  let asContext : SearchState :=
    { state with
      out := if plan.onlyMatching || silent then state.out else write false line :: state.out
      pending := state.pending - 1
      last := line.number
      used := true }
  if isDone then
    if 0 < state.pending then asContext else state
  else if matcher.isIn (line.text.map ByteText.charOf) != plan.inverted then
    if silent then { state with count := state.count + 1, reached := line.offset + line.text.length + 1 }
    else
      let group := state.held.map (write false)
      let first := (state.held.getLast?.getD line).number
      let isApart := (plan.leading.isSome || plan.trailing.isSome) && state.used &&
        (state.last = 0 || first != state.last + 1)
      let gap := if isApart then
          plan.separator.toList.map fun text => plan.painted "36" (ByteText.toBytes text) ++ [0x0A]
        else []
      { state with
        out := write true line ::
          ((if plan.onlyMatching then [] else group) ++ gap.reverse ++ state.out)
        count := state.count + 1
        held := []
        pending := plan.trailing.getD 0
        last := line.number
        used := true
        reached := line.offset + line.text.length + 1 }
  else if 0 < state.pending then asContext
  else { state with held := (line :: state.held).take (plan.leading.getD 0) }

/-! ## 5. Files -/

/-- What became of the search of one file. -/
structure SearchAnswer where
  said : List (Outlet × Bytes) := []
  /-- A line was selected. -/
  selected : Bool := false
  /-- Something was refused. -/
  refused : Bool := false
  used : Bool := false
  endless : Bool := false
  /-- What is left of the input. -/
  unread : Option Source := none

/-- As much of a source as has to be read: so many lines are enough if the rest does not matter. -/
def contentOf? (matcher : Matcher) (source : Source) : Option Bytes :=
  match source with
  | .cycle pattern =>
    let enough := if plan.stopsEarly then some 1 else plan.most
    let lines := (linesBy plan.ending pattern).countP fun line =>
      matcher.isIn (line.map ByteText.charOf) != plan.inverted
    match enough with
    | some enough =>
      if lines = 0 && enough != 0 then none
      else source.first? ((enough + plan.trailing.getD 0 + 2) * pattern.length)
    | none => none
  | source => source.all?

/-- The search of one file; `isKnown` says whether its size is known beforehand. -/
def searchSource (matcher : Matcher) (errand : Errand) (isKnown : Bool) (name : Option String) (path : String)
    (used : Bool) (source : Source) : SearchAnswer :=
  match plan.contentOf? matcher source with
  | none => { used, endless := true }
  | some content =>
    let isBinary := plan.binaries != .text && !plan.zeroLines && content.contains 0
    let lines := if isBinary && plan.binaries = .skipped then [] else placedLines plan.ending content
    let size := if isKnown then content.length else Nat.pow 10 19 - 1
    let width := if plan.tabbed then (toString (if plan.numbered && isKnown then size + 1 else size)).length else 0
    let state := lines.foldl (plan.step matcher ⟨name, width⟩) { used }
    let selected := 0 < state.count
    let shownName := ByteText.toBytes ((name.getD path))
    let nameEnd : Bytes := if plan.zeroNames then [0] else [0x0A]
    let isTold := isBinary && selected && !plan.counts && !plan.stopsEarly
    let text : Bytes :=
      if plan.quiet then []
      else
        match plan.listed with
        | .names => if selected then plan.painted "35" shownName ++ nameEnd else []
        | .others => if selected then [] else plan.painted "35" shownName ++ nameEnd
        | _ =>
          if plan.counts then
            (match name with
              | some name => plan.painted "35" (ByteText.toBytes name) ++
                  if plan.zeroNames then [0] else plan.painted "36" [0x3A]
              | none => []) ++ ByteText.toBytes (toString state.count) ++ [0x0A]
          else if isBinary then []
          else state.out.reverse.flatten
    let isFull := plan.most.any (· ≤ state.count)
    { said := [(.out, text)] ++
        if isTold then [(.err, ByteText.toBytes (errand.line (path ++ ": binary file matches")))] else []
      selected
      used := if isBinary then used else state.used
      unread := some (.bytes (if isFull && errand.seekable then content.drop state.reached else [])) }

end SearchPlan

/-- A file name and the name that is told of it. -/
structure SearchTarget where
  path : String
  /-- The name that is written. -/
  shown : String
  node : Node

mutual

/-- The files to be searched at and below a node. `nested` says whether the node was come to by itself. -/
def searchTargets (plan : SearchPlan) (tree : FileTree) (nested : Bool) (path shown : String) :
    Node → List SearchTarget
  | .dir attributes entries =>
    if plan.directories = .read || plan.directories = .skip then
      [⟨path, shown, .dir attributes []⟩]
    else if nested && plan.skippedDirs.any fun text =>
        (Pattern.ofText text).matchesText (lastName path).toList then []
    else entryTargets plan tree path shown entries
  | .link target =>
    match plan.directories with
    | .recurse true =>
      match tree.find true (ByteText.toBytes path) with
      | .ok (.file attributes content) => [⟨path, shown, .file attributes content⟩]
      | _ => []
    | _ => if nested then [] else [⟨path, shown, .link target⟩]
  | node => [⟨path, shown, node⟩]

/-- The files to be searched at and below entries. -/
def entryTargets (plan : SearchPlan) (tree : FileTree) (path shown : String) :
    List (Bytes × Node) → List SearchTarget
  | [] => []
  | (name, node) :: rest =>
    let name := ByteText.ofBytes name
    searchTargets plan tree true (pathIn path name)
        (if shown.isEmpty then name else pathIn shown name) node ++
      entryTargets plan tree path shown rest

end

/-- The name of a file is one of those that are searched: the last pattern of names that it has decides. -/
def SearchPlan.wants (plan : SearchPlan) (path : String) : Bool :=
  let fits (text : String) : Bool :=
    (Pattern.ofText text).matchesText (lastName path).toList || (Pattern.ofText text).matchesText path.toList
  match plan.names.reverse.find? fun (_, text) => fits text with
  | some (isWanted, _) => isWanted
  | none => plan.names.head?.all fun (isWanted, _) => !isWanted

/-! ## 6. The utility -/

/-- The end of an errand that is misused. -/
def Errand.unsearchable (errand : Errand) (trouble : Option Trouble) : Effort :=
  let usage := "Usage: grep [OPTION]... PATTERNS [FILE]...\nTry 'grep --help' for more information.\n"
  match trouble with
  | none => errand.complain 2 usage
  | some trouble =>
    errand.complain (trouble.code.getD 2)
      (errand.line trouble.message ++ if trouble.helps then usage else "")

/-- The patterns that options and the first operand give, and the other operands. -/
def SearchPlan.patterns (plan : SearchPlan) (errand : Errand) (operands : List String) :
    Except (Option Trouble) (List (List Char) × List String) := do
  let ofText (text : String) : List (List Char) := cut (· = '\n') text.toList
  match plan.sources, operands with
  | [], [] => .error none
  | [], first :: rest => return (ofText first, rest)
  | sources, operands =>
    let texts ← sources.mapM fun source =>
      match source with
      | .inl text => .ok (ofText text)
      | .inr path =>
        match errand.read path with
        | .error e => .error (some { message := path ++ ": " ++ e.message })
        | .ok source =>
          let content := (source.all?.getD []).map ByteText.charOf
          .ok (if content.isEmpty then []
            else ofText (String.ofList (if content.getLast? = some '\n' then content.dropLast else content)))
    return (texts.flatten, operands)

/-- What the search of all targets leaves: the answers in order, and whether to go on. -/
def SearchPlan.searchAll (plan : SearchPlan) (matcher : Matcher) (errand : Errand) (named : Bool) :
    (used : Bool) → List (String × Option SearchTarget) → List SearchAnswer
  | _, [] => []
  | used, (operand, target) :: rest =>
    let refuse (cause : Errno) : SearchAnswer :=
      { used
        refused := true
        said := if plan.silent then []
          else
            let path := (target.map SearchTarget.path).getD operand
            [(.err, ByteText.toBytes (errand.line (path ++ ": " ++ cause.message)))] }
    let answer : SearchAnswer :=
      match target with
      | none =>
        let name := if named then some plan.label else none
        match errand.read "-" with
        | .error e => refuse e
        | .ok source => plan.searchSource matcher errand errand.seekable name plan.label used source
      | some target =>
        let name := if named then some target.shown else none
        match target.node with
        | .dir _ _ => if plan.directories = .skip then { used } else
          let empty := plan.searchSource matcher errand true name target.shown used (.bytes [])
          { refuse .isDirectory with said := (refuse .isDirectory).said ++ empty.said }
        | _ =>
          match Source.ofPath errand.files target.path with
          | .error e => refuse e
          | .ok source => plan.searchSource matcher errand true name target.shown used source
    let errand := if target.isNone then { errand with input := .bytes [] } else errand
    if answer.endless || (plan.quiet && answer.selected) then [answer]
    else answer :: plan.searchAll matcher errand named answer.used rest

/-- Lines in which a pattern is found. -/
def grep : Utility := fun errand =>
  let arguments := readOptions searchOptions true errand.args
  match arguments.options.foldlM SearchPlan.withOption ({} : SearchPlan), arguments.fault with
  | .error trouble, _ => errand.unsearchable (some trouble)
  | .ok _, some fault => errand.unsearchable (some (Trouble.ofFault fault))
  | .ok plan, none =>
    match plan.patterns errand arguments.operands with
    | .error trouble => errand.unsearchable trouble
    | .ok (patterns, operands) =>
      let bare := if plan.form = .fixed then none else patterns.find? fun pattern => Regex.hasBareClass pattern.length pattern
      match patterns.mapM plan.regex, bare with
      | .error fault, _ => errand.complain 2 (errand.line fault.message)
      | .ok _, some _ =>
        errand.complain 2 (errand.line "character class syntax is [[:space:]], not [:space:]")
      | .ok regexes, none =>
        let warnings := (patterns.flatMap plan.idleWarnings).map fun text =>
          (Outlet.err, ByteText.toBytes (errand.line text))
        let matcher : Matcher := { regexes, words := plan.words, lines := plan.wholeLines }
        let isDeep := match plan.directories with
          | .recurse _ => true
          | _ => false
        let implied := operands.isEmpty && isDeep
        let operands := if implied then ["."] else orInput operands
        let tree := errand.files
        let targets (operand : String) : List (String × Option SearchTarget) :=
          if operand = "-" then [(operand, none)]
          else
            match tree.find true (ByteText.toBytes operand) with
            | .error _ =>
              if plan.wants operand then [(operand, some ⟨operand, operand, .pipe⟩)] else []
            | .ok node =>
              ((searchTargets plan tree false operand (if implied then "" else operand) node).filter
                fun target => plan.wants target.path || match target.node with
                  | .dir _ _ => true
                  | _ => false).map fun target => (operand, some target)
        let isDirectory (operand : String) : Bool := isDeep && tree.isDir (ByteText.toBytes operand)
        let named := plan.named.getD (1 < operands.length || operands.any isDirectory)
        let findsAll := patterns.all List.isEmpty && !patterns.isEmpty && !plan.words && !plan.wholeLines
        if (plan.most = some 0 || (findsAll && plan.inverted)) && plan.listed != .others then
          { errand.finish 1 warnings with unread := errand.input }
        else
          let answers := plan.searchAll matcher errand named false (operands.flatMap targets)
          let selected := answers.any (·.selected)
          let refused := answers.any (·.refused)
          { code :=
              if plan.quiet && selected then 0
              else if refused then 2
              else if selected then 0
              else 1
            said := warnings ++ answers.flatMap (·.said)
            files := errand.files
            unread := if operands.contains "-" then
                (answers.findSome? (·.unread)).getD (.bytes [])
              else errand.input
            endless := answers.any (·.endless) }

/-- `grep` with another option in front. -/
def grepWith (option : String) : Utility := fun errand =>
  grep { errand with name := "grep", args := option :: errand.args }

end GoldenRun.Machine
