import GoldenRun.Machine.Utility.Format
import GoldenRun.Machine.Utility.Options

/-!
# Reading and counting

Utilities that read their operands to the end: whole files one behind the other (`cat`), a copy for files
(`tee`) and counts (`wc`). The operand `-` is the input, and so is no operand at
all.
-/

namespace GoldenRun.Machine

/-- What became of reading several operands: whether one was refused, and what is to be said. -/
structure Reading where
  refused : Bool := false
  said : List (Outlet × Bytes) := []
  endless : Bool := false

/-- The errand without its input, if the path stands for it. -/
def Errand.behind (errand : Errand) (path : String) : Errand :=
  match errand.input with
  | .bytes _ => if Errand.isInput path then { errand with input := .bytes [] } else errand
  | _ => errand

/-- Operands and what is read of them, in order. The input is read once. -/
def Errand.sources (errand : Errand) : List String → List (String × Except Errno Source)
  | [] => []
  | path :: rest => (path, errand.read path) :: (errand.behind path).sources rest

/-- Every operand read and handed to `use`, in order; a refused one is told and left out. -/
def readEach (refused : String → Errno → String) (errand : Errand) (use : String → Bytes → Bytes)
    (operands : List String) : Reading :=
  (errand.sources operands).foldl (fun reading (path, source) =>
    if reading.endless then reading
    else
      match source with
      | .error e =>
        { reading with
          refused := true
          said := reading.said ++ [(.err, ByteText.toBytes (refused path e))] }
      | .ok source =>
        match source.all? with
        | some content => { reading with said := reading.said ++ [(.out, use path content)] }
        | none => { reading with endless := true }) {}

/-- What is left of the input when the operands were read. -/
def Errand.unreadAfter (errand : Errand) (operands : List String) : Source :=
  if operands.any Errand.isInput then .bytes [] else errand.input

/-- The end of an errand that read its operands. -/
def Errand.afterReading (errand : Errand) (operands : List String) (reading : Reading) : Effort :=
  { code := if reading.refused then 1 else 0
    said := reading.said
    files := errand.files
    unread := errand.unreadAfter operands
    endless := reading.endless }

/-- The operands, or the input if there are none. -/
def orInput (operands : List String) : List String :=
  if operands.isEmpty then ["-"] else operands

/-- A count brought to a width. -/
def countText (width n : Nat) : String :=
  String.ofList (List.replicate (width - (toString n).length) ' ') ++ toString n

/-! ## 1. Files one behind the other -/

/-- How `cat` shows what it reads. -/
structure Display where
  /-- Lines are numbered. -/
  numbers : Bool := false
  /-- Only lines that are not empty are numbered. -/
  numbersFull : Bool := false
  /-- Of several empty lines in a row one is shown. -/
  squeezes : Bool := false
  /-- The ends of lines are marked. -/
  ends : Bool := false
  tabs : Bool := false
  /-- Bytes that are not printed are written with `^` and `M-`. -/
  controls : Bool := false
  deriving DecidableEq, Repr

/-- The options of `cat`. -/
def displayOptions : List OptionKind :=
  [flag 'A' ["show-all"], flag 'b' ["number-nonblank"], flag 'e' [], flag 'E' ["show-ends"],
    flag 'n' ["number"], flag 's' ["squeeze-blank"], flag 't' [], flag 'T' ["show-tabs"], flag 'u' [],
    flag 'v' ["show-nonprinting"]]

/-- The display that options ask for. -/
def Display.ofOptions (arguments : Arguments) : Display where
  numbers := arguments.has "n" || arguments.has "b"
  numbersFull := arguments.has "b"
  squeezes := arguments.has "s"
  ends := arguments.hasAny "AeE"
  tabs := arguments.hasAny "AtT"
  controls := arguments.hasAny "Aetv"

/-- Where a display is: the number of the last line, whether a line has begun, and whether the last line
    was empty. -/
structure DisplayState where
  number : Nat := 0
  begun : Bool := false
  blank : Bool := false
  deriving DecidableEq, Repr

/-- A byte other than a line feed as it is shown. -/
def Display.byte (display : Display) (b : UInt8) : Bytes :=
  let low (n : Nat) : Bytes :=
    if n < 32 then [0x5E, UInt8.ofNat (n + 64)]
    else if n = 127 then [0x5E, 0x3F]
    else [UInt8.ofNat n]
  let n := b.toNat
  if b = 0x09 then if display.tabs then [0x5E, 0x49] else [b]
  else if !display.controls then [b]
  else if n < 128 then low n
  else utf8 "M-" ++ low (n - 128)

/-- What a display shows of some bytes, the newest first, and where it is behind them. -/
def Display.show (display : Display) : Bytes × DisplayState → UInt8 → Bytes × DisplayState
  | (shown, state), b =>
    let isEmpty := !state.begun && b = 0x0A
    let number (state : DisplayState) : Bytes × DisplayState :=
      if !state.begun && display.numbers && !(display.numbersFull && isEmpty) then
        let n := state.number + 1
        ((ByteText.toBytes (countText 6 n ++ "\t")).reverse, { state with number := n })
      else ([], state)
    if isEmpty && state.blank && display.squeezes then (shown, state)
    else
      let (heading, state) := number state
      if b = 0x0A then
        (b :: (if display.ends then [0x24] else []) ++ heading ++ shown,
          { state with begun := false, blank := isEmpty })
      else ((display.byte b).reverse ++ heading ++ shown, { state with begun := true, blank := false })

/-- The operands of `cat` as they are shown. -/
def Display.files (display : Display) (errand : Errand) :
    DisplayState → List String → Reading → Reading
  | _, [], reading => reading
  | state, path :: rest, reading =>
    match errand.read path with
    | .error e =>
      display.files (errand.behind path) state rest
        { reading with
          refused := true
          said := reading.said ++ [(.err, ByteText.toBytes (errand.refusal path e))] }
    | .ok source =>
      match source.all? with
      | none => { reading with endless := true }
      | some content =>
        let (shown, state) :=
          if display = {} then (content, state)
          else
            let (shown, state) := content.foldl display.show ([], state)
            (shown.reverse, state)
        display.files (errand.behind path) state rest { reading with said := reading.said ++ [(.out, shown)] }

/-- Files one behind the other. -/
def cat : Utility := fun errand =>
  errand.withOptions displayOptions fun arguments =>
    let operands := orInput arguments.operands
    let reading := (Display.ofOptions arguments).files errand {} operands {}
    let closing :=
      if operands.contains "-" && errand.input = .refusing .badDescriptor then
        [(Outlet.err, ByteText.toBytes (errand.line "closing standard input: Bad file descriptor"))]
      else []
    let pours := operands.findSome? fun path =>
      match errand.read path with
      | .ok (.cycle pattern) => some pattern
      | _ => none
    { code := if reading.refused then 1 else 0
      said := reading.said ++ closing
      files := errand.files
      unread := errand.unreadAfter operands
      endless := reading.endless
      pours := if reading.endless then pours else none }

/-- The input, also written to files. -/
def tee : Utility := fun errand =>
  errand.withOptions [flag 'a' ["append"], flag 'i' ["ignore-interrupts"], flag 'p' []] fun arguments =>
    match errand.input.all? with
    | none => errand.hang
    | some content =>
      let written := arguments.operands.foldl (fun effort path =>
        let name := ByteText.toBytes path
        let old := if arguments.has "a" then ((errand.files.read name).toOption).getD [] else []
        match effort.files.write name (old ++ content) with
        | .ok files => { effort with files := files }
        | .error e =>
          { effort with
            code := 1
            said := effort.said ++ [(.err, ByteText.toBytes (errand.refusal path e))] })
        (errand.finish 0)
      { written with said := written.said ++ [(.out, content)], unread := .bytes [] }

/-! ## 2. Counts -/

/-- How many words there are, behind a word that has begun or not. -/
def wordCount (inWord : Bool) : Bytes → Nat
  | [] => if inWord then 1 else 0
  | b :: rest =>
    if b = 0x20 || (9 ≤ b && b ≤ 13) then (if inWord then 1 else 0) + wordCount false rest
    else wordCount (inWord || isPrinted (ByteText.charOf b)) rest

/-- How many columns the longest line takes, behind a line that has begun and the longest so far. -/
def longestLine (longest column : Nat) : Bytes → Nat
  | [] => max longest column
  | b :: rest =>
    if b = 0x0A || b = 0x0D || b = 0x0C then longestLine (max longest column) 0 rest
    else if b = 0x09 then longestLine longest (column + 8 - column % 8) rest
    else longestLine longest (column + if isPrinted (ByteText.charOf b) then 1 else 0) rest

/-- Counts of a content, each with whether the counts of several files make a sum. -/
def countsOf (shown : Char → Bool) (content : Bytes) : List (Bool × Nat) :=
  (if shown 'l' then [(true, content.countP (· == 0x0A))] else []) ++
    (if shown 'w' then [(true, wordCount false content)] else []) ++
    (if shown 'm' then [(true, (content.filter (· < 0x80)).length)] else []) ++
    (if shown 'c' then [(true, content.length)] else []) ++
    (if shown 'L' then [(false, longestLine 0 0 content)] else [])

/-- When sums are written. -/
inductive TotalRule where
  /-- If there are several operands. -/
  | several
  | always
  /-- Nothing else is written. -/
  | only
  | never
  deriving DecidableEq, Repr

/-- When sums are written, as options say. -/
def TotalRule.withOption (rule : TotalRule) : String × String → Except Trouble TotalRule
  | ("total", word) => do
    let word ← oneOf "--total" [["auto"], ["always"], ["only"], ["never"]] word
    return match word with
      | "always" => .always
      | "only" => .only
      | "never" => .never
      | _ => .several
  | _ => .ok rule

/-- The options of `wc`. -/
def countOptions : List OptionKind :=
  [flag 'c' ["bytes"], flag 'm' ["chars"], flag 'l' ["lines"], flag 'w' ["words"],
    flag 'L' ["max-line-length"], long "total" .always]

/-- Counts of line feeds, words and bytes, and their sums. The width is that of all bytes in the files, but
    at least seven if one of the operands is no file; a single count of a single operand is as wide as it
    is. -/
def wc : Utility := fun errand =>
  let arguments := readOptions countOptions true errand.args
  errand.foldOptions 1 arguments TotalRule.several TotalRule.withOption fun rule =>
    let isGiven (letter : Char) : Bool := arguments.has (String.singleton letter)
    let isPlain := !"lwcmL".toList.any isGiven
    let shown (letter : Char) : Bool := if isPlain then "lwc".toList.contains letter else isGiven letter
    let operands := orInput arguments.operands
    let counts := countsOf shown
    let sizes := operands.filterMap fun path =>
      if path = "-" then some (if errand.seekable then errand.input.all?.map List.length else none)
      else
        match errand.files.find true (ByteText.toBytes path) with
        | .ok (.file _ content) => some (some content.length)
        | .ok _ => some none
        | .error _ => none
    let width :=
      if rule = .only || ((counts []).length = 1 && operands.length = 1) then 1
      else
        let digits := (toString ((sizes.filterMap id).foldl (· + ·) 0)).length
        if sizes.any Option.isNone then max 7 digits else digits
    let row (name : String) (numbers : List (Bool × Nat)) : Outlet × Bytes :=
      (.out, ByteText.toBytes (spaced (numbers.map fun n => countText width n.2) ++ name ++ "\n"))
    let contents := (errand.sources operands).map fun (path, source) =>
      (path, match source with
        | .ok source => (none, source.all?)
        | .error e => (some e, if e = Errno.isDirectory then some [] else none))
    let name (path : String) := if arguments.operands.isEmpty then "" else " " ++ path
    let said := contents.flatMap fun (path, fault, content) =>
      (fault.map fun e => (Outlet.err, ByteText.toBytes (errand.refusal path e))).toList ++
        if rule = .only then []
        else (content.map fun content => row (name path) (counts content)).toList
    let join (a b : Bool × Nat) := (a.1, if a.1 then a.2 + b.2 else max a.2 b.2)
    let sums := (contents.filterMap (·.2.2)).foldl (fun sums content =>
      List.zipWith join sums (counts content)) ((counts []).map fun n => (n.1, 0))
    let hasTotal := rule = .always || rule = .only || (rule = .several && operands.length != 1)
    { code := if contents.any (·.2.1.isSome) then 1 else 0
      said := said ++ if hasTotal then [row (if rule = .only then "" else " total") sums] else []
      files := errand.files
      unread := errand.unreadAfter operands
      endless := contents.any fun c => c.2.1.isNone && c.2.2.isNone }

end GoldenRun.Machine
