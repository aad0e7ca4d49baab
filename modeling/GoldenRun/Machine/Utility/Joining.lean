import GoldenRun.Machine.Utility.Content
import GoldenRun.Machine.Utility.Sorting

/-!
# Joined lines

`join` puts together the lines of two sorted files that have the same *key*, which is one of their fields. Every
line of the first file is put together with every line of the second one of its key; lines without a partner are
left out or written alone.

* The files are read side by side. A file that turns out not to be sorted is told once.
-/

namespace GoldenRun.Machine

/-! ## 1. Plans -/

/-- A field that is written. -/
inductive JoinField where
  | key
  /-- A field, counted from 0, of the first file or the second. -/
  | field (isSecond : Bool) (index : Nat)
  deriving DecidableEq, Repr

/-- What becomes of files that are not sorted. -/
inductive OrderCheck where
  /-- They are told if a line has no partner. -/
  | lenient
  | strict
  | off
  deriving DecidableEq, Repr

/-- How lines are joined. -/
structure JoinPlan where
  /-- The keys, counted from 0. -/
  firstKey : Option Nat := none
  secondKey : Option Nat := none
  firstAlone : Bool := false
  secondAlone : Bool := false
  pairs : Bool := true
  filler : Option Bytes := none
  fields : List JoinField := []
  /-- All lines get as many fields as the first one. -/
  uniform : Bool := false
  folded : Bool := false
  check : OrderCheck := .lenient
  /-- The first lines are headings. -/
  headed : Bool := false
  /-- What stands between fields, if it is not blanks. -/
  delimiter : Option UInt8 := none
  zero : Bool := false

/-- The options of `join`. -/
def joinOptions : List OptionKind :=
  [valued 'a' [], valued 'e' [], flag 'i' ["ignore-case"], valued '1' [], valued '2' [], valued 'j' [],
    valued 'o' [], valued 't' [], valued 'v' [], flag 'z' ["zero-terminated"], long "check-order",
    long "nocheck-order", long "header"]

namespace JoinPlan

/-- A key that an option gives. -/
def keyOf (text : String) : Except Trouble Nat :=
  match decimal? text with
  | some (n + 1) => .ok n
  | _ => Trouble.because ("invalid field number: " ++ quotedWord text)

/-- A key that does not contradict an earlier one. -/
def sameKey (earlier : Option Nat) (key : Nat) : Except Trouble (Option Nat) :=
  match earlier with
  | some other =>
    if other = key then .ok earlier
    else Trouble.because
      ("incompatible join fields " ++ toString (other + 1) ++ ", " ++ toString (key + 1))
  | none => .ok (some key)

/-- A field that is to be written. -/
def fieldOf (text : String) : Except Trouble JoinField :=
  match text.toList with
  | ['0'] => .ok .key
  | '1' :: '.' :: rest => (keyOf (String.ofList rest)).map (.field false)
  | '2' :: '.' :: rest => (keyOf (String.ofList rest)).map (.field true)
  | c :: _ =>
    if c = '0' || c = '1' || c = '2' then Trouble.because ("invalid field specifier: " ++ quotedWord text)
    else Trouble.because ("invalid file number in field spec: " ++ quotedWord text)
  | [] => Trouble.because ("invalid file number in field spec: " ++ quotedWord text)

/-- The plan with one more option. -/
def withOption (plan : JoinPlan) (option : String × String) : Except Trouble JoinPlan :=
  let (key, text) := option
  let alone (plan : JoinPlan) : Except Trouble JoinPlan :=
    match decimal? text with
    | some 1 => .ok { plan with firstAlone := true }
    | some 2 => .ok { plan with secondAlone := true }
    | _ => Trouble.because ("invalid field number: " ++ quotedWord text)
  match key with
  | "a" => alone plan
  | "v" => alone { plan with pairs := false }
  | "e" =>
    let filler := ByteText.toBytes text
    if plan.filler.any (· != filler) then Trouble.because "conflicting empty-field replacement strings"
    else .ok { plan with filler := some filler }
  | "i" => .ok { plan with folded := true }
  | "1" => do return { plan with firstKey := ← sameKey plan.firstKey (← keyOf text) }
  | "2" => do return { plan with secondKey := ← sameKey plan.secondKey (← keyOf text) }
  | "j" => do
    let key ← keyOf text
    let firstKey ← sameKey plan.firstKey key
    return { plan with firstKey, secondKey := ← sameKey plan.secondKey key }
  | "o" =>
    if text = "auto" then .ok { plan with uniform := true }
    else do
      let words := cut (fun c => c = ',' || c = ' ' || c = '\t') text.toList
      let fields ← words.mapM fun word => fieldOf (String.ofList word)
      return { plan with fields := plan.fields ++ fields }
  | "t" => do
    let delimiter : UInt8 ←
      match text.toList with
      | [] => .ok 0x0A
      | [c] => .ok (ByteText.byteOf c)
      | ['\\', '0'] => .ok 0
      | _ => Trouble.because ("multi-character tab " ++ quotedWord text)
    if plan.delimiter.any (· != delimiter) then Trouble.because "incompatible tabs"
    else return { plan with delimiter := some delimiter }
  | "z" => .ok { plan with zero := true }
  | "check-order" => .ok { plan with check := .strict }
  | "nocheck-order" => .ok { plan with check := .off }
  | "header" => .ok { plan with headed := true }
  | _ => .ok plan

/-! ## 2. Lines -/

/-- A blank between fields. -/
def isJoinBlank (b : UInt8) : Bool := b = 0x20 || b = 0x09 || b = 0x0A

/-- The fields of a line. Without a delimiter, blanks at the start are skipped, and blanks at the end leave an
empty field. -/
def fieldsOf (plan : JoinPlan) (line : Bytes) : List Bytes :=
  match plan.delimiter with
  | some delimiter =>
    if line.isEmpty then [] else if delimiter = 0x0A then [line] else cut (· = delimiter) line
  | none =>
    let words := (cut isJoinBlank line).filter (!·.isEmpty)
    if !words.isEmpty && line.getLast?.any isJoinBlank then words ++ [[]] else words

/-- The key of a line of one of the files. -/
def keyIn (plan : JoinPlan) (isSecond : Bool) (fields : List Bytes) : Bytes :=
  fields.getD ((if isSecond then plan.secondKey else plan.firstKey).getD 0) []

/-- The order of two keys. -/
def compareKeys (plan : JoinPlan) (a b : Bytes) : Ordering :=
  let fold (bytes : Bytes) : List Nat :=
    bytes.map fun b => if plan.folded then (ByteText.charOf b).toUpper.toNat else b.toNat
  compare (fold a) (fold b)

/-- Two lines put together; `counts` are the numbers of fields that lines get. -/
def joined (plan : JoinPlan) (counts : Nat × Nat) (first second : Option (List Bytes)) : Bytes :=
  let shown (text : Bytes) : Bytes := if text.isEmpty then plan.filler.getD [] else text
  let field (fields : Option (List Bytes)) (index : Nat) : Bytes := shown ((fields.getD []).getD index [])
  let key :=
    match first with
    | some fields => shown (plan.keyIn false fields)
    | none => shown (plan.keyIn true (second.getD []))
  let others (isSecond : Bool) (fields : Option (List Bytes)) : List Bytes :=
    let key := (if isSecond then plan.secondKey else plan.firstKey).getD 0
    let count := if plan.uniform then (if isSecond then counts.2 else counts.1) else (fields.getD []).length
    ((List.range count).filter (· != key)).map (field fields)
  let parts :=
    if plan.fields.isEmpty then key :: others false first ++ others true second
    else
      plan.fields.map fun
        | .key => key
        | .field isSecond index => field (if isSecond then second else first) index
  List.intercalate [plan.delimiter.getD 0x20] parts ++ [if plan.zero then 0 else 0x0A]

end JoinPlan

/-! ## 3. Files side by side -/

/-- A file that is read. -/
structure JoinSide where
  name : String
  lines : List Bytes
  number : Nat := 0
  last : Option (List Bytes) := none
  /-- It was told that the file is not sorted. -/
  isTold : Bool := false

/-- Where the joining is. -/
structure JoinState where
  first : JoinSide
  second : JoinSide
  counts : Nat × Nat := (0, 0)
  /-- A line had no partner. -/
  isUnpaired : Bool := false
  /-- A file that is not sorted ended it all. -/
  stopped : Bool := false
  /-- What is said, backwards. -/
  said : List (Outlet × Bytes) := []

namespace JoinState

variable (plan : JoinPlan) (errand : Errand)

/-- One of the files. -/
def side (state : JoinState) (isSecond : Bool) : JoinSide :=
  if isSecond then state.second else state.first

/-- The state with another file. -/
def withSide (state : JoinState) (isSecond : Bool) (side : JoinSide) : JoinState :=
  if isSecond then { state with second := side } else { state with first := side }

/-- The next line of one of the files. A line whose key is less than that of the last one is told. -/
def read (state : JoinState) (isSecond : Bool) : JoinState × Option (List Bytes) :=
  let side := state.side isSecond
  match side.lines with
  | [] => (state, none)
  | line :: lines =>
    if state.stopped then (state, none)
    else
      let fields := plan.fieldsOf line
      let number := side.number + 1
      let checks := !side.isTold &&
        (plan.check = .strict || (plan.check = .lenient && state.isUnpaired))
      let isDisordered := checks && side.last.any fun last =>
        plan.compareKeys (plan.keyIn isSecond last) (plan.keyIn isSecond fields) = .gt
      let side := { side with lines, number, last := some fields, isTold := side.isTold || isDisordered }
      let state := state.withSide isSecond side
      if isDisordered then
        let text := ByteText.toBytes (errand.name ++ ": " ++ side.name ++ ":" ++ toString number ++
          ": is not sorted: ") ++ line ++ [0x0A]
        let state := { state with said := (.err, text) :: state.said, stopped := plan.check = .strict }
        (state, if state.stopped then none else some fields)
      else (state, some fields)

/-- Two lines put together. -/
def put (state : JoinState) (first second : Option (List Bytes)) : JoinState :=
  { state with said := (.out, plan.joined state.counts first second) :: state.said }

/-- The lines of one of the files whose key is the given one, and the first line behind them. `fuel` covers the
    file. -/
def readEqual (isSecond : Bool) (key : Bytes) : (fuel : Nat) → JoinState → List (List Bytes) →
    JoinState × List (List Bytes) × Option (List Bytes)
  | 0, state, found => (state, found, none)
  | fuel + 1, state, found =>
    match state.read plan errand isSecond with
    | (state, none) => (state, found, none)
    | (state, some fields) =>
      if plan.compareKeys (plan.keyIn isSecond fields) key = .eq then
        readEqual isSecond key fuel state (found ++ [fields])
      else (state, found, some fields)

/-- The rest of one of the files, whose lines have no partner. `fuel` covers the file. -/
def readRest (isSecond : Bool) : (fuel : Nat) → JoinState → JoinState
  | 0, state => state
  | fuel + 1, state =>
    match state.read plan errand isSecond with
    | (state, none) => state
    | (state, some fields) =>
      let isAlone := if isSecond then plan.secondAlone else plan.firstAlone
      if isAlone then
        readRest isSecond fuel
          (if isSecond then state.put plan none (some fields) else state.put plan (some fields) none)
      else if (state.side isSecond).isTold then state
      else readRest isSecond fuel state

/-- The end of one file, of which the line `current` was read. -/
def closeSide (isSecond otherWaits : Bool) (current : Option (List Bytes)) (state : JoinState) : JoinState :=
  let isAlone := if isSecond then plan.secondAlone else plan.firstAlone
  let checks := plan.check != .off && !(state.first.isTold && state.second.isTold)
  match current with
  | none => state
  | some fields =>
    if !isAlone && !checks then state
    else
      let state := if !isAlone then state
        else if isSecond then state.put plan none (some fields)
        else state.put plan (some fields) none
      let state := if otherWaits then { state with isUnpaired := true } else state
      state.readRest plan errand isSecond ((state.side isSecond).lines.length + 1)

/-- Lines put together, behind one line of each file. `fuel` covers both files. -/
def pairLines : (fuel : Nat) → JoinState → (first second : Option (List Bytes)) → JoinState
  | 0, state, _, _ => state
  | fuel + 1, state, some a, some b =>
    let firstKey := plan.keyIn false a
    let secondKey := plan.keyIn true b
    match plan.compareKeys firstKey secondKey with
    | .lt =>
      let state := if plan.firstAlone then state.put plan (some a) none else state
      let (state, next) := state.read plan errand false
      pairLines fuel { state with isUnpaired := true } next (some b)
    | .gt =>
      let state := if plan.secondAlone then state.put plan none (some b) else state
      let (state, next) := state.read plan errand true
      pairLines fuel { state with isUnpaired := true } (some a) next
    | .eq =>
      let (state, ones, nextFirst) :=
        state.readEqual plan errand false secondKey (state.first.lines.length + 1) [a]
      let (state, others, nextSecond) :=
        state.readEqual plan errand true firstKey (state.second.lines.length + 1) [b]
      let state := if plan.pairs && !state.stopped then
          ones.foldl (fun state a =>
            others.foldl (fun state b => state.put plan (some a) (some b)) state) state
        else state
      pairLines fuel state nextFirst nextSecond
  | _ + 1, state, first, second =>
    if state.stopped then state
    else
      let state := state.closeSide plan errand false second.isSome first
      state.closeSide plan errand true first.isSome second

/-- Lines put together from the beginning. -/
def run (state : JoinState) : JoinState :=
  let (state, a) := state.read plan errand false
  let (state, b) := state.read plan errand true
  let state := { state with counts := ((a.getD []).length, (b.getD []).length) }
  let fuel := state.first.lines.length + state.second.lines.length + 4
  if plan.headed && (a.isSome || b.isSome) then
    let text := plan.joined state.counts a b
    let state := { state with
      said := (.out, text) :: state.said
      first := { state.first with last := none }
      second := { state.second with last := none } }
    let (state, a) := if a.isSome then state.read plan errand false else (state, none)
    let (state, b) := if b.isSome then state.read plan errand true else (state, none)
    state.pairLines plan errand fuel a b
  else state.pairLines plan errand fuel a b

end JoinState

/-- Lines of two files put together by their keys. -/
def join : Utility := fun errand =>
  let arguments := readOptions joinOptions true errand.args
  errand.foldOptions 1 arguments ({} : JoinPlan) JoinPlan.withOption fun plan =>
    match arguments.operands with
    | [] => errand.misused "missing operand"
    | [_] => errand.misused ("missing operand after " ++ quotedName (errand.args.getLastD ""))
    | [first, second] =>
      let ending : UInt8 := if plan.zero then 0 else 0x0A
      match errand.read first, errand.read second with
      | .error cause, other =>
        if cause = .isDirectory && other.toOption.isNone then
          match other with
          | .error other =>
            if other = .isDirectory then errand.complain 1 (errand.line ("read error: " ++ cause.message))
            else errand.complain 1 (errand.refusal second other)
          | .ok _ => errand.finish 1
        else
          errand.complain 1
            (if cause = .isDirectory then errand.line ("read error: " ++ cause.message)
            else errand.refusal first cause)
      | .ok _, .error cause =>
        errand.complain 1
          (if cause = .isDirectory then errand.line ("read error: " ++ cause.message)
          else errand.refusal second cause)
      | .ok a, .ok b =>
        if first = "-" && second = "-" then
          errand.complain 1 (errand.line "both files cannot be standard input")
        else
          let lines (source : Source) : List Bytes := linesBy ending (source.all?.getD [])
          let state := JoinState.run plan errand
            { first := { name := first, lines := lines a }, second := { name := second, lines := lines b } }
          let isTold := !state.stopped && (state.first.isTold || state.second.isTold)
          let end? := if isTold then
              [(Outlet.err, ByteText.toBytes (errand.line "input is not in sorted order"))]
            else []
          { code := if state.stopped || isTold then 1 else 0
            said := state.said.reverse ++ end?
            files := errand.files
            unread := errand.unreadAfter arguments.operands
            endless := a.all?.isNone || b.all?.isNone }
    | _ :: _ :: extra :: _ => errand.misused ("extra operand " ++ quotedWord extra)

end GoldenRun.Machine
