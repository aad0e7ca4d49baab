import GoldenRun.Machine.Utility.Content
import GoldenRun.Machine.Utility.Size

/-!
# Columns of text

`fold` breaks lines that are too long; `expand` writes blanks for tabulators and `unexpand` tabulators for
blanks.

* Columns are counted from 0. A backspace goes back by one, a carriage return to the beginning, and a tabulator
  to the next tab stop.
* `TabStops.next?` is the next tab stop behind a column.
-/

namespace GoldenRun.Machine

/-! ## 1. Folding -/

/-- The column behind a byte. -/
def columnBehind (inBytes : Bool) (column : Nat) (b : UInt8) : Nat :=
  if inBytes then column + 1
  else if b = 0x08 then column - 1
  else if b = 0x0D then 0
  else if b = 0x09 then column + 8 - column % 8
  else column + 1

/-- A blank or a tabulator. -/
def isTabOrBlank (b : UInt8) : Bool := b = 0x20 || b = 0x09

/-- How lines are broken. -/
structure FoldPlan where
  width : Nat := 80
  inBytes : Bool := false
  /-- Lines are broken behind blanks where that is possible. -/
  atBlanks : Bool := false
  deriving DecidableEq, Repr

/-- Where folding is. -/
structure FoldState where
  column : Nat := 0
  /-- What there is of the line, backwards. -/
  line : Bytes := []
  /-- What is written, backwards. -/
  out : Bytes := []

/-- One more byte. A byte that does not fit breaks the line, behind its last blank or in front of the byte, until
    it fits or is alone. `fuel` covers the line. -/
def FoldPlan.put (plan : FoldPlan) (b : UInt8) : (fuel : Nat) → FoldState → FoldState
  | 0, state => state
  | fuel + 1, state =>
    let column := columnBehind plan.inBytes state.column b
    if column ≤ plan.width then { state with column, line := b :: state.line }
    else
      let tail := state.line.takeWhile fun b => !isTabOrBlank b
      if plan.atBlanks && tail.length != state.line.length then
        let column := tail.reverse.foldl (columnBehind plan.inBytes) 0
        plan.put b fuel
          { column, line := tail, out := 0x0A :: state.line.drop tail.length ++ state.out }
      else if state.line.isEmpty then { state with column, line := [b] }
      else plan.put b fuel { column := 0, line := [], out := 0x0A :: state.line ++ state.out }

/-- A content with broken lines. -/
def FoldPlan.apply (plan : FoldPlan) (content : Bytes) : Bytes :=
  let state := content.foldl (fun state b =>
    if b = 0x0A then { column := 0, line := [], out := 0x0A :: state.line ++ state.out }
    else plan.put b (state.line.length + 2) state) ({} : FoldState)
  (state.line ++ state.out).reverse

/-- The options of `fold`; a number may be an option of its own. -/
def foldOptions : List OptionKind :=
  [flag 'b' ["bytes"], flag 's' ["spaces"], valued 'w' ["width"]] ++
    "0123456789".toList.map fun digit => { flag digit [] with takes := .attached "" }

/-- The plan with one more option. -/
def FoldPlan.withOption (plan : FoldPlan) (option : String × String) : Except Trouble FoldPlan :=
  match option with
  | ("b", _) => .ok { plan with inBytes := true }
  | ("s", _) => .ok { plan with atBlanks := true }
  | (key, text) =>
    let text := if key = "w" then text else key ++ text
    let invalid := "invalid number of columns: " ++ quotedWord text
    match Size.ofText? false "" text with
    | none => Trouble.because invalid
    | some 0 => Trouble.because (invalid ++ ": Numerical result out of range")
    | some width =>
      if width < Nat.pow 2 64 - 9 then .ok { plan with width }
      else Trouble.because (invalid ++ ": Value too large for defined data type")

/-- Lines broken where they are too long. -/
def fold : Utility := fun errand =>
  let arguments := readOptions foldOptions true errand.args
  errand.foldOptions 1 arguments ({} : FoldPlan) FoldPlan.withOption fun plan =>
    let operands := orInput arguments.operands
    errand.afterReading operands (readEach errand.refusal errand (fun _ => plan.apply) operands)

/-! ## 2. Tab stops -/

/-- Tab stops. -/
structure TabStops where
  /-- The columns of the first ones. -/
  columns : List Nat := []
  /-- Behind them the columns are multiples of this, -/
  multiples : Option Nat := none
  /-- or so far apart, counted from the last one. -/
  steps : Option Nat := none
  deriving DecidableEq, Repr

namespace TabStops

/-- All tab stops are the same distance apart. -/
def size? (stops : TabStops) : Option Nat :=
  match stops.columns with
  | [] => some (((stops.multiples.filter (· != 0)).or (stops.steps.filter (· != 0))).getD 8)
  | [column] => if stops.multiples.isNone && stops.steps.isNone then some column else none
  | _ => none

/-- The next tab stop behind a column, if there is one. -/
def next? (stops : TabStops) (column : Nat) : Option Nat :=
  match stops.size? with
  | some size => some (column + size - column % size)
  | none =>
    match stops.columns.find? (column < ·), stops.multiples, stops.steps with
    | some stop, _, _ => some stop
    | none, some size, _ => some (column + size - column % size)
    | none, none, some size => some (column + size - (column - stops.columns.getLastD 0) % size)
    | none, none, none => none

/-- What a number in a list of tab stops is for. -/
inductive Role where
  | column
  | multiple
  | step
  deriving DecidableEq, Repr

/-- A number of a list, if there is one, put to the others. -/
def put (stops : TabStops) (role : Role) : Option Nat → Except Trouble TabStops
  | none => .ok stops
  | some n =>
    match role with
    | .column => .ok { stops with columns := stops.columns ++ [n] }
    | .multiple =>
      if (stops.multiples.filter (· != 0)).isSome then
        Trouble.because "'/' specifier only allowed with the last value"
      else .ok { stops with multiples := some n }
    | .step =>
      if (stops.steps.filter (· != 0)).isSome then
        Trouble.because "'+' specifier only allowed with the last value"
      else .ok { stops with steps := some n }

/-- A list of tab stops behind others; `number` is what was read of a number. -/
def readList (stops : TabStops) (role : Role) (number : Option Nat) : List Char → Except Trouble TabStops
  | [] => stops.put role number
  | c :: cs => do
    if c = ',' || c = ' ' || c = '\t' then
      readList (← stops.put role number) role none cs
    else if c = '/' || c = '+' then
      if number.isSome then
        Trouble.because
          ("'" ++ String.singleton c ++ "' specifier not at start of number: " ++ quotedWord (String.ofList (c :: cs)))
      else readList stops (if c = '/' then .multiple else .step) none cs
    else if c.isDigit then readList stops role (some (number.getD 0 * 10 + (c.toNat - 48))) cs
    else
      Trouble.because ("tab size contains invalid character(s): " ++ quotedWord (String.ofList (c :: cs)))

/-- What is wrong with columns of tab stops behind another one. -/
def columnFault? (last : Nat) : List Nat → Option String
  | [] => none
  | column :: rest =>
    if column = 0 then some "tab size cannot be 0"
    else if column ≤ last then some "tab sizes must be ascending"
    else columnFault? column rest

/-- What is wrong with tab stops as a whole. -/
def fault? (stops : TabStops) : Option String :=
  (columnFault? 0 stops.columns).or
    (if (stops.multiples.filter (· != 0)).isSome && (stops.steps.filter (· != 0)).isSome then
      some "'/' specifier is mutually exclusive with '+'"
    else none)

end TabStops

/-! ## 3. Tabulators -/

/-- How tabulators are changed. -/
structure TabPlan where
  stops : TabStops := {}
  /-- The digits of a tab stop that options give one by one. -/
  digits : Option Nat := none
  /-- Everything is changed, not only what is in front of the text. -/
  whole : Bool := true
  /-- Only what is in front of the text is changed, whatever other options say. -/
  onlyFirst : Bool := false

/-- The options of `expand`. -/
def expandOptions : List OptionKind :=
  [flag 'i' ["initial"], valued 't' ["tabs"]] ++
    "0123456789".toList.map fun digit => { flag digit [] with takes := .attached "" }

/-- The options of `unexpand`. -/
def unexpandOptions : List OptionKind :=
  [flag 'a' ["all"], valued 't' ["tabs"], long "first-only"] ++ flags ",0123456789"

namespace TabPlan

/-- The plan with one more option of `expand`. -/
def withExpandOption (plan : TabPlan) (option : String × String) : Except Trouble TabPlan :=
  match option with
  | ("i", _) => .ok { plan with whole := false }
  | (key, text) => do
    let text := if key = "t" then text else key ++ text
    return { plan with stops := ← plan.stops.readList .column none text.toList }

/-- The plan with one more option of `unexpand`. -/
def withUnexpandOption (plan : TabPlan) (option : String × String) : Except Trouble TabPlan :=
  match option with
  | ("a", _) => .ok { plan with whole := true }
  | ("first-only", _) => .ok { plan with onlyFirst := true }
  | ("t", text) => do
    return { plan with whole := true, stops := ← plan.stops.readList .column none text.toList }
  | (",", _) => do return { plan with digits := none, stops := ← plan.stops.put .column plan.digits }
  | (key, _) => .ok { plan with digits := some (plan.digits.getD 0 * 10 + (decimal? key).getD 0) }

/-- The plan when all options were read. -/
def finished (plan : TabPlan) : Except Trouble TabPlan := do
  let stops ← plan.stops.put .column plan.digits
  match stops.fault? with
  | some fault => Trouble.because fault
  | none => return { plan with stops, whole := plan.whole && !plan.onlyFirst }

end TabPlan

/-- Where the change of blanks into tabulators or back is. -/
structure TabState where
  column : Nat := 0
  /-- Something is still to be changed in the line. -/
  changes : Bool := true
  /-- Blanks that may become a tabulator, backwards. -/
  pending : Bytes := []
  /-- The first of them is right in front of a tab stop. -/
  isSingle : Bool := false
  /-- A blank is in front, or the beginning of the line. -/
  isBlank : Bool := true
  /-- What is written, backwards. -/
  out : Bytes := []

/-- One more byte with blanks in place of a tabulator. -/
def TabPlan.expandByte (plan : TabPlan) (state : TabState) (b : UInt8) : TabState :=
  let state :=
    if !state.changes then { state with out := b :: state.out }
    else
      let (column, written) : Nat × Bytes :=
        if b = 0x09 then
          let next := (plan.stops.next? state.column).getD (state.column + 1)
          (next, List.replicate (next - state.column) 0x20)
        else if b = 0x08 then (state.column - 1, [b])
        else (state.column + 1, [b])
      { state with column, changes := plan.whole || isTabOrBlank b, out := written ++ state.out }
  if b = 0x0A then { state with column := 0, changes := true } else state

/-- The blanks that may have become a tabulator are written. -/
def TabState.release (state : TabState) : TabState :=
  let blanks := state.pending.reverse
  let blanks := if state.isSingle && 1 < blanks.length then 0x09 :: blanks.drop 1 else blanks
  if blanks.isEmpty then state
  else { state with pending := [], isSingle := false, out := blanks.reverse ++ state.out }

/-- A byte is written, and the next line begins behind it if it ends one. -/
def TabState.write (state : TabState) (b : UInt8) : TabState :=
  let out := b :: state.out
  if b = 0x0A then { out } else { state with out }

/-- One more byte with tabulators in place of blanks. -/
def TabPlan.unexpandByte (plan : TabPlan) (state : TabState) (b : UInt8) : TabState :=
  let finish (state : TabState) (b written : UInt8) : TabState :=
    let isBlank := isTabOrBlank b
    ({ state.release with isBlank, changes := state.changes && (plan.whole || isBlank) }).write written
  if !state.changes then state.write b
  else if isTabOrBlank b then
    match plan.stops.next? state.column with
    | none => finish { state with changes := false } b b
    | some next =>
      let kept (pending : Bytes) : Bytes := if state.isSingle then pending.drop (pending.length - 1) else []
      let first (pending : Bytes) : Bytes :=
        if pending.isEmpty then [] else pending.dropLast ++ [0x09]
      if b = 0x09 then
        finish { state with column := next, pending := kept (first state.pending) } b b
      else
        let column := state.column + 1
        if state.isBlank && column = next then
          finish { state with column, pending := kept (first state.pending) } b 0x09
        else
          { state with
            column, isBlank := true, pending := b :: state.pending, isSingle := state.isSingle || column = next }
  else
    let column := if b = 0x08 then state.column - 1 else state.column + 1
    finish { state with column } b b

/-- All operands as one text, changed byte by byte. -/
def tabUtility (kinds : List OptionKind) (start : TabPlan)
    (withOption : TabPlan → String × String → Except Trouble TabPlan)
    (byte : TabPlan → TabState → UInt8 → TabState) : Utility := fun errand =>
  let arguments := readOptions kinds true errand.args
  errand.foldOptions 1 arguments start withOption fun plan =>
    match plan.finished with
    | .error trouble => errand.giveUp 1 trouble
    | .ok plan =>
      let operands := orInput arguments.operands
      let sources := errand.sources operands
      let (state, said) := sources.foldl (fun (state, said) (path, source) =>
        match source with
        | .error cause => (state, said ++ [(Outlet.err, ByteText.toBytes (errand.refusal path cause))])
        | .ok source =>
          let state := (source.all?.getD []).foldl (byte plan) state
          ({ state with out := [] }, said ++ [(Outlet.out, state.out.reverse)]))
        (({} : TabState), ([] : List (Outlet × Bytes)))
      { code := if said.any (·.1 = .err) then 1 else 0
        said := said ++ [(.out, state.release.out.reverse)]
        files := errand.files
        unread := errand.unreadAfter operands
        endless := sources.any fun (_, source) => source.toOption.any (·.all?.isNone) }

/-- Blanks in place of tabulators. -/
def expand : Utility :=
  tabUtility expandOptions {} TabPlan.withExpandOption TabPlan.expandByte

/-- Tabulators in place of blanks. -/
def unexpand : Utility :=
  tabUtility unexpandOptions { whole := false } TabPlan.withUnexpandOption TabPlan.unexpandByte

end GoldenRun.Machine
