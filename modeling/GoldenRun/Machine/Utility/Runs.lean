import GoldenRun.Machine.Utility.Fields

/-!
# Equal lines

`uniq` makes one line of lines that follow each other and are equal, and `comm` tells which lines two sorted
files have in common.

* A *run* is a stretch of lines whose compared parts are equal, as long as possible.
-/

namespace GoldenRun.Machine

/-! ## 1. Runs -/

/-- Where lines of a run are set apart from others. -/
inductive RunBreaks where
  | none
  | before
  | behind
  | between
  | around
  deriving DecidableEq, Repr

/-- What is written of runs. -/
structure RunPlan where
  counts : Bool := false
  /-- Lines that are alone are left out. -/
  repeatedOnly : Bool := false
  /-- The last line of a run is left out, if it is not alone. -/
  aloneOnly : Bool := false
  /-- The other lines of a run are written too. -/
  all : Bool := false
  breaks : RunBreaks := .none
  /-- All lines are written, and runs are set apart so. -/
  groups : Option RunBreaks := Option.none
  skippedFields : Nat := 0
  /-- The number of fields was given as a number alone, digit by digit. -/
  skipsOld : Bool := false
  skippedBytes : Nat := 0
  comparedBytes : Option Nat := Option.none
  folds : Bool := false
  zero : Bool := false
  deriving DecidableEq, Repr

/-- The options of `uniq`. -/
def runOptions : List OptionKind :=
  [flag 'c' ["count"], flag 'd' ["repeated"], flag 'D' [], long "all-repeated" (.attached "none"),
    long "group" (.attached "separate"), flag 'i' ["ignore-case"], flag 'u' ["unique"],
    valued 'f' ["skip-fields"], valued 's' ["skip-chars"], valued 'w' ["check-chars"],
    flag 'z' ["zero-terminated"]] ++ flags "0123456789"

namespace RunPlan

/-- A number that is given to an option. -/
def amount (fault text : String) : Except Trouble Nat :=
  match Size.ofText? false "" text with
  | some n => .ok n
  | none => Trouble.because (text ++ ": " ++ fault)

/-- The word for a way to set runs apart. -/
def breaks? : String → RunBreaks
  | "prepend" => .before
  | "append" => .behind
  | "separate" => .between
  | "both" => .around
  | _ => .none

/-- The plan with one more option. -/
def withOption (plan : RunPlan) : String × String → Except Trouble RunPlan
  | ("c", _) => .ok { plan with counts := true }
  | ("d", _) => .ok { plan with repeatedOnly := true }
  | ("D", _) => .ok { plan with repeatedOnly := true, all := true, breaks := .none }
  | ("all-repeated", word) => do
    let word ← oneOf "--all-repeated" [["none"], ["prepend"], ["separate"]] word
    return { plan with repeatedOnly := true, all := true, breaks := breaks? word }
  | ("group", word) => do
    let word ← oneOf "--group" [["prepend"], ["append"], ["separate"], ["both"]] word
    return { plan with groups := some (breaks? word) }
  | ("i", _) => .ok { plan with folds := true }
  | ("u", _) => .ok { plan with aloneOnly := true }
  | ("z", _) => .ok { plan with zero := true }
  | ("f", text) => do
    let n ← amount "invalid number of fields to skip" text
    return { plan with skippedFields := n, skipsOld := false }
  | ("s", text) => do
    return { plan with skippedBytes := ← amount "invalid number of bytes to skip" text }
  | ("w", text) => do
    return { plan with comparedBytes := some (← amount "invalid number of bytes to compare" text) }
  | (digit, _) =>
    let before := if plan.skipsOld then plan.skippedFields else 0
    .ok { plan with
      skippedFields := before * 10 + ((decimal? digit).getD 0), skipsOld := true }

/-- The part of a line that is compared. -/
def part (plan : RunPlan) (line : Bytes) : Bytes :=
  let rest := (SortKey.afterFields Option.none plan.skippedFields line).drop plan.skippedBytes
  let part := plan.comparedBytes.elim rest rest.take
  if plan.folds then part.map Collation.raised else part

/-- Lines in runs. -/
def runs (plan : RunPlan) : List Bytes → List (List Bytes)
  | [] => []
  | line :: rest =>
    match runs plan rest with
    | (other :: others) :: more =>
      if plan.part line = plan.part other then (line :: other :: others) :: more
      else [line] :: (other :: others) :: more
    | more => [line] :: more

/-- What is written of a run. `number` is the count of runs in front of it that are no single lines. -/
def shown (plan : RunPlan) (ending : UInt8) (number : Nat) (run : List Bytes) : Bytes :=
  let line (count : Nat) (text : Bytes) : Bytes :=
    (if plan.counts then ByteText.toBytes (countText 7 count ++ " ") else []) ++ text ++ [ending]
  if run.length < 2 then if plan.repeatedOnly then [] else run.flatMap (line 1)
  else
    let isApart := plan.breaks = .before || (plan.breaks = .between && number != 0)
    let lead := if plan.all then run.dropLast.flatMap (line 1) else []
    let last := (if plan.all then run.getLast? else run.head?).toList
    (if isApart then [ending] else []) ++ lead ++
      if plan.aloneOnly then [] else last.flatMap (line run.length)

/-- What is written of all runs, `number` of which are no single lines so far. -/
def shownAll (plan : RunPlan) (ending : UInt8) : (number : Nat) → List (List Bytes) → Bytes
  | _, [] => []
  | number, run :: rest =>
    plan.shown ending number run ++
      shownAll plan ending (if run.length < 2 then number else number + 1) rest

/-- All runs, set apart. -/
def shownGroups (breaks : RunBreaks) (ending : UInt8) (runs : List (List Bytes)) : Bytes :=
  let isBefore := breaks = .before || breaks = .around
  let isBetween := breaks = .behind || breaks = .between
  let text := runs.zipIdx.flatMap fun (run, i) =>
    (if isBefore || (isBetween && i != 0) then [ending] else []) ++ run.flatMap (· ++ [ending])
  text ++ if (breaks = .behind || breaks = .around) && !runs.isEmpty then [ending] else []

/-- What is written of a content. -/
def apply (plan : RunPlan) (content : Bytes) : Bytes :=
  let ending : UInt8 := if plan.zero then 0 else 0x0A
  let runs := plan.runs (linesBy ending content)
  match plan.groups with
  | some breaks => shownGroups breaks ending runs
  | Option.none => plan.shownAll ending 0 runs

/-- Options that cannot go together. -/
def conflict? (plan : RunPlan) : Option String :=
  if plan.groups.isSome && (plan.counts || plan.repeatedOnly || plan.aloneOnly) then
    some "--group is mutually exclusive with -c/-d/-D/-u"
  else if plan.counts && plan.all then
    some "printing all duplicated lines and repeat counts is meaningless"
  else Option.none

end RunPlan

/-- One line of each run, read from the first operand and written to the second. -/
def uniq : Utility := fun errand =>
  let arguments := readOptions runOptions true errand.args
  let skip? (text : String) : Option Nat :=
    match text.toList with
    | '+' :: _ => Size.ofText? false "" text
    | _ => Option.none
  let skipped := (arguments.operands.filterMap skip?).getLast?
  let operands := arguments.operands.filter fun text => (skip? text).isNone
  errand.foldOptions 1 arguments ({} : RunPlan) RunPlan.withOption fun plan =>
    let plan := { plan with skippedBytes := skipped.getD plan.skippedBytes }
    match plan.conflict?, operands with
    | _, _ :: _ :: extra :: _ => errand.misused ("extra operand " ++ quotedWord extra)
    | some fault, _ => errand.misused fault
    | Option.none, operands =>
      let path := operands.headD "-"
      match errand.read path with
      | .error e =>
        errand.complain 1
          (if e = .isDirectory then errand.line ("error reading " ++ quotedName path ++ ": " ++ e.message)
          else errand.refusal path e)
      | .ok source =>
        match source.all? with
        | Option.none => errand.hang
        | some content =>
          let text := plan.apply content
          let done := { errand.finish 0 with unread := errand.unreadAfter [path] }
          match operands[1]? with
          | Option.none | some "-" => { done with said := [(.out, text)] }
          | some output =>
            match errand.files.write (ByteText.toBytes output) text with
            | .ok files => { done with files }
            | .error e => errand.complain 1 (errand.refusal output e)

/-! ## 2. Lines in common -/

/-- How lines of two files are compared. -/
structure CommonPlan where
  /-- Which of the three columns are written. -/
  first : Bool := true
  second : Bool := true
  both : Bool := true
  /-- Whether the order is checked at all events, or not at all. -/
  checks : Option Bool := none
  separator : Bytes := [0x09]
  total : Bool := false
  zero : Bool := false
  deriving DecidableEq, Repr

/-- How far two files were compared. -/
structure CommonState where
  out : Bytes := []
  /-- The numbers of lines in the three columns. -/
  totals : Nat × Nat × Nat := (0, 0, 0)
  unpaired : Bool := false
  disordered : List Nat := []
  deriving DecidableEq, Repr

namespace CommonPlan

/-- The files that are told to be out of order, with one more if the two lines of it are. -/
def checked (plan : CommonPlan) (file : Nat) (lines : Option (Bytes × Bytes)) (state : CommonState) :
    CommonState :=
  match lines with
  | some (a, b) =>
    let isChecked := plan.checks = some true || (plan.checks.isNone && state.unpaired)
    if isChecked && !state.disordered.contains file && Bytes.before b a then
      { state with disordered := state.disordered ++ [file] }
    else state
  | none => state

/-- The pair of lines to check when a file goes on: the last one and the next, or at its end the last two. -/
def pairAt (before : Option Bytes) (line : Bytes) (rest : List Bytes) : Option (Bytes × Bytes) :=
  match rest, before with
  | next :: _, _ => some (line, next)
  | [], some before => some (before, line)
  | [], none => none

/-- Both files compared line by line; `x` and `y` are the lines in front. `fuel` covers the lines. -/
def compare (plan : CommonPlan) (ending : UInt8) :
    (fuel : Nat) → (x y : Option Bytes) → List Bytes → List Bytes → CommonState → CommonState
  | 0, _, _, _, _, state => state
  | fuel + 1, x, y, as, bs, state =>
    if plan.checks = some true && !state.disordered.isEmpty then state
    else
      let write (isShown : Bool) (columns : List Bool) (line : Bytes) : Bytes :=
        if isShown then columns.flatMap (fun c => if c then plan.separator else []) ++ line ++ [ending]
        else []
      let inFirst (a : Bytes) (rest : List Bytes) : CommonState :=
        let (n, m, k) := state.totals
        plan.compare ending fuel (some a) y rest bs <|
          plan.checked 1 (pairAt x a rest) { state with
            out := (write plan.first [] a).reverse ++ state.out
            totals := (n + 1, m, k)
            unpaired := true }
      let inSecond (b : Bytes) (rest : List Bytes) : CommonState :=
        let (n, m, k) := state.totals
        plan.compare ending fuel x (some b) as rest <|
          plan.checked 2 (pairAt y b rest) { state with
            out := (write plan.second [plan.first] b).reverse ++ state.out
            totals := (n, m + 1, k)
            unpaired := true }
      match as, bs with
      | [], [] => state
      | a :: rest, [] => inFirst a rest
      | [], b :: rest => inSecond b rest
      | a :: restA, b :: restB =>
        if Bytes.before a b then inFirst a restA
        else if Bytes.before b a then inSecond b restB
        else
          let (n, m, k) := state.totals
          let state := { state with
            out := (write plan.both [plan.first, plan.second] b).reverse ++ state.out
            totals := (n, m, k + 1) }
          let state := plan.checked 1 (pairAt x a restA) state
          let state :=
            if plan.checks = some true && !state.disordered.isEmpty then state
            else plan.checked 2 (pairAt y b restB) state
          plan.compare ending fuel (some a) (some b) restA restB state

end CommonPlan

/-- Lines that are in both of two sorted files, and lines that are in one of them. -/
def comm : Utility := fun errand =>
  let kinds := flags "123" ++ [flag 'z' ["zero-terminated"], long "check-order", long "nocheck-order",
    long "output-delimiter" .always, long "total"]
  errand.withOptions kinds fun arguments =>
    let checks := (arguments.options.reverse.find? fun o => ["check-order", "nocheck-order"].contains o.1).map
      (·.1 == "check-order")
    let separators := arguments.values "output-delimiter"
    let plan : CommonPlan := {
      first := !arguments.has "1"
      second := !arguments.has "2"
      both := !arguments.has "3"
      checks
      separator := (separators.getLast?.map fun s => if s.isEmpty then [0] else ByteText.toBytes s).getD [0x09]
      total := arguments.has "total"
      zero := arguments.has "z" }
    match arguments.operands with
    | [] => errand.misused "missing operand"
    | [one] => errand.misused ("missing operand after " ++ quotedWord one)
    | _ :: _ :: extra :: _ => errand.misused ("extra operand " ++ quotedWord extra)
    | [a, b] =>
      match errand.read a, (errand.behind a).read b with
      | .error e, _ => errand.complain 1 (errand.refusal a e)
      | .ok _, .error e => errand.complain 1 (errand.refusal b e)
      | .ok source, .ok other =>
        match source.all?, other.all? with
        | some x, some y =>
          let ending : UInt8 := if plan.zero then 0 else 0x0A
          let as := linesBy ending x
          let bs := linesBy ending y
          let state := plan.compare ending (as.length + bs.length + 1) none none as bs {}
          let stopped := plan.checks = some true && !state.disordered.isEmpty
          let (n, m, k) := state.totals
          let summary :=
            if plan.total && !stopped then
              ByteText.toBytes (toString n) ++ plan.separator ++ ByteText.toBytes (toString m) ++
                plan.separator ++ ByteText.toBytes (toString k) ++ plan.separator ++ utf8 "total" ++ [ending]
            else []
          let warnings := state.disordered.map fun file =>
            errand.line ("file " ++ toString file ++ " is not in sorted order")
          let warnings :=
            if warnings.isEmpty || stopped then warnings
            else warnings ++ [errand.line "input is not in sorted order"]
          { errand.finish (if state.disordered.isEmpty then 0 else 1)
              (warnings.map (fun text => (.err, ByteText.toBytes text)) ++
                [(.out, state.out.reverse ++ summary)]) with
            unread := errand.unreadAfter [a, b] }
        | _, _ => errand.hang

end GoldenRun.Machine
