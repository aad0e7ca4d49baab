import GoldenRun.Machine.Utility.Content
import GoldenRun.Machine.Utility.Size

/-!
# Beginnings and ends

`head` writes the beginnings of files and `tail` their ends: ten lines, or as much as options say. With
several operands, each has a heading.

* For `head` a minus sign leaves so much out at the end; for `tail` a plus sign begins with that line or
  byte.
* The first argument may also be a sign, a count and some letters.
-/

namespace GoldenRun.Machine

/-! ## 1. Extents -/

/-- What is counted. -/
inductive Measure where
  | lines
  | bytes
  deriving DecidableEq, Repr

/-- How much of a file is wanted. -/
structure Extent where
  unit : Measure := .lines
  count : Nat := 10
  /-- All but so much at the end, or from that line or byte on. -/
  inverted : Bool := false
  /-- What ends a line. -/
  ending : UInt8 := 0x0A
  deriving DecidableEq, Repr

/-- The words for what is counted. -/
def Measure.name : Measure → String
  | .lines => "lines"
  | .bytes => "bytes"

/-- A number that is too large for the machine. -/
def tooLarge : Nat := Nat.pow 2 64

/-- A count with an optional unit. -/
def Measure.count (unit : Measure) (text : String) : Except Trouble Nat :=
  let invalid := "invalid number of " ++ unit.name ++ ": " ++ quotedWord text
  match Size.ofText? false "bkKmMGTPEZYRQ0" text with
  | none => Trouble.because invalid
  | some n =>
    if n < tooLarge then .ok n
    else Trouble.because (invalid ++ ": Value too large for defined data type")

/-- The beginning of a content. -/
def Extent.first (extent : Extent) (content : Bytes) : Bytes :=
  match extent.unit with
  | .lines =>
    let lines := linesOf content extent.ending
    (lines.take (if extent.inverted then lines.length - extent.count else extent.count)).flatten
  | .bytes => content.take (if extent.inverted then content.length - extent.count else extent.count)

/-- The end of a content. -/
def Extent.last (extent : Extent) (content : Bytes) : Bytes :=
  match extent.unit with
  | .lines =>
    let lines := linesOf content extent.ending
    (lines.drop (if extent.inverted then extent.count - 1 else lines.length - extent.count)).flatten
  | .bytes =>
    content.drop (if extent.inverted then extent.count - 1 else content.length - extent.count)

/-- Nothing is wanted. -/
def Extent.isNothing (extent : Extent) : Bool :=
  extent.count = 0 && !extent.inverted

/-- The beginning of a source, if it has one that long or ends. -/
def Extent.firstOf? (extent : Extent) (source : Source) : Option Bytes :=
  if extent.isNothing then some []
  else
    match extent.unit, source with
    | .bytes, source =>
      if extent.inverted then source.all?.map extent.first
      else (source.first? extent.count).map (·.take extent.count)
    | .lines, .cycle pattern =>
      if pattern.contains extent.ending && !extent.inverted then
        ((Source.cycle pattern).first? (extent.count * pattern.length)).map extent.first
      else none
    | .lines, source => source.all?.map extent.first

/-! ## 2. Options -/

/-- What `head` or `tail` is to do. -/
structure ExtentPlan where
  extent : Extent := {}
  /-- Whether there are headings, if that was said. -/
  headed : Option Bool := none
  /-- More is waited for at the end. -/
  follows : Bool := false
  /-- Options that matter only then. -/
  retries : Bool := false
  watched : Bool := false

namespace ExtentPlan

/-- The plan with another count. -/
def withCount (plan : ExtentPlan) (unit : Measure) (text : String) : Except Trouble ExtentPlan := do
  let count ← unit.count text
  return { plan with extent := { plan.extent with unit, count } }

/-- The options of `head`, digits being options that are refused. -/
def headOptions : List OptionKind :=
  [valued 'c' ["bytes"], valued 'n' ["lines"], flag 'q' ["quiet", "silent"], flag 'v' ["verbose"],
    flag 'z' ["zero-terminated"]] ++ flags "0123456789"

/-- The options of `tail`. -/
def tailOptions : List OptionKind :=
  headOptions ++ [flag 'f' [], flag 'F' [], valued 's' ["sleep-interval"], long "pid" .always,
    long "retry", long "follow" (.attached "descriptor"), long "max-unchanged-stats" .always]

/-- The letters of a digit that is an option. -/
def isDigit (key : String) : Bool := (decimal? key).isSome

/-- The plan with one more option of `head`. -/
def withHeadOption (plan : ExtentPlan) : String × String → Except Trouble ExtentPlan
  | ("q", _) => .ok { plan with headed := some false }
  | ("v", _) => .ok { plan with headed := some true }
  | ("z", _) => .ok { plan with extent := { plan.extent with ending := 0 } }
  | (key, text) =>
    if isDigit key then Trouble.misuse ("invalid trailing option -- " ++ key)
    else do
      let unit := if key = "n" then Measure.lines else Measure.bytes
      let inverted := text.toList.head? = some '-'
      let plan ← plan.withCount unit (if inverted then String.ofList (text.toList.drop 1) else text)
      return { plan with extent := { plan.extent with inverted } }

/-- A number of seconds, or of a process. -/
def checked (plan : ExtentPlan) (what text : String) (isRight : Bool) : Except Trouble ExtentPlan :=
  if isRight then .ok plan else Trouble.because ("invalid " ++ what ++ ": " ++ quotedWord text)

/-- The plan with one more option of `tail`. -/
def withTailOption (plan : ExtentPlan) : String × String → Except Trouble ExtentPlan
  | ("f", _) | ("F", _) => .ok { plan with follows := true }
  | ("follow", word) => do
    let _ ← oneOf "--follow" [["descriptor"], ["name"]] word
    return { plan with follows := true }
  | ("retry", _) => .ok { plan with retries := true }
  | ("s", text) =>
    let isTime := match Floating.read? .double text.toList with
      | some (_, _, []) => !text.toList.contains '-'
      | _ => false
    plan.checked "number of seconds" text isTime
  | ("pid", text) => { plan with watched := true }.checked "PID" text (decimal? text).isSome
  | ("max-unchanged-stats", text) =>
    plan.checked "maximum number of unchanged stats between opens" text (decimal? text).isSome
  | (key, text) =>
    if isDigit key then Trouble.because ("option used in invalid context -- " ++ key)
    else if key = "n" || key = "c" then do
      let unit := if key = "n" then Measure.lines else Measure.bytes
      let sign := text.toList.head?
      let plan ← plan.withCount unit (if sign = some '-' then String.ofList (text.toList.drop 1) else text)
      let inverted := plan.extent.inverted || sign = some '+'
      return { plan with extent := { plan.extent with inverted } }
    else plan.withHeadOption (key, text)

/-- The letters behind a leading count of `head`; the last part is the unit of the count. -/
def leadingLetters (plan : ExtentPlan) (unit : String) :
    List Char → Except Trouble (ExtentPlan × String)
  | [] => .ok (plan, unit)
  | c :: rest =>
    let measured (measure : Measure) (unit : String) : Except Trouble (ExtentPlan × String) :=
      leadingLetters { plan with extent := { plan.extent with unit := measure } } unit rest
    match c with
    | 'c' => measured .bytes ""
    | 'b' | 'k' | 'm' => measured .bytes (String.singleton c)
    | 'l' => measured .lines unit
    | 'q' => leadingLetters { plan with headed := some false } unit rest
    | 'v' => leadingLetters { plan with headed := some true } unit rest
    | 'z' => leadingLetters { plan with extent := { plan.extent with ending := 0 } } unit rest
    | c => Trouble.misuse ("invalid trailing option -- " ++ String.singleton c)

/-- The plan of a leading count of `head`, and the other arguments. -/
def ofHead (args : List String) : Except Trouble (ExtentPlan × List String) :=
  match args with
  | first :: rest =>
    match first.toList with
    | '-' :: cs =>
      let digits := cs.takeWhile Char.isDigit
      if digits.isEmpty then .ok ({}, args)
      else do
        let (plan, unit) ← leadingLetters {} "" (cs.drop digits.length)
        let plan ← plan.withCount plan.extent.unit (String.ofList digits ++ unit)
        return (plan, rest)
    | _ => .ok ({}, args)
  | [] => .ok ({}, [])

/-- The plan of a leading count of `tail` that is the only option, and the other arguments. -/
def ofTail (args : List String) : Except Trouble (ExtentPlan × List String) :=
  let isSingle := match args with
    | [_] => true
    | [_, file] => file = "-" || file.toList.head? != some '-' || file = "--"
    | [_, "--", _] => true
    | _ => false
  match args with
  | first :: rest =>
    let read (inverted : Bool) (cs : List Char) : Except Trouble (ExtentPlan × List String) :=
      let digits := cs.takeWhile Char.isDigit
      let behind := cs.drop digits.length
      let (unit, factor, behind) := match behind with
        | 'b' :: rest => (Measure.bytes, 512, rest)
        | 'c' :: rest => (Measure.bytes, 1, rest)
        | 'l' :: rest => (Measure.lines, 1, rest)
        | rest => (Measure.lines, 1, rest)
      let (follows, behind) := match behind with
        | 'f' :: rest => (true, rest)
        | rest => (false, rest)
      let count := ((decimal? (String.ofList digits)).getD 10) * factor
      if !behind.isEmpty then .ok ({}, args)
      else if tooLarge ≤ count then
        Trouble.because ("invalid number: " ++ quotedWord first ++ ": Numerical result out of range")
      else .ok ({ extent := { unit, count, inverted }, follows }, rest)
    match isSingle, first.toList with
    | true, '+' :: cs => read true cs
    | true, '-' :: cs =>
      if cs.isEmpty || cs = ['c'] then .ok ({}, args) else read false cs
    | _, _ => .ok ({}, args)
  | [] => .ok ({}, [])

end ExtentPlan

/-! ## 3. Files -/

/-- A line about a path that cannot be opened or read. -/
def Errand.unopened (errand : Errand) (path : String) (cause : Errno) : String :=
  if cause = .isDirectory then errand.unable "error reading" path cause
  else errand.line ("cannot open " ++ quotedName path ++ " for reading: " ++ cause.message)

/-- Parts of files, each with a heading if one is wanted; `started` says whether there was one. With `strict`
    a directory ends it all. -/
def partsOfFiles (errand : Errand) (part? : Source → Option Bytes) (headed strict : Bool) :
    (started : Bool) → List String → Reading → Reading
  | _, [], reading => reading
  | started, path :: rest, reading =>
    let name := if path = "-" then "standard input" else path
    let heading : List (Outlet × Bytes) :=
      if headed then
        [(.out, ByteText.toBytes ((if started then "\n" else "") ++ "==> " ++ name ++ " <==\n"))]
      else []
    match errand.read path with
    | .error e =>
      let isOpened := e = .isDirectory
      let isUnread := isOpened && (part? (.refusing e)).isSome && (part? .silent).isSome
      let said := (if isOpened then heading else []) ++
        if isUnread then [] else [(.err, ByteText.toBytes (errand.unopened path e))]
      let reading := { reading with refused := reading.refused || !isUnread, said := reading.said ++ said }
      if strict && isOpened && !isUnread then reading
      else partsOfFiles errand part? headed strict (started || (headed && isOpened)) rest reading
    | .ok source =>
      match part? source with
      | some part =>
        partsOfFiles (errand.behind path) part? headed strict (started || headed) rest
          { reading with said := reading.said ++ heading ++ [(.out, part)] }
      | none => { reading with said := reading.said ++ heading, endless := true }

/-- How much is read at once. -/
def blockSize : Nat := 8192

/-- What is left of the input behind its beginning. Input that cannot be left was read in blocks, unless
    bytes were counted. -/
def Extent.unreadAfter (extent : Extent) (errand : Errand) : Source :=
  match errand.input with
  | .bytes content =>
    let used := (extent.first content).length
    let isExact := errand.seekable || extent.unit = .bytes
    .bytes (content.drop (if isExact then used
      else (used + blockSize - 1) / blockSize * blockSize))
  | source => source

/-- Parts of the operands as a plan and more options ask for. -/
def partsUtility (begin : List String → Except Trouble (ExtentPlan × List String)) (kinds : List OptionKind)
    (step : ExtentPlan → String × String → Except Trouble ExtentPlan)
    (part? : Extent → Source → Option Bytes) (unread : Extent → Errand → Source)
    (isIdle isStrict : ExtentPlan → Bool) : Utility := fun errand =>
  match begin errand.args with
  | .error trouble => errand.giveUp 1 trouble
  | .ok (start, args) =>
    let arguments := readOptions kinds true args
    errand.foldOptions 1 arguments start step fun plan =>
      let warnings :=
        (if plan.retries && !plan.follows then ["--retry ignored; --retry is useful only when following"] else []) ++
          if plan.watched && !plan.follows then ["PID ignored; --pid=PID is useful only when following"] else []
      let warned := warnings.map fun text => (Outlet.err, ByteText.toBytes (errand.line ("warning: " ++ text)))
      if isIdle plan then errand.finish 0 warned
      else
        let operands := orInput arguments.operands
        let headed := plan.headed.getD (1 < operands.length)
        let reading := partsOfFiles errand (part? plan.extent) headed (isStrict plan) false operands {}
        let isWatched (path : String) : Bool :=
          if path = "-" then errand.seekable else (errand.read path).isOk
        let isStranded := plan.follows && operands != ["-"] && !operands.any isWatched
        { code := if reading.refused || isStranded then 1 else 0
          said := warned ++ reading.said ++
            if isStranded then [(.err, ByteText.toBytes (errand.line "no files remaining"))] else []
          files := errand.files
          unread := if operands.any Errand.isInput then unread plan.extent errand else errand.input
          endless := reading.endless || (plan.follows && operands.any isWatched) }

/-- The beginnings of files. -/
def head : Utility :=
  partsUtility ExtentPlan.ofHead ExtentPlan.headOptions ExtentPlan.withHeadOption Extent.firstOf?
    Extent.unreadAfter (fun _ => false) fun _ => false

/-- The ends of files. -/
def tail : Utility :=
  partsUtility ExtentPlan.ofTail ExtentPlan.tailOptions ExtentPlan.withTailOption
    (fun extent source => if extent.isNothing then some [] else source.all?.map extent.last)
    (fun _ _ => .bytes []) (fun plan => plan.extent.isNothing && !plan.follows)
    fun plan => plan.extent.unit = .bytes

end GoldenRun.Machine
