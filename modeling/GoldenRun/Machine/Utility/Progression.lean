import GoldenRun.Machine.Floating
import GoldenRun.Machine.Utility.Format
import GoldenRun.Machine.Utility.Options

/-!
# Numbers in equal steps

`seq` writes the numbers from a first to a last one in equal steps. They are floating-point numbers, written
with as many decimal places as the first number and the step have; whole numbers that are not negative are
of any size.

* `Operand.read` reads a number with what is known of its width and its decimal places.
* `Progression.texts` are the numbers as they are written.
-/

namespace GoldenRun.Machine

/-! ## 1. Operands -/

/-- A number as an operand, with its width and its decimal places. -/
structure SeqOperand where
  value : Floating
  width : Nat := 1
  /-- Unknown for numbers that are not written in decimal digits. -/
  places : Option Nat := some 0
  deriving DecidableEq, Repr

namespace SeqOperand

/-- The number one. -/
def one : SeqOperand := { value := .ofInt .extended 1 }

/-- The value is finite. -/
def isFinite (operand : SeqOperand) : Bool :=
  operand.value.ratio?.isSome

/-- Width and decimal places of a number that is written so. -/
def measure (cs : List Char) : Nat × Nat :=
  let isExponent (c : Char) : Bool := c = 'e' || c = 'E'
  let head := cs.takeWhile fun c => !isExponent c
  let exponent? : Option Int :=
    match cs.drop head.length with
    | [] => none
    | _ :: '-' :: digits => some (-(((leadingDigits digits).1.getD 0 : Nat) : Int))
    | _ :: '+' :: digits => some ((leadingDigits digits).1.getD 0)
    | _ :: digits => some ((leadingDigits digits).1.getD 0)
  let whole := head.takeWhile (· != '.')
  let hasPoint := head.contains '.'
  let places := head.length - whole.length - 1
  let bare := !(whole.getLast?.any Char.isDigit)
  let width : Int := head.length +
    if !hasPoint then 0 else if places = 0 then -1 else if bare then 1 else 0
  match exponent? with
  | none => (width.toNat, places)
  | some exponent =>
    if exponent < 0 then
      let more := if !hasPoint || places = 0 then 1 else 0
      ((width + more + exponent.natAbs).toNat, places + exponent.natAbs)
    else
      let left := places - exponent.toNat
      let less : Int := if hasPoint && left = 0 && places != 0 then 1 else 0
      ((width - less + (exponent.toNat - places : Nat)).toNat, left)

/-- The number that a text is. -/
def read (text : String) : Except Trouble SeqOperand :=
  match Floating.read? .extended text.toList with
  | some (value, outside, []) =>
    let isTooLarge := outside && value.ratio?.all (·.1 != 0)
    match value, isTooLarge with
    | .undefined _, _ =>
      Trouble.misuse ("invalid 'not-a-number' argument: " ++ quotedWord text)
    | _, true => Trouble.misuse ("invalid floating point argument: " ++ quotedWord text)
    | value, false =>
      let cs := text.toList.dropWhile fun c => c = ' ' || (9 ≤ c.toNat && c.toNat ≤ 13) || c = '+'
      let isDecimal := !cs.any fun c => c = 'x' || c = 'X'
      if isDecimal && value.ratio?.isSome then
        let (width, places) := measure cs
        .ok { value, width, places := some places }
      else
        .ok { value, width := 0, places := if cs.any fun c => c = '.' || c = 'p' then none else some 0 }
  | _ => Trouble.misuse ("invalid floating point argument: " ++ quotedWord text)

end SeqOperand

/-! ## 2. Formats -/

/-- A format for one number: what stands in front of it and behind it, and how it is written. -/
structure NumberFormat where
  before : List Char := []
  behind : List Char := []
  shape : Shape
  kind : Char
  deriving DecidableEq, Repr

namespace NumberFormat

/-- The text up to a percent sign that is not doubled, and what follows it, if there is one. -/
def untilDirective : List Char → List Char × Option (List Char)
  | '%' :: '%' :: cs =>
    let (text, rest) := untilDirective cs
    ('%' :: text, rest)
  | '%' :: cs => ([], some cs)
  | c :: cs =>
    let (text, rest) := untilDirective cs
    (c :: text, rest)
  | [] => ([], none)

/-- A format as it is written. -/
def read (text : String) : Except Trouble NumberFormat :=
  let refuse (fault : String) : Except Trouble NumberFormat :=
    Trouble.because ("format " ++ quotedWord text ++ " " ++ fault)
  match untilDirective text.toList with
  | (_, none) => refuse "has no % directive"
  | (before, some cs) =>
    let (shape, rest) := Shape.read "-+#0 \x27" cs
    match if rest.head? = some 'L' then rest.drop 1 else rest with
    | [] => refuse "ends in %"
    | kind :: rest =>
      if !"efgaEFGA".toList.contains kind then
        refuse ("has unknown %" ++ String.singleton kind ++ " directive")
      else
        match untilDirective rest with
        | (behind, none) => .ok { before, behind, shape, kind }
        | (_, some _) => refuse "has too many % directives"

/-- A number as the format writes it. -/
def number (format : NumberFormat) (value : Floating) : List Char :=
  let upper := format.kind.isUpper
  match format.kind.toLower with
  | 'f' => format.shape.fixed upper value
  | 'e' => format.shape.scientific upper value
  | 'a' => format.shape.binary .extended upper value
  | _ => format.shape.general upper value

/-- The whole text for a number. -/
def write (format : NumberFormat) (value : Floating) : String :=
  String.ofList (format.before ++ format.number value ++ format.behind)

/-- The format for numbers from a first to a last one: with the decimal places of the first and the step,
    and all of one width if they are to be. -/
def usual (equalWidth : Bool) (first step last : SeqOperand) : NumberFormat :=
  match first.places, step.places, last.places with
  | some p, some q, some r =>
    let places := max p q
    let point (known : Nat) : Int :=
      if known = 0 && places != 0 then 1 else if known != 0 && places = 0 then -1 else 0
    let firstWidth : Int := first.width + (places - p : Nat) + if p = 0 && places != 0 then 1 else 0
    let lastWidth : Int := last.width + ((places : Int) - r) + point r
    let width := if equalWidth then (max firstWidth lastWidth).toNat else 0
    { shape := { zeroFilled := equalWidth, width, precision := some places }, kind := 'f' }
  | _, _, _ => { shape := {}, kind := 'g' }

end NumberFormat

/-! ## 3. Progressions -/

namespace Progression

/-- The numbers as they are written, from the number of the given index on. One that is past the last but is
    written like it is taken in if it is not written like the one in front of it. `fuel` bounds the count. -/
def texts (format : NumberFormat) (first step last : Floating) :
    (fuel : Nat) → (index : Nat) → (value : Floating) → List String
  | 0, _, _ => []
  | fuel + 1, index, value =>
    let isPast (x : Floating) : Bool :=
      if step.isNegative then x.compare last = .lt else last.compare x = .lt
    let next := first.add .extended ((Floating.ofInt .extended index).mul .extended step)
    let shown := format.number next
    let extra : Bool :=
      match Floating.read? .extended shown with
      | some (x, _, []) => x.compare last = .eq && format.number value != shown
      | _ => false
    format.write value ::
      if !isPast next then texts format first step last fuel (index + 1) next
      else if extra then [format.write next]
      else []

/-- Whole numbers from a first one on in steps, so many. -/
def wholes (first step : Nat) : (count : Nat) → List String
  | 0 => []
  | count + 1 => toString first :: wholes (first + step) step count

/-- A bound for the count of numbers. -/
def bound (first step last : Floating) : Nat :=
  match first.ratio?, step.ratio?, last.ratio? with
  | some (a, b), some (c, d), some (e, f) =>
    if c = 0 then 0 else (a * f + e * b) * d / (b * f * c) + 3
  | _, _, _ => 0

end Progression

/-! ## 4. The utility -/

/-- The argument is an option whose value is the next argument. -/
def wantsValue (arg : String) : Bool :=
  let long (name : String) : Bool := 2 < arg.length && arg.toList.isPrefixOf name.toList
  match arg.toList with
  | '-' :: cs => [['f'], ['s']].contains (cs.dropWhile (· = 'w')) || long "--format" || long "--separator"
  | _ => false

/-- The arguments in front of the first that looks like a negative number, and the rest. -/
def beforeNegative : List String → List String × List String
  | [] => ([], [])
  | arg :: rest =>
    match arg.toList with
    | '-' :: c :: _ =>
      if c = '.' || c.isDigit then ([], arg :: rest)
      else if wantsValue arg then
        let (options, others) := beforeNegative (rest.drop 1)
        (arg :: rest.take 1 ++ options, others)
      else
        let (options, others) := beforeNegative rest
        (arg :: options, others)
    | _ => ([], arg :: rest)
termination_by args => args.length
decreasing_by all_goals simp_wf; try omega

/-- Numbers, each behind the separator but the first. -/
def seq : Utility := fun errand =>
  let (options, others) := beforeNegative errand.args
  let arguments := readOptions
    [valued 'f' ["format"], valued 's' ["separator"], flag 'w' ["equal-width"]] false options
  let operands := if arguments.operands.isEmpty then others else arguments.operands ++ others
  let separator := (arguments.values "s").getLastD "\n"
  let equalWidth := arguments.has "w"
  let numbers : Except Trouble Effort := do
    if let some fault := arguments.fault then .error (Trouble.ofFault fault)
    if operands.isEmpty then Trouble.misuse "missing operand"
    if let some extra := operands[3]? then Trouble.misuse ("extra operand " ++ quotedWord extra)
    let format? ← (arguments.values "f").getLast?.mapM NumberFormat.read
    if format?.isSome && equalWidth then
      Trouble.misuse "format string may not be specified when printing equal width strings"
    let rows (texts : List String) : Effort :=
      if texts.isEmpty then errand.finish 0 else errand.say (separator.intercalate texts ++ "\n")
    let wholes := operands.filterMap decimal?
    let isFast := !equalWidth && format?.isNone && separator.length = 1
    let count (first step last : Nat) : Nat := if last < first then 0 else (last - first) / step + 1
    match wholes.length = operands.length && isFast, wholes with
    | true, [last] => return rows (Progression.wholes 1 1 (count 1 1 last))
    | true, [first, last] => return rows (Progression.wholes first 1 (count first 1 last))
    | _, _ =>
      let (first, step, last) ←
        match operands with
        | [last] => pure (SeqOperand.one, SeqOperand.one, ← SeqOperand.read last)
        | [first, last] =>
          let first ← SeqOperand.read first
          pure (first, SeqOperand.one, ← SeqOperand.read last)
        | first :: step :: last :: _ =>
          let first ← SeqOperand.read first
          let size ← SeqOperand.read step
          if size.value.ratio?.any (·.1 = 0) then
            Trouble.misuse ("invalid Zero increment value: " ++ quotedWord step)
          pure (first, size, ← SeqOperand.read last)
        | [] => Trouble.misuse "missing operand"
      let isPast :=
        if step.value.isNegative then first.value.compare last.value = .lt
        else last.value.compare first.value = .lt
      let format := format?.getD (NumberFormat.usual equalWidth first step last)
      if isPast then return errand.finish 0
      else if !first.isFinite || !step.isFinite || !last.isFinite then return errand.hang
      else
        return rows (Progression.texts format first.value step.value last.value
          (Progression.bound first.value step.value last.value) 1 first.value)
  match numbers with
  | .ok effort => effort
  | .error trouble => errand.giveUp 1 trouble

end GoldenRun.Machine
