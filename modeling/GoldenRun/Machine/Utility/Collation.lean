import GoldenRun.Machine.Floating
import GoldenRun.Machine.Utility.Basic

/-!
# Orders of texts

Ways to compare two texts besides byte by byte.

* `Collation.numeric`: by the decimal number that the text begins with.
* `Collation.general`: by the floating-point number that it begins with.
* `Collation.sizes`: by a number with a unit, the unit first.
* `Collation.months`: by the name of a month.
* `Collation.versions`: digits among other characters as numbers.
-/

namespace GoldenRun.Machine

namespace Collation

/-- A blank, which divides fields. -/
def isGap (b : UInt8) : Bool := b = 0x20 || b = 0x09 || b = 0x0A

/-- An ASCII digit. -/
def isDigit (b : UInt8) : Bool := 0x30 ≤ b && b ≤ 0x39

/-- An ASCII letter. -/
def isLetter (b : UInt8) : Bool := (0x41 ≤ b && b ≤ 0x5A) || (0x61 ≤ b && b ≤ 0x7A)

/-- The upper-case form of a byte. -/
def raised (b : UInt8) : UInt8 := if 0x61 ≤ b && b ≤ 0x7A then b - 32 else b

/-- The value of digits. -/
def valueOf (digits : Bytes) : Nat :=
  digits.foldl (fun n b => n * 10 + (b.toNat - 48)) 0

/-- Byte by byte, a beginning in front of what it begins. -/
def bytes (a b : Bytes) : Ordering :=
  if a = b then .eq else if Bytes.before a b then .lt else .gt

/-! ## 1. Numbers -/

/-- The decimal number at the beginning of a text behind blanks: whether it is negative, its digits in front
    of the point and behind it, and what follows. -/
def leadingDecimal (text : Bytes) : Bool × Bytes × Bytes × Bytes :=
  let text := text.dropWhile isGap
  let negative := text.head? = some 0x2D
  let text := if negative then text.drop 1 else text
  let whole := text.takeWhile isDigit
  let rest := text.drop whole.length
  if rest.head? = some 0x2E then
    let places := (rest.drop 1).takeWhile isDigit
    (negative, whole, places, rest.drop (places.length + 1))
  else (negative, whole, [], rest)

/-- Two texts by the decimal numbers at their beginnings; a text without one counts as zero. -/
def numeric (a b : Bytes) : Ordering :=
  let (negativeA, wholeA, placesA, _) := leadingDecimal a
  let (negativeB, wholeB, placesB, _) := leadingDecimal b
  let places := max placesA.length placesB.length
  let size (negative : Bool) (whole digits : Bytes) : Int :=
    let n : Int := valueOf (whole ++ digits) * Nat.pow 10 (places - digits.length)
    if negative then -n else n
  compare (size negativeA wholeA placesA) (size negativeB wholeB placesB)

/-- The power of a unit. -/
def unitPower : UInt8 → Nat
  | 0x4B | 0x6B => 1
  | 0x4D => 2
  | 0x47 => 3
  | 0x54 => 4
  | 0x50 => 5
  | 0x45 => 6
  | 0x5A => 7
  | 0x59 => 8
  | 0x52 => 9
  | 0x51 => 10
  | _ => 0

/-- The power of the unit behind a number, negative for a negative number and zero for zero. -/
def unitOrder (text : Bytes) : Int :=
  let (negative, whole, places, rest) := leadingDecimal text
  if valueOf (whole ++ places) = 0 then 0
  else
    let power : Int := unitPower (rest.headD 0)
    if negative then -power else power

/-- Two texts by numbers with units. -/
def sizes (a b : Bytes) : Ordering :=
  (compare (unitOrder a) (unitOrder b)).then (numeric a b)

/-- Two texts by the floating-point numbers at their beginnings; texts without one come first, and then what
    is no number. -/
def general (a b : Bytes) : Ordering :=
  let read (text : Bytes) : Option Floating :=
    (Floating.read? .extended (text.map ByteText.charOf)).map Prod.fst
  match read a, read b with
  | none, none => .eq
  | none, some _ => .lt
  | some _, none => .gt
  | some (.undefined x), some (.undefined y) => if x = y then .eq else if x then .lt else .gt
  | some x, some y => x.compare y

/-! ## 2. Months -/

/-- The number of the month whose name a text begins with behind blanks, or zero. -/
def month (text : Bytes) : Nat :=
  let name := ((text.dropWhile isGap).take 3).map fun b => ByteText.charOf (raised b)
  (["JAN", "FEB", "MAR", "APR", "MAY", "JUN", "JUL", "AUG", "SEP", "OCT", "NOV", "DEC"].findIdx?
    (·.toList == name)).elim 0 (· + 1)

/-- Two texts by months. -/
def months (a b : Bytes) : Ordering := compare (month a) (month b)

/-! ## 3. Versions -/

/-- The place of a byte among those that are no digits: the end of the text behind a tilde and in front of
    all others, and letters in front of the rest. -/
def versionRank : Option UInt8 → Int
  | none => -1
  | some b =>
    if isDigit b then 0
    else if isLetter b then b.toNat
    else if b = 0x7E then -2
    else b.toNat + 256

/-- Two texts with stretches of digits compared as numbers. `fuel` covers both texts. -/
def stretches : (fuel : Nat) → Bytes → Bytes → Ordering
  | 0, _, _ => .eq
  | fuel + 1, a, b =>
    let hasMark (text : Bytes) : Bool := text.head?.any fun b => !isDigit b
    if a.isEmpty && b.isEmpty then .eq
    else if hasMark a || hasMark b then
      (compare (versionRank a.head?) (versionRank b.head?)).then
        (stretches fuel (a.drop 1) (b.drop 1))
    else
      let x := a.takeWhile isDigit
      let y := b.takeWhile isDigit
      (compare (valueOf x) (valueOf y)).then (stretches fuel (a.drop x.length) (b.drop y.length))

/-- How much of a text behind a point belongs to an ending: a letter or tilde, and then letters, digits and
    tildes. Zero if it is no ending. -/
def endingLength (text : Bytes) : Nat :=
  match text with
  | 0x2E :: b :: rest =>
    if isLetter b || b = 0x7E then
      2 + (rest.takeWhile fun b => isLetter b || isDigit b || b = 0x7E).length
    else 0
  | _ => 0

/-- A text consists of endings. `fuel` covers it. -/
def isEndings : (fuel : Nat) → Bytes → Bool
  | _, [] => true
  | 0, _ => false
  | fuel + 1, text =>
    let n := endingLength text
    n != 0 && isEndings fuel (text.drop n)

/-- A name without the endings behind its first byte. -/
def stem (name : Bytes) : Bytes :=
  match (List.range name.length).find? fun i => 0 < i && isEndings name.length (name.drop i) with
  | some i => name.take i
  | none => name

/-- Two names by their versions: empty ones first, then `.`, `..` and others with a leading point. Endings
    count only where the stems are equal. -/
def versions (a b : Bytes) : Ordering :=
  let rank (name : Bytes) : Nat :=
    if name.isEmpty then 0
    else if name = [0x2E] then 1
    else if name = [0x2E, 0x2E] then 2
    else if name.head? = some 0x2E then 3
    else 4
  let fuel := a.length + b.length + 1
  if rank a != rank b || rank a < 3 then compare (rank a) (rank b)
  else (stretches fuel (stem a) (stem b)).then (stretches fuel a b)

end Collation

end GoldenRun.Machine
