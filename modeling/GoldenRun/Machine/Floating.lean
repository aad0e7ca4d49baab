import GoldenRun.Machine.Shape

/-!
# Floating-point numbers

A number is kept as a whole number times a power of two, and everything is reckoned with whole numbers, so
that nothing is lost but by rounding. To round is to take the nearest number of the wanted form, and of two
that are equally near the even one.

* A *precision* says which numbers there are; `Floating.ofRatio` rounds a quotient to one of them.
* `Floating.read?` reads a number at the beginning of a text: decimal or hexadecimal, infinite or
  undefined.
* `Shape.fixed`, `Shape.scientific`, `Shape.general` and `Shape.binary` write a number into a field.
-/

namespace GoldenRun.Machine

/-! ## 1. Numbers -/

/-- The numbers that there are: multiples of a power of two, with so many significant bits. -/
structure Precision where
  bits : Nat
  /-- The exponent of the finest power of two. -/
  finest : Int
  /-- The exponent of the power of two that is too large. -/
  limit : Int
  deriving DecidableEq, Repr

/-- Numbers of 32 bits. -/
def Precision.single : Precision := ⟨24, -149, 128⟩

/-- Numbers of 64 bits. -/
def Precision.double : Precision := ⟨53, -1074, 1024⟩

/-- Numbers of 80 bits. -/
def Precision.extended : Precision := ⟨64, -16445, 16384⟩

/-- A floating-point number. -/
inductive Floating where
  /-- A significand times two to an exponent. -/
  | finite (negative : Bool) (significand : Nat) (exponent : Int)
  | infinite (negative : Bool)
  | undefined (negative : Bool)
  deriving DecidableEq, Repr, Inhabited

/-- The quotient rounded to the nearest whole number, and to the even one of two. -/
def roundDiv (num den : Nat) : Nat :=
  let q := num / den
  let r := num % den
  if den < 2 * r || (2 * r = den && q % 2 = 1) then q + 1 else q

/-- A quotient times a power of the base, as a quotient. -/
def scaleRatio (base : Nat) (exponent : Int) (num den : Nat) : Nat × Nat :=
  match exponent with
  | .ofNat n => (num * Nat.pow base n, den)
  | .negSucc n => (num, den * Nat.pow base (n + 1))

/-- The exponent of the greatest power of two that a quotient, which is not zero, reaches. -/
def binaryOrder (num den : Nat) : Int :=
  let guess : Int := (Nat.log2 num : Int) - (Nat.log2 den : Int)
  let (num, den) := scaleRatio 2 (-guess) num den
  if num < den then guess - 1 else guess

/-- The least `k` from a start on such that the quotient times ten to `k` reaches one. `fuel` bounds the
    search. -/
def firstReaching (num den : Nat) : (fuel : Nat) → (start : Int) → Int
  | 0, k => k
  | fuel + 1, k =>
    let (n, d) := scaleRatio 10 k num den
    if d ≤ n then k else firstReaching num den fuel (k + 1)

/-- The exponent of the greatest power of ten that a quotient, which is not zero, reaches. -/
def decimalOrder (num den : Nat) : Int :=
  -firstReaching num den 8 (Int.fdiv (-(binaryOrder num den + 1) * 30103) 100000 - 2)

namespace Floating

/-- The number zero. -/
def zero : Floating := .finite false 0 0

/-- The sign is a minus. -/
def isNegative : Floating → Bool
  | .finite negative _ _ | .infinite negative | .undefined negative => negative

/-- A finite number without its sign, as a quotient. -/
def ratio? : Floating → Option (Nat × Nat)
  | .finite _ significand exponent => some (scaleRatio 2 exponent significand 1)
  | _ => none

/-- The number of a precision that is nearest to a quotient, and whether the quotient is out of range. -/
def ofRatio (precision : Precision) (negative : Bool) (num den : Nat) : Floating × Bool :=
  if num = 0 then (.finite negative 0 precision.finest, false)
  else
    let exponent := max precision.finest (binaryOrder num den - precision.bits + 1)
    let (n, d) := scaleRatio 2 (-exponent) num den
    let significand := roundDiv n d
    let full := Nat.pow 2 precision.bits
    let (significand, exponent) :=
      if significand = full then (full / 2, exponent + 1) else (significand, exponent)
    if precision.limit < exponent + precision.bits then (.infinite negative, true)
    else
      let isTiny := significand < full / 2
      (.finite negative significand exponent, isTiny && n % d != 0)

/-- A whole number. -/
def ofInt (precision : Precision) (n : Int) : Floating :=
  (ofRatio precision (n < 0) n.natAbs 1).1

/-- A finite number as a whole number of units. -/
def units (unit : Int) (negative : Bool) (significand : Nat) (exponent : Int) : Int :=
  let n : Int := significand * Nat.pow 2 (exponent - unit).toNat
  if negative then -n else n

/-- The order of numbers, with the undefined ones in front; both zeros are the same. -/
def compare (a b : Floating) : Ordering :=
  match a, b with
  | .undefined _, .undefined _ => .eq
  | .undefined _, _ => .lt
  | _, .undefined _ => .gt
  | .infinite x, .infinite y => if x = y then .eq else if x then .lt else .gt
  | .infinite x, _ => if x then .lt else .gt
  | _, .infinite y => if y then .gt else .lt
  | .finite x m p, .finite y n q =>
    let least := min p q
    Ord.compare (units least x m p) (units least y n q)

/-- The sum of two numbers. -/
def add (precision : Precision) (a b : Floating) : Floating :=
  match a, b with
  | .undefined x, _ | _, .undefined x => .undefined x
  | .infinite x, .infinite y => if x = y then .infinite x else .undefined true
  | .infinite x, _ | _, .infinite x => .infinite x
  | .finite x m p, .finite y n q =>
    let least := min p q
    let sum := units least x m p + units least y n q
    let negative := if sum = 0 then x && y else sum < 0
    let (num, den) := scaleRatio 2 least sum.natAbs 1
    (ofRatio precision negative num den).1

/-- The product of two numbers. -/
def mul (precision : Precision) (a b : Floating) : Floating :=
  let negative := a.isNegative != b.isNegative
  match a, b with
  | .undefined x, _ | _, .undefined x => .undefined x
  | .infinite _, .finite _ 0 _ | .finite _ 0 _, .infinite _ => .undefined true
  | .infinite _, _ | _, .infinite _ => .infinite negative
  | .finite _ m p, .finite _ n q =>
    let (num, den) := scaleRatio 2 (p + q) (m * n) 1
    (ofRatio precision negative num den).1

/-! ## 2. Reading -/

/-- The powers of ten beyond which everything is too large or too small. -/
def extremeOrder : Int := 20000

/-- Digits with an optional point among them: their value without the point, how many there are behind the
    point and in all, and what follows. -/
def readDigits (isDigit : Char → Bool) (value : Char → Nat) (base : Nat) (cs : List Char) :
    Nat × Nat × Nat × List Char :=
  let reckon (cs : List Char) (n : Nat) := cs.foldl (fun n c => n * base + value c) n
  let whole := cs.takeWhile isDigit
  match cs.drop whole.length with
  | '.' :: rest =>
    let places := rest.takeWhile isDigit
    if whole.isEmpty && places.isEmpty then (0, 0, 0, cs)
    else
      (reckon places (reckon whole 0), places.length, whole.length + places.length,
        rest.drop places.length)
  | rest => (reckon whole 0, 0, whole.length, rest)

/-- An exponent behind one of the given letters, and what follows; without digits it is none. -/
def readExponent (letters : List Char) (cs : List Char) : Int × List Char :=
  match cs with
  | letter :: rest =>
    if letters.contains letter then
      let (negative, digits) : Bool × List Char :=
        match rest with
        | '-' :: rest => (true, rest)
        | '+' :: rest => (false, rest)
        | rest => (false, rest)
      match leadingDigits digits with
      | (some n, rest) => (if negative then -(n : Int) else n, rest)
      | (none, _) => (0, cs)
    else (0, cs)
  | [] => (0, [])

/-- The value of a hexadecimal digit. -/
def nibble (c : Char) : Nat :=
  if c.isDigit then c.toNat - 48 else c.toLower.toNat - 87

/-- A hexadecimal digit. -/
def isNibble (c : Char) : Bool :=
  c.isDigit || ('a' ≤ c.toLower && c.toLower ≤ 'f')

/-- A text without a beginning that is given in lower case. -/
def afterWord? (word : String) (cs : List Char) : Option (List Char) :=
  if word.toList.isPrefixOf (cs.map Char.toLower) then some (cs.drop word.length) else none

/-- What follows the letters and digits in brackets behind an undefined number. -/
def afterPayload (cs : List Char) : List Char :=
  match cs with
  | '(' :: rest =>
    let payload := rest.takeWhile fun c => c.isAlphanum || c = '_'
    match rest.drop payload.length with
    | ')' :: behind => behind
    | _ => cs
  | _ => cs

/-- A number without a sign at the beginning of a text, whether it is out of range, and what follows. -/
def readMagnitude? (precision : Precision) (negative : Bool) (cs : List Char) :
    Option (Floating × Bool × List Char) :=
  match afterWord? "infinity" cs <|> afterWord? "inf" cs, afterWord? "nan" cs, cs with
  | some rest, _, _ => some (.infinite negative, false, rest)
  | none, some rest, _ => some (.undefined negative, false, afterPayload rest)
  | none, none, cs =>
    let hexadecimal? :=
      match cs with
      | '0' :: x :: rest =>
        if x = 'x' || x = 'X' then
          let (n, places, count, rest) := readDigits isNibble nibble 16 rest
          if count = 0 then none
          else
            let (exponent, rest) := readExponent ['p', 'P'] rest
            some (n, exponent - 4 * (places : Int), rest)
        else none
      | _ => none
    match hexadecimal? with
    | some (n, exponent, rest) =>
      let order : Int := (Nat.log2 n : Int) + exponent
      if n != 0 && extremeOrder < order then some (.infinite negative, true, rest)
      else if n = 0 || order < -extremeOrder then
        some (.finite negative 0 precision.finest, n != 0, rest)
      else
        let (num, den) := scaleRatio 2 exponent n 1
        let (number, outside) := ofRatio precision negative num den
        some (number, outside, rest)
    | none =>
      let (n, places, count, rest) :=
        readDigits Char.isDigit (fun c => c.toNat - 48) 10 cs
      if count = 0 then none
      else
        let (exponent, rest) := readExponent ['e', 'E'] rest
        let exponent := exponent - (places : Int)
        let order : Int := (Nat.toDigits 10 n).length + exponent
        if n != 0 && extremeOrder < order then some (.infinite negative, true, rest)
        else if n = 0 || order < -extremeOrder then
          some (.finite negative 0 precision.finest, n != 0, rest)
        else
          let (num, den) := scaleRatio 10 exponent n 1
          let (number, outside) := ofRatio precision negative num den
          some (number, outside, rest)

/-- The number at the beginning of a text, behind blanks and a sign; whether it is out of range; and what
    follows it. -/
def read? (precision : Precision) (cs : List Char) : Option (Floating × Bool × List Char) :=
  match cs.dropWhile fun c => c = ' ' || (9 ≤ c.toNat && c.toNat ≤ 13) with
  | '-' :: rest => readMagnitude? precision true rest
  | '+' :: rest => readMagnitude? precision false rest
  | rest => readMagnitude? precision false rest

end Floating

/-! ## 3. Writing -/

/-- The digits of a number with zeros in front up to a count. -/
def paddedDigits (count n : Nat) : List Char :=
  let digits := Nat.toDigits 10 n
  List.replicate (count - digits.length) '0' ++ digits

/-- The digits of a quotient with so many decimal places, with a point if there are any or it is
    marked. -/
def fixedText (marked : Bool) (places num den : Nat) : List Char :=
  let digits := paddedDigits (places + 1) (roundDiv (num * Nat.pow 10 places) den)
  let whole := digits.take (digits.length - places)
  if places = 0 && !marked then whole else whole ++ '.' :: digits.drop whole.length

/-- The digits of a quotient, so many behind the first one, and the exponent of the first one. -/
def significantDigits (places num den : Nat) : List Char × Int :=
  if num = 0 then (List.replicate (places + 1) '0', 0)
  else
    let order := decimalOrder num den
    let (n, d) := scaleRatio 10 ((places : Int) - order) num den
    let digits := Nat.toDigits 10 (roundDiv n d)
    if digits.length = places + 2 then (digits.dropLast, order + 1) else (digits, order)

/-- A digit, a point and digits, the point only if digits follow it or it is marked. -/
def pointed (marked : Bool) : List Char → List Char
  | [] => []
  | first :: rest => if rest.isEmpty && !marked then [first] else first :: '.' :: rest

/-- An exponent with its sign and at least two digits. -/
def exponentText (letter : Char) (exponent : Int) : List Char :=
  letter :: (if exponent < 0 then '-' else '+') :: paddedDigits 2 exponent.natAbs

/-- A text without the zeros at its end, and without the point in front of them. -/
def withoutZeros (text : List Char) : List Char :=
  if text.contains '.' then
    let rest := text.reverse.dropWhile (· = '0')
    (if rest.head? = some '.' then rest.drop 1 else rest).reverse
  else text

/-- A quotient in the shorter of both forms, with so many significant digits at most. -/
def generalText (marked : Bool) (letter : Char) (significant num den : Nat) : List Char :=
  let (digits, exponent) := significantDigits (significant - 1) num den
  let tidy (text : List Char) := if marked then text else withoutZeros text
  if -4 ≤ exponent && exponent < significant then
    tidy (fixedText marked ((significant : Int) - 1 - exponent).toNat num den)
  else tidy (pointed marked digits) ++ exponentText letter exponent

/-- A significand of so many bits and its exponent, in hexadecimal digits: all that are needed, or so many
    behind the first one. -/
def hexadecimalText (marked : Bool) (places : Option Nat) (bits significand : Nat) (exponent : Int) :
    List Char × Int :=
  let below := (bits - 1) / 4
  let all := 4 * below
  let unit := Nat.pow 16 below
  let digits (count n : Nat) : List Char :=
    let digits := Nat.toDigits 16 n
    List.replicate (count + 1 - digits.length) '0' ++ digits
  let text (cs : List Char) : List Char := pointed marked cs
  match places with
  | none =>
    let cs := digits below significand
    (text (cs.take 1 ++ ((cs.drop 1).reverse.dropWhile (· = '0')).reverse), exponent + all)
  | some count =>
    if below ≤ count then
      (text (digits below significand ++ List.replicate (count - below) '0'), exponent + all)
    else
      let n := roundDiv significand (unit / Nat.pow 16 count)
      if n < Nat.pow 16 (count + 1) then (text (digits count n), exponent + all)
      else (text (digits count (n / 16)), exponent + all + 4)

namespace Shape

variable (shape : Shape)

/-- A number in a field, the digits of a finite one being written by `digits`, with a mark in front of
    them. -/
def floating (upper : Bool) (mark : List Char) (digits : Floating → List Char) (number : Floating) :
    List Char :=
  let sign := if number.isNegative then ['-'] else shape.plus
  let cased (text : List Char) := if upper then text.map Char.toUpper else text
  match number with
  | .finite .. => shape.signed (sign ++ mark) (cased (digits number))
  | .infinite _ => shape.pad (sign ++ cased ['i', 'n', 'f'])
  | .undefined _ => shape.pad (sign ++ cased ['n', 'a', 'n'])

/-- A number with decimal places. -/
def fixed (upper : Bool) : Floating → List Char :=
  shape.floating upper [] fun number =>
    let (num, den) := number.ratio?.getD (0, 1)
    fixedText shape.marked (shape.precision.getD 6) num den

/-- A number with an exponent. -/
def scientific (upper : Bool) : Floating → List Char :=
  shape.floating upper [] fun number =>
    let (num, den) := number.ratio?.getD (0, 1)
    let (digits, exponent) := significantDigits (shape.precision.getD 6) num den
    pointed shape.marked digits ++ exponentText 'e' exponent

/-- A number with or without an exponent. -/
def general (upper : Bool) : Floating → List Char :=
  shape.floating upper [] fun number =>
    let (num, den) := number.ratio?.getD (0, 1)
    generalText shape.marked 'e' (max 1 (shape.precision.getD 6)) num den

/-- A number of a precision in hexadecimal digits, with an exponent of two. -/
def binary (precision : Precision) (upper : Bool) : Floating → List Char :=
  shape.floating upper ['0', if upper then 'X' else 'x'] fun number =>
    match number with
    | .finite _ 0 _ =>
      pointed shape.marked ('0' :: List.replicate (shape.precision.getD 0) '0') ++ ['p', '+', '0']
    | .finite _ significand exponent =>
      let (digits, exponent) :=
        hexadecimalText shape.marked shape.precision precision.bits significand exponent
      digits ++ 'p' :: (if exponent < 0 then '-' else '+') :: Nat.toDigits 10 exponent.natAbs
    | _ => []

end Shape

end GoldenRun.Machine
