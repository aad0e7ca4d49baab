import GoldenRun.Machine.Numeral

/-!
# Shapes of fields

A value is written into a field of at least some width. A *shape* says how: at which end of the field, with
blanks or zeros in front, with what in place of a missing sign, and with how many digits.

* `Shape.read` reads the flags, the width and the precision of a shape.
* `Shape.pad` brings a text to the width, and `Shape.whole` a whole number.
-/

namespace GoldenRun.Machine

/-- How a value is written into a field. -/
structure Shape where
  leftAligned : Bool := false
  zeroFilled : Bool := false
  /-- What stands in front of a number that is not negative. -/
  plus : List Char := []
  /-- The form of a number is marked: its base, or the place of its fraction. -/
  marked : Bool := false
  width : Nat := 0
  /-- The least number of digits, the number of decimal places or the most characters. -/
  precision : Option Nat := none
  deriving DecidableEq, Repr

namespace Shape

/-- A character is one of these flags. -/
def isFlag (flags : String) (c : Char) : Bool :=
  flags.toList.contains c

/-- A shape with the flags of a row of them. -/
def ofFlags (flags : List Char) : Shape where
  leftAligned := flags.contains '-'
  zeroFilled := flags.contains '0'
  plus := if flags.contains '+' then ['+'] else if flags.contains ' ' then [' '] else []
  marked := flags.contains '#'

/-- The shape that a text begins with, and the rest. A point without digits makes the precision zero. -/
def read (flags : String) (cs : List Char) : Shape × List Char :=
  let given := cs.takeWhile (isFlag flags)
  let (width, rest) := leadingDigits (cs.drop given.length)
  let (precision, rest) := match rest with
    | '.' :: rest =>
      let (n, rest) := leadingDigits rest
      (some (n.getD 0), rest)
    | rest => (none, rest)
  ({ ofFlags given with width := width.getD 0, precision }, rest)

variable (shape : Shape)

/-- A text brought to the width. -/
def pad (text : List Char) : List Char :=
  let fill := List.replicate (shape.width - text.length) ' '
  if shape.leftAligned then text ++ fill else fill ++ text

/-- A sign and digits brought to the width, with zeros between them if the shape wants them. -/
def signed (sign digits : List Char) : List Char :=
  if shape.zeroFilled && !shape.leftAligned then
    sign ++ List.replicate (shape.width - digits.length - sign.length) '0' ++ digits
  else shape.pad (sign ++ digits)

/-- A whole number from its sign and its digits. A precision is the least number of digits, and zeros are
    not filled in then. -/
def whole (sign digits : List Char) : List Char :=
  match shape.precision with
  | none => shape.signed sign digits
  | some least =>
    { shape with zeroFilled := false }.signed sign
      (List.replicate (least - digits.length) '0' ++ digits)

/-- The digits of a number; a precision of zero leaves those of zero out. -/
def digits (base n : Nat) : List Char :=
  if n = 0 && shape.precision = some 0 then [] else Nat.toDigits base n

/-- A whole number in decimal digits. -/
def decimal (n : Int) : List Char :=
  shape.whole (if n < 0 then ['-'] else shape.plus) (shape.digits 10 n.natAbs)

/-- A natural number in octal digits. -/
def octal (n : Nat) : List Char :=
  let digits := shape.digits 8 n
  let enough := digits.head? = some '0' || digits.length < shape.precision.getD 0
  shape.whole [] (if shape.marked && !enough then '0' :: digits else digits)

/-- A natural number in hexadecimal digits, in upper case if `upper` is set. -/
def hexadecimal (upper : Bool) (n : Nat) : List Char :=
  let digits := shape.digits 16 n
  let sign := if shape.marked && n != 0 then ['0', if upper then 'X' else 'x'] else []
  shape.whole sign (if upper then digits.map Char.toUpper else digits)

end Shape

end GoldenRun.Machine
