/-!
# Numerals

Natural numbers as they are written: in digits of a base, or with a beginning that tells the base.

* `leadingDigits` reads a decimal number at the beginning of a text.
* `leadingNumeral` reads a number of any base: hexadecimal behind `0x`, binary behind `0b`, octal behind `0`.
-/

namespace GoldenRun.Machine

/-- The value of a decimal digit. -/
def digit? (c : Char) : Option Nat :=
  if c.isDigit then some (c.toNat - 48) else none

/-- The value of a binary digit. -/
def bit? (c : Char) : Option Nat :=
  if c = '0' then some 0 else if c = '1' then some 1 else none

/-- The value of an octal digit. -/
def octal? (c : Char) : Option Nat :=
  if '0' ≤ c && c ≤ '7' then some (c.toNat - 48) else none

/-- The value of a hexadecimal digit. -/
def hex? (c : Char) : Option Nat :=
  if '0' ≤ c && c ≤ '9' then some (c.toNat - 48)
  else if 'a' ≤ c && c ≤ 'f' then some (c.toNat - 87)
  else if 'A' ≤ c && c ≤ 'F' then some (c.toNat - 55)
  else none

/-- At most `count` digits of the given base, behind digits of value `n`. -/
def takeDigits (digit? : Char → Option Nat) (base : Nat) :
    (count n : Nat) → List Char → Nat × List Char
  | 0, n, cs => (n, cs)
  | _ + 1, n, [] => (n, [])
  | count + 1, n, c :: cs =>
    match digit? c with
    | none => (n, c :: cs)
    | some d => takeDigits digit? base count (n * base + d) cs

/-- The number that the digits at the beginning of a text make, if there are any, and the rest. -/
def leadingDigits (cs : List Char) : Option Nat × List Char :=
  let digits := cs.takeWhile Char.isDigit
  (if digits.isEmpty then none
    else some (digits.foldl (fun n c => n * 10 + (c.toNat - 48)) 0), cs.drop digits.length)

/-- The number at the beginning of a text, if there is one, and the rest. A beginning that tells the base
    counts only if a digit follows it. -/
def leadingNumeral (cs : List Char) : Option Nat × List Char :=
  let octal (rest : List Char) : Option Nat × List Char :=
    let (n, rest) := takeDigits octal? 8 rest.length 0 rest
    (some n, rest)
  let based (digit? : Char → Option Nat) (base : Nat) (digits : List Char) : Option Nat × List Char :=
    let (n, rest) := takeDigits digit? base digits.length 0 digits
    (some n, rest)
  match cs with
  | '0' :: letter :: d :: rest =>
    if letter.toLower = 'x' && (hex? d).isSome then based hex? 16 (d :: rest)
    else if letter.toLower = 'b' && (bit? d).isSome then based bit? 2 (d :: rest)
    else octal (letter :: d :: rest)
  | '0' :: rest => octal rest
  | cs => leadingDigits cs

end GoldenRun.Machine
