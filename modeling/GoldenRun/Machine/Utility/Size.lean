import GoldenRun.Machine.Numeral

/-!
# Numbers with units

Many utilities take a number with a unit behind it: `k` for 1024, `kB` for 1000, `kiB` for 1024 again, and
so on with larger powers; `b` stands for 512 and `w` for 2.

* `Size.read?` reads such a number. Which units there are depends on the utility; a `0` among them allows
  the forms of several letters.
-/

namespace GoldenRun.Machine

namespace Size

/-- The power that a unit stands for. -/
def power? : Char → Option Nat
  | 'k' | 'K' => some 1
  | 'm' | 'M' => some 2
  | 'g' | 'G' => some 3
  | 't' | 'T' => some 4
  | 'P' => some 5
  | 'E' => some 6
  | 'Z' => some 7
  | 'Y' => some 8
  | 'R' => some 9
  | 'Q' => some 10
  | _ => none

/-- The factor of a unit at the beginning of a text, and what follows the unit. -/
def unit? (compound : Bool) : List Char → Option (Nat × List Char)
  | 'b' :: rest => some (512, rest)
  | 'B' :: rest => some (1024, rest)
  | 'c' :: rest => some (1, rest)
  | 'w' :: rest => some (2, rest)
  | c :: rest =>
    (power? c).map fun n =>
      match compound, rest with
      | true, 'i' :: 'B' :: rest => (Nat.pow 1024 n, rest)
      | true, 'B' :: rest | true, 'D' :: rest => (Nat.pow 1000 n, rest)
      | _, rest => (Nat.pow 1024 n, rest)
  | [] => none

/-- A character in front of a number that does not count. -/
def isIndent (c : Char) : Bool :=
  c = ' ' || (9 ≤ c.toNat && c.toNat ≤ 13)

/-- The number at the beginning of a text, if there is one, and what follows it. With `prefixed`, its
    beginning may tell its base. -/
def number (prefixed : Bool) (cs : List Char) : Option Nat × List Char :=
  if prefixed then leadingNumeral cs else leadingDigits cs

/-- The number with a unit that a text begins with, and what follows it. A unit alone counts once. A
    number with a minus sign is none. -/
def read? (prefixed : Bool) (units : String) (cs : List Char) : Option (Nat × List Char) :=
  let cs := cs.dropWhile isIndent
  let cs := if cs.head? = some '+' then cs.drop 1 else cs
  let hasUnit (rest : List Char) : Bool := rest.head?.any fun c => c != '0' && units.toList.contains c
  let scaled (n : Nat) (rest : List Char) : Nat × List Char :=
    match if hasUnit rest then unit? (units.toList.contains '0') rest else none with
    | some (factor, rest) => (n * factor, rest)
    | none => (n, rest)
  match number prefixed cs with
  | (some n, rest) => some (scaled n rest)
  | (none, _) => if hasUnit cs then some (scaled 1 cs) else none

/-- The number with a unit that a text is. -/
def ofText? (prefixed : Bool) (units : String) (text : String) : Option Nat :=
  match read? prefixed units text.toList with
  | some (n, []) => some n
  | _ => none

end Size

end GoldenRun.Machine
