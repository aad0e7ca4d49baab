/-!
# Durations

A duration is a number of whole seconds and a number of nanoseconds below a second. It is shown in two
ways, and both round by a rule of their own:

* `millis` drops the part of a millisecond;
* `inTenths` shows seconds with one decimal place. The value shown is the duration *as a binary
  floating-point number of 53 significant bits*: the seconds are rounded to such a number, the fraction
  is rounded to such a number, and so is their sum; that number is then rounded to tenths, a half going
  to the even tenth. So 0.25 s is shown as `0.2`, and 0.35 s, which lies just below as a binary number,
  as `0.3`.
-/

namespace GoldenRun

/-- A span of time. -/
structure Duration where
  /-- Whole seconds. -/
  secs : Nat
  /-- Nanoseconds below a second. -/
  nanos : Nat
  deriving DecidableEq, Repr, Inhabited

namespace Duration

/-- No time at all. -/
def zero : Duration := ⟨0, 0⟩

/-- Whole milliseconds. -/
def millis (d : Duration) : Nat :=
  d.secs * 1000 + d.nanos / 1000000

/-- The span in nanoseconds. -/
def toNanos (d : Duration) : Nat :=
  d.secs * 1000000000 + d.nanos

/-- The span of so many nanoseconds. -/
def ofNanos (n : Nat) : Duration :=
  ⟨n / 1000000000, n % 1000000000⟩

@[simp] theorem toNanos_ofNanos (n : Nat) : (ofNanos n).toNanos = n := by
  simp only [toNanos, ofNanos]
  omega

/-! ## 1. Rounding -/

/-- `n / d` to the nearest whole number, a half to the even one. -/
def roundQuotient (n d : Nat) : Nat :=
  let q := n / d
  let twice := 2 * (n % d)
  if twice < d then q else if d < twice then q + 1 else q + q % 2

/-- The quotient `n / d` times `2 ^ places`, as a quotient again. -/
def shifted (n d : Nat) (places : Int) : Nat × Nat :=
  if 0 ≤ places then (n <<< places.toNat, d) else (n, d <<< (-places).toNat)

/-- By how many places `n / d` is shifted for its whole part to have 53 bits. -/
def wholePlaces (n d : Nat) : Int :=
  -- `n / d` lies between `2 ^ (size - 1)` and `2 ^ (size + 1)`
  let size : Int := (Nat.log2 n : Int) - Nat.log2 d
  let wide := 52 - size
  if (shifted n d wide).1 < (shifted n d wide).2 <<< 52 then wide + 1 else wide

/-- The number `num / 2 ^ scale`. -/
structure Dyadic where
  num : Nat
  scale : Nat
  deriving DecidableEq, Repr

/-- The number `m / 2 ^ places`. -/
def Dyadic.ofPlaces (m : Nat) (places : Int) : Dyadic :=
  if 0 ≤ places then ⟨m, places.toNat⟩ else ⟨m <<< (-places).toNat, 0⟩

/-- `n / d` to 53 significant bits, a half to the even neighbour. The quotient is shifted so that its
    whole part has 53 bits; a quotient too large for that loses its last places instead. -/
def Dyadic.nearest (n d : Nat) : Dyadic :=
  if n = 0 then ⟨0, 0⟩
  else
    let places := wholePlaces n d
    .ofPlaces (roundQuotient (shifted n d places).1 (shifted n d places).2) places

/-- The sum, to 53 significant bits. -/
def Dyadic.plus (a b : Dyadic) : Dyadic :=
  Dyadic.nearest (a.num <<< b.scale + b.num <<< a.scale) (1 <<< (a.scale + b.scale))

/-- The span in seconds, as a binary floating-point number. -/
def seconds (d : Duration) : Dyadic :=
  (Dyadic.nearest d.secs 1).plus (Dyadic.nearest d.nanos 1000000000)

/-! ## 2. Display -/

/-- So many tenths, as a number with one decimal place. -/
def showTenths (tenths : Nat) : String :=
  toString (tenths / 10) ++ "." ++ toString (tenths % 10)

/-- Seconds with one decimal place. -/
def inTenths (d : Duration) : String :=
  showTenths (roundQuotient (d.seconds.num * 10) (1 <<< d.seconds.scale))

end Duration

end GoldenRun
