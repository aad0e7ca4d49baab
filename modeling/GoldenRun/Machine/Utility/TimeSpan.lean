import GoldenRun.Machine.Floating

/-!
# Spans of time

A span of time is a number with an optional unit: seconds, minutes, hours or days. It may have a fraction, and it
may have no end.
-/

namespace GoldenRun.Machine

/-- The number of seconds in a unit of time. -/
def secondsIn? : List Char → Option Nat
  | [] | ['s'] => some 1
  | ['m'] => some 60
  | ['h'] => some 3600
  | ['d'] => some 86400
  | _ => none

/-- Nanoseconds of a time with an optional unit: seconds, minutes, hours or days; `none` inside stands for a
    time without end. -/
def readTime? (text : String) : Option (Option Nat) :=
  match Floating.read? .double text.toList with
  | none => none
  | some (number, _, rest) =>
    match number, secondsIn? rest with
    | .infinite false, some _ => some none
    | .finite negative significand exponent, some seconds =>
      if negative && significand != 0 then none
      else
        let (num, den) := scaleRatio 2 exponent (significand * seconds * Nat.pow 10 9) 1
        some (some ((num + den - 1) / den))
    | _, _ => none

end GoldenRun.Machine
