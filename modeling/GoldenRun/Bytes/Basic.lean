/-!
# Byte strings

File names, paths, program arguments and file contents are byte strings: the operating system
promises nothing about their encoding. This file holds what is needed of them everywhere:

* `Bytes`, a list of bytes, so that every statement about paths is a statement about lists;
* `utf8`, the encoding of a text, which is how a literal of this library becomes a byte string;
* `Bytes.before`, the strict order of names in a directory: byte by byte, a proper beginning first.
-/

namespace GoldenRun

/-- A byte string. -/
abbrev Bytes := List UInt8

/-- The UTF-8 encoding of a text, character by character. -/
def utf8 (text : String) : Bytes :=
  text.toList.flatMap String.utf8EncodeChar

/-- Encoding respects concatenation. -/
theorem utf8_append (a b : String) : utf8 (a ++ b) = utf8 a ++ utf8 b := by
  simp [utf8]

@[simp] theorem utf8_empty : utf8 "" = [] := by
  simp [utf8]

namespace Bytes

/-- `a` comes strictly before `b`: at the first difference the smaller byte, and a proper beginning
    before what it begins. -/
def before : Bytes → Bytes → Bool
  | [], [] => false
  | [], _ :: _ => true
  | _ :: _, [] => false
  | a :: as, b :: bs => if a = b then before as bs else a < b

/-- The order of names in a sorted listing: equal, or strictly before. -/
def atMost (a b : Bytes) : Bool :=
  !before b a

/-- `before` is the lexicographic order of lists. -/
theorem before_iff_lt (a b : Bytes) : before a b = true ↔ a < b := by
  fun_induction before a b with
  | case1 => simp
  | case2 => simp
  | case3 => simp
  | case4 a as bs ih =>
      rw [ih, List.cons_lt_cons_iff]
      simp
  | case5 a as b bs h =>
      rw [List.cons_lt_cons_iff]
      simp [h]

/-- `atMost` is its reflexive closure. -/
theorem atMost_iff_le (a b : Bytes) : atMost a b = true ↔ a ≤ b := by
  rw [← List.not_lt, ← before_iff_lt, atMost, Bool.not_eq_true', Bool.not_eq_true]

end Bytes

end GoldenRun
