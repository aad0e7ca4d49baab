import GoldenRun.Split

/-!
# Blanks and words

* `isBlank` is the Unicode property White_Space: 25 characters, and no others. U+200B, U+FEFF and the
  separators U+001C to U+001F are not among them.
* `words` are the stretches without a blank, empty ones left out. There are no quotes and no escapes:
  a command string is cut at its blanks and nowhere else.
-/

namespace GoldenRun.Text

/-- The White_Space property. -/
def isBlank (c : Char) : Bool :=
  let n := c.toNat
  (9 ≤ n && n ≤ 13) || n == 0x20 || n == 0x85 || n == 0xA0 || n == 0x1680 ||
    (0x2000 ≤ n && n ≤ 0x200A) || n == 0x2028 || n == 0x2029 || n == 0x202F || n == 0x205F ||
    n == 0x3000

/-- The blank-free stretches of a list of characters, in order. -/
def wordsOf (chars : List Char) : List (List Char) :=
  (cut isBlank chars).filter (!·.isEmpty)

/-- The words of a text. -/
def words (text : String) : List String :=
  (wordsOf text.toList).map String.ofList

/-- A text of blanks only; the empty text is one. -/
def isBlankOnly (text : String) : Bool :=
  text.toList.all isBlank

/-- A text has no word exactly when it is blank. -/
theorem wordsOf_eq_nil_iff (chars : List Char) : wordsOf chars = [] ↔ chars.all isBlank := by
  induction chars with
  | nil => simp [wordsOf]
  | cons c chars ih =>
    cases hc : isBlank c with
    | true =>
      rw [wordsOf, cut_cons_of_pos hc]
      simpa [wordsOf, hc] using ih
    | false =>
      obtain ⟨piece, pieces, _, h₂⟩ := cut_cons_of_neg hc chars
      rw [wordsOf, h₂]
      simp [hc]

end GoldenRun.Text
