import GoldenRun.Proofs.Bytes.Encoding
import GoldenRun.Split

/-!
# Texts of lines

A text is often a list of lines, each with a line feed behind it. Its encoding has the same lines: no other
character has the byte of a line feed in its encoding.

* `OneLine`: a text without a line feed, so that it fits on one line;
* `Bytes.lined`: the encoding of lines;
* `Bytes.lines`: the lines of a byte string, and what is behind its last line feed.

Main statements: `Bytes.lines_lined`, lines are read back as they were written; `Bytes.lined_injective`, so
different lines have different encodings.
-/

namespace GoldenRun

/-! ## 1. Encodings -/

/-- A byte below 0x80 in an encoding is a character of its own. -/
theorem eq_of_mem_utf8EncodeChar {b : UInt8} (hb : b.toNat < 128) {c : Char}
    (h : b ∈ String.utf8EncodeChar c) : c.toNat = b.toNat := by
  have hcontinuation : ∀ k, b ≠ Bytes.continuation k := by
    rintro k rfl
    rw [Bytes.toNat_continuation] at hb
    omega
  have hlead : ∀ n, 128 ≤ n → n < 256 → b ≠ UInt8.ofNat n := by
    rintro n hlow hhigh rfl
    rw [UInt8.toNat_ofNat_of_lt' hhigh] at hb
    omega
  rw [Bytes.utf8EncodeChar_eq] at h
  split at h
  · rw [List.mem_singleton.1 h, UInt8.toNat_ofNat_of_lt' (show c.toNat < 256 by omega)]
  split at h
  · rcases List.mem_cons.1 h with h | h
    · exact absurd h (hlead _ (by omega) (by omega))
    · exact absurd (List.mem_singleton.1 h) (hcontinuation _)
  split at h
  · rcases List.mem_cons.1 h with h | h
    · exact absurd h (hlead _ (by omega) (by omega))
    · simp [hcontinuation] at h
  · rcases List.mem_cons.1 h with h | h
    · exact absurd h (hlead _ (by omega) (by omega))
    · simp [hcontinuation] at h

/-- Different texts have different encodings. -/
theorem utf8_injective {a b : String} (h : utf8 a = utf8 b) : a = b := by
  have hdecoded := congrArg Bytes.decode? h
  rwa [Bytes.decode?_utf8, Bytes.decode?_utf8, Option.some.injEq] at hdecoded

/-- A seven-bit character that is not in a text is not in its encoding. -/
theorem not_mem_utf8 {c : Char} (hc : c.toNat < 128) {text : String} (h : c ∉ text.toList) :
    UInt8.ofNat c.toNat ∉ utf8 text := by
  intro hmem
  obtain ⟨d, hd, hbyte⟩ := List.mem_flatMap.1 hmem
  have hnat : (UInt8.ofNat c.toNat).toNat = c.toNat :=
    UInt8.toNat_ofNat_of_lt' (show c.toNat < 256 by omega)
  have hnumber := eq_of_mem_utf8EncodeChar (hnat.symm ▸ hc) hbyte
  have hchar : d = c := by rw [← Char.ofNat_toNat d, hnumber, hnat, Char.ofNat_toNat]
  exact h (hchar ▸ hd)

/-! ## 2. Texts on one line -/

theorem not_mem_toList_append {c : Char} {a b : String} (ha : c ∉ a.toList) (hb : c ∉ b.toList) :
    c ∉ (a ++ b).toList := by
  rw [String.toList_append, List.mem_append, not_or]
  exact ⟨ha, hb⟩

/-- A number is written with digits only. -/
theorem not_mem_toList_toString {c : Char} (hc : c.isDigit = false) (n : Nat) :
    c ∉ (toString n).toList := by
  intro h
  have hdigit := Nat.isDigit_of_mem_toDigits (by decide) (by decide) (Nat.toList_repr ▸ h)
  rw [hc] at hdigit
  cases hdigit

/-- The text has no line feed in it. -/
def OneLine (text : String) : Prop :=
  '\n' ∉ text.toList

instance (text : String) : Decidable (OneLine text) :=
  inferInstanceAs (Decidable (¬ _))

theorem OneLine.append {a b : String} (ha : OneLine a) (hb : OneLine b) : OneLine (a ++ b) :=
  not_mem_toList_append ha hb

/-- A number is written on one line. -/
theorem oneLine_toString (n : Nat) : OneLine (toString n) :=
  not_mem_toList_toString (by decide) n

namespace Bytes

/-! ## 3. Lines -/

/-- The byte of a line feed. -/
def lineFeed : UInt8 := 0x0A

/-- Lines, each encoded and with a line feed behind it. -/
def lined (lines : List String) : Bytes :=
  lines.flatMap fun line => utf8 line ++ [lineFeed]

/-- The stretches of a byte string between its line feeds. -/
def lines (bytes : Bytes) : List Bytes :=
  cut (· == lineFeed) bytes

theorem utf8_lineFeed : utf8 "\n" = [lineFeed] := by decide

theorem lined_append (a b : List String) : lined (a ++ b) = lined a ++ lined b :=
  List.flatMap_append

theorem lined_cons (line : String) (rest : List String) :
    lined (line :: rest) = utf8 (line ++ "\n") ++ lined rest := by
  rw [lined, List.flatMap_cons, utf8_append, utf8_lineFeed]
  rfl

/-- A text on one line has an encoding without a line feed. -/
theorem lineFeed_not_mem_utf8 {text : String} (h : OneLine text) : lineFeed ∉ utf8 text :=
  not_mem_utf8 (by decide) h

/-- **Lines are read back as they were written**; nothing is behind the last line feed. -/
theorem lines_lined {texts : List String} (h : ∀ text ∈ texts, OneLine text) :
    lines (lined texts) = texts.map utf8 ++ [[]] := by
  induction texts with
  | nil => rfl
  | cons text texts ih =>
      have htext := lineFeed_not_mem_utf8 (h text List.mem_cons_self)
      have hone : cut (· == lineFeed) (utf8 text) = [utf8 text] := by
        refine cut_of_none fun b hb => beq_eq_false_iff_ne.2 ?_
        rintro rfl
        exact htext hb
      have hrest := ih fun t ht => h t (List.mem_cons_of_mem _ ht)
      have hcut : lines (utf8 text ++ lineFeed :: lined texts) =
          cut (· == lineFeed) (utf8 text) ++ lines (lined texts) :=
        cut_append_cons (p := (· == lineFeed)) (beq_self_eq_true lineFeed) (utf8 text) (lined texts)
      rw [lined_cons, utf8_append, utf8_lineFeed, List.append_assoc, List.singleton_append, hcut, hone,
        hrest]
      rfl

/-- **Different lines have different encodings.** -/
theorem lined_injective {a b : List String} (ha : ∀ text ∈ a, OneLine text)
    (hb : ∀ text ∈ b, OneLine text) (h : lined a = lined b) : a = b := by
  have hlines := congrArg lines h
  rw [lines_lined ha, lines_lined hb] at hlines
  exact List.map_inj_right (fun _ _ => utf8_injective) |>.1 (List.append_cancel_right hlines)

end Bytes

end GoldenRun
