import GoldenRun.CommandLine.Value
import GoldenRun.Proofs.Bytes.Decoding
import Mathlib.Data.Nat.Digits.Defs

/-!
# What values mean

Which byte strings are values of which option, and what they mean, said without the readers.

* `Numeral`: digits, with or without a `+`, and the number they write; zeros in front do not count;
* `Setting.Means`: a byte string is a value of a setting, and means this;
* `Says`: a byte string is one of the words for yes, or one of those for no.

Main statements: `Setting.read_eq_ok_iff` and `Switch.read_eq_ok_iff`, the readers read what is meant and
refuse everything else.
-/

namespace GoldenRun.CommandLine

/-! ## 1. Numbers -/

/-- The characters write the number in decimal digits, at least one; a `+` may stand in front. -/
def Numeral (chars : List Char) (n : Nat) : Prop :=
  ∃ digits : List Nat, digits ≠ [] ∧ (∀ d ∈ digits, d < 10) ∧
    (chars = digits.map Nat.digitChar ∨ chars = '+' :: digits.map Nat.digitChar) ∧
    n = Nat.ofDigits 10 digits.reverse

theorem digit?_digitChar : ∀ d < 10, digit? d.digitChar = some d := by
  decide

theorem digit?_eq_some_iff {c : Char} {d : Nat} : digit? c = some d ↔ d < 10 ∧ c = d.digitChar := by
  constructor
  · intro h
    unfold digit? at h
    split at h
    · rename_i hc
      simp only [Bool.and_eq_true, decide_eq_true_eq, Char.le_def, UInt32.le_iff_toNat_le] at hc
      have hrange : 48 ≤ c.toNat ∧ c.toNat ≤ 57 := hc
      obtain rfl := Option.some.inj h
      have hdigits : ∀ d < 10, d.digitChar = Char.ofNat (d + 48) := by decide
      refine ⟨by omega, ?_⟩
      rw [hdigits _ (by omega), Nat.sub_add_cancel hrange.1, Char.ofNat_toNat]
    · cases h
  · rintro ⟨hd, rfl⟩
    exact digit?_digitChar d hd

/-- The number that digits write behind a beginning of value `n`. -/
theorem ofDigits_reverse_cons (d : Nat) (digits : List Nat) (n : Nat) :
    n * 10 ^ (d :: digits).length + Nat.ofDigits 10 (d :: digits).reverse =
      (n * 10 + d) * 10 ^ digits.length + Nat.ofDigits 10 digits.reverse := by
  rw [List.reverse_cons, Nat.ofDigits_append, Nat.ofDigits_singleton, List.length_reverse,
    List.length_cons, Nat.pow_succ]
  ring

/-- Digits are read up to the greatest number; what is behind a number that is too large can only make it
    larger. -/
theorem readDigits_eq_ok_iff {n m : Nat} {cs : List Char} (hn : n ≤ maxSeconds) :
    readDigits n cs = .ok m ↔
      ∃ digits : List Nat, (∀ d ∈ digits, d < 10) ∧ cs = digits.map Nat.digitChar ∧
        m = n * 10 ^ digits.length + Nat.ofDigits 10 digits.reverse ∧ m ≤ maxSeconds := by
  induction cs generalizing n with
  | nil =>
      constructor
      · intro h
        obtain rfl := Except.ok.inj h
        exact ⟨[], by simp, rfl, by simp, hn⟩
      · rintro ⟨digits, -, hnil, rfl, -⟩
        obtain rfl := List.map_eq_nil_iff.mp hnil.symm
        simp [readDigits]
  | cons c cs ih =>
      rw [readDigits]
      constructor
      · intro h
        split at h
        · cases h
        · rename_i d hd
          obtain ⟨hten, rfl⟩ := digit?_eq_some_iff.mp hd
          split at h
          · cases h
          · rename_i hfits
            obtain ⟨digits, hdigits, rfl, rfl, hm⟩ := (ih (Nat.le_of_not_lt hfits)).mp h
            refine ⟨d :: digits, ?_, rfl, (ofDigits_reverse_cons d digits n).symm, hm⟩
            intro e he
            rcases List.mem_cons.mp he with rfl | he
            · exact hten
            · exact hdigits e he
      · rintro ⟨digits, hdigits, hchars, hvalue, hm⟩
        cases digits with
        | nil => cases hchars
        | cons d digits =>
            obtain ⟨rfl, rfl⟩ := List.cons.inj hchars
            rw [ofDigits_reverse_cons] at hvalue
            have hfits : n * 10 + d ≤ maxSeconds := by
              have hpos : 1 ≤ 10 ^ digits.length := Nat.one_le_pow' _ _
              have hmul := Nat.mul_le_mul_left (n * 10 + d) hpos
              omega
            rw [digit?_digitChar d (hdigits d (by simp))]
            simp only [if_neg (Nat.not_lt.mpr hfits)]
            exact (ih hfits).mpr ⟨digits, fun e he => hdigits e (by simp [he]), rfl, hvalue, hm⟩

/-- Behind nothing, digits write their own number. -/
theorem readDigits_zero_eq_ok_iff {m : Nat} {cs : List Char} :
    readDigits 0 cs = .ok m ↔
      ∃ digits : List Nat, (∀ d ∈ digits, d < 10) ∧ cs = digits.map Nat.digitChar ∧
        m = Nat.ofDigits 10 digits.reverse ∧ m ≤ maxSeconds := by
  simpa using @readDigits_eq_ok_iff 0 m cs (Nat.zero_le maxSeconds)

theorem digitChar_ne_plus : ∀ d < 10, Nat.digitChar d ≠ '+' := by
  decide

theorem readNumber_plus {cs : List Char} (h : cs ≠ []) : readNumber ('+' :: cs) = readDigits 0 cs := by
  unfold readNumber
  split
  · rename_i hchars
    cases hchars
  · rename_i hchars
    exact absurd (List.cons.inj hchars).2 h
  · rename_i hchars
    rw [(List.cons.inj hchars).2]
  · rename_i hplus
    exact absurd rfl (hplus cs)

theorem readNumber_of_ne_plus {c : Char} (h : c ≠ '+') (cs : List Char) :
    readNumber (c :: cs) = readDigits 0 (c :: cs) := by
  unfold readNumber
  split
  · rename_i hchars
    cases hchars
  · rename_i hchars
    exact absurd (List.cons.inj hchars).1 h
  · rename_i hchars
    exact absurd (List.cons.inj hchars).1 h
  · rfl

theorem readNumber_eq_ok_iff {n : Nat} {cs : List Char} :
    readNumber cs = .ok n ↔ Numeral cs n ∧ n ≤ maxSeconds := by
  constructor
  · intro h
    unfold readNumber at h
    split at h
    · cases h
    · cases h
    · rename_i cs hcs
      obtain ⟨digits, hdigits, rfl, rfl, hn⟩ := readDigits_zero_eq_ok_iff.mp h
      have hne : digits ≠ [] := by
        rintro rfl
        exact hcs rfl
      exact ⟨⟨digits, hne, hdigits, .inr rfl, rfl⟩, hn⟩
    · rename_i hnil _ _
      obtain ⟨digits, hdigits, rfl, rfl, hn⟩ := readDigits_zero_eq_ok_iff.mp h
      have hne : digits ≠ [] := by
        rintro rfl
        exact hnil rfl
      exact ⟨⟨digits, hne, hdigits, .inl rfl, rfl⟩, hn⟩
  · rintro ⟨⟨digits, hne, hdigits, hchars, rfl⟩, hn⟩
    have hread := readDigits_zero_eq_ok_iff.mpr ⟨digits, hdigits, rfl, rfl, hn⟩
    rcases hchars with rfl | rfl
    · obtain ⟨d, rest, rfl⟩ := List.exists_cons_of_ne_nil hne
      rw [List.map_cons, readNumber_of_ne_plus (digitChar_ne_plus d (hdigits d (by simp))), ← hread,
        List.map_cons]
    · rw [readNumber_plus (by simpa using hne), hread]

theorem readSeconds_eq_ok_iff {n : Nat} {cs : List Char} :
    readSeconds cs = .ok n ↔ Numeral cs n ∧ 1 ≤ n ∧ n ≤ maxSeconds := by
  have hread : readSeconds cs = .ok n ↔ readNumber cs = .ok n ∧ 1 ≤ n := by
    unfold readSeconds
    cases readNumber cs with
    | error e => simp
    | ok m =>
        cases m with
        | zero =>
            refine ⟨fun h => (by cases h), ?_⟩
            rintro ⟨h, hpos⟩
            obtain rfl := Except.ok.inj h
            omega
        | succ m =>
            refine ⟨fun h => ⟨h, ?_⟩, And.left⟩
            obtain rfl := Except.ok.inj h
            omega
  rw [hread, readNumber_eq_ok_iff]
  constructor
  · rintro ⟨⟨hnumeral, hmax⟩, hpos⟩
    exact ⟨hnumeral, hpos, hmax⟩
  · rintro ⟨hnumeral, hpos, hmax⟩
    exact ⟨⟨hnumeral, hmax⟩, hpos⟩

/-! ## 2. Words -/

/-- The words for yes and for no. -/
def booleanWords : Bool → List String
  | true => ["y", "yes", "t", "true", "on", "1"]
  | false => ["n", "no", "f", "false", "off", "0"]

/-- A byte string is one of the words for `answer`, in any mixture of cases. -/
def Says (value : Bytes) (answer : Bool) : Prop :=
  ∃ text : String, value = utf8 text ∧ text.toLower ∈ booleanWords answer

/-- The name of a format. -/
def ReportFormat.word : ReportFormat → String
  | .console => "console"
  | .json => "json"

theorem lowered_eq_toLower (text : String) : lowered text = text.toLower := by
  rw [← String.toList_inj, lowered, String.toList_ofList]
  exact String.toList_map.symm

/-- No word is a word for both answers. -/
theorem not_mem_booleanWords_true : ∀ word ∈ booleanWords false, word ∉ booleanWords true := by
  decide

theorem readBoolean?_eq_some_iff {text : String} {answer : Bool} :
    readBoolean? text = some answer ↔ text.toLower ∈ booleanWords answer := by
  have hyes : ["y", "yes", "t", "true", "on", "1"] = booleanWords true := rfl
  have hno : ["n", "no", "f", "false", "off", "0"] = booleanWords false := rfl
  rw [readBoolean?, lowered_eq_toLower, hyes, hno]
  simp only [List.contains_iff_mem]
  split
  · rename_i h
    cases answer with
    | true => exact ⟨fun _ => h, fun _ => rfl⟩
    | false =>
        exact ⟨fun heq => (by cases heq), fun hword => absurd h (not_mem_booleanWords_true _ hword)⟩
  · rename_i h
    split
    · rename_i hno
      cases answer with
      | true => exact ⟨fun heq => (by cases heq), fun hword => absurd hword h⟩
      | false => exact ⟨fun _ => hno, fun _ => rfl⟩
    · rename_i hno
      refine ⟨fun heq => (by cases heq), fun hword => ?_⟩
      cases answer with
      | true => exact absurd hword h
      | false => exact absurd hword hno

theorem readFormat?_eq_some_iff {text : String} {f : ReportFormat} :
    readFormat? text = some f ↔ text = f.word := by
  constructor
  · intro h
    unfold readFormat? at h
    split at h
    · obtain rfl := Option.some.inj h
      rfl
    · obtain rfl := Option.some.inj h
      rfl
    · cases h
  · rintro rfl
    cases f <;> rfl

/-! ## 3. Settings and switches -/

/-- The byte string is a value of the setting, and `meaning` is what it means. -/
def Setting.Means : (setting : Setting) → Bytes → setting.Value → Prop
  | .testsDir, value, path => value ≠ [] ∧ path = value
  | .solverExec, value, path => value ≠ [] ∧ path = value
  | .outputDir, value, path => value ≠ [] ∧ path = value
  | .buildCommand, value, text => value = utf8 text
  | .sutProgram, value, text => value = utf8 text
  | .sutArg, value, text => value = utf8 text
  | .solver, value, text => value = utf8 text
  | .outputKind, value, text => value = utf8 text
  | .diffProgram, value, text => value = utf8 text
  | .timeout, value, n =>
    ∃ text : String, value = utf8 text ∧ Numeral text.toList n ∧ 1 ≤ n ∧ n ≤ 2 ^ 64 - 1
  | .format, value, f => value = utf8 f.word

theorem readPath_eq_ok_iff {setting : Setting} {value path : Bytes} :
    readPath setting value = .ok path ↔ value ≠ [] ∧ path = value := by
  cases value with
  | nil => simp [readPath]
  | cons b rest =>
      simp only [readPath, List.isEmpty_cons, Bool.false_eq_true, if_false, Except.ok.injEq, ne_eq,
        reduceCtorEq, not_false_eq_true, true_and]
      exact eq_comm

theorem readText_eq_ok_iff {value : Bytes} {text : String} :
    readText value = .ok text ↔ value = utf8 text := by
  rw [← Bytes.decode?_eq_some_iff, readText]
  cases value.decode? <;> simp

theorem read_timeout_eq_ok_iff {value : Bytes} {n : Nat} :
    Setting.timeout.read value = .ok n ↔ Setting.timeout.Means value n := by
  constructor
  · intro h
    rw [Setting.read] at h
    split at h
    · cases h
    · rename_i text htext
      split at h
      · rename_i m hm
        obtain rfl := Except.ok.inj h
        exact ⟨text, readText_eq_ok_iff.mp htext, readSeconds_eq_ok_iff.mp hm⟩
      · cases h
  · rintro ⟨text, hvalue, hseconds⟩
    simp only [Setting.read, readText_eq_ok_iff.mpr hvalue, readSeconds_eq_ok_iff.mpr hseconds]

theorem read_format_eq_ok_iff {value : Bytes} {f : ReportFormat} :
    Setting.format.read value = .ok f ↔ Setting.format.Means value f := by
  have hne : utf8 f.word ≠ [] := by cases f <;> decide
  constructor
  · intro h
    rw [Setting.read] at h
    split at h
    · cases h
    split at h
    · rename_i g hg
      obtain rfl := Except.ok.inj h
      obtain ⟨text, htext, hword⟩ := Option.bind_eq_some_iff.mp hg
      rw [Setting.Means, Bytes.decode?_eq_some_iff.mp htext, readFormat?_eq_some_iff.mp hword]
    · cases h
  · intro h
    have hvalue : value = utf8 f.word := h
    have hread : value.decode?.bind readFormat? = some f := by
      rw [hvalue, Bytes.decode?_utf8]
      exact readFormat?_eq_some_iff.mpr rfl
    rw [Setting.read, if_neg, hread]
    rw [hvalue, List.isEmpty_iff]
    exact hne

/-- **A setting reads what is meant**, and refuses everything else. -/
theorem Setting.read_eq_ok_iff {setting : Setting} {value : Bytes} {meaning : setting.Value} :
    setting.read value = .ok meaning ↔ setting.Means value meaning := by
  cases setting with
  | testsDir | solverExec | outputDir => exact readPath_eq_ok_iff
  | buildCommand | sutProgram | sutArg | solver | outputKind | diffProgram => exact readText_eq_ok_iff
  | timeout => exact read_timeout_eq_ok_iff
  | format => exact read_format_eq_ok_iff

/-- **A switch's variable is read as it says**, and everything else is refused. -/
theorem Switch.read_eq_ok_iff {switch : Switch} {value : Bytes} {answer : Bool} :
    switch.read value = .ok answer ↔ Says value answer := by
  constructor
  · intro h
    rw [Switch.read] at h
    split at h
    · cases h
    · rename_i text htext
      split at h
      · rename_i b hb
        obtain rfl := Except.ok.inj h
        exact ⟨text, readText_eq_ok_iff.mp htext, readBoolean?_eq_some_iff.mp hb⟩
      · cases h
  · rintro ⟨text, hvalue, hword⟩
    simp only [Switch.read, readText_eq_ok_iff.mpr hvalue, readBoolean?_eq_some_iff.mpr hword]

end GoldenRun.CommandLine
