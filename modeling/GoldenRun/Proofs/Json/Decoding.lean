import GoldenRun.Proofs.Json.Decoder

/-!
# The decoder decodes the grammar

The decoder finds a datum in a text exactly if the grammar derives the text with that datum. So it accepts
no text that is not JSON and refuses none that is, and a text says one thing at most.

Each reader has two lemmas: `_eq`, what the grammar derives is found, in front of anything that cannot
belong to it (`Ends`: only a number needs that); `_eq_some`, what is found the grammar derives. Of the
readers that call each other the two are `complete` and `_sound`. That a reader leaves less than there was is
a fact of the grammar (`shorter`).

Main statement: `decode?_eq_some_iff`.
-/

namespace GoldenRun.Json

/-! ## 1. Blanks and single characters -/

theorem blanks_skip (s : List Char) : Blanks s (skip s) :=
  ⟨s.takeWhile isBlank, List.takeWhile_append_dropWhile.symm, List.all_eq_true.mp List.all_takeWhile⟩

theorem Blanks.skip_eq {s r : List Char} (h : Blanks s r) : skip s = skip r := by
  obtain ⟨blanks, rfl, hblanks⟩ := h
  exact List.dropWhile_append_of_pos hblanks

theorem skip_cons {c : Char} (h : isBlank c = false) (s : List Char) : skip (c :: s) = c :: s :=
  List.dropWhile_cons_of_neg (by simp [h])

theorem expect?_self (c : Char) (r : List Char) : expect? c (c :: r) = some r :=
  if_pos rfl

theorem expect?_of_ne {c d : Char} (h : d ≠ c) (r : List Char) : expect? c (d :: r) = none :=
  if_neg h

theorem expect?_eq_some {c : Char} {s r : List Char} : expect? c s = some r ↔ s = c :: r := by
  cases s with
  | nil => simp [expect?]
  | cons d s =>
      by_cases h : d = c
      · simp [expect?, h]
      · simp [expect?, h]

theorem blanks_of_expect? {c : Char} {s r : List Char} (h : expect? c (skip s) = some r) :
    Blanks s (c :: r) := by
  rw [← expect?_eq_some.mp h]
  exact blanks_skip s

theorem Blanks.length_le {s r : List Char} (h : Blanks s r) : r.length ≤ s.length := by
  obtain ⟨blanks, rfl, -⟩ := h
  rw [List.length_append]
  exact Nat.le_add_left ..

theorem Blanks.shorter {s r : List Char} {c : Char} (h : Blanks s (c :: r)) : r.length < s.length :=
  h.length_le

/-- Behind blanks, a part and the character that follows it there is less than in front of them. -/
theorem Blanks.shorter_behind {s a b r : List Char} {c : Char} (hbefore : Blanks s a)
    (h : b.length < a.length) (hbehind : Blanks b (c :: r)) : r.length < s.length :=
  Nat.lt_of_lt_of_le (Nat.lt_trans hbehind.shorter h) hbefore.length_le

theorem less?_eq {s r : List Char} (h : r.length < s.length) : less? s r = some ⟨r, h⟩ :=
  dif_pos h

theorem less?_eq_some {s r : List Char} {found : { r : List Char // r.length < s.length }}
    (h : less? s r = some found) : found.1 = r := by
  unfold less? at h
  split at h
  · cases h
    rfl
  · cases h

/-! ## 2. Numbers -/

/-- What may stand in a number behind its first digit, a sign apart. -/
def continuesNumber (c : Char) : Bool :=
  c.isDigit || c == '.' || isExponentMark c

/-- A number that stands in front of this ends there. -/
def Ends (r : List Char) : Prop :=
  ∀ c ∈ r.head?, continuesNumber c = false

theorem digits?_eq {ds r : List Char} (h : Digits ds) (hr : ∀ c ∈ r.head?, c.isDigit = false) :
    digits? (ds ++ r) = some (ds, r) := by
  obtain ⟨hne, hdigits⟩ := h
  have hrest : r.takeWhile Char.isDigit = [] ∧ r.dropWhile Char.isDigit = r := by
    cases r with
    | nil => exact ⟨rfl, rfl⟩
    | cons c r => simp [hr c rfl]
  rw [digits?, List.takeWhile_append_of_pos hdigits, List.dropWhile_append_of_pos hdigits, hrest.1,
    hrest.2, List.append_nil, if_neg hne]

theorem digits?_eq_some {s ds r : List Char} (h : digits? s = some (ds, r)) :
    s = ds ++ r ∧ Digits ds := by
  unfold digits? at h
  split at h
  · cases h
  · rename_i hne
    cases h
    exact ⟨List.takeWhile_append_dropWhile.symm, hne, List.all_eq_true.mp List.all_takeWhile⟩

theorem whole?_eq {ds r : List Char} (h : Whole ds) (hr : ∀ c ∈ r.head?, c.isDigit = false) :
    whole? (ds ++ r) = some (ds, r) := by
  rcases h with rfl | ⟨h, hzero⟩
  · rfl
  · rw [← digits?_eq h hr]
    cases ds with
    | nil => exact absurd rfl h.1
    | cons d ds =>
        unfold whole?
        split
        · rename_i heq
          cases heq
          exact absurd rfl hzero
        · rfl

theorem whole?_eq_some {s ds r : List Char} (h : whole? s = some (ds, r)) : s = ds ++ r ∧ Whole ds := by
  unfold whole? at h
  split at h
  · cases h
    exact ⟨rfl, .inl rfl⟩
  · rename_i hzero
    obtain ⟨rfl, hds⟩ := digits?_eq_some h
    refine ⟨rfl, .inr ⟨hds, ?_⟩⟩
    intro hhead
    cases ds with
    | nil => cases hhead
    | cons d ds =>
        cases hhead
        exact hzero (ds ++ r) rfl

theorem fraction?_eq {s ds r : List Char} (h : Fraction s ds)
    (hr : ∀ c ∈ r.head?, c.isDigit = false ∧ c ≠ '.') : fraction? (s ++ r) = some (ds, r) := by
  cases h with
  | absent =>
      unfold fraction?
      split
      · rename_i heq
        rw [List.nil_append] at heq
        exact absurd rfl (hr '.' (by rw [heq]; rfl)).2
      · rfl
  | present h => exact digits?_eq h fun c hc => (hr c hc).1

theorem fraction?_eq_some {s ds r : List Char} (h : fraction? s = some (ds, r)) :
    ∃ t, s = t ++ r ∧ Fraction t ds := by
  unfold fraction? at h
  split at h
  · obtain ⟨rfl, hds⟩ := digits?_eq_some h
    exact ⟨'.' :: ds, rfl, .present hds⟩
  · cases h
    exact ⟨[], rfl, .absent⟩

theorem Ends.digit {r : List Char} (h : Ends r) : ∀ c ∈ r.head?, c.isDigit = false := by
  intro c hc
  have hc := h c hc
  simp only [continuesNumber, Bool.or_eq_false_iff] at hc
  exact hc.1.1

theorem Ends.mark {r : List Char} (h : Ends r) : ∀ c ∈ r.head?, isExponentMark c = false := by
  intro c hc
  have hc := h c hc
  simp only [continuesNumber, Bool.or_eq_false_iff] at hc
  exact hc.2

/-- Digits need no sign. -/
theorem signed?_of_digits {ds : List Char} (h : Digits ds) (r : List Char) :
    signed? (ds ++ r) =
      (digits? (ds ++ r)).map fun found => ((digitsValue found.1 : Int), found.2) := by
  obtain ⟨hne, hds⟩ := h
  cases ds with
  | nil => exact absurd rfl hne
  | cons d ds =>
      have hd := hds d List.mem_cons_self
      unfold signed?
      split
      · rename_i heq
        cases heq
        cases hd
      · rename_i heq
        cases heq
        cases hd
      · rfl

theorem exponent?_eq {s r : List Char} {e : Int} (h : Exponent s e) (hr : Ends r) :
    exponent? (s ++ r) = some (e, r) := by
  cases h with
  | absent =>
      cases r with
      | nil => rfl
      | cons c r => simp [exponent?, hr.mark c rfl]
  | plain hc h => simp [exponent?, hc, signed?_of_digits h, digits?_eq h hr.digit]
  | plus hc h => simp [exponent?, hc, signed?, digits?_eq h hr.digit]
  | minus hc h => simp [exponent?, hc, signed?, digits?_eq h hr.digit]

theorem exponent?_eq_some {s r : List Char} {e : Int} (h : exponent? s = some (e, r)) :
    ∃ t, s = t ++ r ∧ Exponent t e := by
  unfold exponent? at h
  split at h
  · split at h
    · rename_i hc
      unfold signed? at h
      split at h
      all_goals
        rw [Option.map_eq_some_iff] at h
        obtain ⟨⟨ds, t⟩, hfound, heq⟩ := h
        obtain ⟨rfl, hds⟩ := digits?_eq_some hfound
        cases heq
      · exact ⟨_ :: '+' :: ds, rfl, .plus hc hds⟩
      · exact ⟨_ :: '-' :: ds, rfl, .minus hc hds⟩
      · exact ⟨_ :: ds, rfl, .plain hc hds⟩
    · cases h
      exact ⟨[], rfl, .absent⟩
  · cases h
    exact ⟨[], rfl, .absent⟩

/-- Neither a digit nor a point stands where an exponent may stand. -/
theorem Exponent.head {s r : List Char} {e : Int} (h : Exponent s e) (hr : Ends r) :
    ∀ c ∈ (s ++ r).head?, c.isDigit = false ∧ c ≠ '.' := by
  have hmark : ∀ c, isExponentMark c = true → c.isDigit = false ∧ c ≠ '.' := by
    intro c hc
    simp only [isExponentMark, Bool.or_eq_true, beq_iff_eq] at hc
    rcases hc with rfl | rfl <;> decide
  cases h with
  | absent =>
      intro c hc
      have hend := hr c hc
      simp only [continuesNumber, Bool.or_eq_false_iff, beq_eq_false_iff_ne] at hend
      exact hend.1
  | plain hc _ | plus hc _ | minus hc _ =>
      rintro c ⟨⟩
      exact hmark _ hc

/-- No digit stands where a fraction may stand. -/
theorem Fraction.head {s ds r : List Char} (h : Fraction s ds)
    (hr : ∀ c ∈ r.head?, c.isDigit = false) : ∀ c ∈ (s ++ r).head?, c.isDigit = false := by
  cases h with
  | absent => exact hr
  | present _ =>
      rintro c ⟨⟩
      rfl

theorem unsigned?_eq {s r : List Char} {d : Decimal} (h : Unsigned s d) (hr : Ends r) :
    unsigned? (s ++ r) = some (d, r) := by
  obtain ⟨hwhole, hfraction, hexponent⟩ := h
  have hbehind := hexponent.head hr
  rw [List.append_assoc, List.append_assoc, unsigned?,
    whole?_eq hwhole (hfraction.head fun c hc => (hbehind c hc).1)]
  simp [fraction?_eq hfraction hbehind, exponent?_eq hexponent hr]

theorem unsigned?_eq_some {s r : List Char} {d : Decimal} (h : unsigned? s = some (d, r)) :
    ∃ t, s = t ++ r ∧ Unsigned t d := by
  simp only [unsigned?, Option.bind_eq_bind, Option.bind_eq_some_iff, Prod.exists] at h
  obtain ⟨whole, a, hw, digits, b, hf, e, c, he, heq⟩ := h
  cases heq
  obtain ⟨rfl, hwhole⟩ := whole?_eq_some hw
  obtain ⟨fraction, rfl, hfraction⟩ := fraction?_eq_some hf
  obtain ⟨exponent, rfl, hexponent⟩ := exponent?_eq_some he
  exact ⟨whole ++ fraction ++ exponent, by simp only [List.append_assoc],
    .mk hwhole hfraction hexponent⟩

/-- A number without a sign begins with a digit. -/
theorem Unsigned.head {s : List Char} {d : Decimal} (h : Unsigned s d) :
    ∃ c t, s = c :: t ∧ c.isDigit = true := by
  obtain ⟨hwhole, -, -⟩ := h
  rename_i whole fraction digits exponent e
  rcases hwhole with rfl | ⟨⟨hne, hdigits⟩, -⟩
  · exact ⟨'0', _, rfl, rfl⟩
  · cases whole with
    | nil => exact absurd rfl hne
    | cons c t => exact ⟨c, _, rfl, hdigits c List.mem_cons_self⟩

theorem number?_eq {s r : List Char} {d : Decimal} (h : Number s d) (hr : Ends r) :
    number? (s ++ r) = some (d, r) := by
  cases h with
  | positive h =>
      obtain ⟨c, t, rfl, hc⟩ := h.head
      rw [← unsigned?_eq h hr]
      unfold number?
      split
      · rename_i heq
        cases heq
        cases hc
      · rfl
  | negative h => simp [number?, unsigned?_eq h hr]

theorem number?_eq_some {s r : List Char} {d : Decimal} (h : number? s = some (d, r)) :
    ∃ t, s = t ++ r ∧ Number t d := by
  unfold number? at h
  split at h
  · obtain ⟨⟨d, r⟩, hfound, heq⟩ := Option.map_eq_some_iff.mp h
    cases heq
    obtain ⟨t, rfl, ht⟩ := unsigned?_eq_some hfound
    exact ⟨'-' :: t, rfl, .negative ht⟩
  · obtain ⟨t, rfl, ht⟩ := unsigned?_eq_some h
    exact ⟨t, rfl, .positive ht⟩

/-! ## 3. Strings -/

theorem escape?_eq {s r : List Char} {c : Char} (h : Escape s c r) : escape? s = some (c, r) := by
  cases h with
  | short h =>
      rename_i e
      have hne : e ≠ 'u' := by
        rintro rfl
        cases h
      simp [escape?, hne, h]
  | unit h hhigh hlow => simp [escape?, unicode?, h, hhigh, hlow]
  | pair hfirst hhigh hsecond hlow => simp [escape?, unicode?, second?, hfirst, hhigh, hsecond, hlow]

theorem second?_eq_some {high : Nat} {s r : List Char} {c : Char}
    (h : second? high s = some (c, r)) :
    ∃ e f g i low, s = '\\' :: 'u' :: e :: f :: g :: i :: r ∧ unit? e f g i = some low ∧
      IsLow low ∧ c = paired high low := by
  unfold second? at h
  split at h
  · split at h
    · rename_i hunit
      split at h
      · rename_i hlow
        rw [Option.some.injEq, Prod.mk.injEq] at h
        obtain ⟨hc, rfl⟩ := h
        exact ⟨_, _, _, _, _, rfl, hunit, hlow, hc.symm⟩
      · cases h
    · cases h
  · cases h

theorem unicode?_eq_some {s r : List Char} {c : Char} (h : unicode? s = some (c, r)) :
    Escape ('u' :: s) c r := by
  unfold unicode? at h
  split at h
  · split at h
    · rename_i hunit
      split at h
      · rename_i hhigh
        obtain ⟨_, _, _, _, _, rfl, hsecond, hlow, hc⟩ := second?_eq_some h
        rw [hc]
        exact .pair hunit hhigh hsecond hlow
      · rename_i hhigh
        split at h
        · cases h
        · rename_i hlow
          rw [Option.some.injEq, Prod.mk.injEq] at h
          obtain ⟨rfl, rfl⟩ := h
          exact .unit hunit hhigh hlow
    · cases h
  · cases h

theorem escape?_eq_some {s r : List Char} {c : Char} (h : escape? s = some (c, r)) : Escape s c r := by
  unfold escape? at h
  split at h
  · cases h
  · split at h
    · rename_i he
      rw [he]
      exact unicode?_eq_some h
    · obtain ⟨c, hc, heq⟩ := Option.map_eq_some_iff.mp h
      cases heq
      exact .short hc

/-- An escape takes characters away. -/
theorem Escape.shorter {s r : List Char} {c : Char} (h : Escape s c r) : r.length < s.length := by
  cases h with
  | short | unit | pair =>
      simp only [List.length_cons]
      omega

theorem Characters.shorter {s cs r : List Char} (h : Characters s cs r) : r.length < s.length := by
  induction h with
  | close => exact Nat.lt_succ_self _
  | plain _ _ ih => exact Nat.lt_succ_of_lt ih
  | escape hc _ ih => exact Nat.lt_succ_of_lt (Nat.lt_trans ih hc.shorter)

theorem characters?_eq {s cs r : List Char} (h : Characters s cs r) : characters? s = some (cs, r) := by
  induction h with
  | close => rw [characters?, if_pos rfl]
  | plain hc _ ih => rw [characters?, if_neg hc.1, if_neg hc.2.1, if_pos hc, ih]; rfl
  | escape hc _ ih =>
      rw [characters?, if_neg (by decide), if_pos rfl, escape?_eq hc]
      simp [less?_eq hc.shorter, ih]

theorem characters?_eq_some {s : List Char} {found : List Char × List Char}
    (h : characters? s = some found) : Characters s found.1 found.2 := by
  induction s using characters?.induct generalizing found with
  | case1 =>
      rw [characters?] at h
      cases h
  | case2 s =>
      rw [characters?, if_pos rfl] at h
      cases h
      exact .close
  | case3 s hquote ih =>
      rw [characters?, if_neg hquote, if_pos rfl] at h
      simp only [Option.bind_eq_bind, Option.bind_eq_some_iff, Prod.exists] at h
      obtain ⟨c, t, hescape, ⟨t', hlt⟩, hless, cs, r, hrest, heq⟩ := h
      cases heq
      obtain rfl : t' = t := less?_eq_some hless
      exact .escape (escape?_eq_some hescape) (ih _ hlt hrest)
  | case4 c s hquote hbackslash hplain ih =>
      rw [characters?, if_neg hquote, if_neg hbackslash, if_pos hplain] at h
      simp only [Option.bind_eq_bind, Option.bind_eq_some_iff, Prod.exists] at h
      obtain ⟨cs, r, hrest, heq⟩ := h
      cases heq
      exact .plain hplain (ih hrest)
  | case5 c s hquote hbackslash hplain =>
      rw [characters?, if_neg hquote, if_neg hbackslash, if_neg hplain] at h
      cases h

theorem quoted?_eq {s r : List Char} {t : String} (h : Quoted s t r) : quoted? s = some (t, r) := by
  obtain ⟨h⟩ := h
  simp [quoted?, expect?_eq_some.mpr rfl, characters?_eq h]

theorem quoted?_eq_some {s r : List Char} {t : String} (h : quoted? s = some (t, r)) :
    Quoted s t r := by
  simp only [quoted?, Option.bind_eq_bind, Option.bind_eq_some_iff, Prod.exists] at h
  obtain ⟨a, hquote, cs, b, hcharacters, heq⟩ := h
  cases heq
  rw [expect?_eq_some.mp hquote]
  exact .mk (characters?_eq_some hcharacters)

theorem Quoted.shorter {s r : List Char} {t : String} (h : Quoted s t r) : r.length < s.length := by
  obtain ⟨h⟩ := h
  exact Nat.lt_succ_of_lt h.shorter

/-! ## 4. Where values begin and end -/

/-- A number begins with a minus or a digit. -/
theorem Number.head {s : List Char} {d : Decimal} (h : Number s d) :
    ∃ c t, s = c :: t ∧ (c = '-' ∨ c.isDigit = true) := by
  cases h with
  | positive h =>
      obtain ⟨c, t, rfl, hc⟩ := h.head
      exact ⟨c, t, rfl, .inr hc⟩
  | negative h => exact ⟨'-', _, rfl, .inl rfl⟩

theorem ne_of_beginsNumber {c d : Char} (h : c = '-' ∨ c.isDigit = true) (hminus : d ≠ '-')
    (hdigit : d.isDigit = false) : c ≠ d := by
  rintro rfl
  rcases h with h | h
  · exact hminus h
  · rw [hdigit] at h
    cases h

theorem opening_of_beginsNumber {c : Char} (h : c = '-' ∨ c.isDigit = true) : opening c = .number := by
  have hne : ∀ d, d ≠ '-' → d.isDigit = false → c ≠ d := fun d => ne_of_beginsNumber h
  unfold opening
  rw [if_neg (hne _ (by decide) rfl), if_neg (hne _ (by decide) rfl), if_neg (hne _ (by decide) rfl),
    if_neg (hne _ (by decide) rfl), if_neg (hne _ (by decide) rfl), if_neg (hne _ (by decide) rfl)]

/-- A value begins with a character that is no blank and closes no list. -/
theorem Value.head {s r : List Char} {d : Datum} (h : Value s d r) :
    ∃ c t, s = c :: t ∧ isBlank c = false ∧ c ≠ ']' := by
  cases h with
  | number h =>
      obtain ⟨c, t, rfl, hc⟩ := h.head
      have hne : ∀ d, d ≠ '-' → d.isDigit = false → c ≠ d := fun d => ne_of_beginsNumber hc
      refine ⟨c, _, rfl, ?_, hne _ (by decide) rfl⟩
      simp only [isBlank, Bool.or_eq_false_iff, beq_eq_false_iff_ne]
      exact ⟨⟨⟨hne _ (by decide) rfl, hne _ (by decide) rfl⟩, hne _ (by decide) rfl⟩,
        hne _ (by decide) rfl⟩
  | text h =>
      obtain ⟨h⟩ := h
      exact ⟨'"', _, rfl, rfl, by decide⟩
  | _ => exact ⟨_, _, rfl, rfl, by decide⟩

/-- What stands in front of a value is all blanks. -/
theorem Value.skip_eq {s a r : List Char} {d : Datum} (h : Value a d r) (hs : Blanks s a) :
    skip s = a := by
  obtain ⟨c, t, rfl, hc, -⟩ := h.head
  rw [hs.skip_eq, skip_cons hc]

theorem Member.head {s r : List Char} {m : String × Datum} (h : Member s m r) :
    ∃ t, s = '"' :: t := by
  obtain ⟨⟨_⟩, _, _, _⟩ := h
  exact ⟨_, rfl⟩

theorem Member.skip_eq {s a r : List Char} {m : String × Datum} (h : Member a m r)
    (hs : Blanks s a) : skip s = a := by
  obtain ⟨t, rfl⟩ := h.head
  rw [hs.skip_eq, skip_cons rfl]

/-- A number ends before blanks, if it ends before what is behind them. -/
theorem Blanks.ends {s r : List Char} (h : Blanks s r) (hr : Ends r) : Ends s := by
  obtain ⟨blanks, rfl, hblanks⟩ := h
  cases blanks with
  | nil => exact hr
  | cons b blanks =>
      rintro d ⟨⟩
      have hb := hblanks b List.mem_cons_self
      simp only [isBlank, Bool.or_eq_true, beq_iff_eq] at hb
      rcases hb with ((rfl | rfl) | rfl) | rfl <;> rfl

theorem ends_nil : Ends [] := by
  rintro c ⟨⟩

theorem ends_cons {c : Char} (h : continuesNumber c = false) (r : List Char) : Ends (c :: r) := by
  rintro d ⟨⟩
  exact h

mutual

/-- A value takes characters away. -/
theorem Value.shorter {s r : List Char} {d : Datum} (h : Value s d r) : r.length < s.length := by
  cases h with
  | null | yes | no =>
      simp only [List.length_cons]
      omega
  | number h =>
      obtain ⟨c, t, rfl, -⟩ := h.head
      simp only [List.length_append, List.length_cons]
      omega
  | text h => exact h.shorter
  | emptyList h | emptyRecord h => exact Nat.lt_succ_of_lt h.length_le
  | list h => exact Nat.lt_succ_of_lt h.shorter
  | record h => exact Nat.lt_succ_of_lt h.shorter

theorem Elements.shorter {s r : List Char} {ds : List Datum} (h : Elements s ds r) :
    r.length < s.length := by
  cases h with
  | last hbefore h hbehind => exact hbefore.shorter_behind h.shorter hbehind
  | more hbefore h hbehind hmore =>
      exact Nat.lt_trans hmore.shorter (hbefore.shorter_behind h.shorter hbehind)

theorem Member.shorter {s r : List Char} {m : String × Datum} (h : Member s m r) :
    r.length < s.length := by
  cases h with
  | mk hkey hbefore hbehind h =>
      have hvalue := Nat.lt_of_lt_of_le h.shorter hbehind.length_le
      exact Nat.lt_trans (Nat.lt_trans hvalue hbefore.shorter) hkey.shorter

theorem Members.shorter {s r : List Char} {ms : List (String × Datum)} (h : Members s ms r) :
    r.length < s.length := by
  cases h with
  | last hbefore h hbehind => exact hbefore.shorter_behind h.shorter hbehind
  | more hbefore h hbehind hmore =>
      exact Nat.lt_trans hmore.shorter (hbefore.shorter_behind h.shorter hbehind)

end

/-! ## 5. What the grammar derives is found -/

/-- Where there are elements, the list is not closed at once. -/
theorem Elements.not_closed {s r : List Char} {ds : List Datum} (h : Elements s ds r) :
    expect? ']' (skip s) = none := by
  have hvalue : ∃ a d b, Blanks s a ∧ Value a d b := by
    cases h with
    | last hbefore h _ => exact ⟨_, _, _, hbefore, h⟩
    | more hbefore h _ _ => exact ⟨_, _, _, hbefore, h⟩
  obtain ⟨a, d, b, hbefore, h⟩ := hvalue
  obtain ⟨c, t, rfl, -, hc⟩ := h.head
  rw [h.skip_eq hbefore, expect?_of_ne hc]

/-- Where there are members, the record is not closed at once. -/
theorem Members.not_closed {s r : List Char} {ms : List (String × Datum)} (h : Members s ms r) :
    expect? '\x7d' (skip s) = none := by
  have hmember : ∃ a m b, Blanks s a ∧ Member a m b := by
    cases h with
    | last hbefore h _ => exact ⟨_, _, _, hbefore, h⟩
    | more hbefore h _ _ => exact ⟨_, _, _, hbefore, h⟩
  obtain ⟨a, m, b, hbefore, h⟩ := hmember
  obtain ⟨t, rfl⟩ := h.head
  rw [h.skip_eq hbefore, expect?_of_ne (by decide)]

mutual

theorem Value.complete {s r : List Char} {d : Datum} (h : Value s d r) (hr : Ends r) :
    value? s = some (d, r) := by
  cases h with
  | null | yes | no =>
      rw [value?]
      rfl
  | number h =>
      obtain ⟨c, t, rfl, hc⟩ := h.head
      rw [List.cons_append, value?, opening_of_beginsNumber hc]
      exact congrArg (Option.map _) (number?_eq h hr)
  | text h =>
      have hquoted := quoted?_eq h
      obtain ⟨h⟩ := h
      rw [value?]
      exact congrArg (Option.map _) hquoted
  | emptyList h =>
      simp [value?, opening, h.skip_eq, skip_cons, isBlank, expect?_self]
  | list h =>
      have helements := h.complete
      simp [value?, opening, h.not_closed, helements]
  | emptyRecord h =>
      simp [value?, opening, h.skip_eq, skip_cons, isBlank, expect?_self]
  | record h =>
      have hmembers := h.complete
      simp [value?, opening, h.not_closed, hmembers]

theorem Elements.complete {s r : List Char} {ds : List Datum} (h : Elements s ds r) :
    elements? s = some (ds, r) := by
  cases h with
  | last hbefore h hbehind =>
      have hvalue := h.complete (hbehind.ends (ends_cons rfl _))
      rw [elements?, h.skip_eq hbefore, hvalue]
      simp [hbehind.skip_eq, skip_cons, isBlank, expect?_self]
  | more hbefore h hbehind hmore =>
      have hvalue := h.complete (hbehind.ends (ends_cons rfl _))
      have hrest := hmore.complete
      have hless := less?_eq (hbefore.shorter_behind h.shorter hbehind)
      rw [elements?, h.skip_eq hbefore, hvalue]
      simp [hbehind.skip_eq, skip_cons, isBlank, expect?_self, expect?_of_ne, hless, hrest]

theorem Member.complete {s r : List Char} {m : String × Datum} (h : Member s m r) (hr : Ends r) :
    member? s = some (m, r) := by
  cases h with
  | mk hkey hbefore hbehind h =>
      have hvalue := h.complete hr
      have hless := less?_eq (Nat.lt_trans hbefore.shorter hkey.shorter)
      rw [member?, quoted?_eq hkey]
      simp [hbefore.skip_eq, skip_cons, isBlank, expect?_self, hless, h.skip_eq hbehind, hvalue]

theorem Members.complete {s r : List Char} {ms : List (String × Datum)} (h : Members s ms r) :
    members? s = some (ms, r) := by
  cases h with
  | last hbefore h hbehind =>
      have hmember := h.complete (hbehind.ends (ends_cons rfl _))
      rw [members?, h.skip_eq hbefore, hmember]
      simp [hbehind.skip_eq, skip_cons, isBlank, expect?_self]
  | more hbefore h hbehind hmore =>
      have hmember := h.complete (hbehind.ends (ends_cons rfl _))
      have hrest := hmore.complete
      have hless := less?_eq (hbefore.shorter_behind h.shorter hbehind)
      rw [members?, h.skip_eq hbefore, hmember]
      simp [hbehind.skip_eq, skip_cons, isBlank, expect?_self, expect?_of_ne, hless, hrest]

end

/-! ## 6. What is found the grammar derives -/

theorem word?_eq_some {word s r : List Char} (h : word? word s = some r) : s = word ++ r := by
  induction word generalizing s with
  | nil => exact Option.some.inj h
  | cons c word ih =>
      obtain ⟨t, ht, hrest⟩ := Option.bind_eq_some_iff.mp h
      rw [expect?_eq_some.mp ht, ih hrest]
      rfl

/-- The character that announces a value; a number has none of its own. -/
def Opening.character? : Opening → Option Char
  | .text => some '"'
  | .list => some '['
  | .record => some '\x7b'
  | .null => some 'n'
  | .yes => some 't'
  | .no => some 'f'
  | .number => none

theorem eq_of_opening {c d : Char} {kind : Opening} (h : opening c = kind)
    (hd : kind.character? = some d) : c = d := by
  subst h
  unfold opening at hd
  repeat' split at hd
  all_goals first
    | exact Option.some.inj hd ▸ ‹c = _›
    | cases hd

/-- A kind that is a word is announced by its first character and goes on with the others. -/
theorem word_sound {word s r : List Char} {c first : Char} {kind : Opening} {d d' : Datum}
    (hopening : opening c = kind) (hfirst : kind.character? = some first)
    (h : (word? word s).map (d, ·) = some (d', r)) : c :: s = first :: (word ++ r) ∧ d' = d := by
  obtain ⟨r', hword, heq⟩ := Option.map_eq_some_iff.mp h
  cases heq
  exact ⟨by rw [eq_of_opening hopening hfirst, word?_eq_some hword], rfl⟩

-- The recursion is that of the readers: each is right if those that it calls are.
mutual

theorem value?_sound {s r : List Char} {d : Datum} (h : value? s = some (d, r)) : Value s d r := by
  cases s with
  | nil =>
      rw [value?] at h
      cases h
  | cons c s =>
      cases hopening : opening c with
      | null | yes | no =>
          simp only [value?, hopening] at h
          obtain ⟨heq, rfl⟩ := word_sound hopening rfl h
          rw [heq]
          constructor
      | number =>
          simp only [value?, hopening] at h
          obtain ⟨found, hfound, heq⟩ := Option.map_eq_some_iff.mp h
          cases heq
          obtain ⟨t, ht, hnumber⟩ := number?_eq_some hfound
          rw [ht]
          exact .number hnumber
      | text =>
          simp only [value?, hopening] at h
          obtain ⟨found, hfound, heq⟩ := Option.map_eq_some_iff.mp h
          cases heq
          exact .text (quoted?_eq_some hfound)
      | list =>
          simp only [value?, hopening] at h
          rw [eq_of_opening hopening rfl]
          split at h
          · rename_i hend
            cases h
            exact .emptyList (blanks_of_expect? hend)
          · obtain ⟨found, hfound, heq⟩ := Option.bind_eq_some_iff.mp h
            cases heq
            exact .list (elements?_sound hfound)
      | record =>
          simp only [value?, hopening] at h
          rw [eq_of_opening hopening rfl]
          split at h
          · rename_i hend
            cases h
            exact .emptyRecord (blanks_of_expect? hend)
          · obtain ⟨found, hfound, heq⟩ := Option.bind_eq_some_iff.mp h
            cases heq
            exact .record (members?_sound hfound)
termination_by 2 * s.length

theorem elements?_sound {s r : List Char} {ds : List Datum} (h : elements? s = some (ds, r)) :
    Elements s ds r := by
  rw [elements?] at h
  simp only [Option.bind_eq_bind, Option.bind_eq_some_iff, Prod.exists] at h
  obtain ⟨d, b, hfound, h⟩ := h
  have hvalue := value?_sound hfound
  split at h
  · rename_i hend
    cases h
    exact .last (blanks_skip s) hvalue (blanks_of_expect? hend)
  · simp only [Option.bind_eq_some_iff, Prod.exists] at h
    obtain ⟨c, hcomma, ⟨c', hlt⟩, hless, ds, r, hrest, h⟩ := h
    cases h
    obtain rfl : c' = c := less?_eq_some hless
    exact .more (blanks_skip s) hvalue (blanks_of_expect? hcomma) (elements?_sound hrest)
termination_by 2 * s.length + 1
decreasing_by
  · have hskip := length_skip_le s
    omega
  · omega

theorem member?_sound {s r : List Char} {m : String × Datum} (h : member? s = some (m, r)) :
    Member s m r := by
  rw [member?] at h
  simp only [Option.bind_eq_bind, Option.bind_eq_some_iff, Prod.exists] at h
  obtain ⟨key, a, hkey, b, hcolon, ⟨b', hlt⟩, hless, d, r, hfound, h⟩ := h
  cases h
  obtain rfl : b' = b := less?_eq_some hless
  exact .mk (quoted?_eq_some hkey) (blanks_of_expect? hcolon) (blanks_skip b') (value?_sound hfound)
termination_by 2 * s.length
decreasing_by
  have hskip := length_skip_le b'
  omega

theorem members?_sound {s r : List Char} {ms : List (String × Datum)} (h : members? s = some (ms, r)) :
    Members s ms r := by
  rw [members?] at h
  simp only [Option.bind_eq_bind, Option.bind_eq_some_iff, Prod.exists] at h
  obtain ⟨key, d, b, hfound, h⟩ := h
  have hmember := member?_sound hfound
  split at h
  · rename_i hend
    cases h
    exact .last (blanks_skip s) hmember (blanks_of_expect? hend)
  · simp only [Option.bind_eq_some_iff, Prod.exists] at h
    obtain ⟨c, hcomma, ⟨c', hlt⟩, hless, ms, r, hrest, h⟩ := h
    cases h
    obtain rfl : c' = c := less?_eq_some hless
    exact .more (blanks_skip s) hmember (blanks_of_expect? hcomma) (members?_sound hrest)
termination_by 2 * s.length + 1
decreasing_by
  · have hskip := length_skip_le s
    omega
  · omega

end

/-! ## 7. Whole texts -/

/-- **The decoder decodes the grammar**: it finds a datum exactly in the texts that the grammar derives. -/
theorem decode?_eq_some_iff {text : String} {d : Datum} : decode? text = some d ↔ Document text d := by
  constructor
  · intro h
    unfold decode? at h
    split at h
    · rename_i d r hvalue
      split at h
      · rename_i hend
        cases h
        exact .mk (blanks_skip _) (value?_sound hvalue) (hend ▸ blanks_skip r)
      · cases h
    · cases h
  · rintro ⟨hbefore, h, hbehind⟩
    have hend := hbehind.skip_eq
    rw [decode?, h.skip_eq hbefore, h.complete (hbehind.ends ends_nil)]
    exact if_pos hend

end GoldenRun.Json
