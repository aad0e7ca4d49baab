import GoldenRun.Duration
import Mathlib.Algebra.Order.Field.Power
import Mathlib.Algebra.Order.Field.Rat
import Mathlib.Tactic.FieldSimp
import Mathlib.Tactic.Linarith
import Mathlib.Tactic.Positivity
import Mathlib.Tactic.Ring

/-!
# How exactly durations are shown

A quotient is rounded to the nearest number of 53 significant bits, so it is off by at most one part in
2 ^ 53. Three such roundings lie between a duration and the tenths that are shown.

* `Nearest`: a whole number is the nearest one, a half going to the even one; there is at most one;
* `Dyadic.nearest_correct`: what rounding to 53 significant bits is;
* `inTenths_nearest`: the tenths shown are those nearest to the binary number.

Main statements: `inTenths_close`, the tenths shown are off by half a tenth and one part in 2 ^ 51 at most;
`inTenths_of_whole`, whole seconds are shown exactly.
-/

namespace GoldenRun.Duration

/-! ## 1. Nearest whole numbers -/

/-- No whole number is nearer to `q` than `m`; of two that are as near, `m` is the even one. -/
structure Nearest (q : ℚ) (m : Nat) : Prop where
  close : |q - m| ≤ 1 / 2
  even : |q - m| = 1 / 2 → m % 2 = 0

theorem Nearest.not_lt {q : ℚ} {m m' : Nat} (h : Nearest q m) (h' : Nearest q m') : ¬ m < m' := by
  intro hlt
  have hbelow := abs_le.mp h.close
  have habove := abs_le.mp h'.close
  have hcast : (m : ℚ) + 1 ≤ m' := by exact_mod_cast hlt
  -- The two are neighbours, and `q` lies in the middle between them.
  have hmiddle : q - m = 1 / 2 := by linarith [hbelow.1, hbelow.2, habove.1, habove.2]
  have hmiddle' : q - m' = -(1 / 2) := by linarith [hbelow.1, hbelow.2, habove.1, habove.2]
  have hnext : (m' : ℚ) = (m + 1 : Nat) := by
    push_cast
    linarith
  have heven := h.even (by rw [hmiddle, abs_of_pos (by norm_num)])
  have heven' := h'.even (by rw [hmiddle', abs_neg, abs_of_pos (by norm_num)])
  have hnat : m' = m + 1 := by exact_mod_cast hnext
  omega

/-- There is at most one. -/
theorem Nearest.unique {q : ℚ} {m m' : Nat} (h : Nearest q m) (h' : Nearest q m') : m = m' :=
  Nat.le_antisymm (Nat.not_lt.mp (h'.not_lt h)) (Nat.not_lt.mp (h.not_lt h'))

theorem nearest_of_abs_lt {q : ℚ} {m : Nat} (h : |q - m| < 1 / 2) : Nearest q m :=
  ⟨h.le, fun heq => absurd heq h.ne⟩

theorem nearest_natCast (m : Nat) : Nearest m m :=
  nearest_of_abs_lt (by simp)

/-- In the middle between two whole numbers, the even one is taken. -/
theorem nearest_middle (k : Nat) : Nearest (k + 1 / 2) (k + k % 2) := by
  refine ⟨?_, fun _ => by omega⟩
  rcases Nat.mod_two_eq_zero_or_one k with hk | hk
  · rw [hk, Nat.add_zero, add_sub_cancel_left, abs_of_pos (by norm_num)]
  · have hdiff : (k : ℚ) + 1 / 2 - (k + 1 : Nat) = -(1 / 2) := by
      push_cast
      ring
    rw [hk, hdiff, abs_neg, abs_of_pos (by norm_num)]

/-- **Rounding a quotient** gives the nearest whole number. -/
theorem roundQuotient_nearest (n : Nat) {d : Nat} (hd : 0 < d) :
    Nearest ((n : ℚ) / d) (roundQuotient n d) := by
  have hpos : (0 : ℚ) < d := by exact_mod_cast hd
  obtain ⟨x, hx⟩ : ∃ x : ℚ, x = (n % d : Nat) / d := ⟨_, rfl⟩
  have hsplit : (n : ℚ) / d = (n / d : Nat) + x := by
    have hmod : (d : ℚ) * (n / d : Nat) + (n % d : Nat) = n := by exact_mod_cast Nat.div_add_mod n d
    rw [hx, ← hmod]
    field_simp
  rw [hsplit]
  unfold roundQuotient
  simp only
  split
  · rename_i hlow
    have hlow : x < 1 / 2 := by
      rw [hx, div_lt_div_iff₀ hpos (by norm_num)]
      exact_mod_cast (by omega : n % d * 2 < 1 * d)
    have hfirst : 0 ≤ x := by
      rw [hx]
      positivity
    apply nearest_of_abs_lt
    rw [add_sub_cancel_left, abs_of_nonneg hfirst]
    exact hlow
  split
  · rename_i hhigh
    have hhigh : 1 / 2 < x := by
      rw [hx, div_lt_div_iff₀ (by norm_num) hpos]
      exact_mod_cast (by omega : 1 * d < n % d * 2)
    have hlast : x < 1 := by
      rw [hx, div_lt_one hpos]
      exact_mod_cast Nat.mod_lt n hd
    apply nearest_of_abs_lt
    push_cast
    rw [abs_lt]
    constructor <;> linarith
  · have hhalf : x = 1 / 2 := by
      rw [hx, div_eq_div_iff hpos.ne' (by norm_num)]
      exact_mod_cast (by omega : n % d * 2 = 1 * d)
    rw [hhalf]
    exact nearest_middle _

/-! ## 2. Shifts -/

theorem shiftLeft_pos {n : Nat} (hn : 0 < n) (places : Nat) : 0 < n <<< places := by
  rw [Nat.shiftLeft_eq]
  positivity

theorem cast_shiftLeft (n places : Nat) : ((n <<< places : Nat) : ℚ) = n * 2 ^ places := by
  rw [Nat.shiftLeft_eq]
  push_cast
  rfl

/-- A number of places is one to the left or one to the right. -/
theorem places_cases (places : Int) :
    (∃ k : Nat, places = k) ∨ ∃ k : Nat, 0 < k ∧ places = -(k : Int) := by
  rcases Int.lt_or_le places 0 with hlt | hle
  · exact .inr ⟨places.natAbs, by omega, by omega⟩
  · exact .inl ⟨places.toNat, by omega⟩

/-- What number it is. -/
def Dyadic.value (x : Dyadic) : ℚ :=
  x.num / 2 ^ x.scale

theorem Dyadic.value_ofPlaces (m : Nat) (places : Int) :
    (ofPlaces m places).value = m / 2 ^ places := by
  rcases places_cases places with ⟨k, rfl⟩ | ⟨k, hk, rfl⟩
  · rw [ofPlaces, if_pos (by omega), value, Int.toNat_natCast, zpow_natCast]
  · rw [ofPlaces, if_neg (by omega), value, neg_neg, Int.toNat_natCast, cast_shiftLeft, zpow_neg,
      zpow_natCast, div_inv_eq_mul, pow_zero, div_one]

theorem shifted_pos (n : Nat) {d : Nat} (hd : 0 < d) (places : Int) : 0 < (shifted n d places).2 := by
  unfold shifted
  split
  · exact hd
  · exact shiftLeft_pos hd _

theorem shifted_quotient (n d : Nat) (places : Int) :
    ((shifted n d places).1 : ℚ) / (shifted n d places).2 = n / d * 2 ^ places := by
  rcases places_cases places with ⟨k, rfl⟩ | ⟨k, hk, rfl⟩
  · rw [shifted, if_pos (by omega), Int.toNat_natCast, cast_shiftLeft, zpow_natCast]
    ring
  · rw [shifted, if_neg (by omega), neg_neg, Int.toNat_natCast, cast_shiftLeft, zpow_neg, zpow_natCast,
      div_mul_eq_div_div]
    rfl

/-! ## 3. 53 significant bits -/

/-- Whether the whole part of the shifted quotient has fewer than 53 bits. -/
theorem shifted_lt_iff (n : Nat) {d : Nat} (hd : 0 < d) (places : Int) :
    (shifted n d places).1 < (shifted n d places).2 <<< 52 ↔ (n : ℚ) / d * 2 ^ places < 2 ^ 52 := by
  have hpos : (0 : ℚ) < (shifted n d places).2 := by exact_mod_cast shifted_pos n hd places
  rw [← shifted_quotient, div_lt_iff₀ hpos, Nat.shiftLeft_eq, Nat.mul_comm]
  exact_mod_cast Iff.rfl

/-- A number lies between two neighbouring powers. -/
theorem log2_bounds {n : Nat} (hn : 0 < n) :
    (2 : ℚ) ^ (Nat.log2 n : Int) ≤ n ∧ (n : ℚ) < 2 ^ ((Nat.log2 n : Int) + 1) := by
  rw [← Nat.cast_succ, zpow_natCast, zpow_natCast]
  constructor
  · exact_mod_cast Nat.log2_self_le hn.ne'
  · exact_mod_cast Nat.lt_log2_self

/-- The whole part of the quotient that is rounded has 53 bits. -/
theorem wholePlaces_spec {n d : Nat} (hn : 0 < n) (hd : 0 < d) :
    (2 : ℚ) ^ 52 ≤ n / d * 2 ^ wholePlaces n d ∧ (n : ℚ) / d * 2 ^ wholePlaces n d < 2 ^ 53 := by
  have hpos : (0 : ℚ) < d := by exact_mod_cast hd
  obtain ⟨hnlow, hnhigh⟩ := log2_bounds hn
  obtain ⟨hdlow, hdhigh⟩ := log2_bounds hd
  unfold wholePlaces
  simp only [shifted_lt_iff n hd]
  generalize (Nat.log2 n : Int) = a at *
  generalize (Nat.log2 d : Int) = b at *
  have hpower : ∀ (i j : Int) (k : Nat), i - j + (52 - (a - b)) = k →
      (2 : ℚ) ^ k = 2 ^ i / 2 ^ j * 2 ^ (52 - (a - b)) := by
    intro i j k h
    rw [← zpow_sub₀ two_ne_zero, ← zpow_add₀ two_ne_zero, h, zpow_natCast]
  -- The quotient lies between two powers two places apart, so one more place is missing at most.
  have hlow : (2 : ℚ) ^ 51 ≤ n / d * 2 ^ (52 - (a - b)) := by
    rw [hpower a (b + 1) 51 (by push_cast; ring)]
    gcongr
  have hhigh : (n : ℚ) / d * 2 ^ (52 - (a - b)) < 2 ^ 53 := by
    rw [hpower (a + 1) b 53 (by push_cast; ring)]
    gcongr
  split
  · rename_i hsmall
    rw [zpow_add_one₀ two_ne_zero, ← mul_assoc]
    constructor <;> linarith
  · rename_i hlarge
    exact ⟨not_lt.mp hlarge, hhigh⟩

namespace Dyadic

/-- **Rounding to 53 significant bits**: the quotient is shifted so that its whole part has 53 bits, the
    nearest whole number is taken, and that is shifted back. -/
theorem nearest_correct {n d : Nat} (hn : 0 < n) (hd : 0 < d) :
    ∃ (m : Nat) (places : Int), 2 ^ 52 ≤ (n : ℚ) / d * 2 ^ places ∧ (n : ℚ) / d * 2 ^ places < 2 ^ 53 ∧
      Nearest ((n : ℚ) / d * 2 ^ places) m ∧ (nearest n d).value = m / 2 ^ places := by
  obtain ⟨hlow, hhigh⟩ := wholePlaces_spec hn hd
  have hround := roundQuotient_nearest (shifted n d (wholePlaces n d)).1
    (shifted_pos n hd (wholePlaces n d))
  rw [shifted_quotient] at hround
  refine ⟨_, _, hlow, hhigh, hround, ?_⟩
  rw [nearest, if_neg hn.ne', value_ofPlaces]

theorem nearest_zero (d : Nat) : (nearest 0 d).value = 0 := by
  simp [nearest, value]

/-- **One part in 2 ^ 53** is what such a number is off at most. -/
theorem nearest_close (n : Nat) {d : Nat} (hd : 0 < d) :
    |(nearest n d).value - n / d| ≤ n / d / 2 ^ 53 := by
  rcases Nat.eq_zero_or_pos n with rfl | hn
  · simp [nearest_zero]
  obtain ⟨m, places, hlow, -, hround, hvalue⟩ := nearest_correct hn hd
  have hpower : (0 : ℚ) < 2 ^ places := by positivity
  have hdiff : (m : ℚ) / 2 ^ places - n / d = -(n / d * 2 ^ places - m) / 2 ^ places := by
    field_simp
    ring
  rw [hvalue, hdiff, abs_div, abs_neg, abs_of_pos hpower, div_le_div_iff₀ hpower (by positivity)]
  calc |(n : ℚ) / d * 2 ^ places - m| * 2 ^ 53 ≤ 1 / 2 * 2 ^ 53 := by gcongr; exact hround.close
    _ = 2 ^ 52 := by norm_num
    _ ≤ n / d * 2 ^ places := hlow

/-- A number of 53 significant bits is not rounded. -/
theorem nearest_exact {n d k s : Nat} (hd : 0 < d) (h : (n : ℚ) / d = k / 2 ^ s) (hk : k < 2 ^ 53) :
    (nearest n d).value = n / d := by
  rcases Nat.eq_zero_or_pos n with rfl | hn
  · simp [nearest_zero]
  obtain ⟨m, places, hlow, -, hround, hvalue⟩ := nearest_correct hn hd
  have hshift : (n : ℚ) / d * 2 ^ places = k * 2 ^ (places - s) := by
    rw [h, zpow_sub₀ two_ne_zero, zpow_natCast]
    ring
  -- All its places are in front of the point once it is shifted.
  have hplaces : 0 ≤ places - s := by
    have hcast : (k : ℚ) < 2 ^ 53 := by exact_mod_cast hk
    have hhalf : (2 : ℚ) ^ (-1 : Int) < 2 ^ (places - s) := by
      rw [hshift] at hlow
      rw [zpow_neg_one, inv_lt_iff_one_lt_mul₀ two_pos]
      have hpower : (0 : ℚ) < 2 ^ (places - s) := by positivity
      have hbound := hlow.trans_lt (mul_lt_mul_of_pos_right hcast hpower)
      linarith
    have hexponent := (zpow_lt_zpow_iff_right₀ one_lt_two).mp hhalf
    omega
  obtain ⟨j, hj⟩ := Int.eq_ofNat_of_zero_le hplaces
  have hwhole : (n : ℚ) / d * 2 ^ places = (k * 2 ^ j : Nat) := by
    rw [hshift, hj, zpow_natCast]
    push_cast
    rfl
  rw [hwhole] at hround
  rw [hvalue, hround.unique (nearest_natCast _), ← hwhole]
  field_simp

/-- The sum, before it is rounded. -/
theorem sum_quotient (x y : Dyadic) :
    ((x.num <<< y.scale + y.num <<< x.scale : Nat) : ℚ) / (1 <<< (x.scale + y.scale) : Nat) =
      x.value + y.value := by
  rw [Nat.cast_add, cast_shiftLeft, cast_shiftLeft, cast_shiftLeft, value, value, pow_add]
  push_cast
  field_simp

theorem value_plus_close (x y : Dyadic) :
    |(x.plus y).value - (x.value + y.value)| ≤ (x.value + y.value) / 2 ^ 53 := by
  rw [← sum_quotient]
  exact nearest_close _ (shiftLeft_pos Nat.one_pos _)

theorem value_plus_eq {x y : Dyadic} {k s : Nat} (h : x.value + y.value = k / 2 ^ s) (hk : k < 2 ^ 53) :
    (x.plus y).value = x.value + y.value := by
  rw [← sum_quotient] at h ⊢
  exact nearest_exact (shiftLeft_pos Nat.one_pos _) h hk

end Dyadic

/-! ## 4. Seconds -/

/-- The span in seconds. -/
def exactSeconds (d : Duration) : ℚ :=
  d.secs + d.nanos / 1000000000

theorem seconds_close (d : Duration) : |d.seconds.value - d.exactSeconds| ≤ d.exactSeconds / 2 ^ 51 := by
  have hsecs := Dyadic.nearest_close d.secs Nat.one_pos
  have hnanos := Dyadic.nearest_close d.nanos (show 0 < 1000000000 by norm_num)
  have hsum := Dyadic.value_plus_close (Dyadic.nearest d.secs 1) (Dyadic.nearest d.nanos 1000000000)
  have hfirst : (0 : ℚ) ≤ d.secs := by positivity
  have hsecond : (0 : ℚ) ≤ (d.nanos : ℚ) / 1000000000 := by positivity
  push_cast at hsecs hnanos
  rw [seconds, exactSeconds]
  -- Each rounding multiplies with a number near to one, so this is linear in the two parts.
  rw [abs_le] at hsecs hnanos hsum ⊢
  constructor <;> linarith

/-- **The tenths shown** are those nearest to the binary number. -/
theorem inTenths_nearest (d : Duration) :
    ∃ tenths, d.inTenths = showTenths tenths ∧ Nearest (d.seconds.value * 10) tenths := by
  refine ⟨_, rfl, ?_⟩
  have hround := roundQuotient_nearest (d.seconds.num * 10)
    (shiftLeft_pos Nat.one_pos d.seconds.scale)
  have hvalue : ((d.seconds.num * 10 : Nat) : ℚ) / (1 <<< d.seconds.scale : Nat) =
      d.seconds.value * 10 := by
    rw [Dyadic.value, cast_shiftLeft]
    push_cast
    ring
  rwa [hvalue] at hround

/-- What lies just below a half as a binary number is rounded down. -/
example : inTenths ⟨0, 350000000⟩ = "0.3" := by decide +kernel

/-- **A duration is shown to half a tenth**, and one part in 2 ^ 51 of itself. -/
theorem inTenths_close (d : Duration) :
    ∃ tenths : Nat, d.inTenths = showTenths tenths ∧
      |(tenths : ℚ) / 10 - d.exactSeconds| ≤ 1 / 20 + d.exactSeconds / 2 ^ 51 := by
  obtain ⟨tenths, hshown, hround⟩ := d.inTenths_nearest
  refine ⟨tenths, hshown, ?_⟩
  have hbinary := abs_le.mp d.seconds_close
  have htenths := abs_le.mp hround.close
  rw [abs_le]
  constructor <;> linarith

/-- **Whole seconds are shown exactly**, as long as 53 bits suffice for them. -/
theorem inTenths_of_whole {secs : Nat} (h : secs < 2 ^ 53) :
    inTenths ⟨secs, 0⟩ = toString secs ++ ".0" := by
  have hsecs : (Dyadic.nearest secs 1).value = secs := by
    rw [Dyadic.nearest_exact (s := 0) Nat.one_pos (by simp) h]
    simp
  have hseconds : (seconds ⟨secs, 0⟩).value = secs := by
    have hparts : (Dyadic.nearest secs 1).value + (Dyadic.nearest 0 1000000000).value = secs / 2 ^ 0 := by
      rw [hsecs, Dyadic.nearest_zero, add_zero, pow_zero, div_one]
    rw [seconds, Dyadic.value_plus_eq hparts h, hparts, pow_zero, div_one]
  obtain ⟨tenths, hshown, hround⟩ := inTenths_nearest ⟨secs, 0⟩
  have hwhole : (secs : ℚ) * 10 = (secs * 10 : Nat) := by
    push_cast
    rfl
  rw [hseconds, hwhole] at hround
  have hlast : "." ++ toString 0 = ".0" := rfl
  rw [hshown, hround.unique (nearest_natCast _), showTenths, Nat.mul_div_cancel _ (by norm_num),
    Nat.mul_mod_left, String.append_assoc, hlast]

end GoldenRun.Duration
