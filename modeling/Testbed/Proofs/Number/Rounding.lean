/-
**Rounding is as near as the format allows.**

A quotient is rounded to a double that differs from it by no more than one part in `2 ^ 53`, or by
half the smallest double where that is more.  None is found only of a quotient that lies half a unit
or more beyond the greatest double.  What is multiplied, divided or scaled by a power of ten is
rounded in the same way, each step by itself.

Main definitions:

* `Testbed.Double.magnitude` — the magnitude of a double, as a rational number;
* `Testbed.Double.Regular` — a double within the format;
* `Testbed.Double.tolerance` — how far rounding may go;
* `Testbed.Double.timesPower`, `Testbed.Double.floorIn` — a number times a power, and the whole part of
  a quotient in units of a power;
* `Testbed.Double.overflow` — the least quotient that is beyond the format.

Main results:

* `Testbed.Double.exponentFor_spec` — the exponent leaves a mantissa of fifty-three bits;
* `Testbed.Double.ofRatio?_sound`, `Testbed.Double.exists_ofRatio?` — **rounding**;
* `Testbed.Double.scaleByTen?_sound` — what is scaled stays within the format;
* `Testbed.Double.exists_divByTen?`, `Testbed.Double.exists_scaleByTen?` — **scaling by powers of
  ten** finds a double, downwards always and upwards as long as it does not reach too far.
-/

import Testbed.Number.Double
import Mathlib.Algebra.Order.Field.Power
import Mathlib.Tactic.Linarith
import Mathlib.Tactic.Positivity
import Mathlib.Tactic.Ring

set_option relaxedAutoImplicit false
set_option autoImplicit false

namespace Testbed.Double

/-! ### Magnitudes -/

/-- The magnitude of a double, as a rational number. -/
def magnitude (x : Double) : ℚ := x.mantissa * 2 ^ x.exponent

/-- **A double within the format.** -/
structure Regular (x : Double) : Prop where
  narrow : x.mantissa < 2 ^ 53
  least : leastExponent ≤ x.exponent
  greatest : x.exponent ≤ greatestExponent

theorem magnitude_nonneg (x : Double) : 0 ≤ x.magnitude := by
  unfold magnitude
  positivity

theorem Regular.withSign {x : Double} (h : x.Regular) (negative : Bool) :
    (x.withSign negative).Regular := ⟨h.narrow, h.least, h.greatest⟩

theorem regular_zero (negative : Bool) : (zero negative).Regular :=
  ⟨Nat.two_pow_pos 53, Int.le_refl leastExponent, by
    show leastExponent ≤ greatestExponent
    decide⟩

theorem magnitude_zero (negative : Bool) : (zero negative).magnitude = 0 := by
  simp [magnitude, zero]

section

variable {b : ℚ} {e : Int}

/-- A power with a negative exponent. -/
theorem zpow_of_neg (h : e < 0) : b ^ e = (b ^ e.natAbs)⁻¹ := by
  rw [← zpow_natCast, ← zpow_neg]
  congr 1
  omega

/-- A power with an exponent that is not negative. -/
theorem zpow_of_nonneg (h : 0 ≤ e) : b ^ e = b ^ e.natAbs := by
  rw [← zpow_natCast]
  congr 1
  omega

end

theorem two_zpow_pos (e : Int) : (0 : ℚ) < 2 ^ e := zpow_pos two_pos e

theorem two_zpow_le {d e : Int} (h : d ≤ e) : (2 : ℚ) ^ d ≤ 2 ^ e :=
  zpow_le_zpow_right₀ one_le_two h

theorem two_zpow_succ (e : Int) : (2 : ℚ) ^ (e + 1) = 2 * 2 ^ e := by
  rw [zpow_add_one₀ two_ne_zero, mul_comm]

/-- A number times a power, as numerator and denominator. -/
def timesPower (b n : Nat) (e : Int) : Nat × Nat :=
  if e < 0 then (n, Nat.pow b e.natAbs) else (n * Nat.pow b e.natAbs, 1)

theorem timesPower_spec {b : Nat} (hb : 0 < b) (n : Nat) (e : Int) :
    0 < (timesPower b n e).2 ∧
      ((timesPower b n e).1 : ℚ) / (timesPower b n e).2 = n * (b : ℚ) ^ e := by
  unfold timesPower
  split
  · rename_i h
    refine ⟨Nat.pow_pos hb, ?_⟩
    simp [zpow_of_neg h, div_eq_mul_inv]
  · rename_i h
    refine ⟨one_pos, ?_⟩
    simp [zpow_of_nonneg (Int.not_lt.1 h)]

/-- Numerator and denominator of a magnitude are what their names say. -/
theorem ratio_spec (x : Double) :
    0 < x.ratio.2 ∧ (x.ratio.1 : ℚ) / x.ratio.2 = x.magnitude :=
  timesPower_spec two_pos x.mantissa x.exponent

/-! ### Units of powers of two -/

/-- The whole part of a quotient. -/
theorem whole_part (num : Nat) {den : Nat} (h : 0 < den) :
    ((num / den : Nat) : ℚ) ≤ num / den ∧ (num : ℚ) / den < (num / den : Nat) + 1 := by
  have hden : (0 : ℚ) < den := by exact_mod_cast h
  rw [le_div_iff₀ hden, div_lt_iff₀ hden]
  refine ⟨by exact_mod_cast Nat.div_mul_le_self num den, ?_⟩
  exact_mod_cast Nat.lt_mul_of_div_lt (Nat.lt_succ_self (num / den)) h

/-- A quotient rounded to a natural number is at most a half away. -/
theorem abs_roundDiv_sub_le (num : Nat) {den : Nat} (h : 0 < den) :
    |(roundDiv num den : ℚ) - num / den| ≤ 1 / 2 := by
  have hdivision := Nat.div_add_mod num den
  have hrest := Nat.mod_lt num h
  have hnear : 2 * (den * roundDiv num den) ≤ 2 * num + den ∧
      2 * num ≤ 2 * (den * roundDiv num den) + den := by
    unfold roundDiv
    simp only
    split
    · omega
    split
    · rw [Nat.mul_add, Nat.mul_one]
      omega
    · -- a tie: both neighbours are a half away
      rcases Nat.mod_two_eq_zero_or_one (num / den) with htie | htie <;>
        rw [htie, Nat.mul_add] <;> omega
  have hden : (0 : ℚ) < den := by exact_mod_cast h
  have habove : (2 * (den * roundDiv num den) : ℚ) ≤ 2 * num + den := by exact_mod_cast hnear.1
  have hbelow : (2 * num : ℚ) ≤ 2 * (den * roundDiv num den) + den := by exact_mod_cast hnear.2
  rw [abs_sub_le_iff, sub_le_iff_le_add, sub_le_iff_le_add, ← sub_le_iff_le_add',
    le_div_iff₀ hden, div_le_iff₀ hden]
  constructor <;> nlinarith

section

variable {num den : Nat} {e : Int}

/-- A quotient in units of a power, the exponent negative. -/
theorem units_of_neg (b : Nat) (h : e < 0) :
    ((num * Nat.pow b e.natAbs : Nat) : ℚ) / den = num / den / (b : ℚ) ^ e := by
  rw [zpow_of_neg h]
  simp
  ring

/-- A quotient in units of a power, the exponent not negative. -/
theorem units_of_nonneg (b : Nat) (h : 0 ≤ e) :
    (num : ℚ) / ((den * Nat.pow b e.natAbs : Nat) : ℚ) = num / den / (b : ℚ) ^ e := by
  rw [zpow_of_nonneg h]
  simp [div_div]

/-- What is rounded in units of a power of two is at most half a unit away. -/
theorem abs_roundAt_sub_le (num : Nat) {den : Nat} (h : 0 < den) (e : Int) :
    |(roundAt num den e : ℚ) * 2 ^ e - num / den| ≤ 2 ^ e / 2 := by
  have hunit := two_zpow_pos e
  have hunits : |(roundAt num den e : ℚ) - num / den / 2 ^ e| ≤ 1 / 2 := by
    unfold roundAt
    split
    · rename_i hneg
      rw [show (2 : ℚ) = (2 : Nat) from rfl, ← units_of_neg 2 hneg]
      exact abs_roundDiv_sub_le _ h
    · rename_i hnonneg
      rw [show (2 : ℚ) = (2 : Nat) from rfl, ← units_of_nonneg 2 (Int.not_lt.1 hnonneg)]
      exact abs_roundDiv_sub_le _ (Nat.mul_pos h (Nat.pow_pos two_pos))
  calc |(roundAt num den e : ℚ) * 2 ^ e - num / den|
      = |((roundAt num den e : ℚ) - num / den / 2 ^ e) * 2 ^ e| := by
        rw [sub_mul, div_mul_cancel₀ _ hunit.ne']
    _ = |(roundAt num den e : ℚ) - num / den / 2 ^ e| * 2 ^ e := by
        rw [abs_mul, abs_of_pos hunit]
    _ ≤ 1 / 2 * 2 ^ e := by gcongr
    _ = 2 ^ e / 2 := by ring

/-- The whole part of a quotient in units of a power. -/
def floorIn (b num den : Nat) (e : Int) : Nat :=
  if e < 0 then num * Nat.pow b e.natAbs / den else num / (den * Nat.pow b e.natAbs)

theorem floorIn_spec {b : Nat} (hb : 0 < b) (num : Nat) {den : Nat} (h : 0 < den) (e : Int) :
    (floorIn b num den e : ℚ) * (b : ℚ) ^ e ≤ num / den ∧
      (num : ℚ) / den < (floorIn b num den e + 1) * (b : ℚ) ^ e := by
  have hunit : (0 : ℚ) < (b : ℚ) ^ e := zpow_pos (by exact_mod_cast hb) e
  have hunits : (floorIn b num den e : ℚ) ≤ num / den / (b : ℚ) ^ e ∧
      (num : ℚ) / den / (b : ℚ) ^ e < floorIn b num den e + 1 := by
    unfold floorIn
    split
    · rename_i hneg
      rw [← units_of_neg b hneg]
      exact whole_part _ h
    · rename_i hnonneg
      rw [← units_of_nonneg b (Int.not_lt.1 hnonneg)]
      exact whole_part _ (Nat.mul_pos h (Nat.pow_pos hb))
  exact ⟨(le_div_iff₀ hunit).1 hunits.1, (div_lt_iff₀ hunit).1 hunits.2⟩

theorem floorAt_spec (num : Nat) {den : Nat} (h : 0 < den) (e : Int) :
    (floorAt num den e : ℚ) * 2 ^ e ≤ num / den ∧
      (num : ℚ) / den < (floorAt num den e + 1) * 2 ^ e :=
  floorIn_spec two_pos num h e

end

/-! ### Rounding -/

/-- How far from a quotient rounding may go. -/
def tolerance (q : ℚ) : ℚ := max (q / 2 ^ 53) (2 ^ (leastExponent - 1))

/-- The least quotient that is beyond the format: half a unit above the greatest double. -/
def overflow : ℚ := (2 ^ 53 - 1 / 2) * 2 ^ greatestExponent

section

variable {num den : Nat}

/-- **The exponent leaves a mantissa of fifty-three bits**, unless it is the least one. -/
theorem exponentFor_spec (hnum : num ≠ 0) (hden : den ≠ 0) :
    leastExponent ≤ exponentFor num den ∧
      (num : ℚ) / den < 2 ^ 53 * 2 ^ exponentFor num den ∧
      (exponentFor num den = leastExponent ∨ 2 ^ 52 * 2 ^ exponentFor num den ≤ (num : ℚ) / den) := by
  have hpos : (0 : ℚ) < den := by exact_mod_cast Nat.pos_of_ne_zero hden
  set guess : Int := (Nat.log2 num : Int) - (Nat.log2 den : Int) - 52 with hguess
  -- the logarithms leave a quotient of fifty-two or fifty-three bits
  have hbelow : 2 ^ 52 * 2 ^ (guess - 1) ≤ (num : ℚ) / den := by
    have hnumLog : (2 : ℚ) ^ (Nat.log2 num : Int) ≤ num := by
      rw [zpow_natCast]
      exact_mod_cast Nat.log2_self_le hnum
    have hdenLog : (den : ℚ) ≤ 2 ^ ((Nat.log2 den : Int) + 1) := by
      rw [← Nat.cast_succ, zpow_natCast]
      exact_mod_cast Nat.lt_log2_self.le
    calc (2 : ℚ) ^ 52 * 2 ^ (guess - 1)
        = 2 ^ (Nat.log2 num : Int) / 2 ^ ((Nat.log2 den : Int) + 1) := by
          rw [← zpow_natCast, ← zpow_add₀ two_ne_zero, ← zpow_sub₀ two_ne_zero]
          congr 1
          push_cast
          omega
      _ ≤ num / den := by gcongr
  have habove : (num : ℚ) / den < 2 ^ 53 * 2 ^ guess := by
    have hnumLog : (num : ℚ) < 2 ^ ((Nat.log2 num : Int) + 1) := by
      rw [← Nat.cast_succ, zpow_natCast]
      exact_mod_cast Nat.lt_log2_self
    have hdenLog : (2 : ℚ) ^ (Nat.log2 den : Int) ≤ den := by
      rw [zpow_natCast]
      exact_mod_cast Nat.log2_self_le hden
    calc (num : ℚ) / den < 2 ^ ((Nat.log2 num : Int) + 1) / 2 ^ (Nat.log2 den : Int) := by gcongr
      _ = 2 ^ 53 * 2 ^ guess := by
          rw [← zpow_natCast, ← zpow_add₀ two_ne_zero, ← zpow_sub₀ two_ne_zero]
          congr 1
          push_cast
          omega
  -- one more bit, where one is missing
  have hbits : ∃ e : Int, exponentFor num den = max e leastExponent ∧
      2 ^ 52 * 2 ^ e ≤ (num : ℚ) / den ∧ (num : ℚ) / den < 2 ^ 53 * 2 ^ e := by
    obtain ⟨hwhole, hrest⟩ := floorAt_spec num (Nat.pos_of_ne_zero hden) guess
    have hunit := two_zpow_pos guess
    by_cases hshort : floorAt num den guess < Nat.pow 2 52
    · refine ⟨guess - 1, by rw [exponentFor, if_pos hshort], hbelow, hrest.trans_le ?_⟩
      have hfloor : (floorAt num den guess : ℚ) + 1 ≤ 2 ^ 52 := by exact_mod_cast hshort
      have hsucc := two_zpow_succ (guess - 1)
      rw [sub_add_cancel] at hsucc
      calc ((floorAt num den guess : ℚ) + 1) * 2 ^ guess ≤ 2 ^ 52 * 2 ^ guess := by gcongr
        _ = 2 ^ 53 * 2 ^ (guess - 1) := by rw [hsucc]; ring
    · refine ⟨guess, by rw [exponentFor, if_neg hshort], hwhole.trans' ?_, habove⟩
      have hfloor : (2 : ℚ) ^ 52 ≤ floorAt num den guess := by exact_mod_cast Nat.not_lt.1 hshort
      gcongr
  obtain ⟨e, he, hlow, hhigh⟩ := hbits
  rw [he]
  refine ⟨le_max_right _ _, hhigh.trans_le ?_, ?_⟩
  · have hmax := two_zpow_le (le_max_left e leastExponent)
    gcongr
  · rcases max_choice e leastExponent with hmax | hmax
    · exact .inr (by rwa [hmax])
    · exact .inl hmax

variable {negative : Bool}

/-- What is found is what was rounded, its mantissa brought down where it has one bit too many. -/
theorem ofRatio?_eq (negative : Bool) (hnum : num ≠ 0) (hden : den ≠ 0) :
    ∃ (m : Nat) (e : Int),
      ofRatio? negative num den =
        (if greatestExponent < e then none else some ⟨negative, m, e⟩) ∧
      m < 2 ^ 53 ∧ leastExponent ≤ e ∧
      (m : ℚ) * 2 ^ e = roundAt num den (exponentFor num den) * 2 ^ exponentFor num den ∧
      (e = exponentFor num den ∨
        e = exponentFor num den + 1 ∧ roundAt num den (exponentFor num den) = 2 ^ 53) := by
  obtain ⟨hleast, hhigh, -⟩ := exponentFor_spec hnum hden
  have hnear := abs_roundAt_sub_le num (Nat.pos_of_ne_zero hden) (exponentFor num den)
  set e := exponentFor num den with he
  have hunit := two_zpow_pos e
  have hmost : roundAt num den e ≤ 2 ^ 53 := by
    have hround : (roundAt num den e : ℚ) * 2 ^ e < (2 ^ 53 + 1) * 2 ^ e := by
      have hle := (abs_sub_le_iff.1 hnear).1
      nlinarith
    have hlt : (roundAt num den e : ℚ) < 2 ^ 53 + 1 := lt_of_mul_lt_mul_right hround hunit.le
    exact Nat.lt_succ_iff.1 (by exact_mod_cast hlt)
  by_cases hcarry : roundAt num den e = 2 ^ 53
  · refine ⟨2 ^ 52, e + 1, ?_, by norm_num, by omega, ?_, .inr ⟨rfl, hcarry⟩⟩
    · simp only [ofRatio?, if_neg hnum]
      rw [← he, if_pos (show roundAt num den e = Nat.pow 2 53 from hcarry)]
      rfl
    · rw [hcarry, two_zpow_succ]
      push_cast
      ring
  · refine ⟨roundAt num den e, e, ?_, lt_of_le_of_ne hmost hcarry, hleast, rfl, .inl rfl⟩
    simp only [ofRatio?, if_neg hnum]
    rw [← he, if_neg (show ¬ roundAt num den e = Nat.pow 2 53 from hcarry)]

/-- **A quotient is rounded to a double of the format, as near as the format allows.** -/
theorem ofRatio?_sound {y : Double} (hden : den ≠ 0) (h : ofRatio? negative num den = some y) :
    y.Regular ∧ |y.magnitude - num / den| ≤ tolerance (num / den) := by
  by_cases hnum : num = 0
  · subst hnum
    cases h
    refine ⟨regular_zero negative, ?_⟩
    rw [magnitude_zero]
    simp [tolerance, (two_zpow_pos _).le]
  obtain ⟨m, e, heq, hnarrow, hleast, hvalue, -⟩ := ofRatio?_eq negative hnum hden
  rw [heq] at h
  split at h
  · cases h
  rename_i hgreatest
  cases h
  refine ⟨⟨hnarrow, hleast, Int.not_lt.1 hgreatest⟩, ?_⟩
  have hnear := abs_roundAt_sub_le num (Nat.pos_of_ne_zero hden) (exponentFor num den)
  rw [← hvalue] at hnear
  refine hnear.trans ?_
  obtain ⟨-, -, hexponent | hexponent⟩ := exponentFor_spec hnum hden
  · refine le_max_of_le_right ?_
    have hhalf := two_zpow_succ (leastExponent - 1)
    rw [sub_add_cancel] at hhalf
    rw [hexponent, hhalf]
    linarith
  · refine le_max_of_le_left ?_
    rw [le_div_iff₀ (by positivity)]
    linarith

/-- **Every quotient below the greatest double and half a unit is rounded to a double.** -/
theorem exists_ofRatio? (hden : den ≠ 0) (h : (num : ℚ) / den < overflow) :
    ∃ y, ofRatio? negative num den = some y := by
  by_cases hnum : num = 0
  · exact ⟨zero negative, if_pos hnum⟩
  obtain ⟨m, e, heq, -, -, -, hexponent⟩ := ofRatio?_eq negative hnum hden
  obtain ⟨-, -, hnormal⟩ := exponentFor_spec hnum hden
  suffices hroom : e ≤ greatestExponent from
    ⟨_, heq.trans (if_neg (Int.not_lt.2 hroom))⟩
  by_contra hbeyond
  have hgreatest := two_zpow_pos greatestExponent
  have hgrown : ∀ k : Int, greatestExponent < k → 2 * 2 ^ greatestExponent ≤ (2 : ℚ) ^ k := by
    intro k hk
    rw [← two_zpow_succ]
    exact two_zpow_le hk
  rcases hexponent with rfl | ⟨rfl, hcarry⟩
  · -- a mantissa of fifty-three bits with a greater exponent
    rcases hnormal with hleast | hnormal
    · exact hbeyond (by rw [hleast]; decide)
    · have hpower := hgrown _ (Int.not_le.1 hbeyond)
      rw [overflow] at h
      nlinarith
  · -- a mantissa that was rounded up
    have hpower := two_zpow_le (d := greatestExponent) (e := exponentFor num den) (by omega)
    have hnear := abs_roundAt_sub_le num (Nat.pos_of_ne_zero hden) (exponentFor num den)
    rw [hcarry] at hnear
    have hbelow := (abs_sub_le_iff.1 hnear).1
    rw [overflow] at h
    push_cast at hbelow
    nlinarith

end

/-! ### Products and quotients -/

theorem tolerance_of_one_le {q : ℚ} (h : 1 ≤ q) : tolerance q = q / 2 ^ 53 := by
  refine max_eq_left ?_
  calc (2 : ℚ) ^ (leastExponent - 1) ≤ 2 ^ (-53 : Int) := two_zpow_le (by decide)
    _ = 1 / 2 ^ 53 := by norm_num
    _ ≤ q / 2 ^ 53 := by gcongr

theorem tolerance_le {q b : ℚ} (h : q ≤ 2 ^ 53 * b) (hb : 1 ≤ b) : tolerance q ≤ b := by
  refine max_le ((div_le_iff₀' (by positivity)).2 h) ?_
  calc (2 : ℚ) ^ (leastExponent - 1) ≤ 2 ^ (0 : Int) := two_zpow_le (by decide)
    _ = 1 := zpow_zero 2
    _ ≤ b := hb

theorem overflow_eq : overflow = 2 ^ 1024 - 2 ^ 970 := by
  have hgreatest : (2 : ℚ) ^ greatestExponent = 2 * 2 ^ 970 :=
    (zpow_natCast 2 971).trans (pow_succ' 2 970)
  have hlast : (2 : ℚ) ^ 1024 = 2 ^ 54 * 2 ^ 970 := pow_add 2 54 970
  rw [overflow, hgreatest, hlast]
  generalize (2 : ℚ) ^ 970 = unit
  ring

/-- A natural number is below the limit of the format if it is in this sense. -/
theorem lt_overflow {n : Nat} (h : n + 2 ^ 970 < 2 ^ 1024) : (n : ℚ) < overflow := by
  have hcast : (n : ℚ) + 2 ^ 970 < 2 ^ 1024 := by exact_mod_cast h
  rw [overflow_eq]
  exact lt_sub_iff_add_lt.2 hcast

/-- The limit of the format is below the first power of ten that is no double. -/
theorem overflow_lt_ten_zpow : overflow < 10 ^ ((greatestPowerOfTen : Int) + 1) := by
  have hpower : 2 ^ 1024 < 10 ^ (greatestPowerOfTen + 1) := by decide +kernel
  have hcast : (2 : ℚ) ^ 1024 < 10 ^ (greatestPowerOfTen + 1) := by exact_mod_cast hpower
  rw [overflow_eq, ← Nat.cast_succ, zpow_natCast]
  exact (sub_lt_self _ (by positivity)).trans hcast

/-- What is half a unit above a double is beyond the format at most by as much. -/
theorem Regular.le_overflow {x : Double} (h : x.Regular) :
    (x.mantissa + 1 / 2) * 2 ^ x.exponent ≤ overflow := by
  have hmantissa : (x.mantissa : ℚ) + 1 ≤ 2 ^ 53 := by exact_mod_cast h.narrow
  have hexponent := two_zpow_le h.greatest
  rw [overflow]
  exact mul_le_mul (by linarith) hexponent (two_zpow_pos _).le (by norm_num)

/-- Half a unit above a double there is room for two roundings, unless the double is one of the two
greatest. -/
theorem Regular.room {x : Double} (h : x.Regular)
    (hless : x.exponent < greatestExponent ∨ x.mantissa + 3 ≤ 2 ^ 53) :
    (x.mantissa + 1 / 2) * 2 ^ x.exponent * (1 + 1 / 2 ^ 53) ^ 2 < overflow := by
  have hgreatest := two_zpow_pos greatestExponent
  have hunit := two_zpow_pos x.exponent
  have hfactor : (0 : ℚ) < (1 + 1 / 2 ^ 53) ^ 2 := by norm_num
  rw [overflow]
  rcases hless with hexponent | hmantissa
  · have hpower : 2 * (2 : ℚ) ^ x.exponent ≤ 2 ^ greatestExponent := by
      rw [← two_zpow_succ]
      exact two_zpow_le hexponent
    have hnarrow : (x.mantissa : ℚ) + 1 / 2 ≤ 2 ^ 53 := by
      have hlt : (x.mantissa : ℚ) + 1 ≤ 2 ^ 53 := by exact_mod_cast h.narrow
      linarith
    calc (x.mantissa + 1 / 2) * (2 : ℚ) ^ x.exponent * (1 + 1 / 2 ^ 53) ^ 2
        ≤ 2 ^ 53 * (2 ^ greatestExponent / 2) * (1 + 1 / 2 ^ 53) ^ 2 := by
          gcongr
          linarith
      _ < (2 ^ 53 - 1 / 2) * 2 ^ greatestExponent := by nlinarith
  · have hpower := two_zpow_le h.greatest
    have hnarrow : (x.mantissa : ℚ) + 1 / 2 ≤ 2 ^ 53 - 5 / 2 := by
      have hle : (x.mantissa : ℚ) + 3 ≤ 2 ^ 53 := by exact_mod_cast hmantissa
      linarith
    have hproduct : (x.mantissa + 1 / 2) * (2 : ℚ) ^ x.exponent ≤
        (2 ^ 53 - 5 / 2) * 2 ^ greatestExponent :=
      mul_le_mul hnarrow hpower hunit.le (by norm_num)
    calc (x.mantissa + 1 / 2) * (2 : ℚ) ^ x.exponent * (1 + 1 / 2 ^ 53) ^ 2
        ≤ (2 ^ 53 - 5 / 2) * 2 ^ greatestExponent * (1 + 1 / 2 ^ 53) ^ 2 :=
          mul_le_mul_of_nonneg_right hproduct hfactor.le
      _ < (2 ^ 53 - 1 / 2) * 2 ^ greatestExponent := by nlinarith

section

variable {x y z : Double}

theorem mul?_eq : x.mul? y = ofRatio? (x.negative != y.negative) (x.ratio.1 * y.ratio.1)
    (x.ratio.2 * y.ratio.2) := rfl

theorem div?_eq : x.div? y = ofRatio? (x.negative != y.negative) (x.ratio.1 * y.ratio.2)
    (x.ratio.2 * y.ratio.1) := rfl

/-- **A product is rounded.** -/
theorem mul?_sound (h : x.mul? y = some z) :
    z.Regular ∧ |z.magnitude - x.magnitude * y.magnitude| ≤
      tolerance (x.magnitude * y.magnitude) := by
  obtain ⟨hx, hxv⟩ := ratio_spec x
  obtain ⟨hy, hyv⟩ := ratio_spec y
  rw [mul?_eq] at h
  have hsound := ofRatio?_sound (Nat.mul_pos hx hy).ne' h
  rwa [Nat.cast_mul, Nat.cast_mul, mul_div_mul_comm, hxv, hyv] at hsound

theorem exists_mul? (h : x.magnitude * y.magnitude < overflow) : ∃ z, x.mul? y = some z := by
  obtain ⟨hx, hxv⟩ := ratio_spec x
  obtain ⟨hy, hyv⟩ := ratio_spec y
  rw [mul?_eq]
  refine exists_ofRatio? (Nat.mul_pos hx hy).ne' ?_
  rwa [Nat.cast_mul, Nat.cast_mul, mul_div_mul_comm, hxv, hyv]

theorem ratio_ne_zero (h : 0 < y.magnitude) : y.ratio.1 ≠ 0 := by
  intro hzero
  have hvalue := (ratio_spec y).2
  rw [hzero, Nat.cast_zero, zero_div] at hvalue
  exact h.ne hvalue

/-- **A quotient is rounded.** -/
theorem div?_sound (hpos : 0 < y.magnitude) (h : x.div? y = some z) :
    z.Regular ∧ |z.magnitude - x.magnitude / y.magnitude| ≤
      tolerance (x.magnitude / y.magnitude) := by
  obtain ⟨hx, hxv⟩ := ratio_spec x
  obtain ⟨-, hyv⟩ := ratio_spec y
  rw [div?_eq] at h
  have hsound := ofRatio?_sound (Nat.mul_ne_zero hx.ne' (ratio_ne_zero hpos)) h
  rwa [Nat.cast_mul, Nat.cast_mul, ← div_div_div_eq, hxv, hyv] at hsound

theorem exists_div? (hpos : 0 < y.magnitude) (h : x.magnitude / y.magnitude < overflow) :
    ∃ z, x.div? y = some z := by
  obtain ⟨hx, hxv⟩ := ratio_spec x
  obtain ⟨-, hyv⟩ := ratio_spec y
  rw [div?_eq]
  refine exists_ofRatio? (Nat.mul_ne_zero hx.ne' (ratio_ne_zero hpos)) ?_
  rwa [Nat.cast_mul, Nat.cast_mul, ← div_div_div_eq, hxv, hyv]

/-- A natural number is rounded by one part in `2 ^ 53` at the most. -/
theorem ofNat?_sound {n : Nat} (h : ofNat? n = some y) :
    y.Regular ∧ |y.magnitude - n| ≤ n / 2 ^ 53 := by
  rcases Nat.eq_zero_or_pos n with rfl | hpos
  · cases h
    exact ⟨regular_zero false, by simp [magnitude_zero]⟩
  · obtain ⟨hregular, hnear⟩ := ofRatio?_sound one_ne_zero h
    have hone : (1 : ℚ) ≤ n := by exact_mod_cast hpos
    rw [Nat.cast_one, div_one, tolerance_of_one_le hone] at hnear
    exact ⟨hregular, hnear⟩

theorem exists_ofNat? {n : Nat} (h : (n : ℚ) < overflow) : ∃ y, ofNat? n = some y :=
  exists_ofRatio? one_ne_zero (by rwa [Nat.cast_one, div_one])

end

/-! ### Powers of ten -/

section

variable {x y : Double} {k : Nat}

theorem sub_greatestPowerOfTen_lt (h : ¬ k ≤ greatestPowerOfTen) : k - greatestPowerOfTen < k :=
  Nat.sub_lt (Nat.zero_lt_of_lt (Nat.not_le.1 h)) (by decide)

/-- **Every power of ten within the format is a double**, rounded. -/
theorem exists_powerOfTen? (h : k ≤ greatestPowerOfTen) :
    ∃ p : Double, powerOfTen? k = some p ∧ (10 : ℚ) ^ k / 2 ≤ p.magnitude ∧
      p.magnitude ≤ (10 : ℚ) ^ k * (1 + 1 / 2 ^ 53) := by
  have hlimit : ((10 ^ k : Nat) : ℚ) < overflow := by
    have hgreatest : 10 ^ greatestPowerOfTen + 2 ^ 970 < 2 ^ 1024 := by decide +kernel
    have hpower : 10 ^ k ≤ 10 ^ greatestPowerOfTen := Nat.pow_le_pow_right (by decide) h
    exact lt_overflow ((Nat.add_le_add_right hpower _).trans_lt hgreatest)
  obtain ⟨p, hp⟩ := exists_ofNat? hlimit
  obtain ⟨-, hnear⟩ := ofNat?_sound hp
  obtain ⟨habove, hbelow⟩ := abs_sub_le_iff.1 hnear
  push_cast at habove hbelow
  have hpos : (0 : ℚ) < 10 ^ k := by positivity
  exact ⟨p, hp, by linarith, by linarith⟩

/-- **Division by powers of ten always finds a double**, if it starts with one that is not too
great: each step makes it less. -/
theorem exists_divByTen? (k : Nat) (h : x.magnitude ≤ 2 ^ 66) : ∃ y, x.divByTen? k = some y := by
  have hroom : ((2 ^ 67 : Nat) : ℚ) < overflow := lt_overflow (by decide +kernel)
  push_cast at hroom
  have hx := x.magnitude_nonneg
  induction k using Nat.strong_induction_on generalizing x with
  | _ k ih =>
  rw [divByTen?]
  split
  · rename_i hk
    obtain ⟨p, hp, hlow, -⟩ := exists_powerOfTen? hk
    have hone : (1 : ℚ) ≤ 10 ^ k := one_le_pow₀ (by norm_num)
    have hhalf : 1 / 2 ≤ p.magnitude := by linarith
    rw [hp]
    refine exists_div? (by linarith) (lt_of_le_of_lt ?_ hroom)
    rw [div_le_iff₀ (by linarith)]
    nlinarith
  split
  · exact ⟨x, rfl⟩
  · rename_i hk _
    obtain ⟨p, hp, hlow, -⟩ := exists_powerOfTen? (le_refl greatestPowerOfTen)
    have hten : (10 : ℚ) ≤ 10 ^ greatestPowerOfTen := le_self_pow₀ (by norm_num) (by decide)
    have htwo : 2 ≤ p.magnitude := by linarith
    have hquotient : x.magnitude / p.magnitude ≤ 2 ^ 65 := by
      rw [div_le_iff₀ (by linarith)]
      nlinarith
    obtain ⟨y, hy⟩ := exists_div? (x := x) (y := p) (by linarith) (by linarith)
    have hnear := (abs_sub_le_iff.1 (div?_sound (by linarith) hy).2).1
    have htolerance : tolerance (x.magnitude / p.magnitude) ≤ 2 ^ 65 :=
      tolerance_le (by linarith) (by norm_num)
    rw [hp]
    show ∃ z, (x.div? p).bind (fun y => y.divByTen? (k - greatestPowerOfTen)) = some z
    rw [hy]
    exact ih _ (sub_greatestPowerOfTen_lt hk) (by linarith) y.magnitude_nonneg

/-- **Scaling by a power of ten finds a double**, if it does not reach too far. -/
theorem exists_scaleByTen? {k : Int} (h : x.magnitude ≤ 2 ^ 66) (hk : k ≤ greatestPowerOfTen)
    (hroom : x.magnitude * (10 ^ k * (1 + 1 / 2 ^ 53)) < overflow) :
    ∃ y, x.scaleByTen? k = some y := by
  unfold scaleByTen?
  split
  · exact exists_divByTen? _ h
  · rename_i hnonneg
    have hpower : k.natAbs ≤ greatestPowerOfTen := by omega
    obtain ⟨p, hp, -, hhigh⟩ := exists_powerOfTen? hpower
    rw [if_pos hpower, hp]
    refine exists_mul? (lt_of_le_of_lt ?_ hroom)
    rw [zpow_of_nonneg (Int.not_lt.1 hnonneg)]
    exact mul_le_mul_of_nonneg_left hhigh x.magnitude_nonneg

/-- What is divided by powers of ten stays within the format. -/
theorem divByTen?_regular (hx : x.Regular) (h : x.divByTen? k = some y) : y.Regular := by
  induction k using Nat.strong_induction_on generalizing x with
  | _ k ih =>
  rw [divByTen?] at h
  split at h
  · rename_i hk
    obtain ⟨p, hp, hlow, -⟩ := exists_powerOfTen? hk
    have hpos : (0 : ℚ) < 10 ^ k / 2 := by positivity
    rw [hp] at h
    exact (div?_sound (hpos.trans_le hlow) h).1
  split at h
  · cases h
    exact hx
  · rename_i hk _
    obtain ⟨p, hp, hlow, -⟩ := exists_powerOfTen? (le_refl greatestPowerOfTen)
    have hpos : (0 : ℚ) < 10 ^ greatestPowerOfTen / 2 := by positivity
    rw [hp] at h
    change (x.div? p).bind (fun z => z.divByTen? (k - greatestPowerOfTen)) = some y at h
    obtain ⟨z, hz, hrest⟩ := Option.bind_eq_some_iff.1 h
    exact ih _ (sub_greatestPowerOfTen_lt hk) (div?_sound (hpos.trans_le hlow) hz).1 hrest

/-- **What is scaled by a power of ten stays within the format.** -/
theorem scaleByTen?_sound {k : Int} (hx : x.Regular) (h : x.scaleByTen? k = some y) :
    y.Regular := by
  unfold scaleByTen? at h
  split at h
  · exact divByTen?_regular hx h
  split at h
  · obtain ⟨p, -, hmul⟩ := Option.bind_eq_some_iff.1 h
    exact (mul?_sound hmul).1
  split at h
  · cases h
    exact hx
  · cases h

end

end Testbed.Double
