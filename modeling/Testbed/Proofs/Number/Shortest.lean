/-
**The digits of a double do not exceed it by half a unit.**

The digits that are written of a double stand for a number that is positive and no greater than
what is rounded down to the double.  The search for them ends with such a number at every place:
where it finds one among its neighbours, and after seventeen digits too, which are the whole part of
the double in units that it exceeds.

Main definition:

* `Testbed.Double.Reaches` — a number that is positive and not beyond the reach of a double.

Main results:

* `Testbed.Double.decimalExponent_le` — the search starts below the double;
* `Testbed.Double.search_of_inside` — what holds of all that the search may end with;
* `Testbed.Double.shortest_reaches` — **the digits of a double**.
-/

import Testbed.Proofs.Number.Rounding
import Mathlib.Data.Nat.Digits.Lemmas

set_option relaxedAutoImplicit false
set_option autoImplicit false

namespace Testbed.Double

theorem ten_zpow_pos (k : Int) : (0 : ℚ) < 10 ^ k := zpow_pos (by norm_num) k

theorem ten_zpow_le {j k : Int} (h : j ≤ k) : (10 : ℚ) ^ j ≤ 10 ^ k :=
  zpow_le_zpow_right₀ (by norm_num) h

/-! ### The place of the first digit -/

/-- A number is no less than the power of ten of its first digit. -/
theorem pow_length_toDigits_le {n : Nat} (h : n ≠ 0) :
    10 ^ ((Nat.toDigits 10 n).length - 1) ≤ n := by
  rcases Nat.eq_zero_or_pos ((Nat.toDigits 10 n).length - 1) with hone | hmore
  · rw [hone, Nat.pow_zero]
    exact Nat.pos_of_ne_zero h
  · by_contra hlt
    have hfewer := (Nat.length_toDigits_le_iff (b := 10) (by decide) hmore).2 (Nat.not_le.1 hlt)
    omega

section

variable {num den : Nat}

/-- Climbing from a place down to the first that a quotient reaches. -/
theorem climb_le (hden : 0 < den) (fuel j : Nat)
    (hlast : (10 : ℚ) ^ (-((j + fuel : Nat) : Int)) ≤ num / den) :
    (10 : ℚ) ^ decimalExponent.climb den fuel j (num * 10 ^ j) ≤ num / den := by
  induction fuel generalizing j with
  | zero => exact hlast
  | succ fuel ih =>
      rw [decimalExponent.climb]
      split
      · rename_i hreached
        have hpos : (0 : ℚ) < den := by exact_mod_cast hden
        have hpower : (0 : ℚ) < 10 ^ j := by positivity
        have hreached' : (den : ℚ) ≤ num * 10 ^ j := by exact_mod_cast hreached
        rw [zpow_neg, zpow_natCast, le_div_iff₀ hpos, inv_mul_le_iff₀ hpower]
        linarith
      · rw [Nat.mul_assoc, ← Nat.pow_succ]
        refine ih (j + 1) ?_
        rwa [Nat.add_right_comm, Nat.add_assoc]

/-- **The place of the first digit**: the power of ten there is no more than the quotient, if this is
not too small. -/
theorem decimalExponent_le (hden : 0 < den)
    (h : (10 : ℚ) ^ (-401 : Int) ≤ num / den) :
    (10 : ℚ) ^ decimalExponent num den ≤ num / den := by
  unfold decimalExponent
  split
  · rename_i hone
    have hquotient : num / den ≠ 0 := (Nat.div_pos hone hden).ne'
    have hlength : 0 < (Nat.toDigits 10 (num / den)).length := Nat.length_toDigits_pos
    rw [← Nat.cast_pred hlength, zpow_natCast]
    calc (10 : ℚ) ^ ((Nat.toDigits 10 (num / den)).length - 1) ≤ (num / den : Nat) := by
          exact_mod_cast pow_length_toDigits_le hquotient
      _ ≤ num / den := (whole_part num hden).1
  · have hclimb := climb_le hden 400 1 h
    rwa [pow_one] at hclimb

end

/-! ### The search -/

/-- **A number is positive and not beyond the reach of a double**: it exceeds the double by half a
unit at the most. -/
def Reaches (x : Double) (c : Nat) (k : Int) : Prop :=
  0 < c ∧ (c : ℚ) * 10 ^ k ≤ (x.mantissa + 1 / 2) * 2 ^ x.exponent

/-- A decimal number as numerator and denominator. -/
theorem gridPoint_spec (c : Nat) (k : Int) :
    0 < (gridPoint c k).2 ∧ ((gridPoint c k).1 : ℚ) / (gridPoint c k).2 = c * 10 ^ k :=
  timesPower_spec (by decide) c k

section

variable {P : Nat → Int → Prop} {value den : Nat} {inside : Nat × Nat → Bool}

/-- **What holds of all that the search may end with**: what is inside, and what is left at the last
place. -/
theorem search_of_inside (hinside : ∀ c k, inside (gridPoint c k) = true → P c k) {left : Nat}
    {k : Int} (hlast : P (shortest.floorTen value den (k - left)) (k - left)) :
    P (shortest.search value den inside left k).1 (shortest.search value den inside left k).2 := by
  induction left generalizing k with
  | zero => simpa [shortest.search] using hlast
  | succ left ih =>
      have hbelow := hinside (shortest.floorTen value den k) k
      have habove := hinside (shortest.floorTen value den k + 1) k
      rw [shortest.search]
      simp only
      split
      · rename_i hboth
        obtain ⟨hb, ha⟩ := Bool.and_eq_true_iff.1 hboth
        split
        · exact hbelow hb
        split
        · exact habove ha
        split
        · exact hbelow hb
        · exact habove ha
      split
      · exact hbelow ‹_›
      split
      · exact habove ‹_›
      · refine ih ?_
        rwa [Int.sub_sub, Int.add_comm 1, ← Nat.cast_succ]

end

/-- Ten in the last place is one in the place before it. -/
theorem Reaches.carry {x : Double} {p : Nat × Int} (h : x.Reaches p.1 p.2) :
    x.Reaches (shortest.carry p).1 (shortest.carry p).2 := by
  obtain ⟨c, k⟩ := p
  rw [shortest.carry]
  split
  · rename_i hten
    subst hten
    refine ⟨one_pos, ?_⟩
    have hvalue : ((1 : Nat) : ℚ) * 10 ^ (k + 1) = (10 : Nat) * 10 ^ k := by
      rw [zpow_add_one₀ (by norm_num)]
      push_cast
      ring
    rw [hvalue]
    exact h.2
  · exact h

/-- The unit in which the search reckons. -/
def searchUnit (e : Int) : Nat × Nat :=
  if e - 2 < 0 then (1, Nat.pow 2 (e - 2).natAbs) else (Nat.pow 2 (e - 2).natAbs, 1)

theorem searchUnit_spec (e : Int) :
    0 < (searchUnit e).1 ∧ 0 < (searchUnit e).2 ∧
      4 * (((searchUnit e).1 : ℚ) / (searchUnit e).2) = 2 ^ e := by
  have hquarter : 4 * (2 : ℚ) ^ (e - 2) = 2 ^ e := by
    rw [zpow_sub₀ two_ne_zero]
    norm_num
    ring
  rw [← hquarter]
  unfold searchUnit
  split
  · rename_i h
    refine ⟨one_pos, Nat.pow_pos two_pos, ?_⟩
    simp [zpow_of_neg h]
  · rename_i h
    refine ⟨Nat.pow_pos two_pos, one_pos, ?_⟩
    simp [zpow_of_nonneg (Int.not_lt.1 h)]

/-- The least double that is not zero exceeds the last place that the search climbs to. -/
theorem ten_zpow_le_magnitude {x : Double} (hpos : 0 < x.mantissa)
    (hleast : leastExponent ≤ x.exponent) : (10 : ℚ) ^ (-401 : Int) ≤ x.magnitude := by
  have hpower : 2 ^ 1074 ≤ 10 ^ 401 := by decide +kernel
  have hmantissa : (1 : ℚ) ≤ x.mantissa := by exact_mod_cast hpos
  calc (10 : ℚ) ^ (-401 : Int) = (10 ^ 401)⁻¹ := zpow_neg_coe_of_pos 10 (by decide)
    _ ≤ (2 ^ 1074)⁻¹ := inv_anti₀ (by positivity) (by exact_mod_cast hpower)
    _ = 2 ^ leastExponent := (zpow_neg_coe_of_pos 2 (by decide)).symm
    _ ≤ 2 ^ x.exponent := two_zpow_le hleast
    _ ≤ x.mantissa * 2 ^ x.exponent := le_mul_of_one_le_left (two_zpow_pos _).le hmantissa

/-- The double in the units of the search. -/
def searchValue (x : Double) : Nat := 4 * x.mantissa * (searchUnit x.exponent).1

/-- The lower end of the numbers that are rounded to a double, in the units of the search. -/
def searchLow (x : Double) : Nat :=
  (if x.mantissa = Nat.pow 2 52 ∧ x.exponent ≠ leastExponent then 4 * x.mantissa - 1
    else 4 * x.mantissa - 2) * (searchUnit x.exponent).1

/-- The upper end of the numbers that are rounded to a double, in the units of the search. -/
def searchHigh (x : Double) : Nat := (4 * x.mantissa + 2) * (searchUnit x.exponent).1

/-- Is a quotient rounded to a double? -/
def isInside (x : Double) (p : Nat × Nat) : Bool :=
  if x.mantissa % 2 = 0 then
    searchLow x * p.2 ≤ p.1 * (searchUnit x.exponent).2 &&
      p.1 * (searchUnit x.exponent).2 ≤ searchHigh x * p.2
  else
    searchLow x * p.2 < p.1 * (searchUnit x.exponent).2 &&
      p.1 * (searchUnit x.exponent).2 < searchHigh x * p.2

theorem shortest_eq (x : Double) :
    x.shortest = shortest.carry (shortest.search (searchValue x) (searchUnit x.exponent).2
      (isInside x) 17 (decimalExponent (searchValue x) (searchUnit x.exponent).2)) := rfl

theorem bounds_of_isInside {x : Double} {p : Nat × Nat} (h : isInside x p = true) :
    searchLow x * p.2 ≤ p.1 * (searchUnit x.exponent).2 ∧
      p.1 * (searchUnit x.exponent).2 ≤ searchHigh x * p.2 := by
  unfold isInside at h
  split at h
  · simpa using h
  · simp only [Bool.and_eq_true, decide_eq_true_eq] at h
    exact ⟨h.1.le, h.2.le⟩

section

variable {x : Double} (hpos : 0 < x.mantissa)
include hpos

/-- What is inside is positive and within reach. -/
theorem reaches_of_isInside {c : Nat} {k : Int} (h : isInside x (gridPoint c k) = true) :
    x.Reaches c k := by
  obtain ⟨hnum, hden, hunit⟩ := searchUnit_spec x.exponent
  obtain ⟨hgrid, hvalue⟩ := gridPoint_spec c k
  obtain ⟨hlow, hhigh⟩ := bounds_of_isInside h
  have hden' : (0 : ℚ) < (searchUnit x.exponent).2 := by exact_mod_cast hden
  have hgrid' : (0 : ℚ) < (gridPoint c k).2 := by exact_mod_cast hgrid
  constructor
  · have hend : 0 < searchLow x := by
      refine Nat.mul_pos ?_ hnum
      split <;> omega
    have hleft : 0 < (gridPoint c k).1 :=
      Nat.pos_of_mul_pos_right ((Nat.mul_pos hend hgrid).trans_le hlow)
    have hleft' : (0 : ℚ) < c * 10 ^ k := by
      rw [← hvalue]
      exact div_pos (by exact_mod_cast hleft) hgrid'
    exact_mod_cast pos_of_mul_pos_left hleft' (ten_zpow_pos k).le
  · have hhigh' : ((gridPoint c k).1 : ℚ) * (searchUnit x.exponent).2 ≤
        (4 * x.mantissa + 2) * (searchUnit x.exponent).1 * (gridPoint c k).2 := by
      exact_mod_cast hhigh
    calc (c : ℚ) * 10 ^ k = (gridPoint c k).1 / (gridPoint c k).2 := hvalue.symm
      _ ≤ (4 * x.mantissa + 2) * (searchUnit x.exponent).1 / (searchUnit x.exponent).2 := by
          rwa [div_le_div_iff₀ hgrid' hden']
      _ = (x.mantissa + 1 / 2) * 2 ^ x.exponent := by
          rw [← hunit]
          ring

theorem searchValue_spec :
    0 < searchValue x ∧ (searchValue x : ℚ) / (searchUnit x.exponent).2 = x.magnitude := by
  obtain ⟨hnum, -, hunit⟩ := searchUnit_spec x.exponent
  refine ⟨Nat.mul_pos (Nat.mul_pos (by decide) hpos) hnum, ?_⟩
  rw [magnitude, ← hunit, searchValue]
  push_cast
  ring

/-- The first seventeen digits of a double are positive and within reach. -/
theorem reaches_floorTen {k : Int} (h : (10 : ℚ) ^ k ≤ x.magnitude) :
    x.Reaches (shortest.floorTen (searchValue x) (searchUnit x.exponent).2 k) k := by
  obtain ⟨-, hden, -⟩ := searchUnit_spec x.exponent
  obtain ⟨-, hvalue⟩ := searchValue_spec hpos
  have hfloor := floorIn_spec (b := 10) (by decide) (searchValue x) hden k
  rw [hvalue] at hfloor
  push_cast at hfloor
  obtain ⟨hbelow, habove⟩ := hfloor
  refine ⟨?_, hbelow.trans ?_⟩
  · have hone : (1 : ℚ) * 10 ^ k <
        (floorIn 10 (searchValue x) (searchUnit x.exponent).2 k + 1) * 10 ^ k := by
      rw [one_mul]
      exact h.trans_lt habove
    have hlt := lt_of_mul_lt_mul_right hone (ten_zpow_pos k).le
    exact Nat.succ_lt_succ_iff.1 (by exact_mod_cast hlt)
  · have hunit := two_zpow_pos x.exponent
    rw [magnitude]
    nlinarith

/-- **The digits of a double.** -/
theorem shortest_reaches (hleast : leastExponent ≤ x.exponent) :
    x.Reaches x.shortest.1 x.shortest.2 := by
  obtain ⟨-, hden, -⟩ := searchUnit_spec x.exponent
  obtain ⟨-, hvalue⟩ := searchValue_spec hpos
  have htop := decimalExponent_le hden
    (hvalue ▸ ten_zpow_le_magnitude hpos hleast)
  rw [hvalue] at htop
  rw [shortest_eq]
  refine Reaches.carry (search_of_inside (P := x.Reaches) (fun c k => reaches_of_isInside hpos) ?_)
  exact reaches_floorTen hpos ((ten_zpow_le (by omega)).trans htop)

end

end Testbed.Double
