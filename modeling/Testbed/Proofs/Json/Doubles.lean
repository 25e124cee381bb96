/-
**What was read of a number is read again.**

A double that was read is written with digits of which some number is read, though not always the
same one: the digits are scaled by a power of ten that was rounded itself.  What matters is that the
digits are never beyond the format.  They exceed the double by half a unit at the most, and only of
the two greatest doubles this half might be too much; of these the digits are looked at themselves.

Main definitions:

* `Testbed.Json.NumberText.significand`, `Testbed.Json.NumberText.scale` — what a written number is
  reckoned from.

Main results:

* `Testbed.Json.absorb_spec` — the digits that fit into a word;
* `Testbed.Json.NumberText.exists_double?`, `Testbed.Json.NumberText.regular_of_double?` — the double
  of a written number;
* `Testbed.Json.exists_lexeme_write` — **a double within the format is written as a number**;
* `Testbed.Json.Lexeme.again` — **the text of a number that was read is read again**;
* `Testbed.Json.exists_denotes_compact` — and so is a value that was read.
-/

import Testbed.Proofs.Json.Numbers
import Testbed.Proofs.Number.Shortest

set_option relaxedAutoImplicit false
set_option autoImplicit false

namespace Testbed.Json

open Double (overflow)

/-! ### The digits that fit into a word -/

/-- The number of digits that go on from another number. -/
def valueFrom (n : Nat) (ds : List Char) : Nat :=
  ds.foldl (fun n c => 10 * n + Decimal.digitValue c) n

theorem le_valueFrom (n : Nat) (ds : List Char) : n * 10 ^ ds.length ≤ valueFrom n ds := by
  induction ds generalizing n with
  | nil => simp [valueFrom]
  | cons c ds ih =>
      calc n * 10 ^ (ds.length + 1) = 10 * n * 10 ^ ds.length := by ring
        _ ≤ (10 * n + Decimal.digitValue c) * 10 ^ ds.length :=
            Nat.mul_le_mul_right _ (Nat.le_add_right _ _)
        _ ≤ valueFrom n (c :: ds) := ih _

/-- **The digits that fit into a word**: with zeros for those that are left they make no more than
all of the digits. -/
theorem absorb_spec {s : Nat} (hs : s ≤ greatestSignificand) (ds : List Char) :
    (absorb s ds).1 ≤ greatestSignificand ∧ (absorb s ds).2 ≤ ds.length ∧
      (absorb s ds).1 * 10 ^ (ds.length - (absorb s ds).2) ≤ valueFrom s ds := by
  induction ds generalizing s with
  | nil => exact ⟨hs, Nat.le_refl _, le_valueFrom s []⟩
  | cons c ds ih =>
      rw [absorb]
      simp only
      split
      · exact ⟨hs, Nat.zero_le _, le_valueFrom s (c :: ds)⟩
      · rename_i hfits
        obtain ⟨hword, hcount, hvalue⟩ := ih (Nat.not_lt.1 hfits)
        refine ⟨hword, Nat.succ_le_succ hcount, ?_⟩
        rwa [List.length_cons, Nat.succ_sub_succ]

theorem digitValue_le {c : Char} (h : Decimal.isDigit c = true) : Decimal.digitValue c ≤ 9 := by
  have hnine : c ≤ '9' := by
    simp only [Decimal.isDigit, Bool.and_eq_true, decide_eq_true_eq] at h
    exact h.2
  have hvalue : c.toNat ≤ '9'.toNat := hnine
  exact Nat.sub_le_sub_right hvalue _

namespace NumberText

variable {t : NumberText}

/-- The significand of a written number: its digits, as far as they fit into a word. -/
def significand (t : NumberText) : Nat :=
  (absorb (absorb 0 t.whole).1 (t.fraction.getD [])).1

/-- The power of ten by which the significand is scaled. -/
def scale (t : NumberText) : Int :=
  (t.whole.length : Int) - (absorb 0 t.whole).2 -
    (absorb (absorb 0 t.whole).1 (t.fraction.getD [])).2 + t.power

theorem double?_eq (t : NumberText) :
    t.double? = (Double.ofNat? t.significand).bind fun x =>
      (x.scaleByTen? t.scale).bind fun y => some (y.withSign t.negative) := rfl

theorem significand_le (t : NumberText) : t.significand ≤ greatestSignificand :=
  (absorb_spec (absorb_spec (Nat.zero_le _) _).1 _).1

/-- The double of a written number is within the format. -/
theorem regular_of_double? {x : Double} (h : t.double? = some x) : x.Regular := by
  rw [double?_eq] at h
  obtain ⟨y, hy, hrest⟩ := Option.bind_eq_some_iff.1 h
  obtain ⟨z, hz, heq⟩ := Option.bind_eq_some_iff.1 hrest
  cases heq
  exact (Double.scaleByTen?_sound (Double.ofNat?_sound hy).1 hz).withSign _

/-- **A written number has a double**, if it is not beyond the format. -/
theorem exists_double? (hscale : t.scale ≤ Double.greatestPowerOfTen)
    (hroom : (t.significand : ℚ) * 10 ^ t.scale * (1 + 1 / 2 ^ 53) ^ 2 < overflow) :
    ∃ x, t.double? = some x := by
  have hword : t.significand ≤ 2 ^ 64 := t.significand_le.trans (by decide)
  have hsmall : (t.significand : ℚ) ≤ 2 ^ 64 := by exact_mod_cast hword
  have hlimit : ((2 ^ 64 : Nat) : ℚ) < overflow := Double.lt_overflow (by decide +kernel)
  obtain ⟨x, hx⟩ := Double.exists_ofNat? (n := t.significand)
    ((Nat.cast_le.2 hword).trans_lt hlimit)
  have hnear := (abs_sub_le_iff.1 (Double.ofNat?_sound hx).2).1
  have hpower : (0 : ℚ) ≤ 10 ^ t.scale * (1 + 1 / 2 ^ 53) :=
    mul_nonneg (Double.ten_zpow_pos _).le (by norm_num)
  have hscaled : x.magnitude * (10 ^ t.scale * (1 + 1 / 2 ^ 53)) < overflow := by
    refine lt_of_le_of_lt ?_ hroom
    have hmost : x.magnitude ≤ t.significand * (1 + 1 / 2 ^ 53) := by linarith
    calc x.magnitude * (10 ^ t.scale * (1 + 1 / 2 ^ 53))
        ≤ t.significand * (1 + 1 / 2 ^ 53) * (10 ^ t.scale * (1 + 1 / 2 ^ 53)) :=
          mul_le_mul_of_nonneg_right hmost hpower
      _ = t.significand * 10 ^ t.scale * (1 + 1 / 2 ^ 53) ^ 2 := by ring
  obtain ⟨y, hy⟩ := Double.exists_scaleByTen? (x := x) (by linarith) hscale hscaled
  rw [double?_eq, hx, Option.bind_some, hy]
  exact ⟨_, rfl⟩

/-- A number that is scaled by not too much has a double. -/
theorem exists_double?_of_scale_le (h : t.scale ≤ 16) : ∃ x, t.double? = some x := by
  refine exists_double? (h.trans (by decide)) ?_
  have hword : t.significand ≤ 2 ^ 64 := t.significand_le.trans (by decide)
  have hsmall : (t.significand : ℚ) ≤ 2 ^ 64 := by exact_mod_cast hword
  have hpower : (10 : ℚ) ^ t.scale ≤ 10 ^ 16 := by
    have hle := Double.ten_zpow_le h
    rwa [show (16 : Int) = (16 : Nat) from rfl, zpow_natCast] at hle
  have hlimit : ((2 * (2 ^ 64 * 10 ^ 16) : Nat) : ℚ) < overflow :=
    Double.lt_overflow (by decide +kernel)
  push_cast at hlimit
  have hfactor : (1 + 1 / 2 ^ 53 : ℚ) ^ 2 ≤ 2 := by norm_num
  have hpos := Double.ten_zpow_pos t.scale
  have hproduct : (t.significand : ℚ) * 10 ^ t.scale ≤ 2 ^ 64 * 10 ^ 16 :=
    mul_le_mul hsmall hpower hpos.le (by positivity)
  calc (t.significand : ℚ) * 10 ^ t.scale * (1 + 1 / 2 ^ 53) ^ (2 : Nat)
      ≤ 2 ^ 64 * 10 ^ 16 * 2 := mul_le_mul hproduct hfactor (by positivity) (by positivity)
    _ < overflow := by linarith

/-- A number with one digit before the point: the places behind it that do not fit into the word are
made up for by the scale. -/
theorem exists_places {d : Char} {r : List Char} (hwhole : t.whole = [d])
    (hrest : t.fraction.getD [] = r) (hdigit : Decimal.isDigit d = true) :
    ∃ j : Nat, j ≤ r.length ∧ t.scale = t.power - r.length + j ∧
      t.significand * 10 ^ j ≤ Decimal.value (d :: r) := by
  have hword : Decimal.digitValue d ≤ greatestSignificand :=
    (digitValue_le hdigit).trans (by decide)
  have hfirst : absorb 0 [d] = (Decimal.digitValue d, 1) := by
    simp [absorb, hword]
  obtain ⟨-, hcount, hmost⟩ := absorb_spec hword r
  refine ⟨r.length - (absorb (Decimal.digitValue d) r).2, Nat.sub_le _ _, ?_, ?_⟩
  · simp only [scale, hwhole, hfirst, hrest, List.length_singleton]
    omega
  · rw [significand, hwhole, hfirst, hrest]
    refine hmost.trans_eq ?_
    rw [Decimal.value, List.foldl_cons, Nat.mul_zero, Nat.zero_add]
    rfl

/-- **A number within the reach of a double has a double**, if it has one digit before the point that
is no zero, and unless the double is one of the two greatest. -/
theorem exists_double?_of_reaches {x : Double} (hx : x.Regular)
    (hless : x.exponent < Double.greatestExponent ∨ x.mantissa + 3 ≤ 2 ^ 53) {d : Char}
    {r : List Char} (hwhole : t.whole = [d]) (hrest : t.fraction.getD [] = r)
    (hdigit : Decimal.isDigit d = true) (hlong : 10 ^ r.length ≤ Decimal.value (d :: r))
    (hreach : x.Reaches (Decimal.value (d :: r)) (t.power - r.length)) :
    ∃ x, t.double? = some x := by
  obtain ⟨j, hj, hscale, hmost⟩ := exists_places hwhole hrest hdigit
  obtain ⟨-, hvalue⟩ := hreach
  have hunit := Double.ten_zpow_pos (t.power - r.length)
  refine exists_double? ?_ ?_
  · have hpower : (10 : ℚ) ^ t.power < 10 ^ ((Double.greatestPowerOfTen : Int) + 1) := by
      have hlong' : (10 : ℚ) ^ r.length ≤ Decimal.value (d :: r) := by exact_mod_cast hlong
      calc (10 : ℚ) ^ t.power = 10 ^ r.length * 10 ^ (t.power - r.length) := by
            rw [← zpow_natCast, ← zpow_add₀ (by norm_num), add_sub_cancel]
        _ ≤ Decimal.value (d :: r) * 10 ^ (t.power - r.length) := by gcongr
        _ ≤ overflow := hvalue.trans hx.le_overflow
        _ < 10 ^ ((Double.greatestPowerOfTen : Int) + 1) := Double.overflow_lt_ten_zpow
    have hlt := (zpow_lt_zpow_iff_right₀ (by norm_num : (1 : ℚ) < 10)).1 hpower
    omega
  · refine lt_of_le_of_lt ?_ (hx.room hless)
    have hmost' : (t.significand : ℚ) * 10 ^ j ≤ Decimal.value (d :: r) := by exact_mod_cast hmost
    have hscaled : (t.significand : ℚ) * 10 ^ t.scale ≤ (x.mantissa + 1 / 2) * 2 ^ x.exponent :=
      calc (t.significand : ℚ) * 10 ^ t.scale
          = t.significand * 10 ^ j * 10 ^ (t.power - r.length) := by
            rw [hscale, zpow_add₀ (by norm_num), zpow_natCast]
            ring
        _ ≤ Decimal.value (d :: r) * 10 ^ (t.power - r.length) := by gcongr
        _ ≤ (x.mantissa + 1 / 2) * 2 ^ x.exponent := hvalue
    exact mul_le_mul_of_nonneg_right hscaled (by norm_num)

end NumberText

/-! ### Doubles written down -/

/-- What is written with a point or an exponent is a number if it has a double. -/
theorem exists_lexeme {t : NumberText} {ws : List Char} (hwritten : t.Written ws)
    (hform : t.fraction.isNone = false ∨ t.exponent.isNone = false)
    (hdouble : ∃ x, t.double? = some x) : ∃ n, Lexeme (.num n) ws := by
  obtain ⟨x, hx⟩ := hdouble
  refine ⟨.double x, .num hwritten ?_⟩
  have hplain : (t.fraction.isNone && t.exponent.isNone) = false := by
    rcases hform with hform | hform <;> simp [hform]
  simp [NumberText.value?, hplain, hx]

/-- The digits of a positive number start with no zero. -/
theorem head?_ofNat_ne {c : Nat} (h : 0 < c) : (Decimal.ofNat c).head? ≠ some '0' := by
  rcases Decimal.head?_ofNat c with hzero | hhead
  · have hvalue := Decimal.value_ofNat c
    rw [hzero] at hvalue
    exact absurd hvalue h.ne
  · exact hhead

theorem digits_zero : Digits ['0'] :=
  ⟨List.cons_ne_nil _ _, List.forall_mem_singleton.2 rfl⟩

theorem isDigit_of_mem_zeros {n : Nat} {c : Char} (h : c ∈ List.replicate n '0') :
    Decimal.isDigit c = true := by
  rw [List.eq_of_mem_replicate h]
  rfl

theorem Digits.append {ds es : List Char} (h : Digits ds)
    (h' : ∀ c ∈ es, Decimal.isDigit c = true) : Digits (ds ++ es) :=
  ⟨List.append_ne_nil_of_left_ne_nil h.1 es, List.forall_mem_append.2 ⟨h.2, h'⟩⟩

theorem Digits.after {ds es : List Char} (h : Digits es)
    (h' : ∀ c ∈ ds, Decimal.isDigit c = true) : Digits (ds ++ es) :=
  ⟨List.append_ne_nil_of_right_ne_nil ds h.1, List.forall_mem_append.2 ⟨h', h.2⟩⟩

section

variable (negative : Bool)

/-- A number with a point, and not too many digits before it. -/
theorem exists_lexeme_point {whole fraction : List Char} (hwhole : Digits whole)
    (hzero : whole = ['0'] ∨ whole.head? ≠ some '0') (hfraction : Digits fraction)
    (hlength : whole.length ≤ 16) :
    ∃ n, Lexeme (.num n) (minusText negative ++ (whole ++ '.' :: fraction)) := by
  have hwritten : (NumberText.mk negative whole (some fraction) none).Written
      (minusText negative ++ (whole ++ ('.' :: fraction ++ []))) :=
    .mk hwhole hzero (.present hfraction) .absent
  rw [List.append_nil] at hwritten
  refine exists_lexeme hwritten (.inl rfl) (NumberText.exists_double?_of_scale_le ?_)
  simp only [NumberText.scale, NumberText.power]
  omega

theorem exponentText_spec (e : Int) :
    ExponentText (some (decide (e < 0), Decimal.ofNat e.natAbs)) (DecimalFormat.exponentText e) := by
  by_cases h : e < 0
  · simpa [DecimalFormat.exponentText, h] using
      ExponentText.present (.inl rfl) .minus (digits_ofNat e.natAbs)
  · simpa [DecimalFormat.exponentText, h] using
      ExponentText.present (.inl rfl) .plus (digits_ofNat e.natAbs)

/-- **The digits of a double with one of them before the point**, and an exponent. -/
theorem exists_lexeme_exponent {x : Double} (hx : x.Regular)
    (hless : x.exponent < Double.greatestExponent ∨ x.mantissa + 3 ≤ 2 ^ 53) {c : Nat} {k : Int}
    (hreach : x.Reaches c k) {d : Char} {r : List Char} (hdigits : Decimal.ofNat c = d :: r)
    {fraction : Option (List Char)} {fs : List Char} (hfraction : FractionText fraction fs)
    (hrest : fraction.getD [] = r) :
    ∃ n, Lexeme (.num n)
      (minusText negative ++ ([d] ++ (fs ++ DecimalFormat.exponentText (r.length + k)))) := by
  obtain ⟨hpos, hvalue⟩ := hreach
  have hdigit : Decimal.isDigit d = true :=
    Decimal.isDigit_of_mem_ofNat (n := c) (hdigits ▸ List.mem_cons_self)
  have hhead : [d].head? ≠ some '0' := by
    have hne := head?_ofNat_ne hpos
    rwa [hdigits] at hne
  have hvalue' : Decimal.value (d :: r) = c := by rw [← hdigits, Decimal.value_ofNat]
  set t : NumberText := ⟨negative, [d], fraction,
    some (decide ((r.length : Int) + k < 0), Decimal.ofNat ((r.length : Int) + k).natAbs)⟩
  have hpower : t.power = r.length + k := by
    simp only [NumberText.power, t, Decimal.value_ofNat, decide_eq_true_eq]
    split <;> omega
  have hlong : 10 ^ r.length ≤ Decimal.value (d :: r) := by
    have hle := Double.pow_length_toDigits_le hpos.ne'
    rw [show Nat.toDigits 10 c = d :: r from hdigits] at hle
    rwa [hvalue']
  refine exists_lexeme (t := t)
    (.mk ⟨by simp [t], by simpa [t] using hdigit⟩ (.inr hhead) hfraction (exponentText_spec _))
    (.inr rfl) (NumberText.exists_double?_of_reaches hx hless rfl hrest hdigit hlong ?_)
  rw [hvalue', hpower, add_sub_cancel_left]
  exact ⟨hpos, hvalue⟩

end

/-- The two greatest doubles are written as numbers, with either sign. -/
theorem exists_lexeme_greatest (negative : Bool) {m : Nat} (hm : m = 2 ^ 53 - 1 ∨ m = 2 ^ 53 - 2) :
    ∃ n, Lexeme (.num n) (numberFormat.write ⟨negative, m, Double.greatestExponent⟩) := by
  suffices h : Token.next? (numberFormat.write ⟨negative, m, Double.greatestExponent⟩) =
      some (.num (.double ⟨negative, 2 ^ 53 - 1, Double.greatestExponent⟩), []) by
    obtain ⟨ws, hlexeme, hws⟩ := Token.next?_sound h
    rw [hws, List.append_nil]
    exact ⟨_, hlexeme⟩
  cases negative <;> rcases hm with rfl | rfl <;> decide +kernel

/-- **A double within the format is written as a number.** -/
theorem exists_lexeme_write {x : Double} (hx : x.Regular) :
    ∃ n, Lexeme (.num n) (numberFormat.write x) := by
  by_cases hless : x.exponent < Double.greatestExponent ∨ x.mantissa + 3 ≤ 2 ^ 53
  · unfold DecimalFormat.write
    change ∃ n, Lexeme (.num n) (minusText x.negative ++ _)
    by_cases hzero : x.mantissa = 0
    · rw [if_pos hzero]
      exact exists_lexeme_point x.negative digits_zero (.inl rfl) digits_zero (by decide)
    rw [if_neg hzero]
    have hreach := Double.shortest_reaches (Nat.pos_of_ne_zero hzero) hx.least
    generalize x.shortest = p at hreach ⊢
    obtain ⟨c, k⟩ := p
    have hdigits := digits_ofNat c
    have hhead := head?_ofNat_ne hreach.1
    simp only
    have hformat : numberFormat.wholeDigits = 16 := rfl
    have hfirst : 0 < (Decimal.ofNat c).length := List.length_pos_iff.2 hdigits.1
    split
    · -- zeros behind the digits, and none of the digits behind the point
      rename_i hwhole
      refine exists_lexeme_point x.negative (hdigits.append fun _ => isDigit_of_mem_zeros) (.inr ?_)
        digits_zero ?_
      · rwa [List.head?_append_of_ne_nil _ hdigits.1]
      · rw [List.length_append, List.length_replicate]
        omega
    split
    · -- the point among the digits
      rename_i hpoint
      have htake : (Decimal.ofNat c).take (((Decimal.ofNat c).length : Int) + k).natAbs ≠ [] := by
        rw [← List.length_pos_iff, List.length_take]
        omega
      have hdrop : (Decimal.ofNat c).drop (((Decimal.ofNat c).length : Int) + k).natAbs ≠ [] := by
        rw [← List.length_pos_iff, List.length_drop]
        omega
      refine exists_lexeme_point x.negative ⟨htake, fun d hd => hdigits.2 d (List.mem_of_mem_take hd)⟩
        (.inr ?_) ⟨hdrop, fun d hd => hdigits.2 d (List.mem_of_mem_drop hd)⟩ ?_
      · rwa [List.head?_take, if_neg (by omega)]
      · rw [List.length_take]
        omega
    split
    · -- the point before the digits, and zeros behind it
      exact exists_lexeme_point x.negative digits_zero (.inl rfl)
        (hdigits.after fun _ => isDigit_of_mem_zeros) (by decide)
    · -- an exponent
      split
      · rename_i hnil
        exact absurd hnil hdigits.1
      · rename_i d hone
        have hplace : ((Decimal.ofNat c).length : Int) + k - 1 = ([] : List Char).length + k := by
          rw [hone, List.length_singleton, List.length_nil]
          omega
        rw [hplace]
        exact exists_lexeme_exponent x.negative hx hless hreach hone .absent rfl
      · rename_i d r hrest hmore
        have hplace : ((Decimal.ofNat c).length : Int) + k - 1 = r.length + k := by
          rw [hmore, List.length_cons]
          omega
        have hbehind : Digits r :=
          ⟨hrest, fun d hd => hdigits.2 d (hmore ▸ List.mem_cons_of_mem _ hd)⟩
        rw [hplace]
        exact exists_lexeme_exponent x.negative hx hless hreach hmore (.present hbehind) rfl
  · obtain ⟨negative, m, e⟩ := x
    have hnarrow : m < 2 ^ 53 := hx.narrow
    have hgreatest : e ≤ Double.greatestExponent := hx.greatest
    obtain rfl : e = Double.greatestExponent := by
      simp only [not_or] at hless
      omega
    simp only [lt_irrefl, false_or, not_le] at hless
    exact exists_lexeme_greatest negative (by omega)

/-- What is read of a number is a whole one within the words of the format, or a double within the
format. -/
theorem NumberText.whole_or_regular {t : NumberText} {n : Number} (h : t.value? = some n) :
    n.IsWhole ∨ ∃ x : Double, n = .double x ∧ x.Regular := by
  have hdouble : t.double?.map Number.double = some n → ∃ x : Double, n = .double x ∧ x.Regular := by
    intro hmap
    obtain ⟨x, hx, rfl⟩ := Option.map_eq_some_iff.1 hmap
    exact ⟨x, rfl, regular_of_double? hx⟩
  unfold NumberText.value? at h
  simp only at h
  split at h
  · split at h
    · split at h
      · rename_i hword
        cases h
        simp only [Bool.and_eq_true, decide_eq_true_eq, Nat.pow_eq] at hword
        exact .inl ⟨_, rfl, by omega, by omega⟩
      · exact .inr (hdouble h)
    · split at h
      · rename_i hword
        cases h
        refine .inl ⟨_, rfl, by omega, ?_⟩
        simp only [greatestSignificand, Nat.pow_eq] at hword
        omega
      · exact .inr (hdouble h)
  · exact .inr (hdouble h)

/-- **The text of a number that was read is read again**, if not always as the same number. -/
theorem Lexeme.again {n : Number} {ws : List Char} (h : Lexeme (.num n) ws) :
    ∃ m, Lexeme (.num m) n.text := by
  cases h with
  | num _ hdenotes =>
      rcases NumberText.whole_or_regular hdenotes with hwhole | ⟨x, rfl, hx⟩
      · exact ⟨n, lexeme_whole hwhole⟩
      · exact exists_lexeme_write hx

/-! ### Values that were read -/

/-- Every number of a value that is denoted by a text is spelled in it. -/
theorem Denotes.exists_lexeme {s : String} {v : Json} (h : Denotes s v) {n : Number}
    (hn : n ∈ v.numbers) : ∃ ws, Lexeme (.num n) ws := by
  have hspelled : ∀ {cs ts}, Layout cs ts → ∀ t ∈ ts, ∃ ws, Lexeme t ws := by
    intro cs ts hlayout
    induction hlayout with
    | nil => exact nofun
    | cons _ hlexeme _ ih => exact List.forall_mem_cons.2 ⟨⟨_, hlexeme⟩, ih⟩
  obtain ⟨t, ht, htoken⟩ := List.mem_filterMap.1 hn
  cases t with
  | num k =>
      cases htoken
      exact hspelled h _ ht
  | _ => cases htoken

/-- **A value of which all numbers were read is written as a text that denotes a value**: the same
one, but for the numbers. -/
theorem exists_denotes_compact {v : Json} (h : ∀ n ∈ v.numbers, ∃ ws, Lexeme (.num n) ws) :
    ∃ f : Number → Number, Denotes v.compact (v.renumber f) := by
  have hagain : ∀ n : Number, ∃ m, (∃ ws, Lexeme (.num n) ws) → Lexeme (.num m) n.text := by
    intro n
    by_cases hn : ∃ ws, Lexeme (.num n) ws
    · obtain ⟨ws, hws⟩ := hn
      obtain ⟨m, hm⟩ := hws.again
      exact ⟨m, fun _ => hm⟩
    · exact ⟨n, fun hn' => absurd hn' hn⟩
  choose f hf using hagain
  exact ⟨f, denotes_compact fun n hn => hf n (h n hn)⟩

end Testbed.Json
