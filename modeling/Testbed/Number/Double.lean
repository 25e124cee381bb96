/-
**Finite 64-bit floating-point numbers in exact arithmetic.**

A finite double is a sign and a magnitude `m * 2 ^ e` with `m < 2 ^ 53` and `-1074 ≤ e`.  Nothing
here touches machine arithmetic: products and quotients are formed exactly over the natural
numbers and rounded once, to the nearest double, a tie going to the even mantissa.  Rounding fails
only of a magnitude too large for the format.

Main definitions:

* `Testbed.Double` — sign, mantissa and exponent;
* `Testbed.Double.ofRatio?` — **the double nearest to a quotient of naturals**;
* `Testbed.Double.scaleByTen?` — a double times a power of ten, the power itself rounded first;
* `Testbed.Double.shortest` — the fewest decimal digits that read back as the double.
-/

set_option autoImplicit false

namespace Testbed

/-- A finite double: the number `± mantissa * 2 ^ exponent`. -/
structure Double where
  negative : Bool
  mantissa : Nat
  exponent : Int
  deriving DecidableEq, Repr, Inhabited

namespace Double

/-- The exponent of the smallest positive double. -/
def leastExponent : Int := -1074

/-- The greatest exponent a full mantissa may have. -/
def greatestExponent : Int := 971

/-- Zero with a sign. -/
def zero (negative : Bool) : Double := ⟨negative, 0, leastExponent⟩

/-- A double with the other sign if `negative`. -/
def withSign (negative : Bool) (x : Double) : Double := { x with negative := negative }

/-! ### Rounding -/

/-- A quotient rounded to the nearest natural, a tie going to the even one. -/
def roundDiv (num den : Nat) : Nat :=
  let q := num / den
  let r := num % den
  if 2 * r < den then q else if den < 2 * r then q + 1 else q + q % 2

/-- The rounding of `num / den` in units of `2 ^ e`. -/
def roundAt (num den : Nat) (e : Int) : Nat :=
  if e < 0 then roundDiv (num * Nat.pow 2 e.natAbs) den else roundDiv num (den * Nat.pow 2 e.natAbs)

/-- The whole part of `num / den` in units of `2 ^ e`. -/
def floorAt (num den : Nat) (e : Int) : Nat :=
  if e < 0 then num * Nat.pow 2 e.natAbs / den else num / (den * Nat.pow 2 e.natAbs)

/-- The exponent at which `num / den` has a mantissa of fifty-three bits, or the least exponent if
that one is greater. -/
def exponentFor (num den : Nat) : Int :=
  let guess : Int := (Nat.log2 num : Int) - (Nat.log2 den : Int) - 52
  let e := if floorAt num den guess < Nat.pow 2 52 then guess - 1 else guess
  max e leastExponent

/-- **The double nearest to `num / den`,** a tie going to the even mantissa; none if the quotient
rounds beyond the greatest double. -/
def ofRatio? (negative : Bool) (num den : Nat) : Option Double :=
  if num = 0 then some (zero negative)
  else
    let e := exponentFor num den
    let m := roundAt num den e
    let (m, e) := if m = Nat.pow 2 53 then (Nat.pow 2 52, e + 1) else (m, e)
    if greatestExponent < e then none else some ⟨negative, m, e⟩

/-- The double nearest to a natural number. -/
def ofNat? (n : Nat) : Option Double := ofRatio? false n 1

/-! ### Scaling by powers of ten -/

/-- Numerator and denominator of a magnitude. -/
def ratio (x : Double) : Nat × Nat :=
  if x.exponent < 0 then (x.mantissa, Nat.pow 2 x.exponent.natAbs)
  else (x.mantissa * Nat.pow 2 x.exponent.natAbs, 1)

/-- The product of two magnitudes, rounded. -/
def mul? (x y : Double) : Option Double :=
  let (a, b) := x.ratio
  let (c, d) := y.ratio
  ofRatio? (x.negative != y.negative) (a * c) (b * d)

/-- The quotient of two magnitudes, rounded; the divisor is not zero. -/
def div? (x y : Double) : Option Double :=
  let (a, b) := x.ratio
  let (c, d) := y.ratio
  ofRatio? (x.negative != y.negative) (a * d) (b * c)

/-- The greatest power of ten that is a double. -/
def greatestPowerOfTen : Nat := 308

/-- A power of ten, rounded to a double. -/
def powerOfTen? (k : Nat) : Option Double := ofNat? (Nat.pow 10 k)

/-- A double divided by `10 ^ k`: in steps of the greatest power while `k` exceeds it, then once by
the rest, rounding after each step.  A value that has become zero stays zero. -/
def divByTen? (x : Double) (k : Nat) : Option Double :=
  if k ≤ greatestPowerOfTen then do x.div? (← powerOfTen? k)
  else if x.mantissa = 0 then some x
  else do
    let y ← x.div? (← powerOfTen? greatestPowerOfTen)
    divByTen? y (k - greatestPowerOfTen)
termination_by k
decreasing_by
  simp only [greatestPowerOfTen] at *
  omega

/-- A double times `10 ^ k`; none beyond the greatest double, and none for a power of ten that is no
double itself unless the number is zero. -/
def scaleByTen? (x : Double) (k : Int) : Option Double :=
  if k < 0 then x.divByTen? k.natAbs
  else if k.natAbs ≤ greatestPowerOfTen then do x.mul? (← powerOfTen? k.natAbs)
  else if x.mantissa = 0 then some x
  else none

/-! ### Shortest decimal -/

/-- The greatest `p` with `10 ^ p ≤ num / den`, for a positive quotient. -/
def decimalExponent (num den : Nat) : Int :=
  if den ≤ num then ((Nat.toDigits 10 (num / den)).length : Int) - 1
  else
    let rec climb (fuel : Nat) (j : Nat) (num : Nat) : Int :=
      match fuel with
      | 0 => -(j : Int)
      | fuel + 1 => if den ≤ num then -(j : Int) else climb fuel (j + 1) (num * 10)
    climb 400 1 (num * 10)

/-- `c * 10 ^ k` as numerator and denominator. -/
def gridPoint (c : Nat) (k : Int) : Nat × Nat :=
  if k < 0 then (c, Nat.pow 10 k.natAbs) else (c * Nat.pow 10 k.natAbs, 1)

/-- A digit string and the power of ten of its last digit: the nearest of the decimals with the
fewest digits that round to the double, for a magnitude that is not zero. -/
def shortest (x : Double) : Nat × Int :=
  let m := x.mantissa
  -- Everything in units of `2 ^ (exponent - 2)`: the magnitude and the ends of the interval of
  -- numbers that round to it.
  let unit : Nat × Nat := if x.exponent - 2 < 0 then (1, Nat.pow 2 (x.exponent - 2).natAbs)
    else (Nat.pow 2 (x.exponent - 2).natAbs, 1)
  let value := 4 * m * unit.1
  let low :=
    (if m = Nat.pow 2 52 ∧ x.exponent ≠ leastExponent then 4 * m - 1 else 4 * m - 2) * unit.1
  let high := (4 * m + 2) * unit.1
  let den := unit.2
  let inside (p : Nat × Nat) : Bool :=
    if m % 2 = 0 then low * p.2 ≤ p.1 * den && p.1 * den ≤ high * p.2
    else low * p.2 < p.1 * den && p.1 * den < high * p.2
  let top := decimalExponent value den
  let rec search (left : Nat) (k : Int) : Nat × Int :=
    match left with
    | 0 => (floorTen value den k, k)
    | left + 1 =>
      let c := floorTen value den k
      let below := inside (gridPoint c k)
      let above := inside (gridPoint (c + 1) k)
      if below && above then
        let g := gridPoint c k
        let h := gridPoint (c + 1) k
        -- Twice the value against the sum of its two neighbours.
        let twice := 2 * value * g.2
        let sum := (g.1 + h.1) * den
        if twice < sum then (c, k) else if sum < twice then (c + 1, k)
        else if c % 2 = 0 then (c, k) else (c + 1, k)
      else if below then (c, k)
      else if above then (c + 1, k)
      else search left (k - 1)
  carry (search 17 top)
where
  /-- Ten in the last place is one in the place before it. -/
  carry : Nat × Int → Nat × Int
    | (c, k) => if c = 10 then (1, k + 1) else (c, k)
  /-- The whole part of `num / den` in units of `10 ^ k`. -/
  floorTen (num den : Nat) (k : Int) : Nat :=
    if k < 0 then num * Nat.pow 10 k.natAbs / den else num / (den * Nat.pow 10 k.natAbs)

end Double

end Testbed
