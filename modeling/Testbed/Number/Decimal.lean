/-
**How numbers are written.**

Whole numbers are written in plain decimal.  A double is written with the fewest digits that read
back, positionally while its decimal point falls inside or close to the digits, else with an
exponent.  Where the one form ends and the other begins is part of the format, a value of
`DecimalFormat`, and not of the search for the digits.

Main definitions:

* `Testbed.Decimal.ofNat`, `Testbed.Decimal.ofInt` — plain decimal;
* `Testbed.Decimal.toNat?`, `Testbed.Decimal.unsigned?` — a number read back;
* `Testbed.DecimalFormat`, `Testbed.DecimalFormat.write` — the text of a double.
-/

import Testbed.Number.Double

set_option autoImplicit false

namespace Testbed

namespace Decimal

/-- The decimal digits of a natural number. -/
def ofNat (n : Nat) : List Char := Nat.toDigits 10 n

/-- An integer in decimal, with a minus sign if it is negative. -/
def ofInt (n : Int) : List Char :=
  match n with
  | .ofNat n => ofNat n
  | .negSucc n => '-' :: ofNat (n + 1)

/-- Is this one of the ten digits? -/
def isDigit (c : Char) : Bool := '0' ≤ c && c ≤ '9'

/-- The value of a digit. -/
def digitValue (c : Char) : Nat := c.toNat - '0'.toNat

/-- The number that a run of digits denotes. -/
def value (cs : List Char) : Nat := cs.foldl (fun n c => 10 * n + digitValue c) 0

/-- A natural number from its digits; none for the empty text or a character that is no digit. -/
def toNat? (cs : List Char) : Option Nat :=
  if cs.isEmpty || !cs.all isDigit then none else some (value cs)

/-- A natural number below a limit from its digits, with an optional plus sign. -/
def unsigned? (limit : Nat) (s : String) : Option Nat :=
  let ds := match s.toList with
    | '+' :: r => r
    | cs => cs
  (toNat? ds).filter (· < limit)

end Decimal

/-- Where positional notation ends: a decimal point more than `wholeDigits` places behind the first
digit, or more than `leadingZeros` places before it, calls for an exponent. -/
structure DecimalFormat where
  wholeDigits : Nat
  leadingZeros : Nat
  deriving Repr

namespace DecimalFormat

/-- The exponent with its sign. -/
def exponentText (e : Int) : List Char :=
  'e' :: (if e < 0 then '-' else '+') :: Decimal.ofNat e.natAbs

/-- The text of a double: a fraction `.0` marks a whole number in positional notation, and an
exponent always has a sign. -/
def write (f : DecimalFormat) (x : Double) : List Char :=
  (if x.negative then ['-'] else []) ++
    if x.mantissa = 0 then ['0', '.', '0']
    else
      let (c, k) := x.shortest
      let digits := Decimal.ofNat c
      let point : Int := digits.length + k
      if 0 ≤ k ∧ point ≤ f.wholeDigits then
        digits ++ List.replicate k.natAbs '0' ++ ['.', '0']
      else if 0 < point ∧ point ≤ f.wholeDigits then
        digits.take point.natAbs ++ '.' :: digits.drop point.natAbs
      else if -(f.leadingZeros : Int) ≤ point ∧ point ≤ 0 then
        ['0', '.'] ++ List.replicate point.natAbs '0' ++ digits
      else
        match digits with
        | [] => []
        | [d] => d :: exponentText (point - 1)
        | d :: r => d :: '.' :: r ++ exponentText (point - 1)

end DecimalFormat

end Testbed
