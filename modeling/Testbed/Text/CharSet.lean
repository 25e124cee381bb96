/-
**Sets of characters.**

A set of characters is kept as a list of ranges of their numbers, in increasing order and apart from
each other.  The numbers between `0xD800` and `0xDFFF` stand for no character, so the complement of
a set leaves them out.

Main definitions:

* `Testbed.Text.CharSet`, `Testbed.Text.CharSet.mem` — sets and their members;
* `union`, `complement`, `inter`, `diff`, `symmDiff` — the operations on sets;
* `Testbed.Text.CharSet.ofRanges` — the set of all characters in given ranges.
-/

set_option autoImplicit false

namespace Testbed.Text

/-- A set of characters: ranges with their first and last numbers. -/
structure CharSet where
  ranges : List (Nat × Nat)
  deriving DecidableEq, Repr, Inhabited

namespace CharSet

/-- The set without members. -/
def empty : CharSet := ⟨[]⟩

/-- Is a number in one of the ranges? -/
def memRanges (n : Nat) : List (Nat × Nat) → Bool
  | [] => false
  | (lo, hi) :: r => if n ≤ hi then lo ≤ n else memRanges n r

/-- Is a character in the set? -/
def mem (s : CharSet) (c : Char) : Bool := memRanges c.toNat s.ranges

/-- One more range, which begins no earlier than those before it; the last of these comes first. -/
def addRange (done : List (Nat × Nat)) (r : Nat × Nat) : List (Nat × Nat) :=
  match done with
  | [] => [r]
  | (lo, hi) :: t => if r.1 ≤ hi + 1 then (lo, max hi r.2) :: t else r :: (lo, hi) :: t

/-- Ranges in the order of their beginnings, those that touch put together. -/
def ofSorted (ranges : List (Nat × Nat)) : CharSet := ⟨(ranges.foldl addRange []).reverse⟩

/-- The set of all characters in some ranges. -/
def ofRanges (ranges : List (Nat × Nat)) : CharSet :=
  ofSorted (ranges.mergeSort fun a b => a.1 ≤ b.1)

/-- The set of the characters from one to another. -/
def range (a b : Char) : CharSet := ⟨[(a.toNat, b.toNat)]⟩

/-- The set with one member. -/
def singleton (c : Char) : CharSet := range c c

/-- The set of some characters. -/
def ofString (s : String) : CharSet := ofRanges (s.toList.map fun c => (c.toNat, c.toNat))

/-- The characters of either set. -/
def union (s t : CharSet) : CharSet := ofSorted (s.ranges.merge t.ranges fun a b => a.1 ≤ b.1)

/-- The gaps between ranges, from a number on up to a last one. -/
def gaps (last : Nat) : Nat → List (Nat × Nat) → List (Nat × Nat)
  | start, [] => if start ≤ last then [(start, last)] else []
  | start, (lo, hi) :: r =>
    if start < lo then (start, lo - 1) :: gaps last (max start (hi + 1)) r
    else gaps last (max start (hi + 1)) r

/-- The range of the numbers that stand for no character. -/
def surrogates : Nat × Nat := (0xD800, 0xDFFF)

/-- The characters outside the set. -/
def complement (s : CharSet) : CharSet :=
  ⟨gaps 0x10FFFF 0 (ofSorted (s.ranges.merge [surrogates] fun a b => a.1 ≤ b.1)).ranges⟩

/-- All characters. -/
def all : CharSet := empty.complement

/-- The characters of both sets. -/
def inter (s t : CharSet) : CharSet := (s.complement.union t.complement).complement

/-- The characters of the first set that are not in the second. -/
def diff (s t : CharSet) : CharSet := s.inter t.complement

/-- The characters of one of the sets and not of the other. -/
def symmDiff (s t : CharSet) : CharSet := (s.diff t).union (t.diff s)

end CharSet

end Testbed.Text
