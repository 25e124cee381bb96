/-
**Patterns.**

A pattern is a regular expression over characters, with looks at what stands before and behind a
place.  A text matches if the pattern describes some stretch of it.  Matching works on sets of
places, kept as numbers whose bits say which places belong to them: from the places at which a match
may begin, each part of the pattern leads to those at which it may end.

Main definitions:

* `Testbed.Pattern` — regular expressions, `Testbed.Pattern.Look` — looks;
* `Testbed.Pattern.ends` — from beginnings to ends;
* `Testbed.Pattern.isMatch` — whether some stretch of a text is described.
-/

import Testbed.Text.CharSet

set_option autoImplicit false

namespace Testbed

/-- What is asked of the characters before and behind a place. -/
inductive Pattern.Look where
  | textStart
  | textEnd
  | lineStart
  | lineEnd
  /-- As `lineStart`, carriage returns ending lines too, but not before a line feed. -/
  | anyLineStart
  | anyLineEnd
  /-- Exactly one of the two is a word character. -/
  | wordBoundary
  | noWordBoundary
  | wordStart
  | wordEnd
  | wordStartHalf
  | wordEndHalf
  deriving DecidableEq, Repr

/-- A regular expression over characters. -/
inductive Pattern where
  | empty
  | set (s : Text.CharSet)
  /-- A look, with the characters of which words consist. -/
  | look (l : Pattern.Look) (word : Text.CharSet)
  | seq (a b : Pattern)
  | alt (a b : Pattern)
  /-- A repetition, with its least and, if there is one, its greatest number. -/
  | repeated (a : Pattern) (least : Nat) (greatest : Option Nat)
  deriving Repr

namespace Pattern

open Text (CharSet)

/-! ### Places -/

/-- Does a look succeed between two characters, either of which may be missing? -/
def Look.holds (word : CharSet) (before behind : Option Char) (l : Look) : Bool :=
  let isWord := fun c : Option Char => c.any word.mem
  match l with
  | .textStart => before.isNone
  | .textEnd => behind.isNone
  | .lineStart => before.isNone || before == some '\n'
  | .lineEnd => behind.isNone || behind == some '\n'
  | .anyLineStart =>
    before.isNone || before == some '\n' || (before == some '\r' && behind != some '\n')
  | .anyLineEnd =>
    behind.isNone || behind == some '\r' || (behind == some '\n' && before != some '\r')
  | .wordBoundary => isWord before != isWord behind
  | .noWordBoundary => isWord before == isWord behind
  | .wordStart => !isWord before && isWord behind
  | .wordEnd => isWord before && !isWord behind
  | .wordStartHalf => !isWord before
  | .wordEndHalf => !isWord behind

/-- The places before the characters of a set. -/
def placesOf (s : CharSet) : List Char → Nat
  | [] => 0
  | c :: r => 2 * placesOf s r + (s.mem c).toNat

/-- The places at which a look succeeds, given the character before the text. -/
def placesAt (l : Look) (word : CharSet) : Option Char → List Char → Nat
  | before, [] => (l.holds word before none).toNat
  | before, c :: r => 2 * placesAt l word (some c) r + (l.holds word before (some c)).toNat

/-- All places of a text of so many characters. -/
def allPlaces (n : Nat) : Nat := Nat.pow 2 (n + 1) - 1

/-! ### Matching -/

/-- A step on places taken so many times; it stops where nothing changes any more. -/
def times (step : Nat → Nat) : Nat → Nat → Nat
  | 0, m => m
  | k + 1, m => if step m = m then m else times step k (step m)

/-- The places reached by at most so many steps. -/
def upTo (step : Nat → Nat) : Nat → Nat → Nat
  | 0, m => m
  | k + 1, m => if m ||| step m = m then m else upTo step k (m ||| step m)

/-- From the places at which a match may begin to those at which it may end. -/
def ends (cs : List Char) : Pattern → Nat → Nat
  | .empty, m => m
  | .set s, m => (m &&& placesOf s cs) <<< 1
  | .look l word, m => m &&& placesAt l word none cs
  | .seq a b, m => b.ends cs (a.ends cs m)
  | .alt a b, m => a.ends cs m ||| b.ends cs m
  | .repeated a least greatest, m =>
    let further := match greatest with
      | none => cs.length + 1
      | some n => n - least
    upTo (a.ends cs) further (times (a.ends cs) least m)

/-- Does the pattern describe some stretch of the text? -/
def isMatch (p : Pattern) (s : String) : Bool :=
  p.ends s.toList (allPlaces s.toList.length) ≠ 0

end Pattern

end Testbed
