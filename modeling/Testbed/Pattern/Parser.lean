/-
**Reading patterns.**

A pattern is read from left to right.  Branches are parted by bars, groups by parentheses; a sign or
a number in braces repeats what stands directly before it.  Flags are switched within a group, for
what follows or for one group alone.  What is not of this form is no pattern, and neither is what
nests too deep or grows too large.

Main definitions:

* `Testbed.Pattern.Item`, `Testbed.Pattern.Branches` — what has been read of a group;
* `Testbed.Pattern.step?` — the next part of a pattern;
* `Testbed.Pattern.parse?` — the pattern that a text denotes.
-/

import Testbed.Number.Decimal
import Testbed.Pattern.Class

set_option autoImplicit false

namespace Testbed.Pattern

open Text (CharSet)

/-! ### Parts -/

/-- A part of a branch. -/
structure Item where
  pattern : Pattern
  /-- How deep the part nests. -/
  depth : Nat := 0
  /-- May the part be repeated?  A switch of flags may not. -/
  repeatable : Bool := true

/-- Parts one behind the other, the last one first. -/
def sequence (items : List Item) : Item :=
  match items with
  | [] => { pattern := .empty }
  | [i] => i
  | i :: r =>
    { pattern := r.foldl (fun p j => .seq j.pattern p) i.pattern
      depth := 1 + (i :: r).foldl (fun d j => max d j.depth) 0 }

/-- What has been read of a group: the branches that are complete, and the parts of the one that is
not, both the last one first. -/
structure Branches where
  complete : List Item := []
  parts : List Item := []

/-- The group as one part. -/
def Branches.close (b : Branches) : Item :=
  match b.complete with
  | [] => sequence b.parts
  | bs =>
    let all := sequence b.parts :: bs
    match all with
    | [] => { pattern := .empty }
    | i :: r =>
      { pattern := r.foldl (fun p j => .alt j.pattern p) i.pattern
        depth := 1 + all.foldl (fun d j => max d j.depth) 0 }

/-- What has been read of a pattern. -/
structure Draft where
  flags : Flags := {}
  branches : Branches := {}
  /-- The groups that are open, with the flags outside them. -/
  outer : List (Flags × Branches) := []
  /-- The names of groups. -/
  names : List String := []

namespace Draft

/-- One more part of the branch at hand. -/
def put (d : Draft) (i : Item) : Draft :=
  { d with branches := { d.branches with parts := i :: d.branches.parts } }

/-- One more part that describes a character of a set. -/
def putSet (d : Draft) (s : CharSet) (depth : Nat := 0) : Draft := d.put ⟨.set s, depth, true⟩

/-- One more part that describes a character. -/
def putChar (d : Draft) (c : Char) : Draft := d.putSet (d.flags.fold (CharSet.singleton c))

/-- One more part that looks. -/
def putLook (d : Draft) (l : Look) : Draft := d.put { pattern := .look l d.flags.word }

/-- The last part, repeated. -/
def putRepeat? (d : Draft) (least : Nat) (greatest : Option Nat) : Option Draft :=
  match d.branches.parts with
  | [] => none
  | i :: r =>
    if !i.repeatable then none
    else some { d with branches := { d.branches with
      parts := ⟨.repeated i.pattern least greatest, i.depth + 1, true⟩ :: r } }

/-- A new branch. -/
def newBranch (d : Draft) : Draft :=
  { d with branches := ⟨sequence d.branches.parts :: d.branches.complete, []⟩ }

/-- A group opened under flags of its own. -/
def openGroup (d : Draft) (inner : Flags) : Draft :=
  { d with flags := inner, branches := {}, outer := (d.flags, d.branches) :: d.outer }

/-- The innermost group closed. -/
def closeGroup? (d : Draft) : Option Draft :=
  match d.outer with
  | [] => none
  | (flags, branches) :: outer =>
    let i := d.branches.close
    some ({ d with flags, branches, outer }.put ⟨i.pattern, i.depth + 1, true⟩)

end Draft

/-! ### Repetitions -/

/-- The rest of a text behind a mark that says which of several matches is wanted. -/
def skipLazy : List Char → List Char
  | '?' :: r => r
  | cs => cs

/-- A number below `2 ^ 32` with space around it. -/
def scanCount? (f : Flags) (cs : List Char) : Option (Nat × List Char) := do
  let cs := cs.dropWhile Text.isBlank
  let ds := cs.takeWhile fun c => Decimal.isDigit c || (f.verbose && Text.isBlank c)
  let n ← Decimal.toNat? (ds.filter Decimal.isDigit)
  if n < Nat.pow 2 32 then
    pure (n, (skipSpace f (cs.drop ds.length)).dropWhile Text.isBlank)
  else none

/-- The numbers of a repetition behind the opening brace. -/
def scanCounts? (f : Flags) (cs : List Char) : Option (Nat × Option Nat × List Char) := do
  let (least, r) ← scanCount? f (skipSpace f cs)
  let (greatest, r) ← match r with
    | ',' :: r =>
      match skipSpace f r with
      | '\x7d' :: r => some (none, '\x7d' :: r)
      | r => (scanCount? f r).map fun p => (some p.1, p.2)
    | r => some (some least, r)
  match r with
  | '\x7d' :: r =>
    if greatest.all (least ≤ ·) then pure (least, greatest, skipLazy (skipSpace f r)) else none
  | _ => none

/-! ### Groups -/

/-- Flags with one of them switched. -/
def switchFlag? (on : Bool) (f : Flags) : Char → Option Flags
  | 'i' => some { f with ignoreCase := on }
  | 'm' => some { f with multiLine := on }
  | 's' => some { f with dotAll := on }
  | 'R' => some { f with anyLineEnd := on }
  | 'u' => some { f with unicode := on }
  | 'x' => some { f with verbose := on }
  | 'U' => some f
  | _ => none

/-- The letters of a switch of flags: each once, one dash between those switched on and those
switched off, and none at the end. -/
def switchFlags? (f : Flags) (cs : List Char) : Option Flags :=
  let rec go (on : Bool) (f : Flags) : List Char → Option Flags
    | [] => some f
    | '-' :: r => if !on || r.isEmpty then none else go false f r
    | c :: r => do
      if r.contains c then none
      else go on (← switchFlag? on f c) r
  go true f cs

/-- May the character stand in the name of a group? -/
def isNameChar (first : Bool) (c : Char) : Bool :=
  c = '_' || Text.alphabetic.mem c ||
    (!first && (c = '.' || c = '[' || c = ']' || (Text.Category.ofLetters "IJK").mem c))

/-- A group with a name, behind the sign that opens the name. -/
def openNamed? (d : Draft) (cs : List Char) : Option (Draft × List Char) :=
  let name := cs.takeWhile (· ≠ '>')
  match name, cs.dropWhile (· ≠ '>') with
  | c :: r, _ :: rest =>
    let s := String.ofList name
    if isNameChar true c && r.all (isNameChar false) && !d.names.contains s then
      some ({ d.openGroup d.flags with names := s :: d.names }, rest)
    else none
  | _, _ => none

/-- A group behind its opening parenthesis, or a switch of flags. -/
def openGroup? (d : Draft) (cs : List Char) : Option (Draft × List Char) :=
  match skipSpace d.flags cs with
  | '?' :: 'P' :: '<' :: r => openNamed? d r
  | '?' :: '=' :: _ | '?' :: '!' :: _ | '?' :: '<' :: '=' :: _ | '?' :: '<' :: '!' :: _ => none
  | '?' :: '<' :: r => openNamed? d r
  | '?' :: r =>
    let letters := r.takeWhile fun c => c ≠ ':' && c ≠ ')'
    match r.dropWhile fun c => c ≠ ':' && c ≠ ')' with
    | ')' :: rest =>
      if letters.isEmpty then none
      else (switchFlags? d.flags letters).map fun f =>
        ({ d with flags := f }.put ⟨.empty, 0, false⟩, rest)
    | _ :: rest => (switchFlags? d.flags letters).map fun f => (d.openGroup f, rest)
    | [] => none
  | r => some (d.openGroup d.flags, r)

/-! ### Patterns -/

/-- The characters that a dot stands for; outside Unicode these would reach beyond ASCII. -/
def dot? (f : Flags) : Option CharSet :=
  if !f.unicode then none
  else if f.dotAll then some CharSet.all
  else some (CharSet.ofString (if f.anyLineEnd then "\n\r" else "\n")).complement

/-- The next part of a pattern that begins with a character. -/
def step? (d : Draft) (c : Char) (r : List Char) : Option (Draft × List Char) :=
  match c with
  | '(' => openGroup? d r
  | ')' => d.closeGroup?.map fun d => (d, r)
  | '|' => some (d.newBranch, r)
  | '[' => (scanClass? d.flags r).map fun (s, depth, r) => (d.putSet s depth, r)
  | '?' => (d.putRepeat? 0 (some 1)).map fun d => (d, skipLazy r)
  | '*' => (d.putRepeat? 0 none).map fun d => (d, skipLazy r)
  | '+' => (d.putRepeat? 1 none).map fun d => (d, skipLazy r)
  | '\x7b' => do
    let (least, greatest, r) ← scanCounts? d.flags r
    let d ← d.putRepeat? least greatest
    pure (d, r)
  | '\\' => (scanEscape? d.flags r).map fun
    | (.char c, r) => (d.putChar c, r)
    | (.set s, r) => (d.putSet s, r)
    | (.look l, r) => (d.putLook l, r)
  | '.' => (dot? d.flags).map fun s => (d.putSet s, r)
  | '^' =>
    let l : Look := if !d.flags.multiLine then .textStart
      else if d.flags.anyLineEnd then .anyLineStart else .lineStart
    some (d.putLook l, r)
  | '$' =>
    let l : Look := if !d.flags.multiLine then .textEnd
      else if d.flags.anyLineEnd then .anyLineEnd else .lineEnd
    some (d.putLook l, r)
  | c => some (d.putChar c, r)

/-- The rest of a pattern, by at most so many parts. -/
def parseFrom? : Nat → Draft → List Char → Option Draft
  | 0, _, _ => none
  | n + 1, d, cs =>
    match skipSpace d.flags cs with
    | [] => some d
    | c :: r => (step? d c r).bind fun p => parseFrom? n p.1 p.2

/-- How deep a pattern may nest. -/
def depthLimit : Nat := 250

/-- About how many bytes a machine for the pattern takes. -/
def cost : Pattern → Nat
  | .empty | .look .. => 32
  | .set s =>
    match s.ranges with
    | [(_, hi)] => if hi < 128 then 32 else 128
    | rs => 32 + (rs.map fun r => if r.2 < 128 then 8 else 64).sum
  | .seq a b => a.cost + b.cost
  | .alt a b => 32 + a.cost + b.cost
  | .repeated a least greatest =>
    match greatest with
    | none => 32 + max least 1 * a.cost
    | some n => least * a.cost + (n - least) * (a.cost + 32)

/-- How many bytes a machine for a pattern may take. -/
def costLimit : Nat := 10 * Nat.pow 2 20

/-- The pattern that a text denotes. -/
def parse? (s : String) : Option Pattern := do
  let d ← parseFrom? (s.toList.length + 1) {} s.toList
  let i := d.branches.close
  if !d.outer.isEmpty || depthLimit < i.depth || costLimit < i.pattern.cost then none
  else some i.pattern

end Testbed.Pattern
