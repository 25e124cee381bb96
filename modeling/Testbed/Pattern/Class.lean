/-
**Escapes and classes in brackets.**

An escape stands for a character, a class or a look.  A class in brackets lists characters, ranges,
escapes, named classes and further classes in brackets; it may be denied, and classes may be
intersected, subtracted and compared, all three with the same precedence and from the left.

How a class is read depends on the flags: whether case counts, whether space counts, and whether
characters are those of Unicode or of ASCII only.

Main definitions:

* `Testbed.Pattern.Flags`, `Testbed.Pattern.Primitive` — flags, and what an escape stands for;
* `Testbed.Pattern.scanEscape?` — an escape behind its backslash;
* `Testbed.Pattern.scanClass?` — a class behind its opening bracket.
-/

import Testbed.Json.Token
import Testbed.Pattern.Basic
import Testbed.Pattern.Names
import Testbed.Text.Blank
import Testbed.Text.Folding

set_option autoImplicit false

namespace Testbed.Pattern

open Text (CharSet)

/-- How a pattern is read. -/
structure Flags where
  ignoreCase : Bool := false
  multiLine : Bool := false
  dotAll : Bool := false
  /-- Do carriage returns end lines too? -/
  anyLineEnd : Bool := false
  unicode : Bool := true
  /-- Are space and comments left out? -/
  verbose : Bool := false
  deriving DecidableEq, Repr

namespace Flags

/-- A set with the characters that differ in case alone, if case does not count. -/
def fold (f : Flags) (s : CharSet) : CharSet :=
  if !f.ignoreCase then s
  else if f.unicode then Text.Folding.close s
  else Text.Folding.closeAscii s

/-- The characters of which words consist. -/
def word (f : Flags) : CharSet :=
  if f.unicode then Text.wordChars else (asciiClass? "word").getD CharSet.empty

/-- A set denied; outside Unicode that would reach beyond ASCII. -/
def deny? (f : Flags) (s : CharSet) : Option CharSet :=
  if f.unicode then some s.complement else none

end Flags

/-- The rest of a text behind a comment. -/
def skipComment (cs : List Char) : List Char := (cs.dropWhile (· ≠ '\n')).drop 1

/-- The rest of a text behind space and comments, at most so many of them. -/
def skipVerbose : Nat → List Char → List Char
  | 0, cs => cs
  | n + 1, cs =>
    match cs.dropWhile Text.isBlank with
    | '#' :: r => skipVerbose n (skipComment r)
    | r => r

/-- The rest of a text behind what the flags leave out. -/
def skipSpace (f : Flags) (cs : List Char) : List Char :=
  if f.verbose then skipVerbose (cs.length + 1) cs else cs

/-! ### Escapes -/

/-- What an escape stands for. -/
inductive Primitive where
  | char (c : Char)
  | set (s : CharSet)
  | look (l : Look)

/-- The characters that mean something by themselves. -/
def isMeta (c : Char) : Bool := "\\.+*?()|[]\x7b\x7d^$#&-~".toList.contains c

/-- Does a backslash before the character mean the character? -/
def isEscapable (c : Char) : Bool :=
  isMeta c || (c.toNat < 128 && !c.isAlphanum && c ≠ '<' && c ≠ '>')

/-- The character with a number. -/
def charOf? (n : Nat) : Option Char := if n.isValidChar then some (Char.ofNat n) else none

/-- So many hexadecimal digits. -/
def scanHexDigits? (f : Flags) : Nat → Nat → List Char → Option (Nat × List Char)
  | 0, value, cs => some (value, cs)
  | n + 1, value, c :: r => do
    let d ← Json.hexValue? c
    scanHexDigits? f n (16 * value + d) (skipSpace f r)
  | _ + 1, _, [] => none

/-- Hexadecimal digits up to a closing brace, at most so many characters. -/
def scanHexBraced? (f : Flags) : Nat → List Char → List Char → Option (Nat × List Char)
  | 0, _, _ => none
  | _ + 1, _, [] => none
  | n + 1, seen, c :: r =>
    if c = '\x7d' then
      if seen.isEmpty then none
      else some (seen.reverse.foldl (fun v d => 16 * v + (Json.hexValue? d).getD 0) 0, r)
    else if (Json.hexValue? c).isSome then scanHexBraced? f n (c :: seen) (skipSpace f r)
    else none

/-- A character by its number, behind the letter that announces it. -/
def scanHex? (f : Flags) (width : Nat) (cs : List Char) : Option (Primitive × List Char) := do
  let (n, r) ← match skipSpace f cs with
    | '\x7b' :: r => scanHexBraced? f (r.length + 1) [] (skipSpace f r)
    | cs => scanHexDigits? f width 0 cs
  let c ← charOf? n
  if !f.unicode && width = 2 && 127 < n && n < 256 then none else pure (.char c, r)

/-- A named class behind the letter that announces it. -/
def scanNamed? (f : Flags) (denied : Bool) (cs : List Char) : Option (Primitive × List Char) :=
  if !f.unicode then none
  else
    let finish := fun (s : CharSet) (r : List Char) =>
      let s := f.fold s
      some (Primitive.set (if denied then s.complement else s), r)
    match skipSpace f cs with
    | '\x7b' :: r =>
      let body := r.takeWhile (· ≠ '\x7d')
      let kept := if f.verbose then body.filter (!Text.isBlank ·) else body
      match r.dropWhile (· ≠ '\x7d') with
      | [] => none
      | _ :: rest => (namedClass? kept).bind fun s => finish s rest
    | c :: r =>
      if c = '\\' then none else (categoryClass? (plainName c.toString)).bind fun s => finish s r
    | [] => none

/-- A class with a name of one letter. -/
def shortClass? (f : Flags) (c : Char) : Option CharSet :=
  let pick := fun (unicode : CharSet) (ascii : String) =>
    if f.unicode then unicode else (asciiClass? ascii).getD CharSet.empty
  match c with
  | 'd' => some (pick Text.decimalDigits "digit")
  | 's' => some (pick Text.blanks "space")
  | 'w' => some f.word
  | 'D' => f.deny? (pick Text.decimalDigits "digit")
  | 'S' => f.deny? (pick Text.blanks "space")
  | 'W' => f.deny? f.word
  | _ => none

/-- The characters of the names of looks at words. -/
def isLookChar (c : Char) : Bool := c.isAlpha || c = '-'

/-- A look at words with its name in braces, or a plain one before something else in braces. -/
def scanWordLook? (f : Flags) (cs : List Char) : Option (Primitive × List Char) :=
  match cs with
  | '\x7b' :: r =>
    match skipSpace f r with
    | [] => none
    | c :: t =>
      if !isLookChar c then some (.look .wordBoundary, cs)
      else
        let kept := if f.verbose then (c :: t).filter (!Text.isBlank ·) else c :: t
        let rest := ((c :: t).dropWhile fun d =>
          isLookChar d || (f.verbose && Text.isBlank d))
        match rest with
        | '\x7d' :: rest =>
          match String.ofList (kept.takeWhile isLookChar) with
          | "start" => some (.look .wordStart, rest)
          | "end" => some (.look .wordEnd, rest)
          | "start-half" => some (.look .wordStartHalf, rest)
          | "end-half" => some (.look .wordEndHalf, rest)
          | _ => none
        | _ => none
  | _ => some (.look .wordBoundary, cs)

/-- An escape behind its backslash. -/
def scanEscape? (f : Flags) : List Char → Option (Primitive × List Char)
  | [] => none
  | c :: r =>
    if c.isDigit then none
    else if isEscapable c then some (.char c, r)
    else
      match c with
      | 'x' => scanHex? f 2 r
      | 'u' => scanHex? f 4 r
      | 'U' => scanHex? f 8 r
      | 'p' => scanNamed? f false r
      | 'P' => scanNamed? f true r
      | 'a' => some (.char '\x07', r)
      | 'f' => some (.char '\x0c', r)
      | 't' => some (.char '\t', r)
      | 'n' => some (.char '\n', r)
      | 'r' => some (.char '\r', r)
      | 'v' => some (.char '\x0b', r)
      | 'A' => some (.look .textStart, r)
      | 'z' => some (.look .textEnd, r)
      | 'B' => some (.look .noWordBoundary, r)
      | '<' => some (.look .wordStart, r)
      | '>' => some (.look .wordEnd, r)
      | 'b' => scanWordLook? f r
      | _ => (shortClass? f c).map fun s => (.set s, r)

/-! ### Classes in brackets -/

/-- What a class holds so far: its characters, the number of its parts and how deep they go. -/
structure Union where
  set : CharSet := CharSet.empty
  parts : Nat := 0
  depth : Nat := 0

/-- One more part of a class. -/
def Union.add (u : Union) (s : CharSet) (depth : Nat := 0) : Union :=
  ⟨u.set.union s, u.parts + 1, max u.depth depth⟩

/-- How deep a class goes, taken as one. -/
def Union.height (u : Union) : Nat := u.depth + if 2 ≤ u.parts then 1 else 0

/-- An operation on two classes. -/
inductive SetOperation where
  | inter | diff | symmDiff

/-- The result of an operation. -/
def SetOperation.apply : SetOperation → CharSet → CharSet → CharSet
  | .inter => CharSet.inter
  | .diff => CharSet.diff
  | .symmDiff => CharSet.symmDiff

/-- What waits for a class to be read: the bracket that it is in, or an operation. -/
inductive ClassFrame where
  /-- Whether the class in the bracket is denied, and what stood before the bracket. -/
  | bracket (denied : Bool) (outer : Union)
  | operation (op : SetOperation) (left : Union)

/-- A class with the operation applied that waits for it. -/
def applyPending (f : Flags) : Union → List ClassFrame → Union × List ClassFrame
  | u, .operation op left :: frames =>
    (⟨op.apply (f.fold left.set) (f.fold u.set), 1, 1 + max left.height u.height⟩, frames)
  | u, frames => (u, frames)

/-- What a bracket closes to. -/
def closeBracket? (f : Flags) (denied : Bool) (u : Union) : Option CharSet :=
  if denied then f.deny? (f.fold u.set) else some (f.fold u.set)

/-- The name of a class of ASCII characters, with what encloses it, behind the opening bracket; says
also whether it is denied. -/
def scanAsciiClass? (cs : List Char) : Option (CharSet × Bool × List Char) :=
  match cs with
  | ':' :: r =>
    let (denied, r) := match r with
      | '^' :: r => (true, r)
      | r => (false, r)
    match r.dropWhile (· ≠ ':') with
    | ':' :: ']' :: rest =>
      (asciiClass? (String.ofList (r.takeWhile (· ≠ ':')))).map fun s => (s, denied, rest)
    | _ => none
  | _ => none

/-- One character or escape of a class. -/
def scanClassItem? (f : Flags) : List Char → Option (Primitive × List Char)
  | [] => none
  | '\\' :: r => scanEscape? f r
  | c :: r => some (.char c, r)

/-- A character that may stand in a class under the flags. -/
def classChar? (f : Flags) (c : Char) : Option Char :=
  if f.unicode || c.toNat < 128 then some c else none

/-- A character, an escape or a range of a class. -/
def scanClassRange? (f : Flags) (cs : List Char) : Option (CharSet × List Char) := do
  let (p, r) ← scanClassItem? f cs
  let r := skipSpace f r
  let isRange := match r with
    | '-' :: t =>
      match skipSpace f t with
      | ']' :: _ | '-' :: _ => false
      | _ => true
    | _ => false
  if r.isEmpty then none
  else if isRange then
    let (q, t) ← scanClassItem? f (skipSpace f (r.drop 1))
    match p, q with
    | .char a, .char b =>
      let a ← classChar? f a
      let b ← classChar? f b
      if a ≤ b then pure (CharSet.range a b, t) else none
    | _, _ => none
  else
    match p with
    | .char c => (classChar? f c).map fun c => (CharSet.singleton c, r)
    | .set s => pure (s, r)
    | .look _ => none

/-- The beginning of a class behind its bracket: whether it is denied, and what stands in it before
its first proper part, dashes and a closing bracket among them. -/
def openBracket? (f : Flags) (cs : List Char) : Option (Bool × Union × List Char) :=
  let cs := skipSpace f cs
  let (denied, cs) := match cs with
    | '^' :: r => (true, skipSpace f r)
    | cs => (false, cs)
  let rec dashes : Nat → Union → List Char → Union × List Char
    | n + 1, u, '-' :: r => dashes n (u.add (CharSet.singleton '-')) (skipSpace f r)
    | _, u, cs => (u, cs)
  let (u, cs) := dashes cs.length {} cs
  match cs with
  | [] => none
  | ']' :: r =>
    if u.parts = 0 then
      let r := skipSpace f r
      if r.isEmpty then none else some (denied, u.add (CharSet.singleton ']'), r)
    else some (denied, u, cs)
  | _ => some (denied, u, cs)

/-- The operation that two characters announce. -/
def operation? : List Char → Option (SetOperation × List Char)
  | '&' :: '&' :: r => some (.inter, r)
  | '-' :: '-' :: r => some (.diff, r)
  | '~' :: '~' :: r => some (.symmDiff, r)
  | _ => none

/-- The rest of a class, by at most so many parts: the set, how deep it goes, and what follows. -/
def scanClassFrom? (f : Flags) :
    Nat → List ClassFrame → Union → List Char → Option (CharSet × Nat × List Char)
  | 0, _, _, _ => none
  | n + 1, frames, u, cs =>
    match skipSpace f cs with
    | [] => none
    | '[' :: r =>
      match scanAsciiClass? r with
      | some (s, denied, rest) => do
        let s ← if denied then f.deny? (f.fold s) else some (f.fold s)
        scanClassFrom? f n frames (u.add s) rest
      | none => do
        let (denied, v, rest) ← openBracket? f r
        scanClassFrom? f n (.bracket denied u :: frames) v rest
    | ']' :: r =>
      match applyPending f u frames with
      | (u, .bracket denied outer :: frames) => do
        let s ← closeBracket? f denied u
        let depth := 1 + u.height
        if frames.isEmpty then pure (s, depth, r)
        else scanClassFrom? f n frames (outer.add s depth) r
      | _ => none
    | cs =>
      match operation? cs with
      | some (op, r) =>
        let (u, frames) := applyPending f u frames
        scanClassFrom? f n (.operation op u :: frames) {} r
      | none => do
        let (s, rest) ← scanClassRange? f cs
        scanClassFrom? f n frames (u.add s) rest

/-- A class behind its opening bracket: the set, how deep it goes, and what follows. -/
def scanClass? (f : Flags) (cs : List Char) : Option (CharSet × Nat × List Char) := do
  let (denied, u, rest) ← openBracket? f cs
  scanClassFrom? f (rest.length + 1) [.bracket denied {}] u rest

end Testbed.Pattern
