/-
**Reading TOML.**

Values nest at most eighty deep, and the reader recurses on what is left of that depth.  A document
is read statement by statement, each from the head of what the previous one left.

Main definitions:

* `Testbed.Toml.scanValue?` — a value at the head of a text;
* `Testbed.Toml.scanStatement?` — a header or an assignment;
* `Testbed.Toml.parse?` — the tree of a document.
-/

import Testbed.Toml.Scalar

set_option autoImplicit false

namespace Testbed.Toml

/-- A reader of something at the head of a text. -/
abbrev Scanner (α : Type) := List Char → Option (α × List Char)

/-- The items of an array, from behind its opening bracket or a comma on. -/
def scanItems? (item : Scanner Toml) (cs : List Char) : Option (List Toml × List Char) :=
  match skipLines? false cs with
  | none => none
  | some (']' :: r) => some ([], r)
  | some r =>
    match item r with
    | none => none
    | some (v, r) =>
      match skipLines? false r with
      | some (']' :: r) => some ([v], r)
      | some (',' :: r) =>
        if _h : r.length < cs.length then
          (scanItems? item r).map fun (vs, t) => (v :: vs, t)
        else none
      | _ => none
termination_by cs.length

/-- The entries of a table in braces, from behind its opening brace or a comma on, added to those
read so far. -/
def scanEntries? (item : Scanner Toml) (t : Toml) (cs : List Char) : Option (Toml × List Char) :=
  match skipLines? false cs with
  | none => none
  | some ('\x7d' :: r) => some (t, r)
  | some r =>
    match scanPath? r with
    | some (key, '=' :: r) =>
      match item (skipBlanks r) with
      | none => none
      | some (v, r) =>
        match assign? v key t with
        | none => none
        | some t =>
          match skipLines? false r with
          | some ('\x7d' :: r) => some (t, r)
          | some (',' :: r) =>
            if _h : r.length < cs.length then scanEntries? item t r else none
          | _ => none
    | _ => none
termination_by cs.length

/-- A value at the head of a text, with containers at most `depth` deep. -/
def scanValue? : Nat → Scanner Toml
  | 0, cs => scanScalar? cs
  | depth + 1, cs =>
    match cs with
    | '[' :: r => (scanItems? (scanValue? depth) r).map fun (vs, t) => (.array vs, t)
    | '\x7b' :: r => scanEntries? (scanValue? depth) (.table .inline []) r
    | _ => scanScalar? cs

/-- How deep values may nest. -/
def depthLimit : Nat := 80

/-- A path with its last key apart. -/
def splitLast (ks : List String) : List String × String := (ks.dropLast, ks.getLast?.getD "")

/-- A statement at the head of a text that starts with no space, and what follows its line. -/
def scanStatement? (cs : List Char) : Option (Statement × List Char) :=
  match cs with
  | '[' :: '[' :: r =>
    match scanPath? r with
    | some (path, ']' :: ']' :: r) =>
      (endLine? r).map fun t => (.element (splitLast path).1 (splitLast path).2, t)
    | _ => none
  | '[' :: r =>
    match scanPath? r with
    | some (path, ']' :: r) =>
      (endLine? r).map fun t => (.header (splitLast path).1 (splitLast path).2, t)
    | _ => none
  | _ =>
    match scanPath? cs with
    | some (key, '=' :: r) =>
      match scanValue? depthLimit (skipBlanks r) with
      | some (v, r) => (endLine? r).map fun t => (.assign key v, t)
      | none => none
    | _ => none

/-- The statements of a text. -/
def statements? (cs : List Char) : Option (List Statement) :=
  match skipLines? false cs with
  | none => none
  | some [] => some []
  | some r =>
    match scanStatement? r with
    | none => none
    | some (s, t) =>
      if _h : t.length < cs.length then (statements? t).map (s :: ·) else none
termination_by cs.length

/-- A text without the mark of its byte order. -/
def dropMark : List Char → List Char
  | '\ufeff' :: r => r
  | cs => cs

/-- The tree of a document. -/
def parse? (s : String) : Option Toml := (statements? (dropMark s.toList)).bind ofStatements?

end Testbed.Toml
