/-
**Named classes of characters.**

Within brackets, fourteen names stand for classes of ASCII characters.  Elsewhere a class is named
by a category, a writing system or a property, with or without saying which of these is meant;
space, underscores, dashes and letter case in such a name do not count, nor does `is` at its
beginning.

Main definitions:

* `Testbed.Pattern.asciiClass?` — the classes of ASCII characters;
* `Testbed.Pattern.namedClass?` — classes by a category, a writing system or a property.
-/

import Testbed.Text.Letters
import Testbed.Text.WritingSystem

set_option autoImplicit false

namespace Testbed.Pattern

open Text (CharSet)

/-- The class of ASCII characters that a name stands for. -/
def asciiClass? (name : String) : Option CharSet :=
  let digits := ('0', '9')
  let upper := ('A', 'Z')
  let lower := ('a', 'z')
  let ranges : Option (List (Char × Char)) :=
    match name with
    | "alnum" => some [digits, upper, lower]
    | "alpha" => some [upper, lower]
    | "ascii" => some [('\x00', '\x7f')]
    | "blank" => some [('\t', '\t'), (' ', ' ')]
    | "cntrl" => some [('\x00', '\x1f'), ('\x7f', '\x7f')]
    | "digit" => some [digits]
    | "graph" => some [('!', '~')]
    | "lower" => some [lower]
    | "print" => some [(' ', '~')]
    | "punct" => some [('!', '/'), (':', '@'), ('[', '\x60'), ('\x7b', '~')]
    | "space" => some [('\t', '\r'), (' ', ' ')]
    | "upper" => some [upper]
    | "word" => some [digits, upper, ('_', '_'), lower]
    | "xdigit" => some [digits, ('A', 'F'), ('a', 'f')]
    | _ => none
  ranges.map fun rs => CharSet.ofRanges (rs.map fun r => (r.1.toNat, r.2.toNat))

/-- A name reduced to what counts. -/
def plainName (name : String) : String :=
  let cs := name.toList.map Char.toLower
  let body := if "is".toList.isPrefixOf cs then cs.drop 2 else cs
  let kept := body.filter fun c => c ≠ ' ' && c ≠ '_' && c ≠ '-' && c.toNat < 128
  if kept = ['c'] && body.length < cs.length then "isc" else String.ofList kept

/-- The class of a category, by its reduced name. -/
def categoryClass? (name : String) : Option CharSet :=
  match name with
  | "any" => some CharSet.all
  | "assigned" => (Text.Category.set? "cn").map CharSet.complement
  | "ascii" => some (CharSet.range '\x00' '\x7f')
  | _ => Text.Category.set? name

/-- The names that can also be short for something that is no class. -/
def ambiguous : List String := ["cf", "sc", "lc"]

/-- The class that a name alone stands for. -/
def bareClass? (name : String) : Option CharSet :=
  let n := plainName name
  (if ambiguous.contains n then none else Text.property? n) <|> categoryClass? n <|>
    Text.WritingSystem.set? n

/-- The class that a name with its kind stands for. -/
def keyedClass? (key value : String) : Option CharSet :=
  match plainName key with
  | "gc" | "generalcategory" => categoryClass? (plainName value)
  | "sc" | "script" | "scx" | "scriptextensions" => Text.WritingSystem.set? (plainName value)
  | _ => none

/-- A text parted at the first place at which a mark stands. -/
def partAt? (mark : List Char) : List Char → Option (List Char × List Char)
  | [] => none
  | c :: r =>
    if mark.isPrefixOf (c :: r) then some ([], (c :: r).drop mark.length)
    else (partAt? mark r).map fun p => (c :: p.1, p.2)

/-- The class that is named between braces: a name, or a kind and a name with a sign between them,
one of which denies. -/
def namedClass? (text : List Char) : Option CharSet :=
  match partAt? ['!', '='] text with
  | some (k, v) => (keyedClass? (String.ofList k) (String.ofList v)).map CharSet.complement
  | none =>
    match partAt? [':'] text <|> partAt? ['='] text with
    | some (k, v) => keyedClass? (String.ofList k) (String.ofList v)
    | none => bareClass? (String.ofList text)

end Testbed.Pattern
