/-
**TOML documents as trees.**

A document is a table of values.  How a table came to be decides whether it may be extended: a
table under a header is closed to a second header of its own, a table that only stood on the way to
another one is still open to it, and a table in braces is closed to everything.  Readers of a
document see the values alone.

Main definitions:

* `Testbed.Toml` — the values, `Testbed.Toml.Origin` — how a table came to be;
* `Testbed.Toml.assign?`, `Testbed.Toml.openTable?`, `Testbed.Toml.openElement?` — the three
  kinds of statement of a document, acting on a tree.
-/

set_option autoImplicit false

namespace Testbed

/-- How a table came to be. -/
inductive Toml.Origin where
  /-- Under a header of its own. -/
  | header
  /-- On the way to the table of another header. -/
  | passing
  /-- By a dotted key. -/
  | dotted
  /-- In braces. -/
  | inline
  deriving DecidableEq, Repr, Inhabited

/-- A value of a document. -/
inductive Toml where
  | text (s : String)
  | integer (n : Int)
  /-- A float, as written without underscores. -/
  | float (written : List Char)
  | boolean (b : Bool)
  /-- A date, a time or both, in its normal spelling. -/
  | date (spelling : String)
  | array (items : List Toml)
  | table (origin : Toml.Origin) (entries : List (String × Toml))
  /-- The tables under a header in double brackets. -/
  | tables (elements : List Toml)
  deriving Repr, Inhabited

namespace Toml

/-- The entry of a key. -/
def lookup (k : String) : List (String × Toml) → Option Toml
  | [] => none
  | (k', v) :: r => if k = k' then some v else lookup k r

/-- The entries with the value of a key replaced, or put behind the others if the key is new. -/
def replace (k : String) (v : Toml) : List (String × Toml) → List (String × Toml)
  | [] => [(k, v)]
  | (k', v') :: r => if k = k' then (k, v) :: r else (k', v') :: replace k v r

/-! ### Statements -/

/-- The last of the tables under a header in double brackets, changed. -/
def changeLast? (f : Toml → Option Toml) : List Toml → Option (List Toml)
  | [] => none
  | [t] => (f t).map fun t => [t]
  | t :: r => (changeLast? f r).map (t :: ·)

/-- The table at the end of a path of headers, changed; tables that are missing on the way are made,
and of several tables under one header the last is meant. -/
def descend? (f : Toml → Option Toml) : List String → Toml → Option Toml
  | [], t => f t
  | k :: ks, .table origin entries =>
    if origin = .inline then none
    else
      match lookup k entries with
      | none =>
        (descend? f ks (.table .passing [])).map fun v => .table origin (replace k v entries)
      | some (.tables elements) =>
        (changeLast? (descend? f ks) elements).map fun es =>
          .table origin (replace k (.tables es) entries)
      | some (.table o es) =>
        if o = .inline then none
        else (descend? f ks (.table o es)).map fun v => .table origin (replace k v entries)
      | some _ => none
  | _, _ => none

/-- A value put under a dotted key of a table.  Only tables that dotted keys have made may be
extended, and no key is given twice. -/
def assign? (v : Toml) : List String → Toml → Option Toml
  | [k], .table origin entries =>
    match lookup k entries with
    | none => some (.table origin (replace k v entries))
    | some _ => none
  | k :: ks, .table origin entries =>
    match lookup k entries with
    | none => (assign? v ks (.table .dotted [])).map fun w => .table origin (replace k w entries)
    | some (.table .dotted es) =>
      (assign? v ks (.table .dotted es)).map fun w => .table origin (replace k w entries)
    | some _ => none
  | _, _ => none

/-- A header: the table of a key is new, or stood only on the way to another one. -/
def openTable? (k : String) : Toml → Option Toml
  | .table origin entries =>
    match lookup k entries with
    | none => some (.table origin (replace k (.table .header []) entries))
    | some (.table .passing es) => some (.table origin (replace k (.table .header es) entries))
    | some _ => none
  | _ => none

/-- A header in double brackets: one more table under a key. -/
def openElement? (k : String) : Toml → Option Toml
  | .table origin entries =>
    match lookup k entries with
    | none => some (.table origin (replace k (.tables [.table .header []]) entries))
    | some (.tables es) =>
      some (.table origin (replace k (.tables (es ++ [.table .header []])) entries))
    | some _ => none
  | _ => none

/-! ### Whole documents -/

/-- A statement of a document. -/
inductive Statement where
  | header (path : List String) (key : String)
  | element (path : List String) (key : String)
  | assign (key : List String) (v : Toml)
  deriving Repr

/-- A document that is being built: its tree and the path of the latest header. -/
structure Draft where
  root : Toml := .table .header []
  current : List String := []
  deriving Repr

/-- A document after one more statement. -/
def Draft.add? (d : Draft) : Statement → Option Draft
  | .header path key =>
    (descend? (openTable? key) path d.root).map fun root => ⟨root, path ++ [key]⟩
  | .element path key =>
    (descend? (openElement? key) path d.root).map fun root => ⟨root, path ++ [key]⟩
  | .assign key v =>
    (descend? (assign? v key) d.current d.root).map fun root => ⟨root, d.current⟩

/-- The tree of a row of statements. -/
def ofStatements? (ss : List Statement) : Option Toml :=
  (ss.foldlM Draft.add? {}).map Draft.root

end Toml

end Testbed
