/-
**JSON values.**

A value is what a JSON text denotes, its objects with their members as written.  A number is an
integer within the range of 64-bit words, signed or unsigned, or a double.  Reading into the
program's data always goes through `Json.canonical`, in which equal keys of an object have become
one, the last of them counting, and the members stand in the order of their keys.

Main definitions:

* `Testbed.Json`, `Testbed.Json.Number` — values and their numbers;
* `Testbed.Json.canonical` — every object with sorted keys, each once;
* `Testbed.Json.get?` — a member of an object.
-/

import Testbed.Dict
import Testbed.Number.Decimal

set_option autoImplicit false

namespace Testbed

/-- A number of a JSON text. -/
inductive Json.Number where
  /-- A whole number from `-2 ^ 63` to `2 ^ 64 - 1`, written without fraction or exponent. -/
  | int (n : Int)
  /-- Any other number, rounded to a double. -/
  | double (x : Double)
  deriving DecidableEq, Repr, Inhabited

/-- A JSON value. -/
inductive Json where
  | null
  | bool (b : Bool)
  | num (n : Json.Number)
  | str (s : String)
  | arr (items : List Json)
  | obj (members : List (String × Json))
  deriving BEq, Repr, Inhabited

namespace Json

/-- A whole number as a value. -/
def ofInt (n : Int) : Json := .num (.int n)

/-- A natural number as a value. -/
def ofNat (n : Nat) : Json := .num (.int n)

/-- A list of texts as a value. -/
def ofStrings (ss : List String) : Json := .arr (ss.map .str)

/-- A dictionary as an object. -/
def ofDict (d : Dict Json) : Json := .obj d.entries

/-- A text, or null where there is none. -/
def ofString? (s : Option String) : Json := (s.map Json.str).getD .null

/-! ### Canonical form -/

mutual

/-- The value with the keys of every object in increasing order, each once with its last value. -/
def canonical : Json → Json
  | .arr items => .arr (canonicalItems items)
  | .obj members => .obj (Dict.ofList (canonicalMembers members)).entries
  | v => v

/-- The canonical forms of the items of an array. -/
def canonicalItems : List Json → List Json
  | [] => []
  | v :: r => canonical v :: canonicalItems r

/-- The members of an object as written, their values in canonical form. -/
def canonicalMembers : List (String × Json) → List (String × Json)
  | [] => []
  | (k, v) :: r => (k, canonical v) :: canonicalMembers r

end

/-! ### Access -/

/-- The first member of an object with a key. -/
def get? (v : Json) (k : String) : Option Json :=
  match v with
  | .obj members => Dict.lookup k members
  | _ => none

/-- The text of a string. -/
def str? : Json → Option String
  | .str s => some s
  | _ => none

/-- The items of an array. -/
def arr? : Json → Option (List Json)
  | .arr items => some items
  | _ => none

/-- The members of an object, as written. -/
def members? : Json → Option (List (String × Json))
  | .obj members => some members
  | _ => none

/-- An integer. -/
def int? : Json → Option Int
  | .num (.int n) => some n
  | _ => none

/-- A natural number. -/
def nat? (v : Json) : Option Nat := v.int?.bind fun n => if n < 0 then none else some n.toNat

/-- A truth value. -/
def bool? : Json → Option Bool
  | .bool b => some b
  | _ => none

/-- Is this the null value? -/
def isNull : Json → Bool
  | .null => true
  | _ => false

/-- The texts of an array of strings; none if an item is no string. -/
def strings? (v : Json) : Option (List String) := v.arr?.bind fun items => items.mapM str?

end Json

end Testbed
