/-
**The form of a value.**

A schema says of what form a JSON value has to be.  The fields of a record may be missing or null
unless they are required, each may be given once, and other members are not looked at.

Main definitions:

* `Testbed.Json.Schema`, `Testbed.Json.Schema.fits` — a form, and whether a value has it;
* `Testbed.Json.at?` — what stands in a value under a row of names.
-/

import Testbed.Json.Basic

set_option autoImplicit false

namespace Testbed.Json

/-- The form of a value. -/
inductive Schema where
  | text
  | flag
  /-- A whole number of 64 bits with a sign. -/
  | integer
  /-- One of some texts. -/
  | word (choices : List String)
  /-- An object without members. -/
  | unit
  | list (items : Schema)
  /-- An object with members of one form. -/
  | dict (values : Schema)
  | orNull (value : Schema)
  | record (required : List String) (fields : List (String × Schema))
  deriving Repr

/-- The values of all members with a name. -/
def valuesOf (name : String) (members : List (String × Json)) : List Json :=
  (members.filter fun m => m.1 = name).map Prod.snd

/-- Is a member with this name given? -/
def isGiven (members : List (String × Json)) (name : String) : Bool :=
  !(valuesOf name members).isEmpty

mutual

/-- Is a value of a form? -/
def Schema.fits : Schema → Json → Bool
  | .text, .str _ => true
  | .flag, .bool _ => true
  | .integer, .num (.int n) => -Int.pow 2 63 ≤ n && n < Int.pow 2 63
  | .word choices, .str s => choices.contains s
  | .unit, .obj [] => true
  | .list s, .arr items => items.all fun v => s.fits v
  | .dict s, .obj members => members.all fun m => s.fits m.2
  | .orNull s, v => v.isNull || s.fits v
  | .record required fields, .obj members =>
    required.all (isGiven members) && fieldsFit fields members
  | _, _ => false

/-- Are the members that are fields of the forms of these? -/
def fieldsFit : List (String × Schema) → List (String × Json) → Bool
  | [], _ => true
  | (name, s) :: r, members =>
    (match valuesOf name members with
      | [] => true
      | [v] => s.fits v
      | _ => false) && fieldsFit r members

end

/-- A record whose fields may all be missing or null. -/
def Schema.options (fields : List (String × Schema)) : Schema :=
  .record [] (fields.map fun f => (f.1, .orNull f.2))

/-- What stands in a value under a row of names, if that is not null. -/
def at? (v : Json) : List String → Option Json
  | [] => if v.isNull then none else some v
  | name :: r => (v.get? name).bind fun v => v.at? r

/-- The text under a row of names. -/
def textAt? (v : Json) (path : List String) : Option String := (v.at? path).bind str?

/-- The texts of the list under a row of names. -/
def textsAt? (v : Json) (path : List String) : Option (List String) := (v.at? path).bind strings?

/-- The members of the object under a row of names. -/
def membersAt (v : Json) (path : List String) : List (String × Json) :=
  ((v.at? path).bind members?).getD []

/-- The number under a row of names. -/
def intAt? (v : Json) (path : List String) : Option Int := (v.at? path).bind int?

end Testbed.Json
