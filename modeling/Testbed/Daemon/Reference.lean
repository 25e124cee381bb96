/-
**References to containers.**

A container is referred to by its id or by its name.  A reference is checked before it goes into the
path of a request: it is not empty and not too long, it does not begin with a dash, and it holds no
character that means something in a path.

Main definitions:

* `Testbed.Daemon.Reference.Fault` — what is wrong with a reference;
* `Testbed.Daemon.Reference.fault?` — the first fault of a reference.
-/

import Testbed.Failure

set_option autoImplicit false

namespace Testbed.Daemon.Reference

/-- What is wrong with a reference. -/
inductive Fault where
  /-- It has so many bytes, none or too many. -/
  | length (bytes : Nat)
  | leadingDash
  | forbiddenCharacter
  deriving DecidableEq, Repr

/-- The wording of a fault. -/
def Fault.message : Fault → String
  | .length bytes =>
    "invalid container reference: length " ++ toString bytes ++ " (must be 1-128)"
  | .leadingDash => "invalid container reference: must not start with '-'"
  | .forbiddenCharacter => "invalid container reference: contains forbidden characters"

/-- The longest reference, in bytes. -/
def lengthLimit : Nat := 128

/-- Is this a character of a reference? -/
def isAllowed (c : Char) : Bool := c.isAlphanum || c = '_' || c = '.' || c = '-'

/-- The first fault of a reference. -/
def fault? (s : String) : Option Fault :=
  if s = "" || lengthLimit < s.utf8ByteSize then some (.length s.utf8ByteSize)
  else if s.toList.head? = some '-' then some .leadingDash
  else if !s.toList.all isAllowed then some .forbiddenCharacter
  else none

/-- A reference without fault, or the report of its first one. -/
def check (s : String) : Except OperationError Unit :=
  match fault? s with
  | none => .ok ()
  | some f => .error (.api f.message)

end Testbed.Daemon.Reference
