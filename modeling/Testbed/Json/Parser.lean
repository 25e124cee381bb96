/-
**Reading JSON.**

The reader is a stack machine over tokens.  Its stack holds the arrays and objects that are open,
each with what it has received so far, and its mode says what may come next; a token either moves
the machine or stops it.  How deep containers may nest is a bound on the stack.

Main definitions:

* `Testbed.Json.Machine.step?` — one token;
* `Testbed.Json.ofTokens?` — the value of a row of tokens;
* `Testbed.Json.parse?` — the value of a text as written, and `Testbed.Json.read?` its canonical
  form.
-/

import Testbed.Json.Token

set_option autoImplicit false

namespace Testbed.Json

/-- A container that is open, with its contents so far, the latest first. -/
inductive Frame where
  | arr (items : List Json)
  | obj (members : List (String × Json))
  /-- An object whose member with this key still lacks its value. -/
  | member (members : List (String × Json)) (key : String)
  deriving Repr

/-- What may come next. -/
inductive Mode where
  /-- A value, or the end of the array just opened. -/
  | value (opened : Bool)
  /-- A key, or the end of the object just opened. -/
  | key (opened : Bool)
  /-- The colon behind a key. -/
  | colon
  /-- A comma or the end of the innermost container. -/
  | after
  /-- Nothing: the text is complete, with this value. -/
  | finished (v : Json)
  deriving Repr

/-- The state of the reader. -/
structure Machine where
  mode : Mode
  stack : List Frame
  deriving Repr

namespace Machine

/-- The reader before the first token. -/
def start : Machine := ⟨.value false, []⟩

/-- The reader after a complete value. -/
def put? (v : Json) : List Frame → Option Machine
  | [] => some ⟨.finished v, []⟩
  | .arr items :: r => some ⟨.after, .arr (v :: items) :: r⟩
  | .member members k :: r => some ⟨.after, .obj ((k, v) :: members) :: r⟩
  | .obj _ :: _ => none

/-- One token, with at most `limit` containers open at a time. -/
def step? (limit : Nat) (m : Machine) (t : Token) : Option Machine :=
  match m.mode, t with
  | .value _, .null => put? .null m.stack
  | .value _, .bool b => put? (.bool b) m.stack
  | .value _, .num n => put? (.num n) m.stack
  | .value _, .str s => put? (.str s) m.stack
  | .value _, .openArr =>
    if m.stack.length < limit then some ⟨.value true, .arr [] :: m.stack⟩ else none
  | .value _, .openObj =>
    if m.stack.length < limit then some ⟨.key true, .obj [] :: m.stack⟩ else none
  | .value true, .closeArr =>
    match m.stack with
    | .arr items :: r => put? (.arr items.reverse) r
    | _ => none
  | .key opened, t =>
    match m.stack, t with
    | .obj members :: r, .str k => some ⟨.colon, .member members k :: r⟩
    | .obj members :: r, .closeObj => if opened then put? (.obj members.reverse) r else none
    | _, _ => none
  | .colon, .colon => some ⟨.value false, m.stack⟩
  | .after, t =>
    match m.stack, t with
    | .arr _ :: _, .comma => some ⟨.value false, m.stack⟩
    | .arr items :: r, .closeArr => put? (.arr items.reverse) r
    | .obj _ :: _, .comma => some ⟨.key false, m.stack⟩
    | .obj members :: r, .closeObj => put? (.obj members.reverse) r
    | _, _ => none
  | _, _ => none

/-- The value of a reader that is finished. -/
def result? (m : Machine) : Option Json :=
  match m.mode with
  | .finished v => some v
  | _ => none

end Machine

/-- The value of a row of tokens. -/
def ofTokens? (limit : Nat) (ts : List Token) : Option Json :=
  (ts.foldlM (Machine.step? limit) Machine.start).bind Machine.result?

/-- How many containers may be open at a time. -/
def depthLimit : Nat := 127

/-- The value of a text, objects with their members as written. -/
def parse? (s : String) : Option Json := (Token.scan? s.toList).bind (ofTokens? depthLimit)

/-- The value of a text in canonical form. -/
def read? (s : String) : Option Json := (parse? s).map canonical

end Testbed.Json
