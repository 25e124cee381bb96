/-
**Requests and responses.**

A client asks a server with requests, each of which is answered by a response or not at all.  What a
client does is a tree: it is done, or it has a request to send and goes on with what comes back.

A request goes to a path whose segments of dots are resolved on the way, and its query is a row of
pairs in which everything but letters, digits and four marks is escaped.

Main definitions:

* `Testbed.Http.Request`, `Testbed.Http.Response` — the messages;
* `Testbed.Http.resolve` — a path without segments of dots;
* `Testbed.Http.escape` — a part of a query;
* `Testbed.Http.Dialogue`, `Testbed.Http.Dialogue.hold` — what a client does, and how it goes with a
  server.
-/

import Testbed.Json.Printer
import Testbed.Text.Utf8

set_option autoImplicit false

namespace Testbed.Http

/-! ### Messages -/

/-- What is to be done with the target of a request. -/
inductive Method where
  | get | post | put | delete
  deriving DecidableEq, Repr

/-- The word for a method. -/
def Method.word : Method → String
  | .get => "GET"
  | .post => "POST"
  | .put => "PUT"
  | .delete => "DELETE"

/-- What a request carries. -/
inductive Body where
  | none
  | json (v : Json)
  | archive (bytes : Bytes)

/-- A request. -/
structure Request where
  method : Method
  /-- The path as the client puts it together. -/
  path : String
  query : List (String × String) := []
  body : Body := .none

/-- A response. -/
structure Response where
  status : Nat
  body : Bytes
  /-- Did the body come to its end? -/
  complete : Bool := true
  deriving Repr

/-! ### Paths and queries -/

/-- The segments of a path: what stands between its slashes. -/
def pathSegments (path : String) : List String := (path.toList.splitOn '/').map String.ofList

/-- The segments of a path without those of dots: one dot stays where it is, and two dots go up.  At
the end of a path both leave an empty segment. -/
def resolveFrom (walked : List String) : List String → List String
  | [] => walked.reverse
  | [s] =>
    if s = "." then ("" :: walked).reverse
    else if s = ".." then ("" :: walked.tail).reverse
    else (s :: walked).reverse
  | s :: r =>
    if s = "." then resolveFrom walked r
    else if s = ".." then resolveFrom walked.tail r
    else resolveFrom (s :: walked) r

/-- A path, which begins with a slash, without segments of dots. -/
def resolve (path : String) : String :=
  "/" ++ "/".intercalate (resolveFrom [] ((pathSegments path).drop 1))

/-- A request as one line: its word and the path to which it goes. -/
def Request.line (r : Request) : String := r.method.word ++ " " ++ resolve r.path

/-- Is this a character that a query holds as it is? -/
def isPlain (c : Char) : Bool :=
  c.isAlphanum || c = '*' || c = '-' || c = '.' || c = '_'

/-- The escape of a byte. -/
def escapeByte (b : UInt8) : List Char :=
  let digit := fun (n : Nat) => (Nat.digitChar n).toUpper
  ['%', digit (b.toNat / 16), digit (b.toNat % 16)]

/-- A character of a query; a blank is written as a plus sign. -/
def escapeChar (c : Char) : List Char :=
  if isPlain c then [c]
  else if c = ' ' then ['+']
  else (String.utf8EncodeChar c).flatMap escapeByte

/-- A part of a query. -/
def escape (s : String) : String := String.ofList (s.toList.flatMap escapeChar)

/-- The pairs of a query as they are sent. -/
def Request.parameters (r : Request) : List String :=
  r.query.map fun (k, v) => escape k ++ "=" ++ escape v

/-! ### Dialogues -/

/-- What a client does; a request may remain without response. -/
inductive Dialogue (α : Type) where
  | done (a : α)
  | ask (r : Request) (next : Option Response → Dialogue α)

namespace Dialogue

variable {α β γ S : Type}

/-- A dialogue continued with the dialogue that its result selects. -/
def bind : Dialogue α → (α → Dialogue β) → Dialogue β
  | .done a, f => f a
  | .ask r next, f => .ask r fun x => (next x).bind f

instance : Monad Dialogue where
  pure := .done
  bind := bind

theorem bind_assoc (d : Dialogue α) (f : α → Dialogue β) (g : β → Dialogue γ) :
    (d.bind f).bind g = d.bind fun a => (f a).bind g := by
  induction d with
  | done a => rfl
  | ask r next ih => simp only [bind, ih]

/-- A dialogue held with a server: its result, and the server as it is afterwards. -/
def hold (serve : Request → S → Option Response × S) : Dialogue α → S → α × S
  | .done a, s => (a, s)
  | .ask r next, s => (next (serve r s).1).hold serve (serve r s).2

theorem hold_bind (serve : Request → S → Option Response × S) (d : Dialogue α)
    (f : α → Dialogue β) (s : S) :
    (d.bind f).hold serve s = (f (d.hold serve s).1).hold serve (d.hold serve s).2 := by
  induction d generalizing s with
  | done a => rfl
  | ask r next ih => exact ih _ _

end Dialogue

end Testbed.Http
