/-
**What goes wrong with a daemon.**

A request fails because no response comes, because the response breaks off, because it reports a
failure, or because it is not what was asked for.  What an operation reports depends on the cause: a
container that the daemon does not know, a connection that does not work, or anything else.

Main definitions:

* `Testbed.Daemon.Fault` — why a request failed;
* `Testbed.Daemon.Fault.toOperationError` — what an operation on a container reports;
* `Testbed.Daemon.judge` — a response that reports no failure;
* `Testbed.Daemon.readJson` — the value in a response.
-/

import Testbed.Failure
import Testbed.Http.Message
import Testbed.Json.Schema
import Testbed.Json.Truncation

set_option autoImplicit false

namespace Testbed.Daemon

/-- Why a request failed. -/
inductive Fault where
  /-- The daemon reports a failure. -/
  | status (code : Nat) (message : String)
  /-- The connection yields no response. -/
  | silence
  /-- The response breaks off. -/
  | brokenBody
  /-- The response is not of the form that was asked for. -/
  | form
  /-- The value in the response ends too early. -/
  | cutOff
  /-- The log ends inside a frame or a line. -/
  | restOfLog
  deriving DecidableEq, Repr

namespace Fault

/-- The wording of a fault. -/
def message : Fault → String
  | .status code message =>
    "Docker responded with status code " ++ toString code ++ ": " ++ message
  | .silence => "Error in the hyper legacy client: the connection was closed"
  | .brokenBody => "error reading a body from connection"
  | .form => "Failed to deserialize JSON: the value has another form"
  | .cutOff => "EOF while parsing a value"
  | .restOfLog => "bytes remaining on stream"

/-- What an operation reports, given the container and what was to be done with it. -/
def toOperationError (subject action : String) (f : Fault) : OperationError :=
  let text := action ++ " failed: " ++ f.message
  match f with
  | .status 404 _ => .containerNotFound subject
  | .status 304 _ => .notModified subject
  | .brokenBody | .restOfLog => .connection text
  | _ => .api text

/-- What a question about the daemon itself reports. -/
def toConnectionError (action : String) (f : Fault) : OperationError :=
  .connection (action ++ " failed: " ++ f.message)

end Fault

/-! ### Responses -/

/-- The status that says that nothing had to be changed. -/
def unchanged : Nat := 304

/-- Does a status report no failure? -/
def isSuccess (status : Nat) : Bool := (200 ≤ status && status < 300) || status = unchanged

/-- The explanation in a body that reports a failure: its message, or else the whole body. -/
def explanation (body : String) : Except Fault String :=
  match Json.parse? body with
  | some (.obj members) =>
    match Json.valuesOf "message" members with
    | [.str s] => .ok s
    | _ => .ok body
  | some (.arr [.str s]) => .ok s
  | some _ => .ok body
  | none => if body ≠ "" && Json.isCutOff body then .error .cutOff else .ok body

/-- A response that reports no failure, or the failure. -/
def judge : Option Http.Response → Except Fault Http.Response
  | none => .error .silence
  | some r =>
    if isSuccess r.status then .ok r
    else if !r.complete then .error .brokenBody
    else do
      let text ← explanation (Utf8.decodeLossy r.body)
      throw (.status r.status text)

/-- The body of a response. -/
def readBody (r : Http.Response) : Except Fault Bytes :=
  if r.complete then .ok r.body else .error .brokenBody

/-- The value in a response, which has to be of a form. -/
def readJson (s : Json.Schema) (r : Http.Response) : Except Fault Json := do
  match Utf8.decode? (← readBody r) with
  | none => throw .form
  | some text =>
    match Json.parse? text with
    | some v => if s.fits v then return v.canonical else throw .form
    | none => throw (if Json.isCutOff text then .cutOff else .form)

end Testbed.Daemon
