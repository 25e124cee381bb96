/-
**Where the daemon is.**

The daemon listens on a local socket or at a network address.  A host names one of them; a blank
host leaves the choice to the environment, and if that says nothing, there is a default socket.

Main definitions:

* `Testbed.Daemon.Endpoint` — a socket or an address;
* `Testbed.Daemon.Endpoint.ofHost` — the endpoint that a host names;
* `Testbed.Daemon.Endpoint.socketMissing` — the report of a socket that is not there.
-/

import Testbed.Failure
import Testbed.Text.Blank

set_option autoImplicit false

namespace Testbed.Daemon

/-- Where the daemon is. -/
inductive Endpoint where
  | socket (path : String)
  | address (host : String)
  deriving DecidableEq, Repr

namespace Endpoint

/-- The mark before the path of a socket. -/
def socketMark : String := "unix://"

/-- The marks before an address. -/
def addressMarks : List String := ["tcp://", "http://"]

/-- The default socket. -/
def default : Endpoint := .socket "/var/run/docker.sock"

/-- A text without a mark before it. -/
def dropMark (mark s : String) : String :=
  if s.startsWith mark then String.ofList (s.toList.drop mark.length) else s

/-- The endpoint that a host with a mark names. -/
def ofMarked? (s : String) : Option Endpoint :=
  if s.startsWith socketMark then some (.socket (dropMark socketMark s))
  else (addressMarks.find? fun m => s.startsWith m).map fun m => .address (dropMark m s)

/-- The endpoint of an environment, given its variable for the host. -/
def ofVariable (hostVariable : Option String) : Except OperationError Endpoint :=
  match hostVariable with
  | none => .ok default
  | some s =>
    match ofMarked? s with
    | some e => .ok e
    | none =>
      .error (.connection ("failed to connect to docker: URI scheme is not supported: " ++ s))

/-- The endpoint that a host names. -/
def ofHost (hostVariable : Option String) (host : String) : Except OperationError Endpoint :=
  let host := Text.trim host
  if host = "" then ofVariable hostVariable
  else if host.startsWith "/" then .ok (.socket host)
  else
    match ofMarked? host with
    | some e => .ok e
    | none => .error (.connection ("unsupported docker host '" ++ host ++
        "' (expected unix://, tcp:// or http://)"))

/-- The report of a socket that is not there. -/
def socketMissing (path : String) : OperationError :=
  .connection ("failed to connect to docker: Socket not found: " ++ path)

end Endpoint

end Testbed.Daemon
