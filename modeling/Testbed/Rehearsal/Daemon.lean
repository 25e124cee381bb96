/-
**A daemon to rehearse with.**

The daemon gives prepared replies to requests, by method and path.  Replies to the same request are
used up one by one, and the last of them stays; the daemon keeps no containers on which a reply could
depend.  It listens on a socket of the directory in which programs are rehearsed; at other places
there is nobody.

Main definitions:

* `Testbed.Rehearsal.Reply`, `Testbed.Rehearsal.Daemon` — a reply, and the daemon;
* `Testbed.Rehearsal.Daemon.serve` — the answer to a request;
* `Testbed.Rehearsal.Daemon.host` — the daemon as the runtime of a world.
-/

import Testbed.Daemon.Client
import Testbed.Daemon.Endpoint
import Testbed.Rehearsal.World

set_option autoImplicit false

namespace Testbed.Rehearsal

/-- A prepared reply. -/
inductive Reply where
  | response (r : Http.Response)
  /-- The connection is closed without a response. -/
  | hangUp
  deriving Repr

/-- A frame of a log as it is sent. -/
def logFrame (stream : Nat) (payload : Bytes) : Bytes :=
  let n := payload.length
  [UInt8.ofNat stream, 0, 0, 0, UInt8.ofNat (n / Nat.pow 2 24), UInt8.ofNat (n / Nat.pow 2 16),
    UInt8.ofNat (n / Nat.pow 2 8), UInt8.ofNat n] ++ payload

/-- A daemon with prepared replies. -/
structure Daemon where
  /-- The replies by method and path. -/
  routes : Dict (List Reply) := Dict.empty
  /-- The variable that names the host. -/
  hostVariable : Option String := none
  /-- Do requests reach the daemon? -/
  reached : Bool := false
  /-- The requests that came, the last one first. -/
  heard : List Http.Request := []

namespace Daemon

/-- The reply to a request for which none was prepared. -/
def noRoute : Reply :=
  .response ⟨404, Utf8.encode "\x7b\"message\":\"no such container\"\x7d", true⟩

/-- The reply to a request, and the replies that are left. -/
def reply (routes : Dict (List Reply)) (line : String) : Reply × Dict (List Reply) :=
  match routes.get? line with
  | some (r :: s :: rest) => (r, routes.insert line (s :: rest))
  | some [r] => (r, routes)
  | _ => (noRoute, routes)

/-- The answer to a request. -/
def serve (r : Http.Request) (d : Daemon) : Option Http.Response × Daemon :=
  if d.reached then
    let (reply, routes) := reply d.routes r.line
    let d := { d with routes, heard := r :: d.heard }
    match reply with
    | .response x => (some x, d)
    | .hangUp => (none, d)
  else (none, d)

/-- The file under which the daemon listens. -/
def socketName : String := "docker.sock"

/-- The daemon after a client has chosen where to turn to.  A socket has to be there. -/
def connect (d : Daemon) (disk : Disk) (host : String) : Except OperationError Unit × Daemon :=
  match Testbed.Daemon.Endpoint.ofHost d.hostVariable host with
  | .error e => (.error e, d)
  | .ok (.address _) => (.ok (), { d with reached := false })
  | .ok (.socket path) =>
    match disk.locate path with
    | .error _ => (.error (Testbed.Daemon.Endpoint.socketMissing path), d)
    | .ok place =>
      match disk.node? place with
      | none => (.error (Testbed.Daemon.Endpoint.socketMissing path), d)
      | some node => (.ok (), { d with reached := node = .socket })

/-- The daemon as the runtime of a world. -/
def host : Host Daemon where
  connect := connect
  answer d c := (Testbed.Daemon.call c).run.hold serve d
  openLog d id follow := (Testbed.Daemon.openLog id follow).hold serve d

end Daemon

end Testbed.Rehearsal
