/-
**The daemon as container runtime.**

Every call to the container runtime is a dialogue with the daemon, of one request or, to run a
command, of two.  A call that takes a reference to a container sends nothing if there is a fault in
it.

Main definitions:

* `Testbed.Daemon.inspectRequest`, `Testbed.Daemon.createRequest`, … — what is sent;
* `Testbed.Daemon.call` — **a call as a dialogue**;
* `Testbed.Daemon.openLog` — the log of a container as a dialogue.
-/

import Testbed.Daemon.Creation
import Testbed.Daemon.Inspection
import Testbed.Daemon.LogFrames
import Testbed.Daemon.Reference
import Testbed.Script.Action

set_option autoImplicit false

namespace Testbed.Daemon

open Http (Request Response Dialogue)
open Json (Schema)

/-! ### Requests -/

/-- The path of something that belongs to a container. -/
def containerPath (id part : String) : String := "/containers/" ++ id ++ part

/-- How long a container may take to stop, in seconds. -/
def stopPatience : String := "10"

/-- Asks for a report about a container. -/
def inspectRequest (id : String) : Request := { method := .get, path := containerPath id "/json" }

/-- Tells the daemon to create a container. -/
def createRequest (s : ContainerSpec) : Request where
  method := .post
  path := "/containers/create"
  query := [("name", s.name)]
  body := .json (creation s)

/-- Tells the daemon to start a container. -/
def startRequest (id : String) : Request := { method := .post, path := containerPath id "/start" }

/-- Tells the daemon to stop a container. -/
def stopRequest (id : String) : Request where
  method := .post
  path := containerPath id "/stop"
  query := [("t", stopPatience)]

/-- Tells the daemon to restart a container. -/
def restartRequest (id : String) : Request where
  method := .post
  path := containerPath id "/restart"
  query := [("t", stopPatience)]

/-- Tells the daemon to remove a container, neither by force nor with its volumes. -/
def removeRequest (id : String) : Request where
  method := .delete
  path := containerPath id ""
  query := [("v", "false"), ("force", "false"), ("link", "false")]

/-- Prepares a command in a container. -/
def prepareRequest (id : String) (command : List String) : Request where
  method := .post
  path := containerPath id "/exec"
  body := .json (.obj [("AttachStdout", .bool false), ("AttachStderr", .bool false),
    ("Cmd", Json.ofStrings command)])

/-- Runs a command that was prepared, without waiting for its end. -/
def runRequest (command : String) : Request where
  method := .post
  path := "/exec/" ++ command ++ "/start"
  body := .json (.obj [("Detach", .bool true), ("Tty", .bool false)])

/-- Fetches a path of a container. -/
def downloadRequest (id path : String) : Request where
  method := .get
  path := containerPath id "/archive"
  query := [("path", path)]

/-- Unpacks an archive into a directory of a container. -/
def uploadRequest (id directory : String) (archive : Bytes) : Request where
  method := .put
  path := containerPath id "/archive"
  query := [("path", directory), ("noOverwriteDirNonDir", "")]
  body := .archive archive

/-- Asks for the log of a container. -/
def logRequest (id : String) (follow : Bool) : Request where
  method := .get
  path := containerPath id "/logs"
  query := [("follow", toString follow), ("stdout", "true"), ("stderr", "true"), ("since", "0"),
    ("timestamps", "false"), ("tail", "all")]

/-- Asks for what the daemon says about itself. -/
def infoRequest : Request := { method := .get, path := "/info" }

/-- Asks whether the daemon is there. -/
def pingRequest : Request := { method := .get, path := "/_ping" }

/-! ### Forms of answers -/

/-- The form of the answer to a creation. -/
def createdSchema : Schema :=
  .record ["Id", "Warnings"] [("Id", .text), ("Warnings", .orNull (.list .text))]

/-- The form of the answer to the preparation of a command. -/
def preparedSchema : Schema := .record ["Id"] [("Id", .text)]

/-- The form of what the daemon says about itself. -/
def infoSchema : Schema :=
  .options [("Name", .text), ("ServerVersion", .text), ("Containers", .integer),
    ("ContainersRunning", .integer), ("ContainersPaused", .integer),
    ("ContainersStopped", .integer), ("Images", .integer), ("ID", .text), ("Driver", .text)]

/-- What the daemon says about itself, from its written form. -/
def infoOfJson (v : Json) : RuntimeInfo where
  name := (v.textAt? ["Name"]).getD ""
  serverVersion := (v.textAt? ["ServerVersion"]).getD ""
  containers := (v.intAt? ["Containers"]).getD 0
  containersRunning := (v.intAt? ["ContainersRunning"]).getD 0
  containersStopped := (v.intAt? ["ContainersStopped"]).getD 0
  images := (v.intAt? ["Images"]).getD 0

/-! ### Calls -/

/-- A dialogue that can fail. -/
abbrev Talk (α : Type) := ExceptT OperationError Dialogue α

/-- Sends a request and waits for the response. -/
def send (r : Request) : ExceptT Fault Dialogue Response :=
  .mk (.ask r fun x => .done (judge x))

/-- A request whose response is read, with the report of what goes wrong. -/
def exchange {α : Type} (report : Fault → OperationError) (r : Request)
    (read : Response → Except Fault α) : Talk α :=
  ExceptT.adapt report do
    let response ← send r
    ExceptT.mk (pure (read response))

/-- A response that is not read. -/
def unread (_ : Response) : Except Fault Unit := .ok ()

/-- Goes on only with a reference without fault. -/
def withReference {α : Type} (id : String) (talk : Talk α) : Talk α := do
  ExceptT.mk (pure (Reference.check id))
  talk

/-- **A call as a dialogue.** -/
def call : (c : Call) → Talk c.Answer
  | .inspect id => withReference id do
    let v ← exchange (Fault.toOperationError id "inspect container") (inspectRequest id)
      (readJson Inspection.schema)
    return (Inspection.ofJson v).details id
  | .create s => do
    let v ← exchange (Fault.toOperationError s.name "create container") (createRequest s)
      (readJson createdSchema)
    return (v.textAt? ["Id"]).getD ""
  | .start id => withReference id <|
    exchange (Fault.toOperationError id "start container") (startRequest id) unread
  | .stop id => withReference id <|
    exchange (Fault.toOperationError id "stop container") (stopRequest id) unread
  | .restart id => withReference id <|
    exchange (Fault.toOperationError id "restart container") (restartRequest id) unread
  | .remove id => withReference id <|
    exchange (Fault.toOperationError id "remove container") (removeRequest id) unread
  | .exec id command => withReference id do
    let v ← exchange (Fault.toOperationError id "create exec") (prepareRequest id command)
      (readJson preparedSchema)
    let prepared := (v.textAt? ["Id"]).getD ""
    exchange (Fault.toOperationError id "start exec") (runRequest prepared) unread
  | .download id path => withReference id <|
    exchange (Fault.toOperationError id "download archive") (downloadRequest id path) readBody
  | .upload id directory archive => withReference id <|
    exchange (Fault.toOperationError id "upload archive") (uploadRequest id directory archive)
      unread
  | .info => do
    let v ← exchange (Fault.toConnectionError "info") infoRequest (readJson infoSchema)
    return infoOfJson v
  | .ping => exchange (Fault.toConnectionError "ping") pingRequest fun r =>
    (readBody r).map fun _ => ()

/-- The log of a container, to be followed or up to its present end. -/
def openLog (id : String) (follow : Bool) : Dialogue LogStream := do
  let report := Fault.toOperationError id "stream logs"
  let talk := withReference id <|
    exchange report (logRequest id follow) fun r => .ok (LogFrames.items report r)
  match ← talk.run with
  | .error e => return .ofFailure e
  | .ok items => return ⟨items, false⟩

end Testbed.Daemon
