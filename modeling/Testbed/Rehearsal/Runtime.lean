/-
**A container runtime to rehearse with.**

The runtime consists of containers with files and logs, and it does what it is told at once.  It
can be given answers in advance: a container runs through prepared states, a clone gets a prepared
id, and a call can be made to fail, from some time on and for some times.

Main definitions:

* `Testbed.Rehearsal.Runtime` — containers, prepared answers and prepared failures;
* `Testbed.Call.line`, `Testbed.Call.subject` — a call as it is noted down, and what it is about;
* `Testbed.Rehearsal.Runtime.answer` — what a call answers and leaves behind.
-/

import Testbed.Json.Printer
import Testbed.Script.Action
import Testbed.Tar.SingleFile

set_option autoImplicit false

namespace Testbed

/-! ### Calls as lines -/

namespace Call

/-- The name of a call. -/
def verb : Call → String
  | .inspect _ => "inspect"
  | .create _ => "create"
  | .start _ => "start"
  | .stop _ => "stop"
  | .restart _ => "restart"
  | .remove _ => "remove"
  | .exec .. => "exec"
  | .download .. => "download"
  | .upload .. => "upload"
  | .info => "info"
  | .ping => "ping"

/-- The container that a call is about; for a new one, its name. -/
def subject : Call → String
  | .inspect id | .start id | .stop id | .restart id | .remove id | .exec id _
  | .download id _ | .upload id .. => id
  | .create spec => spec.name
  | .info | .ping => ""

/-- The first member of an archive. -/
def firstMember? (archive : Bytes) : Option Tar.Member := (Tar.members archive).1.head?

/-- The name of the first member of an archive. -/
def memberName (archive : Bytes) : String :=
  ((firstMember? archive).map fun m => Utf8.decodeLossy m.name).getD ""

/-- The permissions of the first member of an archive in octal. -/
def memberMode (archive : Bytes) : String :=
  String.ofList (Nat.toDigits 8 (((firstMember? archive).bind Tar.Member.mode).getD 0))

/-- What a call says beside its container. -/
def details : Call → List String
  | .exec _ command => [(Json.ofStrings command).compact]
  | .download _ path => [path]
  | .upload _ directory archive => [directory, memberName archive, memberMode archive]
  | _ => []

end Call

namespace Rehearsal

/-- The parts of a line that are not empty, with a blank between each two. -/
def noteLine (parts : List String) : String := " ".intercalate (parts.filter (· ≠ ""))

/-- A call as it is noted down. -/
def callLine (c : Call) : String := noteLine (c.verb :: c.subject :: c.details)

/-! ### The runtime -/

/-- A container of the runtime. -/
structure Container where
  details : ContainerDetails
  /-- The statuses and healths that the next looks find; the last one stays. -/
  states : List (String × Option String) := []
  files : Dict Bytes := Dict.empty
  /-- Archives that are handed out in place of files. -/
  archives : Dict Bytes := Dict.empty
  log : LogStream := ⟨[], false⟩

/-- What is prepared for a clone. -/
structure Clone where
  id : Option String := none
  states : List (String × Option String) := []

/-- A failure that is prepared for a call. -/
structure Fault where
  verb : String
  /-- The container, or a star for all. -/
  subject : String := "*"
  cause : OperationError
  /-- How many calls go well before. -/
  after : Nat := 0
  /-- How many calls fail; all if there is no number. -/
  limit : Option Nat := none

/-- A container runtime with prepared answers. -/
structure Runtime where
  /-- The containers by their ids. -/
  containers : Dict Container := Dict.empty
  clones : Dict Clone := Dict.empty
  faults : List Fault := []
  info : RuntimeInfo := default

namespace Runtime

/-- The container with an id. -/
def find? (r : Runtime) (id : String) : Option Container := r.containers.get? id

/-- The runtime with a container under an id. -/
def put (r : Runtime) (id : String) (c : Container) : Runtime :=
  { r with containers := r.containers.insert id c }

/-- The first prepared failure that fires, and the failures as they are afterwards. -/
def fire (verb subject : String) : List Fault → Option OperationError × List Fault
  | [] => (none, [])
  | f :: fs =>
    let next := fun (f : Fault) =>
      let (e, fs) := fire verb subject fs
      (e, f :: fs)
    if f.verb ≠ verb || !(f.subject == "*" || f.subject == subject) then next f
    else if f.after ≠ 0 then next { f with after := f.after - 1 }
    else
      match f.limit with
      | none => (some f.cause, f :: fs)
      | some 0 => next f
      | some (n + 1) => (some f.cause, { f with limit := some n } :: fs)

/-- A container under a new status. -/
def withStatus (status : String) (c : Container) : Container :=
  { c with details := { c.details with status } }

/-- What a look at a container finds. -/
def look (c : Container) : ContainerDetails :=
  match c.states with
  | [] => c.details
  | (status, health) :: _ => { c.details with status, health }

/-- A container after a look. -/
def afterLook (c : Container) : Container :=
  match c.states with
  | _ :: s :: r => { c with states := s :: r }
  | _ => c

/-- A container that was just created. -/
def created (id : String) (spec : ContainerSpec) (states : List (String × Option String)) :
    Container where
  details := {
    id
    name := spec.name
    image := spec.image
    status := "created"
    health := none
    labels := spec.labels
    env := spec.env
    hostname := none
    domainname := none
    exposedPorts := []
    entrypoint := none
    healthcheck := none
    hostConfig := none
    networks := spec.network.toList }
  states

/-- The name of a file: what stands behind the last slash of its path. -/
def baseName (path : String) : String :=
  String.ofList (path.toList.reverse.takeWhile (· ≠ '/')).reverse

/-- A file of a container as an archive. -/
def archiveOf (c : Container) (path : String) : Except OperationError Bytes :=
  match c.archives.get? path, c.files.get? path with
  | some archive, _ => .ok archive
  | none, some content =>
    (Tar.pack 0 (baseName path) content).mapError fun f => .archive (f.message (baseName path))
  | none, none => .error (.api ("no such path: " ++ path))

/-- The path of a file in a directory. -/
def pathIn (directory name : String) : String :=
  String.ofList (directory.toList.reverse.dropWhile (· = '/')).reverse ++ "/" ++ name

/-- A container with an archive unpacked into one of its directories. -/
def unpackInto (c : Container) (directory : String) (archive : Bytes) :
    Except OperationError Container := do
  let path := pathIn directory (Call.memberName archive)
  let content ← (Tar.unpack archive).mapError (·.toOperationError c.details.id path)
  pure { c with files := c.files.insert path content, archives := c.archives.erase path }

/-- What a call answers if nothing was prepared to make it fail. -/
def effect (r : Runtime) : (c : Call) → Except OperationError c.Answer × Runtime
  | .inspect id =>
    match r.find? id with
    | none => (.error (.containerNotFound id), r)
    | some c => (.ok (look c), r.put id (afterLook c))
  | .create spec =>
    let clone := (r.clones.get? spec.name).getD {}
    let id := clone.id.getD ("id-" ++ spec.name)
    if (r.find? id).isSome then (.error (.api ("name already in use: " ++ spec.name)), r)
    else (.ok id, r.put id (created id spec clone.states))
  | .start id =>
    match r.find? id with
    | none => (.error (.containerNotFound id), r)
    | some c =>
      if c.details.status = "running" then (.error (.notModified id), r)
      else (.ok (), r.put id (withStatus "running" c))
  | .stop id =>
    match r.find? id with
    | none => (.error (.containerNotFound id), r)
    | some c =>
      if c.details.status = "running" then (.ok (), r.put id (withStatus "exited" c))
      else (.error (.notModified id), r)
  | .restart id =>
    match r.find? id with
    | none => (.error (.containerNotFound id), r)
    | some c => (.ok (), r.put id (withStatus "running" c))
  | .remove id =>
    match r.find? id with
    | none => (.error (.containerNotFound id), r)
    | some c =>
      if c.details.status = "running" then
        (.error (.api ("cannot remove running container " ++ id)), r)
      else (.ok (), { r with containers := r.containers.erase id })
  | .exec id _ =>
    match r.find? id with
    | none => (.error (.containerNotFound id), r)
    | some _ => (.ok (), r)
  | .download id path =>
    match r.find? id with
    | none => (.error (.containerNotFound id), r)
    | some c => (archiveOf c path, r)
  | .upload id directory archive =>
    match r.find? id with
    | none => (.error (.containerNotFound id), r)
    | some c =>
      match unpackInto c directory archive with
      | .error e => (.error e, r)
      | .ok c => (.ok (), r.put id c)
  | .info => (.ok r.info, r)
  | .ping => (.ok (), r)

/-- What a call answers, and the runtime that it leaves behind. -/
def answer (r : Runtime) (c : Call) : Except OperationError c.Answer × Runtime :=
  match fire c.verb c.subject r.faults with
  | (some e, faults) => (.error e, { r with faults })
  | (none, faults) => effect { r with faults } c

/-- The log of a container, to be followed or up to its present end. -/
def openLog (r : Runtime) (id : String) (follow : Bool) : LogStream × Runtime :=
  match fire "logs" id r.faults with
  | (some e, faults) => (.ofFailure e, { r with faults })
  | (none, faults) =>
    let r := { r with faults }
    match r.find? id with
    | none => (.ofFailure (.containerNotFound id), r)
    | some c => (⟨c.log.items, c.log.staysOpen && follow⟩, r)

end Runtime

end Rehearsal

end Testbed
