/-
**What the daemon reports about a container.**

A report is a record of which much may be missing.  Its maps come in any order; what is made of them
is sorted by name, so that the order does not matter.

Main definitions:

* `Testbed.Daemon.Inspection` — a report;
* `Testbed.Daemon.Inspection.details` — the container as this library sees it;
* `Testbed.Daemon.Inspection.schema`, `Testbed.Daemon.Inspection.ofJson` — its written form.
-/

import Testbed.Container.Basic
import Testbed.Json.Schema

set_option autoImplicit false

namespace Testbed.Daemon

/-- A report about a container. -/
structure Inspection where
  id : Option String := none
  name : Option String := none
  status : Option String := none
  health : Option String := none
  image : Option String := none
  labels : Dict String := Dict.empty
  env : List String := []
  hostname : Option String := none
  domainname : Option String := none
  /-- The exposed ports, in any order. -/
  ports : List String := []
  entrypoint : Option (List String) := none
  healthcheck : Option Json := none
  hostConfig : Option Json := none
  /-- The networks, in any order. -/
  networks : List Attachment := []
  deriving Repr, Inhabited

namespace Inspection

/-- The status of a container about which nothing is said. -/
def unknownStatus : String := "unknown"

/-- A text without the slashes before it. -/
def dropSlashes (s : String) : String := String.ofList (s.toList.dropWhile (· = '/'))

/-- A place in a network whose empty address counts as none. -/
def tidy (a : Attachment) : Attachment :=
  { a with ipv4Address := a.ipv4Address.filter (· ≠ "") }

/-- The container of a report, which was asked for under some reference. -/
def details (reference : String) (i : Inspection) : ContainerDetails where
  id := i.id.getD reference
  name := (i.name.map dropSlashes).getD ""
  image := i.image.getD ""
  status := i.status.getD unknownStatus
  health := i.health.filter (· ≠ "")
  labels := i.labels
  env := i.env
  hostname := i.hostname
  domainname := i.domainname
  exposedPorts := i.ports.mergeSort (· ≤ ·)
  entrypoint := i.entrypoint
  healthcheck := i.healthcheck
  hostConfig := i.hostConfig
  networks := (i.networks.map tidy).mergeSort fun a b => a.name ≤ b.name

/-! ### Written form -/

open Json (Schema)

/-- The statuses of containers. -/
def statuses : List String :=
  ["", "created", "running", "paused", "restarting", "removing", "exited", "dead"]

/-- The outcomes of health checks. -/
def healths : List String := ["", "none", "starting", "healthy", "unhealthy"]

/-- The form of a health check. -/
def checkSchema : Schema :=
  .options [("Test", .list .text), ("Interval", .integer), ("Timeout", .integer),
    ("Retries", .integer), ("StartPeriod", .integer), ("StartInterval", .integer)]

/-- The form of what is said about the state. -/
def stateSchema : Schema :=
  .options [("Status", .word statuses), ("Running", .flag), ("Paused", .flag),
    ("Restarting", .flag), ("OOMKilled", .flag), ("Dead", .flag), ("Pid", .integer),
    ("ExitCode", .integer), ("Error", .text), ("StartedAt", .text), ("FinishedAt", .text),
    ("Health", .options [("Status", .word healths), ("FailingStreak", .integer),
      ("Log", .list (.options [("Start", .text), ("End", .text), ("ExitCode", .integer),
        ("Output", .text)]))])]

/-- The form of the settings of a container. -/
def configSchema : Schema :=
  .options [("Hostname", .text), ("Domainname", .text), ("User", .text), ("AttachStdin", .flag),
    ("AttachStdout", .flag), ("AttachStderr", .flag), ("ExposedPorts", .dict .unit),
    ("Tty", .flag), ("OpenStdin", .flag), ("StdinOnce", .flag), ("Env", .list .text),
    ("Cmd", .list .text), ("Healthcheck", checkSchema), ("ArgsEscaped", .flag), ("Image", .text),
    ("Volumes", .dict .unit), ("WorkingDir", .text), ("Entrypoint", .list .text),
    ("NetworkDisabled", .flag), ("MacAddress", .text), ("OnBuild", .list .text),
    ("Labels", .dict .text), ("StopSignal", .text), ("StopTimeout", .integer),
    ("Shell", .list .text)]

/-- The form of a place in a network. -/
def endpointSchema : Schema :=
  .options [("IPAMConfig", .options [("IPv4Address", .text), ("IPv6Address", .text),
      ("LinkLocalIPs", .list .text)]), ("Links", .list .text), ("MacAddress", .text),
    ("Aliases", .list .text), ("DriverOpts", .dict .text), ("NetworkID", .text),
    ("EndpointID", .text), ("Gateway", .text), ("IPAddress", .text), ("IPPrefixLen", .integer),
    ("IPv6Gateway", .text), ("GlobalIPv6Address", .text), ("GlobalIPv6PrefixLen", .integer),
    ("DNSNames", .list .text)]

/-- The form of a report.  Of the host settings it is only asked that they are an object: they are
handed on as they are, whatever members they have. -/
def schema : Schema :=
  .options [("Id", .text), ("Created", .text), ("Path", .text), ("Args", .list .text),
    ("State", stateSchema), ("Image", .text), ("Name", .text), ("RestartCount", .integer),
    ("Driver", .text), ("Platform", .text), ("HostConfig", .record [] []),
    ("Config", configSchema),
    ("NetworkSettings", .options [("Networks", .dict endpointSchema)])]

/-- An object without the members that are null. -/
def withoutNulls (v : Json) : Json :=
  match v with
  | .obj members => .obj (members.filter fun m => !m.2.isNull)
  | v => v

/-- A place in a network from its name and its written form. -/
def attachmentOf (name : String) (v : Json) : Attachment :=
  ⟨name, v.textAt? ["IPAMConfig", "IPv4Address"], (v.textsAt? ["Aliases"]).getD []⟩

/-- A report from its written form. -/
def ofJson (v : Json) : Inspection where
  id := v.textAt? ["Id"]
  name := v.textAt? ["Name"]
  status := v.textAt? ["State", "Status"]
  health := v.textAt? ["State", "Health", "Status"]
  image := v.textAt? ["Config", "Image"]
  labels := Dict.ofList ((v.membersAt ["Config", "Labels"]).filterMap fun m =>
    m.2.str?.map fun s => (m.1, s))
  env := (v.textsAt? ["Config", "Env"]).getD []
  hostname := v.textAt? ["Config", "Hostname"]
  domainname := v.textAt? ["Config", "Domainname"]
  ports := (v.membersAt ["Config", "ExposedPorts"]).map Prod.fst
  entrypoint := v.textsAt? ["Config", "Entrypoint"]
  healthcheck := (v.at? ["Config", "Healthcheck"]).map withoutNulls
  hostConfig := (v.at? ["HostConfig"]).map withoutNulls
  networks := (v.membersAt ["NetworkSettings", "Networks"]).map fun m => attachmentOf m.1 m.2

end Inspection

end Testbed.Daemon
