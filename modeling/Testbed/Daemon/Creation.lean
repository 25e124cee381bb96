/-
**What the daemon is told to create.**

A new container is described to the daemon by an object.  If the container joins a network, the
network is the mode of its host settings and the only endpoint.

Main definitions:

* `Testbed.Daemon.hostSettings` — the host settings of a new container;
* `Testbed.Daemon.creation` — the description of a new container.
-/

import Testbed.Container.Basic

set_option autoImplicit false

namespace Testbed.Daemon

/-- A member that is there only if it has a value. -/
def optionalMember (name : String) (v : Option Json) : List (String × Json) :=
  (v.map fun v => (name, v)).toList

/-- Members with the value of a name replaced, or put behind the others. -/
def replaceMember (name : String) (v : Json) (members : List (String × Json)) :
    List (String × Json) :=
  (members.filter fun m => m.1 ≠ name) ++ [(name, v)]

/-- The host settings of a new container. -/
def hostSettings (s : ContainerSpec) : Json :=
  let members := (s.hostConfig.bind Json.members?).getD []
  match s.network with
  | none => .obj members
  | some a => .obj (replaceMember "NetworkMode" (.str a.name) members)

/-- A place in a network as the daemon reads it. -/
def endpointSettings (a : Attachment) : Json :=
  .obj (optionalMember "IPAMConfig" (a.ipv4Address.map fun ip => .obj [("IPv4Address", .str ip)]) ++
    if a.aliases.isEmpty then [] else [("Aliases", Json.ofStrings a.aliases)])

/-- The networks of a new container. -/
def networkSettings (a : Attachment) : Json :=
  .obj [("EndpointsConfig", .obj [(a.name, endpointSettings a)])]

/-- Ports as an object with an empty object for each. -/
def portSet (ports : List String) : Json :=
  .obj (Dict.ofList (ports.map fun p => (p, Json.obj []))).entries

/-- The description of a new container. -/
def creation (s : ContainerSpec) : Json :=
  .obj <| [("Image", .str s.image)] ++ optionalMember "Hostname" (s.hostname.map .str) ++
    optionalMember "Domainname" (s.domainname.map .str) ++
    [("ExposedPorts", portSet s.exposedPorts), ("Env", Json.ofStrings s.env)] ++
    optionalMember "Healthcheck" s.healthcheck ++
    optionalMember "Entrypoint" (s.entrypoint.map Json.ofStrings) ++
    [("Labels", .obj (s.labels.entries.map fun e => (e.1, Json.str e.2))),
      ("HostConfig", hostSettings s)] ++
    optionalMember "NetworkingConfig" (s.network.map networkSettings)

end Testbed.Daemon
