/-
**Containers.**

What the runtime reports about a container, and what it is told to create.  Health checks and host
settings are objects of the runtime's own that pass through unread.

Main definitions:

* `Testbed.Attachment` — a container's place in a network;
* `Testbed.ContainerDetails` — a container as reported;
* `Testbed.ContainerSpec` — a container to be created;
* `Testbed.shortId` — the part of an id that people read.
-/

import Testbed.Json.Basic

set_option autoImplicit false

namespace Testbed

/-- A container's place in a network. -/
structure Attachment where
  name : String
  ipv4Address : Option String := none
  aliases : List String := []
  deriving DecidableEq, Repr, Inhabited

/-- A container as the runtime reports it. -/
structure ContainerDetails where
  id : String
  name : String
  image : String
  status : String
  health : Option String
  labels : Dict String
  env : List String
  hostname : Option String
  domainname : Option String
  exposedPorts : List String
  entrypoint : Option (List String)
  healthcheck : Option Json
  hostConfig : Option Json
  networks : List Attachment
  deriving Repr, Inhabited

/-- A container to be created. -/
structure ContainerSpec where
  name : String
  image : String
  hostname : Option String
  domainname : Option String
  exposedPorts : List String
  env : List String
  healthcheck : Option Json
  entrypoint : Option (List String)
  hostConfig : Option Json
  network : Option Attachment
  labels : Dict String
  deriving Repr, Inhabited

/-- What the runtime says about itself. -/
structure RuntimeInfo where
  name : String
  serverVersion : String
  containers : Int
  containersRunning : Int
  containersStopped : Int
  images : Int
  deriving DecidableEq, Repr, Inhabited

namespace Label

/-- Marks a container that takes part in consensus. -/
def peer : String := "QuorumContainer"

/-- Marks a container of the alternative client. -/
def alternative : String := "BesuContainer"

/-- Names the id of the template a container was cloned from. -/
def clonedFromId : String := "ClonedFromContainerId"

/-- Names the template a container was cloned from. -/
def clonedFromName : String := "ClonedFromContainerName"

end Label

namespace ContainerDetails

/-- Does the container carry a label? -/
def hasLabel (d : ContainerDetails) (label : String) : Bool := d.labels.contains label

/-- The network that a clone of the container joins. -/
def primaryNetwork? (d : ContainerDetails) : Option Attachment := d.networks.head?

end ContainerDetails

/-- The first twelve characters of an id. -/
def shortId (id : String) : String := String.ofList (id.toList.take 12)

end Testbed
