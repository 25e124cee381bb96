/-
**Clones of templates.**

A template is a container that was created, joined to a network and never started.  A clone takes
over everything that makes up its place in the network, and differs in its name, its image, its
environment and two labels that say where it came from.

Main definition:

* `Testbed.ContainerSpec.ofTemplate` — the clone of a template, or why it is none.
-/

import Testbed.Container.Basic
import Testbed.Failure
import Testbed.Network.NodeRequest

set_option autoImplicit false

namespace Testbed

namespace ContainerSpec

/-- The name of a clone. -/
def cloneName (template : String) : String := template ++ "-clone"

/-- The clone of a template, for a request and an image; a blank image means that of the template.
The status is judged before the network. -/
def ofTemplate (templateId : String) (t : ContainerDetails) (r : NodeRequest) (image : String) :
    Except OperationError ContainerSpec :=
  if !Text.sameWord t.status "created" then
    .error (.invalidTemplate t.name ("status must be 'created', found '" ++ t.status ++ "'"))
  else
    match t.primaryNetwork? with
    | none => .error (.invalidTemplate t.name "template is not attached to any network")
    | some network =>
      .ok {
        name := cloneName t.name
        image := if Text.isBlankText image then t.image else image
        hostname := t.hostname
        domainname := t.domainname
        exposedPorts := t.exposedPorts
        env := r.environment t.env
        healthcheck := t.healthcheck
        entrypoint := t.entrypoint
        hostConfig := t.hostConfig
        network := some network
        labels :=
          (t.labels.insert Label.clonedFromId templateId).insert Label.clonedFromName t.name }

end ContainerSpec

end Testbed
