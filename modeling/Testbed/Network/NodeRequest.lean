/-
**Requests to start a node.**

A request names the node and says how its containers are to differ from their templates: with a
fresh data directory, at another version, with further geth arguments.

Main definitions:

* `Testbed.NodeRequest` — the wishes for one node;
* `Testbed.NodeRequest.environment` — the environment of a clone.
-/

import Testbed.Network.Overlay

set_option autoImplicit false

namespace Testbed

/-- How a node is to be started. -/
structure NodeRequest where
  node : String
  freshStart : Bool := false
  quorumVersion : Option String := none
  tesseraVersion : Option String := none
  gethArgs : Option Overlay := none
  deriving DecidableEq, Repr, Inhabited

namespace NodeRequest

/-- The entry that makes a container discard its data. -/
def freshStartEntry : String := "ALWAYS_REFRESH=true"

/-- The entry that hands further arguments to geth. -/
def gethArgsEntry (rendered : String) : String := "ADDITIONAL_GETH_ARGS=" ++ rendered

/-- The entries that a request adds to the environment of a template: a fresh start first, then the
arguments unless they render blank. -/
def addedEnvironment (r : NodeRequest) : List String :=
  (if r.freshStart then [freshStartEntry] else []) ++
    match r.gethArgs with
    | none => []
    | some o => if Text.isBlankText o.render then [] else [gethArgsEntry o.render]

/-- The environment of a clone: that of the template, then what the request adds. -/
def environment (r : NodeRequest) (template : List String) : List String :=
  template ++ r.addedEnvironment

end NodeRequest

end Testbed
