/-
**The ledger of created containers.**

The ledger lists, node by node, the ids of the containers that were created for it, in the order in
which they were created.  It is written as a JSON object and survives the program in a file.  A node
stands in it only with at least one id.

Main definitions:

* `Testbed.Ledger` — ids by node;
* `Testbed.Ledger.add`, `Testbed.Ledger.takeOut`, `Testbed.Ledger.ids` — its operations;
* `Testbed.Ledger.toJson`, `Testbed.Ledger.ofJson?` — its written form.
-/

import Testbed.Json.Parser
import Testbed.Json.Printer

set_option autoImplicit false

namespace Testbed

/-- The ids of created containers by node. -/
structure Ledger where
  nodes : Dict (List String)
  deriving DecidableEq, Repr

namespace Ledger

/-- The ledger that lists nothing. -/
def empty : Ledger := ⟨Dict.empty⟩

instance : Inhabited Ledger := ⟨empty⟩

/-- The ids listed under a node, in the order in which they were added. -/
def ids (l : Ledger) (node : String) : List String := (l.nodes.get? node).getD []

/-- One more id under a node, behind the ones that are there. -/
def add (l : Ledger) (node id : String) : Ledger := ⟨l.nodes.insert node (l.ids node ++ [id])⟩

/-- The ledger without a node. -/
def remove (l : Ledger) (node : String) : Ledger := ⟨l.nodes.erase node⟩

/-- A node taken out of the ledger: what was listed under it, and the ledger that is left. -/
def takeOut (l : Ledger) (node : String) : List String × Ledger := (l.ids node, l.remove node)

/-- The nodes in the order of their names. -/
def nodeNames (l : Ledger) : List String := l.nodes.keys

/-- The first node. -/
def anyNode? (l : Ledger) : Option String := l.nodeNames.head?

/-- The ids of all nodes, node after node. -/
def allIds (l : Ledger) : List String := l.nodes.values.flatten

/-- Does the ledger list nothing? -/
def isEmpty (l : Ledger) : Bool := l.nodes.isEmpty

/-- The ledger of given lists; a node with an empty list is left out. -/
def ofDict (d : Dict (List String)) : Ledger := ⟨d.filterValues fun ids => !ids.isEmpty⟩

/-! ### Written form -/

/-- A ledger as a JSON object of arrays. -/
def toJson (l : Ledger) : Json := .obj (l.nodes.entries.map fun e => (e.1, Json.ofStrings e.2))

/-- A ledger from an object whose members are all arrays of texts; of equal nodes the last
counts. -/
def ofJson? (v : Json) : Option Ledger := do
  let members ← v.members?
  let lists ← members.mapM fun m => m.2.strings?.map fun ids => (m.1, ids)
  pure (ofDict (Dict.ofList lists))

/-- A ledger from its text. -/
def parse? (s : String) : Option Ledger := (Json.parse? s).bind ofJson?

end Ledger

end Testbed
