/-
**Argument overlays for geth.**

An overlay is a dictionary from argument names to values that is laid over the command line of a
node.  An argument without value is a bare flag.  The rendering lists the arguments in the order of
their names, so an overlay has one text however it was built.

Main definitions:

* `Testbed.Overlay` — names with values;
* `Testbed.Overlay.Step` — one step of building an overlay, `Testbed.Overlay.apply` its effect;
* `Testbed.Overlay.render` — the arguments as one line;
* `Testbed.Overlay.parse` — an overlay from entries `--name` and `--name=value`.
-/

import Testbed.Dict
import Testbed.Text.Blank

set_option autoImplicit false

namespace Testbed

/-- Arguments of a node by name; a flag has the empty value. -/
structure Overlay where
  args : Dict String
  deriving DecidableEq, Repr

namespace Overlay

/-- The overlay without arguments. -/
def empty : Overlay := ⟨Dict.empty⟩

instance : Inhabited Overlay := ⟨empty⟩

/-- Are there no arguments? -/
def isEmpty (o : Overlay) : Bool := o.args.isEmpty

/-- The value of an argument. -/
def get? (o : Overlay) (name : String) : Option String := o.args.get? name

/-- An argument set to a value. -/
def set (o : Overlay) (name value : String) : Overlay := ⟨o.args.insert name value⟩

/-- An argument taken away. -/
def unset (o : Overlay) (name : String) : Overlay := ⟨o.args.erase name⟩

/-- The overlay with another one put over it. -/
def overrideWith (o p : Overlay) : Overlay := ⟨o.args.override p.args⟩

/-! ### Building -/

/-- The flags that a step can switch. -/
inductive Flag where
  | permissioned
  | raftDnsEnable
  | allowInsecureUnlock
  | privacyMarkerEnable
  deriving DecidableEq, Repr

/-- The argument of a flag. -/
def Flag.name : Flag → String
  | .permissioned => "--permissioned"
  | .raftDnsEnable => "--raftdnsenable"
  | .allowInsecureUnlock => "--allow-insecure-unlock"
  | .privacyMarkerEnable => "--privacymarker.enable"

/-- One step of building an overlay. -/
inductive Step where
  /-- A flag set or taken away. -/
  | toggle (flag : Flag) (on : Bool)
  /-- The mode of garbage collection; a blank mode takes the argument away. -/
  | gcMode (mode : String)
  /-- The raft id to join with, or no joining. -/
  | raftJoinExisting (id : Option Nat)
  /-- Any argument. -/
  | arg (name value : String)
  /-- All arguments of another overlay. -/
  | overrideWith (other : Overlay)
  deriving DecidableEq, Repr

/-- An overlay after one more step. -/
def apply (o : Overlay) : Step → Overlay
  | .toggle flag on => if on then o.set flag.name "" else o.unset flag.name
  | .gcMode mode => if Text.isBlankText mode then o.unset "--gcmode" else o.set "--gcmode" mode
  | .raftJoinExisting (some id) => o.set "--raftjoinexisting" (toString id)
  | .raftJoinExisting none => o.unset "--raftjoinexisting"
  | .arg name value => o.set name value
  | .overrideWith other => o.overrideWith other

/-- The overlay that a row of steps builds. -/
def ofSteps (steps : List Step) : Overlay := steps.foldl apply empty

/-- The overlay that allows accounts to be unlocked over an open connection. -/
def insecureUnlock : Overlay := empty.apply (.toggle .allowInsecureUnlock true)

/-! ### Text -/

/-- An argument with its value, if it has one. -/
def renderArg (e : String × String) : String := if e.2 = "" then e.1 else e.1 ++ " " ++ e.2

/-- All arguments in the order of their names, a blank between each two. -/
def render (o : Overlay) : String := " ".intercalate (o.args.entries.map renderArg)

/-- An entry without the space at its ends, split at its first equals sign; the value of an entry
without one is empty. -/
def splitEntry (entry : String) : String × String :=
  let cs := (Text.trim entry).toList
  (String.ofList (cs.takeWhile (· ≠ '=')), String.ofList ((cs.dropWhile (· ≠ '=')).drop 1))

/-- Is the entry, without the space at its ends, two dashes and more? -/
def isEntry (entry : String) : Bool :=
  let cs := (Text.trim entry).toList
  "--".toList.isPrefixOf cs && 3 ≤ cs.length

/-- The overlay of a list of entries, the last one with a name counting, or the first entry that is
none, without the space at its ends. -/
def parse (entries : List String) : Except String Overlay :=
  entries.foldlM (fun o entry =>
    if isEntry entry then .ok (o.set (splitEntry entry).1 (splitEntry entry).2)
    else .error (Text.trim entry)) empty

end Overlay

end Testbed
