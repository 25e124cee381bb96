/-
**A world to rehearse in.**

Scripts are rehearsed in a world that is a value: a container runtime, a disk of files, the ledger
and the output.  The world notes down what is done in it.

Main definitions:

* `Testbed.Rehearsal.World`, `Testbed.Rehearsal.Notes` — the world, and what it notes down;
* `Testbed.Rehearsal.perform` — every action performed in such a world.
-/

import Testbed.Rehearsal.Disk
import Testbed.Rehearsal.Runtime

set_option autoImplicit false

namespace Testbed.Rehearsal

/-- What was done, the last thing first. -/
structure Notes where
  /-- The calls: the containers that they are about, and their lines. -/
  calls : List (String × String) := []
  /-- The containers that were created. -/
  created : List ContainerSpec := []
  events : List Event := []
  /-- What was written to the output. -/
  printed : List String := []

/-- A world in which scripts are rehearsed, over a runtime of some kind. -/
structure World (R : Type) where
  runtime : R
  disk : Disk := {}
  ledger : Ledger := Ledger.empty
  /-- Is there a reader of the output? -/
  outputOpen : Bool := true
  notes : Notes := {}

namespace World

variable {R : Type}

/-- The world with a call noted down. -/
def noteCall (w : World R) (subject line : String) : World R :=
  { w with notes := { w.notes with calls := (subject, line) :: w.notes.calls } }

/-- The world with a new container noted down. -/
def noteCreated (w : World R) (spec : ContainerSpec) : World R :=
  { w with notes := { w.notes with created := spec :: w.notes.created } }

end World

/-- A runtime of some kind, as a world needs it. -/
structure Host (R : Type) where
  connect : R → Disk → String → Except OperationError Unit × R
  answer : R → (c : Call) → Except OperationError c.Answer × R
  openLog : R → String → Bool → LogStream × R

/-- The runtime with prepared answers as the host of a world; it stands behind every address. -/
def Runtime.host : Host Runtime where
  connect r _ _ := (.ok (), r)
  answer := Runtime.answer
  openLog := Runtime.openLog

/-- What is noted down of an answered call. -/
def noteAnswer {R : Type} (w : World R) : (c : Call) → Except OperationError c.Answer → World R
  | .create spec, .ok _ => w.noteCreated spec
  | _, _ => w

/-- Performs an action in a world. -/
def perform {R : Type} (h : Host R) : Performer (World R)
  | .connect host, w =>
    let (a, runtime) := h.connect w.runtime w.disk host
    (a, { w with runtime })
  | .call c, w =>
    let w := w.noteCall c.subject (callLine c)
    let (a, runtime) := h.answer w.runtime c
    (a, noteAnswer { w with runtime } c a)
  | .log id follow, w =>
    let w := w.noteCall id (noteLine ["logs", id, if follow then "follow" else ""])
    let (s, runtime) := h.openLog w.runtime id follow
    (s, { w with runtime })
  | .sleep _, w => ((), w)
  | .time, w => (0, w)
  | .count e, w => ((), { w with notes := { w.notes with events := e :: w.notes.events } })
  | .record node id, w => ((), { w with ledger := w.ledger.add node id })
  | .ledger, w => (w.ledger, w)
  | .setLedger ledger, w => ((), { w with ledger })
  | .print text, w =>
    if w.outputOpen then
      (.ok (), { w with notes := { w.notes with printed := text :: w.notes.printed } })
    else (.error .brokenPipe, w)
  | .readFile path, w => (w.disk.read path, w)
  | .writeFile path content, w =>
    match w.disk.write path content with
    | .error f => (.error f, w)
    | .ok disk => (.ok (), { w with disk })
  | .removeFile path, w =>
    match w.disk.remove path with
    | .error f => (.error f, w)
    | .ok disk => (.ok (), { w with disk })

end Testbed.Rehearsal
