/-
**Threads under a clock.**

Of the many runs of an ensemble a clock selects one.  The threads take turns in the order in which
they were started; each goes on until it sleeps, waits for another thread or ends.  A leading thread
that could go on lets the others pass, but for no more than a round of turns.  Time passes only when
all threads sleep or wait, up to the moment at which the first sleeper wakes.  Sleepers that wake at
the same moment go on in the order in which they went to sleep.

Main definitions:

* `Testbed.Clock` — threads in a world, with the time and who is awake;
* `Testbed.Clock.tick?` — the next step that the clock selects;
* `Testbed.Ensemble.runClocked` — an ensemble run to its end.
-/

import Testbed.Script.Threads

set_option autoImplicit false

namespace Testbed

/-- Threads under a clock. -/
structure Clock (τ α W : Type) where
  threads : Threads τ α
  world : W
  /-- The time that has passed, in milliseconds. -/
  now : Nat
  /-- The threads that are awake, in the order of their turns. -/
  awake : List Thread
  /-- The threads that sleep, with the moments at which they wake, in the order of these. -/
  asleep : List (Nat × Thread)
  /-- Does the leading thread wait for a script? -/
  leadWaits : Bool := false
  /-- How many turns scripts have taken in this round. -/
  turns : Nat := 0

namespace Clock

/-- How many turns scripts can take before it is that of the leading thread again. -/
def turnsPerRound : Nat := 61

variable {τ α W : Type}

/-- A sleeper among the others, behind those that wake no later. -/
def insertSleeper (s : Nat × Thread) : List (Nat × Thread) → List (Nat × Thread)
  | [] => [s]
  | t :: r => if t.1 ≤ s.1 then t :: insertSleeper s r else s :: t :: r

/-- How long the thread is about to sleep, if it is. -/
def nap? (t : Threads τ α) (who : Thread) : Option Nat :=
  match t.action? who with
  | some (.sleep d) => if d = 0 then none else some d
  | _ => none

/-- The leading thread in front of all others, if it is among them. -/
def leadFirst (awake : List Thread) : List Thread :=
  if .lead ∈ awake then .lead :: awake.erase .lead else awake

/-- The clock behind a turn of a thread, with those that are awake then: behind the last turn of a
round the leading thread comes first. -/
def afterTurn (c : Clock τ α W) (who : Thread) (awake : List Thread) : Clock τ α W :=
  match who with
  | .lead => { c with awake, turns := 0 }
  | .script _ =>
    if c.turns + 1 < turnsPerRound then { c with awake, turns := c.turns + 1 }
    else { c with awake := leadFirst awake, turns := 0 }

/-- The clock after a thread cannot go on: a script that has ended lets the leading thread look again
for what it waits for. -/
def afterEnd (c : Clock τ α W) (who : Thread) (others : List Thread) : Clock τ α W :=
  match who with
  | .lead => { c.afterTurn who others with leadWaits := true }
  | .script _ =>
    if c.leadWaits then { c.afterTurn who (others ++ [.lead]) with leadWaits := false }
    else c.afterTurn who others

/-- The next step that the clock selects; none if there is nothing left to do. -/
def tick? (p : Performer W) (c : Clock τ α W) : Option (Clock τ α W) :=
  match c.awake with
  | who :: others =>
    match c.threads.step? p who c.world with
    | none => some (c.afterEnd who others)
    | some (threads, world) =>
      let c' := { c with threads, world }
      match nap? c.threads who with
      | some d =>
        some { c'.afterTurn who others with asleep := insertSleeper (c.now + d, who) c.asleep }
      | none =>
        let started := (List.range' c.threads.scripts.length
          (threads.scripts.length - c.threads.scripts.length)).map Thread.script
        some { c' with awake := c.awake ++ started }
  | [] =>
    match c.asleep with
    | [] => none
    | (moment, who) :: r =>
      let same := r.takeWhile fun s => s.1 == moment
      some { c with
        now := moment
        awake := who :: same.map Prod.snd
        asleep := r.drop same.length
        turns := 0 }

/-- At most so many steps, ending when it is the turn of the leading thread and this has a
result. -/
def run (p : Performer W) : Nat → Clock τ α W → Clock τ α W
  | 0, c => c
  | n + 1, c =>
    match c.threads.lead, c.awake with
    | .done _, .lead :: _ => c
    | _, _ =>
      match c.tick? p with
      | none => c
      | some c => run p n c

/-- The result of the leading thread, if it has ended. -/
def result? (c : Clock τ α W) : Option α :=
  match c.threads.lead with
  | .done a => some a
  | _ => none

end Clock

/-- A number of steps that no ensemble of this library needs in practice. -/
def Clock.stepLimit : Nat := Nat.pow 2 40

/-- The clock of an ensemble that has not begun. -/
def Clock.ofEnsemble {τ α W : Type} (e : Ensemble τ α) (w : W) : Clock τ α W where
  threads := .ofEnsemble e
  world := w
  now := 0
  awake := [.lead]
  asleep := []

/-- An ensemble run to its end: its result, the world and the time that has passed. -/
def Ensemble.runClocked {τ α W : Type} (p : Performer W) (e : Ensemble τ α) (w : W) :
    Option (α × W × Nat) :=
  let c := Clock.run p Clock.stepLimit (.ofEnsemble e w)
  c.result?.map fun a => (a, c.world, c.now)

end Testbed
