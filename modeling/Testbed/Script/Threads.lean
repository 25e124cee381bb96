/-
**Threads.**

An ensemble on its way is a row of threads: the leading one, and one for each script that it has
started.  Any thread that can go on may be the next to go one step, so an ensemble has many runs.

Main definitions:

* `Testbed.Threads`, `Testbed.Thread` — an ensemble on its way, and the names of its threads;
* `Testbed.Threads.step?` — one step of one thread;
* `Testbed.Threads.run?` — the steps of threads taken in a given order.
-/

import Testbed.Script.Basic

set_option autoImplicit false

namespace Testbed

/-- An ensemble on its way. -/
structure Threads (τ α : Type) where
  /-- What the leading thread still has to do. -/
  lead : Ensemble τ α
  /-- What the scripts still have to do, in the order in which they were started. -/
  scripts : List (Script τ)
  /-- How many scripts have been waited for. -/
  joined : Nat

/-- A thread of an ensemble. -/
inductive Thread where
  | lead
  | script (index : Nat)
  deriving DecidableEq, Repr

namespace Threads

variable {τ α W : Type}

/-- An ensemble that has not begun. -/
def ofEnsemble (e : Ensemble τ α) : Threads τ α := ⟨e, [], 0⟩

/-- The result of a script that has ended. -/
def result? (t : Threads τ α) (i : Nat) : Option τ :=
  match t.scripts[i]? with
  | some (.done r) => some r
  | _ => none

/-- The action that a thread is about to perform. -/
def action? (t : Threads τ α) : Thread → Option Action
  | .lead =>
    match t.lead with
    | .act x _ => some x
    | _ => none
  | .script i =>
    match t.scripts[i]? with
    | some (.act x _) => some x
    | _ => none

/-- One step of a thread; none if the thread has ended or waits for another one. -/
def step? (p : Performer W) (who : Thread) (t : Threads τ α) (w : W) :
    Option (Threads τ α × W) :=
  match who with
  | .lead =>
    match t.lead with
    | .done _ => none
    | .act x next => some ({ t with lead := next (p x w).1 }, (p x w).2)
    | .fork s next => some ({ t with lead := next, scripts := t.scripts ++ [s] }, w)
    | .join next =>
      (t.result? t.joined).map fun r => ({ t with lead := next r, joined := t.joined + 1 }, w)
  | .script i =>
    match t.scripts[i]? with
    | some (.act x next) =>
      some ({ t with scripts := t.scripts.set i (next (p x w).1) }, (p x w).2)
    | _ => none

/-- The steps of threads in a given order; none if a thread cannot go on when it is its turn. -/
def run? (p : Performer W) : List Thread → Threads τ α → W → Option (Threads τ α × W)
  | [], t, w => some (t, w)
  | who :: r, t, w =>
    match t.step? p who w with
    | none => none
    | some (t, w) => run? p r t w

end Threads

end Testbed
