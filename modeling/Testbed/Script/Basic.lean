/-
**Scripts.**

A script is a tree of actions: it has ended with a result, or it has an action to perform and goes
on with the answer.  An ensemble is a script that can also start other scripts, which then run
beside it, and wait for their results, always for that of the script it started first among those it
has not waited for.

Main definitions:

* `Testbed.Script`, `Testbed.Script.perform` — scripts, and their run in a world;
* `Testbed.Ensemble` — scripts that start other scripts;
* `Testbed.Operation`, `Testbed.FanOut` — scripts and ensembles that can fail.

Main results:

* `Testbed.Script.bind_assoc`, `Testbed.Ensemble.bind_assoc` — the order of composition does not
  matter;
* `Testbed.Script.perform_bind` — a composed script is performed part after part.
-/

import Testbed.Script.Action

set_option autoImplicit false

namespace Testbed

/-! ### Scripts -/

/-- A script of actions that ends with a result. -/
inductive Script (α : Type) where
  | done (a : α)
  | act (x : Action) (next : x.Answer → Script α)

namespace Script

variable {α β γ : Type}

/-- A script continued with the script that its result selects. -/
def bind : Script α → (α → Script β) → Script β
  | .done a, f => f a
  | .act x next, f => .act x fun y => (next y).bind f

instance : Monad Script where
  pure := .done
  bind := bind

theorem bind_done (s : Script α) : s.bind .done = s := by
  induction s with
  | done a => rfl
  | act x next ih => simp only [bind, ih]

theorem bind_assoc (s : Script α) (f : α → Script β) (g : β → Script γ) :
    (s.bind f).bind g = s.bind fun a => (f a).bind g := by
  induction s with
  | done a => rfl
  | act x next ih => simp only [bind, ih]

/-- The script of one action. -/
def action (x : Action) : Script x.Answer := .act x .done

/-- A script performed in a world: its result, and the world it leaves behind. -/
def perform {W : Type} (p : Performer W) : Script α → W → α × W
  | .done a, w => (a, w)
  | .act x next, w => (next (p x w).1).perform p (p x w).2

theorem perform_bind {W : Type} (p : Performer W) (s : Script α) (f : α → Script β) (w : W) :
    (s.bind f).perform p w = (f (s.perform p w).1).perform p (s.perform p w).2 := by
  induction s generalizing w with
  | done a => rfl
  | act x next ih => exact ih _ _

end Script

/-! ### Ensembles -/

/-- A script that starts scripts with results in `τ` and waits for them. -/
inductive Ensemble (τ α : Type) where
  | done (a : α)
  | act (x : Action) (next : x.Answer → Ensemble τ α)
  /-- Starts a script beside this one. -/
  | fork (s : Script τ) (next : Ensemble τ α)
  /-- Waits for the result of the script that was started first among those not waited for. -/
  | join (next : τ → Ensemble τ α)

namespace Ensemble

variable {τ α β γ : Type}

/-- An ensemble continued with the ensemble that its result selects. -/
def bind : Ensemble τ α → (α → Ensemble τ β) → Ensemble τ β
  | .done a, f => f a
  | .act x next, f => .act x fun y => (next y).bind f
  | .fork s next, f => .fork s (next.bind f)
  | .join next, f => .join fun r => (next r).bind f

instance : Monad (Ensemble τ) where
  pure := .done
  bind := bind

theorem bind_assoc (s : Ensemble τ α) (f : α → Ensemble τ β) (g : β → Ensemble τ γ) :
    (s.bind f).bind g = s.bind fun a => (f a).bind g := by
  induction s with
  | done a => rfl
  | act x next ih => simp only [bind, ih]
  | fork s next ih => simp only [bind, ih]
  | join next ih => simp only [bind, ih]

/-- A script as an ensemble that starts nothing. -/
def ofScript : Script α → Ensemble τ α
  | .done a => .done a
  | .act x next => .act x fun y => ofScript (next y)

instance : MonadLift Script (Ensemble τ) := ⟨ofScript⟩

/-- Starts scripts, one after the other. -/
def forkAll : List (Script τ) → Ensemble τ Unit
  | [] => .done ()
  | s :: r => .fork s (forkAll r)

/-- Waits for as many results as asked for. -/
def joinAll : Nat → Ensemble τ (List τ)
  | 0 => .done []
  | n + 1 => .join fun r => (joinAll n).bind fun rs => .done (r :: rs)

/-- Runs scripts beside each other and waits for all of them. -/
def together (scripts : List (Script τ)) : Ensemble τ (List τ) :=
  (forkAll scripts).bind fun _ => joinAll scripts.length

end Ensemble

/-! ### Failure -/

/-- A script that can fail. -/
abbrev Operation (α : Type) := ExceptT OperationError Script α

/-- An ensemble that can fail, of scripts that can fail. -/
abbrev FanOut (β α : Type) :=
  ExceptT OperationError (Ensemble (Except OperationError β)) α

namespace Operation

/-- A call to the runtime. -/
def call (c : Call) : Operation c.Answer := .mk (Script.action (.call c))

/-- An action that cannot fail. -/
def act (x : Action) : Operation x.Answer := ExceptT.lift (Script.action x)

/-- A result that is known, or a failure. -/
def ofExcept {α : Type} (r : Except OperationError α) : Operation α := .mk (.done r)

/-- An event is counted. -/
def count (e : Event) : Operation Unit := act (.count e)

/-- Some milliseconds pass. -/
def sleep (duration : Nat) : Operation Unit := act (.sleep duration)

/-- An operation as part of a fan-out. -/
def toFanOut {α β : Type} (op : Operation α) : FanOut β α := .mk (Ensemble.ofScript op.run)

instance {β : Type} : MonadLift (ExceptT OperationError Script)
    (ExceptT OperationError (Ensemble (Except OperationError β))) := ⟨toFanOut⟩

/-- Runs operations beside each other and waits for all their outcomes. -/
def together {β : Type} (ops : List (Operation β)) : FanOut β (List (Except OperationError β)) :=
  ExceptT.lift (Ensemble.together (ops.map ExceptT.run))

end Operation

/-- The results of outcomes; if one is an error, the first of these. -/
def allOk {β : Type} (outcomes : List (Except OperationError β)) :
    Except OperationError (List β) := outcomes.mapM id

end Testbed
