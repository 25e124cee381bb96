/-
**The runs of an ensemble.**

`Threads.step?` computes one step of one thread.  Here a step is a relation that also says what the
thread did, and a run is a row of steps with its history.  Every interleaving of the threads is a
run, and what the clock selects is one of them.

Main definitions:

* `Testbed.Move` — what a thread does in one step;
* `Testbed.Threads.Step`, `Testbed.Threads.Run` — a step, and **a run with its history**;
* `Testbed.Ensemble.Ends`, `Testbed.Ensemble.endIn?` — a run from the beginning of an ensemble to
  its result, and the one in which the threads take turns in a given order.

Main results:

* `Testbed.Threads.step?_eq_some_iff`, `Testbed.Threads.run?_eq_some_iff` — the relations say what
  the functions compute;
* `Testbed.Clock.run_isRun`, `Testbed.Ensemble.runClocked_ends` — **the clock selects a run**.
-/

import Testbed.Proofs.Script.Deeds
import Testbed.Script.Clock

set_option relaxedAutoImplicit false
set_option autoImplicit false

namespace Testbed

/-- What a thread does in one step. -/
inductive Move (τ : Type) where
  | deed (d : Deed)
  /-- Starts a script. -/
  | fork (s : Script τ)
  /-- Learns the result of the script that it waited for. -/
  | join (r : τ)

/-- What was done in a run, and by which threads, in order. -/
abbrev History (τ : Type) := List (Thread × Move τ)

namespace Threads

variable {τ α W : Type} {p : Performer W}

/-- One step of one thread in a world, with what the thread did. -/
inductive Step (p : Performer W) :
    Threads τ α → W → Thread × Move τ → Threads τ α → W → Prop
  | leadAct (x : Action) (next : x.Answer → Ensemble τ α) (ss : List (Script τ)) (k : Nat) (w : W) :
      Step p ⟨.act x next, ss, k⟩ w (.lead, .deed ⟨x, (p x w).1⟩) ⟨next (p x w).1, ss, k⟩ (p x w).2
  | leadFork (s : Script τ) (next : Ensemble τ α) (ss : List (Script τ)) (k : Nat) (w : W) :
      Step p ⟨.fork s next, ss, k⟩ w (.lead, .fork s) ⟨next, ss ++ [s], k⟩ w
  | leadJoin (next : τ → Ensemble τ α) (ss : List (Script τ)) (k : Nat) (r : τ) (w : W)
      (ended : ss[k]? = some (.done r)) :
      Step p ⟨.join next, ss, k⟩ w (.lead, .join r) ⟨next r, ss, k + 1⟩ w
  | scriptAct (e : Ensemble τ α) (ss : List (Script τ)) (k i : Nat) (x : Action)
      (next : x.Answer → Script τ) (w : W) (turn : ss[i]? = some (.act x next)) :
      Step p ⟨e, ss, k⟩ w (.script i, .deed ⟨x, (p x w).1⟩) ⟨e, ss.set i (next (p x w).1), k⟩
        (p x w).2

/-- The relation says what the function computes. -/
theorem step?_eq_some_iff {who : Thread} {t t' : Threads τ α} {w w' : W} :
    t.step? p who w = some (t', w') ↔ ∃ m, Step p t w (who, m) t' w' := by
  constructor
  · intro h
    obtain ⟨e, ss, k⟩ := t
    cases who with
    | lead =>
        cases e with
        | done a => simp [step?] at h
        | act x next =>
            simp only [step?, Option.some.injEq, Prod.mk.injEq] at h
            obtain ⟨rfl, rfl⟩ := h
            exact ⟨_, .leadAct x next ss k w⟩
        | fork s next =>
            simp only [step?, Option.some.injEq, Prod.mk.injEq] at h
            obtain ⟨rfl, rfl⟩ := h
            exact ⟨_, .leadFork s next ss k w⟩
        | join next =>
            simp only [step?, result?] at h
            split at h
            · rename_i r hr
              simp only [Option.map_some, Option.some.injEq, Prod.mk.injEq] at h
              obtain ⟨rfl, rfl⟩ := h
              exact ⟨_, .leadJoin next ss k r w hr⟩
            · simp at h
    | script i =>
        simp only [step?] at h
        split at h
        · rename_i x next hi
          simp only [Option.some.injEq, Prod.mk.injEq] at h
          obtain ⟨rfl, rfl⟩ := h
          exact ⟨_, .scriptAct e ss k i x next w hi⟩
        · simp at h
  · rintro ⟨m, h⟩
    cases h with
    | leadAct x next ss k => rfl
    | leadFork s next ss k => rfl
    | leadJoin next ss k r _ ended => simp [step?, result?, ended]
    | scriptAct e ss k i x next _ turn => simp [step?, turn]

/-- **A run**: steps one after the other, with the history of what was done. -/
inductive Run (p : Performer W) : Threads τ α → W → History τ → Threads τ α → W → Prop
  | nil (t : Threads τ α) (w : W) : Run p t w [] t w
  | cons {t t' u : Threads τ α} {w w' v : W} {m : Thread × Move τ} {ms : History τ} :
      Step p t w m t' w' → Run p t' w' ms u v → Run p t w (m :: ms) u v

namespace Run

variable {t t' u : Threads τ α} {w w' v : W} {m : Thread × Move τ} {ms ns : History τ}

theorem single (h : Step p t w m t' w') : Run p t w [m] t' w' := .cons h (.nil _ _)

theorem trans (h : Run p t w ms t' w') (h' : Run p t' w' ns u v) : Run p t w (ms ++ ns) u v := by
  induction h with
  | nil t w => exact h'
  | cons hs _ ih => exact .cons hs (ih h')

theorem of_append (h : Run p t w (ms ++ ns) u v) :
    ∃ t' w', Run p t w ms t' w' ∧ Run p t' w' ns u v := by
  induction ms generalizing t w with
  | nil => exact ⟨t, w, .nil _ _, h⟩
  | cons m ms ih =>
      cases h with
      | cons hs h =>
          obtain ⟨t', w', h₁, h₂⟩ := ih h
          exact ⟨t', w', .cons hs h₁, h₂⟩

/-- What every step keeps, knowing the history before it, every run keeps. -/
theorem keeps {I : History τ → Threads τ α → W → Prop}
    (hstep : ∀ {ms t w m t' w'}, I ms t w → Step p t w m t' w' → I (ms ++ [m]) t' w')
    (h : Run p t w ms t' w') {before : History τ} (hI : I before t w) :
    I (before ++ ms) t' w' := by
  induction h generalizing before with
  | nil t w => simpa using hI
  | cons hs _ ih =>
      have := ih (hstep hI hs)
      simpa using this

end Run

/-- The relation says what the function computes. -/
theorem run?_eq_some_iff {order : List Thread} {t t' : Threads τ α} {w w' : W} :
    run? p order t w = some (t', w') ↔ ∃ ms, ms.map Prod.fst = order ∧ Run p t w ms t' w' := by
  induction order generalizing t w with
  | nil =>
      constructor
      · intro h
        simp only [run?, Option.some.injEq, Prod.mk.injEq] at h
        obtain ⟨rfl, rfl⟩ := h
        exact ⟨[], rfl, .nil _ _⟩
      · rintro ⟨ms, hms, h⟩
        obtain rfl := List.map_eq_nil_iff.1 hms
        cases h
        rfl
  | cons who order ih =>
      constructor
      · intro h
        simp only [run?] at h
        split at h
        · simp at h
        · rename_i t₁ w₁ hs
          obtain ⟨m, hm⟩ := step?_eq_some_iff.1 hs
          obtain ⟨ms, rfl, hr⟩ := ih.1 h
          exact ⟨(who, m) :: ms, rfl, .cons hm hr⟩
      · rintro ⟨ms, hms, h⟩
        cases h with
        | nil => simp at hms
        | @cons _ t₁ _ _ w₁ _ m ms hs hr =>
            obtain ⟨rfl, hms'⟩ := List.cons.inj hms
            have hs' := step?_eq_some_iff.2 ⟨m.2, hs⟩
            simp only [run?, hs']
            exact ih.2 ⟨ms, hms', hr⟩

end Threads

/-- A run of an ensemble from its beginning to its result. -/
def Ensemble.Ends {τ α W : Type} (p : Performer W) (e : Ensemble τ α) (w : W) (ms : History τ)
    (a : α) (w' : W) : Prop :=
  ∃ t, Threads.Run p (.ofEnsemble e) w ms t w' ∧ t.lead = .done a

/-- Where an ensemble ends if its threads take turns in a given order. -/
def Ensemble.endIn? {τ α W : Type} (p : Performer W) (e : Ensemble τ α) (order : List Thread)
    (w : W) : Option (α × W) :=
  (Threads.run? p order (.ofEnsemble e) w).bind fun x =>
    match x.1.lead with
    | .done a => some (a, x.2)
    | _ => none

theorem Ensemble.ends_of_endIn? {τ α W : Type} {p : Performer W} {e : Ensemble τ α}
    {order : List Thread} {w w' : W} {a : α} (h : e.endIn? p order w = some (a, w')) :
    ∃ ms, e.Ends p w ms a w' := by
  obtain ⟨⟨t, v⟩, hrun, hend⟩ := Option.bind_eq_some_iff.1 h
  obtain ⟨ms, -, hms⟩ := Threads.run?_eq_some_iff.1 hrun
  simp only at hend
  split at hend
  · rename_i b hlead
    simp only [Option.some.injEq, Prod.mk.injEq] at hend
    obtain ⟨rfl, rfl⟩ := hend
    exact ⟨ms, t, hms, hlead⟩
  · cases hend

/-! ### The clock -/

namespace Clock

variable {τ α W : Type} {p : Performer W}

/-- Whose turn it is next changes neither the threads nor the world. -/
theorem afterTurn_threads (c : Clock τ α W) (who : Thread) (awake : List Thread) :
    (c.afterTurn who awake).threads = c.threads ∧ (c.afterTurn who awake).world = c.world := by
  unfold afterTurn
  cases who with
  | lead => exact ⟨rfl, rfl⟩
  | script i => by_cases hturns : c.turns + 1 < turnsPerRound <;> simp [hturns]

theorem afterEnd_threads (c : Clock τ α W) (who : Thread) (others : List Thread) :
    (c.afterEnd who others).threads = c.threads ∧ (c.afterEnd who others).world = c.world := by
  unfold afterEnd
  cases who with
  | lead => exact afterTurn_threads c .lead others
  | script i =>
      by_cases hwaits : c.leadWaits = true
      · simpa [hwaits] using afterTurn_threads c (.script i) (others ++ [.lead])
      · simpa [hwaits] using afterTurn_threads c (.script i) others

/-- A tick of the clock is a step of some thread, or none. -/
theorem tick?_isRun {c c' : Clock τ α W} (h : c.tick? p = some c') :
    ∃ ms, Threads.Run p c.threads c.world ms c'.threads c'.world := by
  unfold tick? at h
  split at h
  · rename_i who others _
    split at h
    · simp only [Option.some.injEq] at h
      subst h
      obtain ⟨hthreads, hworld⟩ := c.afterEnd_threads who others
      refine ⟨[], ?_⟩
      rw [hthreads, hworld]
      exact .nil _ _
    · rename_i t' w' hs
      obtain ⟨m, hm⟩ := Threads.step?_eq_some_iff.1 hs
      refine ⟨[(who, m)], .single ?_⟩
      split at h
      · -- the thread goes to sleep
        simp only [Option.some.injEq] at h
        subst h
        rw [(afterTurn_threads _ who others).1, (afterTurn_threads _ who others).2]
        exact hm
      · simp only [Option.some.injEq] at h
        subst h
        exact hm
  · split at h
    · simp at h
    · simp only [Option.some.injEq] at h
      subst h
      exact ⟨[], .nil _ _⟩

/-- **The clock selects a run.** -/
theorem run_isRun (n : Nat) (c : Clock τ α W) :
    ∃ ms, Threads.Run p c.threads c.world ms (run p n c).threads (run p n c).world := by
  induction n generalizing c with
  | zero => exact ⟨[], .nil _ _⟩
  | succ n ih =>
      unfold run
      split
      · exact ⟨[], .nil _ _⟩
      · split
        · exact ⟨[], .nil _ _⟩
        · rename_i c' hc
          obtain ⟨ms, hms⟩ := tick?_isRun hc
          obtain ⟨ns, hns⟩ := ih c'
          exact ⟨ms ++ ns, hms.trans hns⟩

end Clock

/-- What is true of every run of an ensemble to its result is true of the run under the clock. -/
theorem Ensemble.runClocked_ends {τ α W : Type} {p : Performer W} {e : Ensemble τ α} {w w' : W}
    {a : α} {time : Nat} (h : e.runClocked p w = some (a, w', time)) :
    ∃ ms, e.Ends p w ms a w' := by
  simp only [runClocked, Option.map_eq_some_iff, Prod.mk.injEq] at h
  obtain ⟨b, hb, rfl, rfl, -⟩ := h
  obtain ⟨ms, hms⟩ :=
    Clock.run_isRun (p := p) Clock.stepLimit (.ofEnsemble e w)
  refine ⟨ms, _, hms, ?_⟩
  unfold Clock.result? at hb
  split at hb
  · rename_i hl
    simp only [Option.some.injEq] at hb
    rw [hl, hb]
  · simp at hb

end Testbed
