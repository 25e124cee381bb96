/-
**Runs of composed ensembles.**

An ensemble that is composed of two parts runs through the first to a result and goes on with the
second from there.  Where a part starts nothing and no script is under way, its run is the one in
which it is performed.

Main definitions:

* `Testbed.History.ofLead` — the history of a leading thread alone;
* `Testbed.Threads.Idle` — scripts that have all ended;
* `Testbed.Threads.Finishes` — a run from threads on their way to a result.

Main results:

* `Testbed.Threads.Finishes.of_bind` — **a run of two parts, part after part**;
* `Testbed.Threads.Finishes.of_ofScript` — a script among idle ones is performed.
-/

import Testbed.Proofs.Script.Histories

set_option relaxedAutoImplicit false
set_option autoImplicit false

namespace Testbed

/-- What a leading thread did alone. -/
def History.ofLead {τ : Type} (ds : List Deed) : History τ := ds.map fun d => (.lead, .deed d)

namespace Threads

variable {τ α β W : Type} {p : Performer W}

/-- Have all scripts ended? -/
def Idle (ss : List (Script τ)) : Prop := ∀ s ∈ ss, ∃ r, s = .done r

theorem idle_map_done (rs : List τ) : Idle (rs.map .done) := by
  intro s hs
  obtain ⟨r, -, rfl⟩ := List.mem_map.1 hs
  exact ⟨r, rfl⟩

/-- A run from threads on their way to a result. -/
def Finishes (p : Performer W) (t : Threads τ α) (w : W) (ms : History τ) (a : α) (v : W) : Prop :=
  ∃ u, Run p t w ms u v ∧ u.lead = .done a

variable {ss : List (Script τ)} {k : Nat} {w v : W} {ms : History τ} {a : α}

/-- A leading thread that has ended stays where it is, whatever the scripts do. -/
theorem Run.lead_of_done {t u : Threads τ α} (run : Run p t w ms u v) (ht : t.lead = .done a) :
    u.lead = .done a := by
  induction run with
  | nil => exact ht
  | cons step _ ih =>
      refine ih ?_
      cases step with
      | leadAct => cases ht
      | leadFork => cases ht
      | leadJoin => cases ht
      | scriptAct => exact ht

namespace Finishes

/-- A result that is there already needs no run, unless scripts are still under way. -/
theorem of_done {b : α} (hss : Idle ss) (h : Finishes p ⟨.done b, ss, k⟩ w ms a v) :
    ms = [] ∧ b = a ∧ w = v := by
  obtain ⟨u, run, hu⟩ := h
  cases run with
  | nil =>
      cases hu
      exact ⟨rfl, rfl, rfl⟩
  | cons step _ =>
      cases step with
      | scriptAct e ss k i x next _ turn =>
          obtain ⟨r, hr⟩ := hss _ (List.mem_of_getElem? turn)
          cases hr

/-- **A run of two parts** runs through the first part, then through the second. -/
theorem of_bind {e : Ensemble τ β} {f : β → Ensemble τ α}
    (h : Finishes p ⟨e.bind f, ss, k⟩ w ms a v) :
    ∃ ms₁ ms₂ b u x, ms = ms₁ ++ ms₂ ∧ Run p ⟨e, ss, k⟩ w ms₁ u x ∧ u.lead = .done b ∧
      Finishes p ⟨f b, u.scripts, u.joined⟩ x ms₂ a v := by
  obtain ⟨t, run, ht⟩ := h
  -- induction on the run: as long as the first part is not done, the step is one of its own
  generalize hstart : (⟨e.bind f, ss, k⟩ : Threads τ α) = start at run
  induction run generalizing e ss k with
  | nil start w =>
      subst hstart
      cases e with
      | done b => exact ⟨[], [], b, ⟨.done b, ss, k⟩, w, rfl, .nil _ _, rfl, _, .nil _ _, ht⟩
      | act x next => cases ht
      | fork s next => cases ht
      | join next => cases ht
  | @cons start start' t w x v m ms step run ih =>
      have goOn : ∀ {e' : Ensemble τ β} {ss' : List (Script τ)} {k' : Nat},
          Step p ⟨e, ss, k⟩ w m ⟨e', ss', k'⟩ x → (⟨e'.bind f, ss', k'⟩ : Threads τ α) = start' →
          ∃ ms₁ ms₂ b u y, m :: ms = ms₁ ++ ms₂ ∧ Run p ⟨e, ss, k⟩ w ms₁ u y ∧ u.lead = .done b ∧
            Finishes p ⟨f b, u.scripts, u.joined⟩ y ms₂ a v := by
        intro e' ss' k' hstep heq
        obtain ⟨ms₁, ms₂, b, u, y, rfl, hrun, hu, hrest⟩ := ih ht heq
        exact ⟨m :: ms₁, ms₂, b, u, y, rfl, .cons hstep hrun, hu, hrest⟩
      cases e with
      | done b =>
          subst hstart
          exact ⟨[], m :: ms, b, ⟨.done b, ss, k⟩, w, rfl, .nil _ _, rfl, t, .cons step run, ht⟩
      | act y next =>
          subst hstart
          cases step with
          | leadAct => exact goOn (.leadAct y next ss k w) rfl
          | scriptAct _ _ _ i z n _ turn =>
              exact goOn (.scriptAct (.act y next) ss k i z n w turn) rfl
      | fork s next =>
          subst hstart
          cases step with
          | leadFork => exact goOn (.leadFork s next ss k w) rfl
          | scriptAct _ _ _ i z n _ turn =>
              exact goOn (.scriptAct (.fork s next) ss k i z n w turn) rfl
      | join next =>
          subst hstart
          cases step with
          | leadJoin _ _ _ r _ ended => exact goOn (.leadJoin next ss k r w ended) rfl
          | scriptAct _ _ _ i z n _ turn =>
              exact goOn (.scriptAct (.join next) ss k i z n w turn) rfl

/-- **A script among idle ones is performed.** -/
theorem of_ofScript {s : Script α} {u : Threads τ α} (hss : Idle ss)
    (run : Run p ⟨.ofScript s, ss, k⟩ w ms u v) (hu : u.lead = .done a) :
    ms = .ofLead (s.deedsIn p w) ∧ s.perform p w = (a, v) ∧ u.scripts = ss ∧ u.joined = k := by
  induction s generalizing w ms with
  | done b =>
      cases run with
      | nil =>
          cases hu
          exact ⟨rfl, rfl, rfl, rfl⟩
      | cons step _ =>
          cases step with
          | scriptAct e ss k i x next _ turn =>
              -- an idle script does not act
              obtain ⟨r, hr⟩ := hss _ (List.mem_of_getElem? turn)
              cases hr
  | act x next ih =>
      cases run with
      | nil => cases hu
      | cons step run =>
          cases step with
          | leadAct =>
              obtain ⟨rfl, hperform, hscripts, hjoined⟩ := ih _ run
              exact ⟨rfl, hperform, hscripts, hjoined⟩
          | scriptAct e ss k i y n _ turn =>
              obtain ⟨r, hr⟩ := hss _ (List.mem_of_getElem? turn)
              cases hr

/-- A script that comes first among idle ones is performed, then the rest goes on. -/
theorem of_ofScript_bind {s : Script β} {f : β → Ensemble τ α} (hss : Idle ss)
    (h : Finishes p ⟨(Ensemble.ofScript s).bind f, ss, k⟩ w ms a v) :
    ∃ ms', ms = .ofLead (s.deedsIn p w) ++ ms' ∧
      Finishes p ⟨f (s.perform p w).1, ss, k⟩ (s.perform p w).2 ms' a v := by
  obtain ⟨ms₁, ms₂, b, u, x, rfl, run, hu, hrest⟩ := h.of_bind
  obtain ⟨rfl, hperform, hscripts, hjoined⟩ := of_ofScript hss run hu
  rw [hscripts, hjoined] at hrest
  rw [hperform]
  exact ⟨ms₂, rfl, hrest⟩

end Finishes

end Threads

end Testbed
