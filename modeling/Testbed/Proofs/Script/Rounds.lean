/-
**One fan-out after the other.**

An ensemble may start scripts, wait for all of them, and then start some more.  What has ended does
not take part any more, so behind it the ensemble runs like one that has just begun, only that its
scripts have later numbers.

Main definitions:

* `Testbed.Thread.behind`, `Testbed.History.behind` — threads and histories with later numbers;
* `Testbed.Ensemble.Starts` — an ensemble all of whose scripts are of some kind;
* `Testbed.Threads.Together` — the history of scripts beside each other, all of which have ended.

Main results:

* `Testbed.Threads.Run.of_idle` — **behind scripts that have ended** an ensemble runs as from its
  beginning;
* `Testbed.Threads.Finishes.of_together` — **a fan-out runs to its end before what follows
  begins**.
-/

import Testbed.Proofs.Script.Composition
import Testbed.Proofs.Script.Together

set_option relaxedAutoImplicit false
set_option autoImplicit false

namespace Testbed

/-! ### Later numbers -/

/-- A thread as it is called behind so many scripts that were started before. -/
def Thread.behind (n : Nat) : Thread → Thread
  | .lead => .lead
  | .script i => .script (n + i)

namespace Thread

@[simp] theorem behind_lead (n : Nat) : behind n .lead = .lead := rfl

@[simp] theorem behind_script (n i : Nat) : behind n (.script i) = .script (n + i) := rfl

theorem behind_injective (n : Nat) {v who : Thread} (h : behind n v = behind n who) : v = who := by
  cases v <;> cases who <;> simp_all [behind]

theorem behind_ne_script {n i : Nat} (hi : i < n) (who : Thread) : behind n who ≠ .script i := by
  cases who with
  | lead => simp
  | script j =>
      simp only [behind_script, ne_eq, script.injEq]
      omega

end Thread

namespace History

variable {τ : Type}

/-- A history as it is behind so many scripts that were started before. -/
def behind (n : Nat) (ms : History τ) : History τ := ms.map fun m => (m.1.behind n, m.2)

@[simp] theorem behind_nil (n : Nat) : behind n ([] : History τ) = [] := rfl

@[simp] theorem behind_cons (n : Nat) (m : Thread × Move τ) (ms : History τ) :
    behind n (m :: ms) = (m.1.behind n, m.2) :: behind n ms := rfl

@[simp] theorem behind_append (n : Nat) (ms ns : History τ) :
    behind n (ms ++ ns) = behind n ms ++ behind n ns := List.map_append

@[simp] theorem behind_ofLead (n : Nat) (ds : List Deed) :
    behind n (ofLead ds : History τ) = ofLead ds := by
  simp [behind, ofLead]

@[simp] theorem deedsOf_behind (n : Nat) (who : Thread) (ms : History τ) :
    (ms.behind n).deedsOf (who.behind n) = ms.deedsOf who := by
  induction ms with
  | nil => rfl
  | cons m ms ih =>
      rw [behind_cons, deedsOf_cons, ih, deedsOf_cons who]
      by_cases hm : m.1 = who
      · simp [hm]
      · have hne : m.1.behind n ≠ who.behind n := fun h => hm (Thread.behind_injective n h)
        simp [hm, hne]

theorem deedsOf_behind_lead (n : Nat) (ms : History τ) :
    (ms.behind n).deedsOf .lead = ms.deedsOf .lead := deedsOf_behind n .lead ms

theorem deedsOf_behind_script (n i : Nat) (ms : History τ) :
    (ms.behind n).deedsOf (.script (n + i)) = ms.deedsOf (.script i) :=
  deedsOf_behind n (.script i) ms

theorem deedsOf_behind_of_lt {n i : Nat} (hi : i < n) (ms : History τ) :
    (ms.behind n).deedsOf (.script i) = [] := by
  induction ms with
  | nil => rfl
  | cons m ms ih =>
      rw [behind_cons, deedsOf_cons, ih]
      simp [Thread.behind_ne_script hi]

@[simp] theorem deedsOf_lead_ofLead (ds : List Deed) :
    (ofLead ds : History τ).deedsOf .lead = ds := by
  induction ds with
  | nil => rfl
  | cons d ds ih =>
      show deedsOf .lead ((.lead, .deed d) :: ofLead ds) = _
      rw [deedsOf_cons, ih]
      simp

@[simp] theorem deedsOf_script_ofLead (i : Nat) (ds : List Deed) :
    (ofLead ds : History τ).deedsOf (.script i) = [] := by
  induction ds with
  | nil => rfl
  | cons d ds ih =>
      show deedsOf (.script i) ((.lead, .deed d) :: ofLead ds) = _
      rw [deedsOf_cons, ih]
      simp

end History

/-! ### Behind scripts that have ended -/

namespace Threads

variable {τ α β W : Type} {p : Performer W} {e : Ensemble τ α} {ss ss' : List (Script τ)} {k : Nat}
  {w v : W} {m : Thread × Move τ} {ms : History τ} {a : α} {u : Threads τ α}

theorem Step.of_idle (hss : Idle ss) (h : Step p ⟨e, ss ++ ss', ss.length + k⟩ w m u v) :
    ∃ m' u', m = (m'.1.behind ss.length, m'.2) ∧ Step p ⟨e, ss', k⟩ w m' u' v ∧
      u = ⟨u'.lead, ss ++ u'.scripts, ss.length + u'.joined⟩ := by
  cases h with
  | leadAct x next => exact ⟨_, _, rfl, .leadAct x next ss' k w, rfl⟩
  | leadFork s next =>
      refine ⟨_, _, rfl, .leadFork s next ss' k w, ?_⟩
      rw [List.append_assoc]
  | leadJoin next _ _ r _ ended =>
      rw [List.getElem?_append_right (Nat.le_add_right _ _), Nat.add_sub_cancel_left] at ended
      exact ⟨_, _, rfl, .leadJoin next ss' k r w ended, rfl⟩
  | scriptAct _ _ _ i x next _ turn =>
      -- a script that has ended does not act, so it is one of the later ones
      have hi : ss.length ≤ i := Nat.le_of_not_lt fun hlt => by
        rw [List.getElem?_append_left hlt] at turn
        obtain ⟨r, hr⟩ := hss _ (List.mem_of_getElem? turn)
        cases hr
      obtain ⟨i, rfl⟩ := Nat.exists_eq_add_of_le hi
      rw [List.getElem?_append_right hi, Nat.add_sub_cancel_left] at turn
      refine ⟨_, _, rfl, .scriptAct e ss' k i x next w turn, ?_⟩
      rw [List.set_append_right _ _ hi, Nat.add_sub_cancel_left]

/-- **Behind scripts that have ended** an ensemble runs as from its beginning. -/
theorem Run.of_idle (hss : Idle ss) (h : Run p ⟨e, ss ++ ss', ss.length + k⟩ w ms u v) :
    ∃ ms' u', ms = History.behind ss.length ms' ∧ Run p ⟨e, ss', k⟩ w ms' u' v ∧
      u = ⟨u'.lead, ss ++ u'.scripts, ss.length + u'.joined⟩ := by
  generalize hstart : (⟨e, ss ++ ss', ss.length + k⟩ : Threads τ α) = start at h
  induction h generalizing e ss' k with
  | nil start w =>
      subst hstart
      exact ⟨[], _, rfl, .nil _ _, rfl⟩
  | cons step _ ih =>
      subst hstart
      obtain ⟨m', u', rfl, hstep, rfl⟩ := step.of_idle hss
      obtain ⟨ms', u'', rfl, hrun, rfl⟩ := ih rfl
      exact ⟨m' :: ms', u'', rfl, .cons hstep hrun, rfl⟩

theorem Finishes.of_idle (hss : Idle ss) (h : Finishes p ⟨e, ss, ss.length⟩ w ms a v) :
    ∃ ms', ms = History.behind ss.length ms' ∧ Finishes p (.ofEnsemble e) w ms' a v := by
  obtain ⟨u, run, hu⟩ := h
  have run' : Run p ⟨e, ss ++ [], ss.length + 0⟩ w ms u v := by rwa [List.append_nil]
  obtain ⟨ms', u', rfl, hrun, rfl⟩ := run'.of_idle hss
  exact ⟨ms', rfl, u', hrun, hu⟩

/-! ### The scripts of an ensemble -/

end Threads

namespace Ensemble

variable {τ α β : Type} {P : Script τ → Prop}

/-- Is every script that an ensemble may start of some kind? -/
def Starts (P : Script τ → Prop) : Ensemble τ α → Prop
  | .done _ => True
  | .act _ next => ∀ a, (next a).Starts P
  | .fork s next => P s ∧ next.Starts P
  | .join next => ∀ r, (next r).Starts P

theorem Starts.bind {e : Ensemble τ α} {f : α → Ensemble τ β} (he : e.Starts P)
    (hf : ∀ a, (f a).Starts P) : (e.bind f).Starts P := by
  induction e with
  | done a => exact hf a
  | act x next ih => exact fun a => ih a (he a)
  | fork s next ih => exact ⟨he.1, ih he.2⟩
  | join next ih => exact fun r => ih r (he r)

theorem Starts.mono {Q : Script τ → Prop} (hPQ : ∀ s, P s → Q s) {e : Ensemble τ α}
    (he : e.Starts P) : e.Starts Q := by
  induction e with
  | done a => trivial
  | act x next ih => exact fun a => ih a (he a)
  | fork s next ih => exact ⟨hPQ s he.1, ih he.2⟩
  | join next ih => exact fun r => ih r (he r)

theorem starts_ofScript (s : Script α) : (ofScript s : Ensemble τ α).Starts P := by
  induction s with
  | done a => trivial
  | act x next ih => exact fun a => ih a

theorem starts_forkAll {ss : List (Script τ)} (hs : ∀ s ∈ ss, P s) : (forkAll ss).Starts P := by
  induction ss with
  | nil => trivial
  | cons s ss ih => exact ⟨hs s (by simp), ih fun s' h => hs s' (by simp [h])⟩

theorem starts_together {ss : List (Script τ)} (hs : ∀ s ∈ ss, P s) : (together ss).Starts P := by
  have hjoins : ∀ n, (joinAll n : Ensemble τ (List τ)).Starts P := by
    intro n
    induction n with
    | zero => trivial
    | succ n ih => exact fun r => ih.bind fun rs => trivial
  exact (starts_forkAll hs).bind fun _ => hjoins _

theorem starts_fanOut {ss : List (Script τ)} {g : List τ → Script α} (hs : ∀ s ∈ ss, P s) :
    (fanOut ss g).Starts P := (starts_together hs).bind fun _ => starts_ofScript _

theorem together_eq_fanOut (ss : List (Script τ)) : together ss = fanOut ss Script.done :=
  (bind_pure (together ss)).symm

theorem settles_together (ss : List (Script τ)) : Settles 0 (together ss) := by
  rw [together_eq_fanOut]
  exact settles_fanOut ss Script.done

theorem Starts.of_does {e e' : Ensemble τ α} {ms : List (Move τ)} (he : e.Starts P)
    (h : Does e ms e') : ∀ s ∈ ms.filterMap Move.fork?, P s := by
  induction h with
  | nil e => simp
  | act a _ ih => exact ih (he a)
  | fork _ ih => exact List.forall_mem_cons.2 ⟨he.1, ih he.2⟩
  | join r _ ih => exact ih (he r)

end Ensemble

namespace Threads

variable {τ α W : Type} {p : Performer W} {ss : List (Script τ)} {w v : W} {ms : History τ} {a : α}

/-- Each script of a run has done nothing or comes from one of the kind of the ensemble. -/
theorem Run.script_of_starts {P : Script τ → Prop} {e : Ensemble τ α} {t : Threads τ α}
    (run : Run p (.ofEnsemble e) w ms t v) (he : e.Starts P) (i : Nat) :
    ms.deedsOf (.script i) = [] ∨ ∃ s s', P s ∧ s.Does (ms.deedsOf (.script i)) s' := by
  have hx := run.explained
  rcases Nat.lt_or_ge i ms.started.length with hi | hi
  · obtain ⟨s', -, hdoes⟩ := hx.scripts i _ (List.getElem?_eq_getElem hi)
    exact .inr ⟨_, s', he.of_does hx.lead _ (List.getElem_mem hi), hdoes⟩
  · exact .inl (hx.idle i hi)

/-- A script that was waited for is of the kind of the ensemble, and has ended. -/
theorem Run.result_of_starts {P : Script τ → Prop} {e : Ensemble τ α} {t : Threads τ α}
    (run : Run p (.ofEnsemble e) w ms t v) (he : e.Starts P) {i : Nat} {r : τ}
    (hr : ms.results[i]? = some r) : ∃ s, P s ∧ s.Does (ms.deedsOf (.script i)) (.done r) := by
  have hx := run.explained
  obtain ⟨s, hs, hdoes⟩ := hx.of_script (hx.results i r hr)
  exact ⟨s, he.of_does hx.lead s (List.mem_of_getElem? hs), hdoes⟩

/-! ### One fan-out -/

/-- The history of scripts beside each other, all of which have ended. -/
structure Together (ss : List (Script τ)) (rs : List τ) (ms : History τ) : Prop where
  length_results : rs.length = ss.length
  /-- The leading thread only waits. -/
  lead : ms.deedsOf .lead = []
  /-- Each script has come to its end. -/
  scripts : ∀ (i : Nat) (s : Script τ) (r : τ), ss[i]? = some s → rs[i]? = some r →
    s.Does (ms.deedsOf (.script i)) (.done r)
  /-- There are no other scripts. -/
  idle : ∀ i, ss.length ≤ i → ms.deedsOf (.script i) = []

/-- **A fan-out runs to its end before what follows begins.** -/
theorem Finishes.of_together {f : List τ → Ensemble τ α}
    (h : Finishes p (.ofEnsemble ((Ensemble.together ss).bind f)) w ms a v) :
    ∃ ms₁ ms₂ rs x, ms = ms₁ ++ ms₂ ∧ Together ss rs ms₁ ∧
      Finishes p ⟨f rs, rs.map .done, rs.length⟩ x ms₂ a v := by
  obtain ⟨ms₁, ms₂, rs, u, x, rfl, run, hu, hrest⟩ := h.of_bind
  rw [Ensemble.together_eq_fanOut] at run
  have hx := run.explained
  obtain ⟨rs', hlen, hscripts, hlead, hdoes⟩ := hx.end_of_fanOut hu
  obtain ⟨hnone, hrs⟩ := Script.does_done.1 hlead
  cases hrs
  have hended := hx.ended (Ensemble.settles_fanOut _ _) hu
  have hjoined : u.joined = rs.length := by
    have hlengths := congrArg List.length (hscripts.symm.trans hended)
    rw [List.length_map, List.length_map] at hlengths
    rw [hx.joined, hlengths]
  refine ⟨ms₁, ms₂, rs, x, rfl, ⟨hlen, hnone, hdoes, ?_⟩, ?_⟩
  · intro i hi
    refine hx.idle i ?_
    rw [← hx.length_scripts, hscripts, List.length_map]
    omega
  · rw [hscripts, hjoined] at hrest
    exact hrest

end Threads

end Testbed
