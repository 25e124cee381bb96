/-
**Jobs, step by step.**

A job is followed from one step to the next: a step is performed and either ends the job with its
failure or hands its result on; a fan-out runs to its end, and then the job goes on.  Most steps are
quiet: they call nothing, and leave the ledger and the files as they are.

Main definitions:

* `Testbed.Action.IsLocal`, `Testbed.Action.IsQuiet` — actions without calls, and those that also
  leave ledger and files alone;
* `Testbed.History.SameCalls` — histories that start the same scripts and make the same calls.

Main results:

* `Testbed.Cli.Job.of_step`, `Testbed.Cli.Job.of_attempt`, `Testbed.Cli.Job.of_fanOut` — **how a job
  goes on** behind a step and behind a fan-out;
* `Testbed.Rehearsal.perform_quiet` — quiet steps leave ledger and files alone.
-/

import Testbed.Cli.Job
import Testbed.Proofs.Script.Composition
import Testbed.Rehearsal.World

set_option relaxedAutoImplicit false
set_option autoImplicit false

namespace Testbed

/-! ### Local and quiet actions -/

/-- Actions that are no calls. -/
def Action.IsLocal : Action → Prop
  | .call _ => False
  | _ => True

/-- Actions that call nothing and leave the ledger and the files as they are. -/
def Action.IsQuiet : Action → Prop
  | .call _ | .record .. | .setLedger _ | .writeFile .. | .removeFile _ => False
  | _ => True

theorem Action.IsQuiet.isLocal {x : Action} (h : x.IsQuiet) : x.IsLocal := by
  cases x with
  | call c => exact h.elim
  | _ => trivial

/-- Quiet steps leave the ledger and the files alone. -/
theorem Rehearsal.perform_quiet {R α : Type} (h : Host R) {s : Script α}
    (hs : s.Within Action.IsQuiet) (w : World R) :
    (s.perform (perform h) w).2.ledger = w.ledger ∧ (s.perform (perform h) w).2.disk = w.disk := by
  induction s generalizing w with
  | done a => exact ⟨rfl, rfl⟩
  | act x next ih =>
      obtain ⟨hl, hd⟩ := ih (perform h x w).1 (hs.2 _) (perform h x w).2
      have hkept : (perform h x w).2.ledger = w.ledger ∧ (perform h x w).2.disk = w.disk := by
        cases x with
        | print text =>
            by_cases ho : w.outputOpen <;> simp [perform, ho]
        | connect host => exact ⟨rfl, rfl⟩
        | log id follow => exact ⟨rfl, rfl⟩
        | sleep d => exact ⟨rfl, rfl⟩
        | time => exact ⟨rfl, rfl⟩
        | count e => exact ⟨rfl, rfl⟩
        | ledger => exact ⟨rfl, rfl⟩
        | readFile path => exact ⟨rfl, rfl⟩
        | _ => exact hs.1.elim
      exact ⟨hl.trans hkept.1, hd.trans hkept.2⟩

/-! ### Histories that make the same calls -/

/-- Is a move a call? -/
def Move.isCall {τ : Type} : Move τ → Bool
  | .deed ⟨.call _, _⟩ => true
  | _ => false

namespace History

variable {τ : Type}

/-- The calls of a history, with their threads. -/
def calls (ms : History τ) : History τ := ms.filter fun m => m.2.isCall

/-- Do two histories start the same scripts and make the same calls? -/
def SameCalls (ms ns : History τ) : Prop := ms.started = ns.started ∧ ms.calls = ns.calls

theorem started_ofLead (ds : List Deed) : started (ofLead ds : History τ) = [] := by
  induction ds with
  | nil => rfl
  | cons d ds ih =>
      show started ([(Thread.lead, Move.deed d)] ++ ofLead ds) = []
      rw [started_append, ih]
      simp

theorem calls_ofLead {ds : List Deed} (h : ∀ d ∈ ds, d.action.IsLocal) :
    calls (ofLead ds : History τ) = [] := by
  refine List.filter_eq_nil_iff.2 fun m hm => ?_
  obtain ⟨⟨x, a⟩, hd, rfl⟩ := List.mem_map.1 hm
  have hlocal := h _ hd
  cases x with
  | call c => exact hlocal.elim
  | _ => simp [Move.isCall]

namespace SameCalls

variable {ms ns os : History τ} {ds : List Deed}

theorem refl (ms : History τ) : SameCalls ms ms := ⟨rfl, rfl⟩

theorem trans (h : SameCalls ms ns) (h' : SameCalls ns os) : SameCalls ms os :=
  ⟨h.1.trans h'.1, h.2.trans h'.2⟩

theorem append {ms' ns' : History τ} (h : SameCalls ms ns) (h' : SameCalls ms' ns') :
    SameCalls (ms ++ ms') (ns ++ ns') := by
  refine ⟨?_, ?_⟩
  · rw [started_append, started_append, h.1, h'.1]
  · unfold calls
    rw [List.filter_append, List.filter_append]
    exact congr (congrArg _ h.2) h'.2

/-- What the leading thread does by itself counts for nothing. -/
theorem ofLead (h : ∀ d ∈ ds, d.action.IsLocal) : SameCalls (History.ofLead ds : History τ) [] :=
  ⟨started_ofLead ds, calls_ofLead h⟩

/-- The same calls are made. -/
theorem mem_call (h : SameCalls ms ns) {who : Thread} {c : Call}
    {a : Except OperationError c.Answer} :
    (who, .deed ⟨.call c, a⟩) ∈ ms ↔ (who, .deed ⟨.call c, a⟩) ∈ ns := by
  have hiff : ∀ os : History τ, (who, .deed ⟨.call c, a⟩) ∈ os.calls ↔
      (who, .deed ⟨.call c, a⟩) ∈ os := fun os => by
    unfold calls
    rw [List.mem_filter]
    exact and_iff_left rfl
  rw [← hiff ms, ← hiff ns, h.2]

/-- The same exchanges take place. -/
theorem exchanges_eq (h : SameCalls ms ns) : ms.exchanges = ns.exchanges := by
  have hcalls : ∀ os : History τ, os.calls.exchanges = os.exchanges := fun os => by
    unfold History.exchanges collect calls
    rw [List.filterMap_filter]
    refine congrArg (fun f => os.filterMap f) (funext fun m => ?_)
    obtain ⟨who, m⟩ := m
    cases m with
    | deed d =>
        obtain ⟨x, a⟩ := d
        cases x <;> rfl
    | _ => rfl
  rw [← hcalls ms, ← hcalls ns, h.2]

/-- The same exchanges take place in each thread. -/
theorem exchanges_deedsOf_eq (h : SameCalls ms ns) (who : Thread) :
    Testbed.exchanges (ms.deedsOf who) = Testbed.exchanges (ns.deedsOf who) := by
  have hcalls : ∀ os : History τ,
      Testbed.exchanges (os.calls.deedsOf who) = Testbed.exchanges (os.deedsOf who) := fun os => by
    unfold Testbed.exchanges deedsOf of calls
    rw [List.filterMap_filterMap, List.filterMap_filterMap, List.filterMap_filterMap,
      List.filterMap_filterMap, List.filterMap_filter]
    refine congrArg (fun f => os.filterMap f) (funext fun m => ?_)
    obtain ⟨v, m⟩ := m
    by_cases hv : v = who
    · cases m with
      | deed d =>
          obtain ⟨x, a⟩ := d
          cases x <;> simp [hv, Move.isCall, Deed.exchange?]
      | _ => simp [hv]
    · simp [hv]
  rw [← hcalls ms, ← hcalls ns, h.2]

end SameCalls

end History

/-! ### How a job goes on -/

namespace Cli.Job

open Threads

variable {α β γ W : Type} {p : Performer W} {ss : List (Script β)} {k : Nat} {w v : W}
  {ms : History β} {r : Except Failure γ}

/-- How a job goes on behind an outcome: with what was asked for, or with the failure. -/
def after (f : α → Job β γ) : Except Failure α → Ensemble β (Except Failure γ)
  | .ok a => (f a).run
  | .error e => .done (.error e)

theorem run_bind (j : Job β α) (f : α → Job β γ) : (j >>= f).run = j.run.bind (after f) := by
  show Ensemble.bind j _ = Ensemble.bind j _
  congr 1
  funext r
  cases r <;> rfl

theorem run_lift_bind (s : Script α) (f : α → Job β γ) :
    ((ExceptT.lift (Ensemble.ofScript s) : Job β α) >>= f).run =
      (Ensemble.ofScript s).bind fun a => (f a).run := by
  rw [run_bind]
  show Ensemble.bind (Ensemble.bind _ _) _ = _
  rw [Ensemble.bind_assoc]
  rfl

theorem run_attempt_bind {β : Type} (op : FanOut β α)
    (f : Except OperationError α → Job (Except OperationError β) γ) :
    (attempt op >>= f).run = op.run.bind fun o => (f o).run := by
  rw [run_bind]
  show Ensemble.bind (Ensemble.bind _ _) _ = _
  rw [Ensemble.bind_assoc]
  rfl

theorem run_ofFanOut_bind {β : Type} (op : FanOut β α)
    (f : α → Job (Except OperationError β) γ) :
    (ofFanOut op >>= f).run =
      op.run.bind fun o => after f (o.mapError Failure.ofOperation) := by
  rw [run_bind]
  show Ensemble.bind (Ensemble.bind _ _) _ = _
  rw [Ensemble.bind_assoc]
  rfl

/-- A script whose result is handed on. -/
theorem of_lift {s : Script α} {f : α → Job β γ} (hss : Idle ss) (hs : s.Within Action.IsLocal)
    (h : Finishes p ⟨((ExceptT.lift (Ensemble.ofScript s) : Job β α) >>= f).run, ss, k⟩ w ms r v) :
    ∃ ms', ms.SameCalls ms' ∧
      Finishes p ⟨(f (s.perform p w).1).run, ss, k⟩ (s.perform p w).2 ms' r v := by
  rw [run_lift_bind] at h
  obtain ⟨ms', rfl, hrest⟩ := h.of_ofScript_bind hss
  have hlocal := (hs.of_does (Script.Does.perform p s w)).2
  exact ⟨ms', (History.SameCalls.ofLead hlocal).append (.refl ms'), hrest⟩

/-- A step is performed, and the job goes on behind its outcome. -/
theorem performed_step {s : Step α} {f : α → Job β γ} (hss : Idle ss)
    (h : Finishes p ⟨(Job.ofStep s >>= f).run, ss, k⟩ w ms r v) :
    ∃ ms', ms = .ofLead (s.run.deedsIn p w) ++ ms' ∧
      Finishes p ⟨after f (s.run.perform p w).1, ss, k⟩ (s.run.perform p w).2 ms' r v := by
  rw [run_bind] at h
  exact h.of_ofScript_bind hss

/-- **A step** is performed, and ends the job or hands its result on. -/
theorem of_step {s : Step α} {f : α → Job β γ} (hss : Idle ss) (hs : s.run.Within Action.IsLocal)
    (h : Finishes p ⟨(Job.ofStep s >>= f).run, ss, k⟩ w ms r v) :
    ∃ ms', ms.SameCalls ms' ∧
      ((∃ e, s.run.perform p w = (.error e, v) ∧ r = .error e ∧ ms' = []) ∨
        ∃ a x, s.run.perform p w = (.ok a, x) ∧ Finishes p ⟨(f a).run, ss, k⟩ x ms' r v) := by
  obtain ⟨ms', rfl, hrest⟩ := performed_step hss h
  have hlocal := (hs.of_does (Script.Does.perform p s.run w)).2
  refine ⟨ms', (History.SameCalls.ofLead hlocal).append (.refl ms'), ?_⟩
  generalize s.run.perform p w = y at hrest ⊢
  obtain ⟨o, x⟩ := y
  cases o with
  | error e =>
      obtain ⟨rfl, rfl, rfl⟩ := hrest.of_done hss
      exact .inl ⟨e, rfl, rfl, rfl⟩
  | ok a => exact .inr ⟨a, x, rfl, hrest⟩

/-- The last step of a job is performed. -/
theorem of_last {s : Step γ} (hss : Idle ss) (hs : s.run.Within Action.IsLocal)
    (h : Finishes p ⟨(Job.ofStep s : Job β γ).run, ss, k⟩ w ms r v) :
    ms.SameCalls [] ∧ s.run.perform p w = (r, v) := by
  obtain ⟨u, run, hu⟩ := h
  obtain ⟨rfl, hperform, -, -⟩ := Finishes.of_ofScript hss run hu
  exact ⟨.ofLead (hs.of_does (Script.Does.perform p s.run w)).2, hperform⟩

/-- **A fan-out** runs to its end, and the job goes on with its outcome. -/
theorem of_attempt {β : Type} {ms : History (Except OperationError β)} {op : FanOut β α}
    {f : Except OperationError α → Job (Except OperationError β) γ} (hop : op.run.Settles 0)
    (h : Finishes p (.ofEnsemble (Job.attempt op >>= f).run) w ms r v) :
    ∃ ms₁ ms₂ o x ss k, ms = ms₁ ++ ms₂ ∧ Finishes p (.ofEnsemble op.run) w ms₁ o x ∧ Idle ss ∧
      Finishes p ⟨(f o).run, ss, k⟩ x ms₂ r v := by
  rw [run_attempt_bind] at h
  obtain ⟨ms₁, ms₂, o, u, x, rfl, run, hu, hrest⟩ := h.of_bind
  refine ⟨ms₁, ms₂, o, x, u.scripts, u.joined, rfl, ⟨u, run, hu⟩, ?_, hrest⟩
  rw [run.explained.ended hop hu]
  exact idle_map_done _

/-- A fan-out runs to its end, and ends the job or hands its result on. -/
theorem of_fanOut {β : Type} {ms : History (Except OperationError β)} {op : FanOut β α}
    {f : α → Job (Except OperationError β) γ} (hop : op.run.Settles 0)
    (h : Finishes p (.ofEnsemble (Job.ofFanOut op >>= f).run) w ms r v) :
    ∃ ms₁ ms₂ o x ss k, ms = ms₁ ++ ms₂ ∧ Finishes p (.ofEnsemble op.run) w ms₁ o x ∧ Idle ss ∧
      ((∃ e, o = .error e ∧ r = .error (.ofOperation e) ∧ v = x ∧ ms₂ = []) ∨
        ∃ a, o = .ok a ∧ Finishes p ⟨(f a).run, ss, k⟩ x ms₂ r v) := by
  rw [run_ofFanOut_bind] at h
  obtain ⟨ms₁, ms₂, o, u, x, rfl, run, hu, hrest⟩ := h.of_bind
  have hidle : Idle u.scripts := by
    rw [run.explained.ended hop hu]
    exact idle_map_done _
  refine ⟨ms₁, ms₂, o, x, u.scripts, u.joined, rfl, ⟨u, run, hu⟩, hidle, ?_⟩
  cases o with
  | error e =>
      obtain ⟨rfl, rfl, rfl⟩ := hrest.of_done hidle
      exact .inl ⟨e, rfl, rfl, rfl, rfl⟩
  | ok a => exact .inr ⟨a, rfl, hrest⟩

/-! ### Jobs that wait for all scripts -/

/-- A job whose first part has failed leaves behind what this part does. -/
theorem leaves_bind {P Q : Nat → Prop} {n : Nat} {j : Job β α} {f : α → Job β γ}
    (hj : j.run.Leaves P n) (hfailed : ∀ k, P k → Q k)
    (hf : ∀ k a, P k → (f a).run.Leaves Q k) : (j >>= f).run.Leaves Q n := by
  rw [run_bind]
  refine hj.bind fun k o hk => ?_
  cases o with
  | error e => exact hfailed k hk
  | ok a => exact hf k a hk

theorem settles_bind {j : Job β α} {f : α → Job β γ} (hj : j.run.Settles 0)
    (hf : ∀ a, (f a).run.Settles 0) : (j >>= f).run.Settles 0 := by
  refine Ensemble.settles_iff_leaves.2
    (leaves_bind (Ensemble.settles_iff_leaves.1 hj) (fun _ hk => hk) fun k a hk => ?_)
  subst hk
  exact Ensemble.settles_iff_leaves.1 (hf a)

theorem settles_ofStep (s : Step α) : (Job.ofStep s : Job β α).run.Settles 0 :=
  Ensemble.settles_ofScript _

theorem settles_lift (s : Script α) :
    (ExceptT.lift (Ensemble.ofScript s) : Job β α).run.Settles 0 :=
  (Ensemble.settles_ofScript s).bind fun _ => rfl

theorem settles_ofFanOut {β : Type} {op : FanOut β α} (hop : op.run.Settles 0) :
    (Job.ofFanOut op).run.Settles 0 := hop.bind fun _ => rfl

/-! ### Quiet steps in a world -/

section World

open Rehearsal

variable {R : Type} {h : Host R} {x y : World R} {s : Step α} {f : α → Job β γ}

/-- Behind a quiet step the ledger and the files are as before. -/
theorem of_quiet (hss : Idle ss) (hs : s.run.Within Action.IsQuiet)
    (fin : Finishes (perform h) ⟨(Job.ofStep s >>= f).run, ss, k⟩ x ms r y) :
    ∃ ms' z, ms.SameCalls ms' ∧ z.ledger = x.ledger ∧ z.disk = x.disk ∧
      ((∃ e, s.run.perform (perform h) x = (.error e, z) ∧ r = .error e ∧ ms' = [] ∧ y = z) ∨
        ∃ a, s.run.perform (perform h) x = (.ok a, z) ∧
          Finishes (perform h) ⟨(f a).run, ss, k⟩ z ms' r y) := by
  obtain ⟨ms', hcalls, hrest⟩ := of_step hss (hs.mono fun _ hx => hx.isLocal) fin
  obtain ⟨hledger, hdisk⟩ := perform_quiet h hs x
  rcases hrest with ⟨e, hperform, hr, hms⟩ | ⟨a, z, hperform, hfin⟩
  · rw [hperform] at hledger hdisk
    exact ⟨ms', y, hcalls, hledger, hdisk, .inl ⟨e, hperform, hr, hms, rfl⟩⟩
  · rw [hperform] at hledger hdisk
    exact ⟨ms', z, hcalls, hledger, hdisk, .inr ⟨a, hperform, hfin⟩⟩

end World

end Cli.Job

end Testbed
