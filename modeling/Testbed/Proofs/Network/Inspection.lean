/-
**Looks that are waited for in order.**

All containers of a ledger are looked at beside each other, and the looks are waited for one after
the other, in the order of the ledger.  If every look is answered, the status is that of all
containers together, whatever the order in which the answers came.  The first failure in the order
of the ledger is the result at once: the looks behind it are not waited for, so where an early look
fails, a later one may still be to come when the result is there.

Main definitions:

* `Testbed.OneLook` — a look that is still to come, or was made;
* `Testbed.Looking`, `Testbed.Returned` — **how all looks stand when there is a result**, and what
  the result is made of;
* `Testbed.AnsweredById`, `Testbed.Surveyed` — answers that depend on the container alone, and what
  the answers about some containers come to.

Main results:

* `Testbed.looking_of_run`, `Testbed.returned_of_run` — **the moment of the result**, in every run;
* `Testbed.exists_run_to_failure` — a failure can be the result before any look behind it is made;
* `Testbed.surveyed_of_returned` — the result depends on the answers alone.
-/

import Testbed.Network.Inspection
import Testbed.Proofs.Network.Templates
import Testbed.Proofs.Rehearsal.World
import Testbed.Proofs.Script.Comes

set_option relaxedAutoImplicit false
set_option autoImplicit false

namespace Testbed

/-! ### One look -/

/-- **A look on its way**: it is still to come, or it was made and has ended with what it saw. -/
inductive OneLook (id : String) :
    List Deed → Script (Except OperationError ContainerState) → Prop
  | ahead : OneLook id [] (inspectState id).run
  | made (a : Except OperationError ContainerDetails) :
      OneLook id [⟨.call (.inspect id), a⟩] (.done (a.map ContainerState.ofDetails))

theorem oneLook_of_does {id : String} {ds : List Deed}
    {s : Script (Except OperationError ContainerState)} (h : (inspectState id).run.Does ds s) :
    OneLook id ds s := by
  rw [inspectState_run] at h
  rcases Script.does_act.1 h with ⟨rfl, rfl⟩ | ⟨a, ds, rfl, hrest⟩
  · rw [← inspectState_run]
    exact .ahead
  · obtain ⟨rfl, rfl⟩ := Script.does_done.1 hrest
    exact .made a

/-- A look that has ended was made once. -/
theorem OneLook.of_done {id : String} {ds : List Deed} {o : Except OperationError ContainerState}
    (h : OneLook id ds (.done o)) :
    ∃ a, ds = [⟨.call (.inspect id), a⟩] ∧ o = a.map ContainerState.ofDetails := by
  generalize hs : Script.done o = s at h
  cases h with
  | ahead =>
      rw [inspectState_run] at hs
      cases hs
  | made a =>
      cases hs
      exact ⟨a, rfl, rfl⟩

/-! ### Waiting in order -/

/-- The statuses that are waited for are put together, up to the first look that failed. -/
theorem comes_joinStatuses {n : Nat} {status : NetworkStatus} {ds : List Deed}
    {rs : List (Except OperationError ContainerState)} {r : Except OperationError NetworkStatus}
    (h : (joinStatuses n status).Comes ds rs r) :
    ds = [] ∧ ((∃ (states : List ContainerState) (e : OperationError),
        rs = states.map .ok ++ [.error e] ∧ r = .error e) ∨
      ∃ states : List ContainerState, rs = states.map .ok ∧ states.length = n ∧
        r = .ok ((states.map NetworkStatus.ofState).foldl NetworkStatus.and status)) := by
  induction n generalizing status rs with
  | zero =>
      cases h
      exact ⟨rfl, .inr ⟨[], rfl, rfl, rfl⟩⟩
  | succ n ih =>
      cases h with
      | @join _ o ds rs b h =>
          cases o with
          | error e =>
              cases h
              exact ⟨rfl, .inl ⟨[], e, rfl, rfl⟩⟩
          | ok s =>
              obtain ⟨hds, ⟨states, e, rfl, hr⟩ | ⟨states, rfl, hlen, hr⟩⟩ := ih h
              · exact ⟨hds, .inl ⟨s :: states, e, rfl, hr⟩⟩
              · exact ⟨hds, .inr ⟨s :: states, rfl, congrArg (· + 1) hlen, hr⟩⟩

theorem NetworkStatus.foldl_and (states : List ContainerState) (status : NetworkStatus) :
    (states.map ofState).foldl and status =
      ⟨status.running && states.all ContainerState.isRunning,
        status.healthy && states.all ContainerState.isHealthy⟩ := by
  induction states generalizing status with
  | nil => simp
  | cons s states ih =>
      rw [List.map_cons, List.foldl_cons, ih]
      simp [and, ofState, Bool.and_assoc]

theorem starts_joinStatuses {P : Script (Except OperationError ContainerState) → Prop} (n : Nat)
    (status : NetworkStatus) : (joinStatuses n status).Starts P := by
  induction n generalizing status with
  | zero => trivial
  | succ n ih =>
      intro o
      cases o with
      | error e => trivial
      | ok s => exact ih _

theorem affords_joinStatuses {n k : Nat} (hn : n ≤ k) (status : NetworkStatus) :
    (joinStatuses n status).Affords k := by
  induction n generalizing k status with
  | zero => trivial
  | succ n ih =>
      obtain ⟨k, rfl⟩ := Nat.exists_eq_add_of_le' (Nat.one_le_of_lt hn)
      intro o
      cases o with
      | error e => trivial
      | ok s => exact ih (Nat.le_of_succ_le_succ hn) _

/-! ### The moment of the result -/

/-- The looks at the containers of a ledger. -/
def ledgerLooks (l : Ledger) : List (Script (Except OperationError ContainerState)) :=
  l.allIds.map fun id => (inspectState id).run

/-- **How all looks stand when there is a result**: each container that is listed, as often as it is,
has a look of its own, which is still to come or was made, and nothing else was done. -/
structure Looking (ids : List String) (ms : History (Except OperationError ContainerState))
    (t : Threads (Except OperationError ContainerState) (Except OperationError NetworkStatus)) :
    Prop where
  /-- The leading thread only starts looks and waits for them. -/
  lead : ms.deedsOf .lead = []
  length_scripts : t.scripts.length = ids.length
  looks : ∀ (i : Nat) (id : String), ids[i]? = some id →
    ∃ s, t.scripts[i]? = some s ∧ OneLook id (ms.deedsOf (.script i)) s
  others : ∀ i, ids.length ≤ i → ms.deedsOf (.script i) = []

/-- **What the result is made of**: of all looks, each of them made, or of those up to the first
failure. -/
inductive Returned (ids : List String) (ms : History (Except OperationError ContainerState)) :
    Except OperationError NetworkStatus → Prop
  | seen (states : List ContainerState) (length : states.length = ids.length)
      (looks : ∀ (i : Nat) (id : String) (s : ContainerState), ids[i]? = some id →
        states[i]? = some s → ∃ d, s = .ofDetails d ∧
          ms.deedsOf (.script i) = [⟨.call (.inspect id), .ok d⟩]) :
      Returned ids ms (.ok (.all states))
  | failed (k : Nat) (id : String) (e : OperationError) (place : ids[k]? = some id)
      (failure : ms.deedsOf (.script k) = [⟨.call (.inspect id), .error e⟩])
      (before : ∀ (i : Nat) (id : String), i < k → ids[i]? = some id →
        ∃ d, ms.deedsOf (.script i) = [⟨.call (.inspect id), .ok d⟩]) :
      Returned ids ms (.error e)

section Moment

variable {W : Type} {p : Performer W} {w v : W} {l : Ledger}
  {ms : History (Except OperationError ContainerState)}
  {t : Threads (Except OperationError ContainerState) (Except OperationError NetworkStatus)}
  {r : Except OperationError NetworkStatus}

/-- When there is a result, all looks were started, and the leading thread has done nothing. -/
theorem lead_of_checkNetwork (h : Threads.Explained (checkNetwork l).run ms t)
    (ht : t.lead = .done r) :
    ms.started = ledgerLooks l ∧ ms.deedsOf .lead = [] ∧
      ((∃ (states : List ContainerState) (e : OperationError),
        ms.results = states.map .ok ++ [.error e] ∧ r = .error e) ∨
      ∃ states : List ContainerState, ms.results = states.map .ok ∧
        states.length = l.allIds.length ∧ r = .ok (.all states)) := by
  have hlead := h.lead
  rw [ht] at hlead
  rcases hlead.of_forkAll with ⟨-, -, -, hwait⟩ | ⟨ms', hms, hrest⟩
  · exact hwait.elim
  obtain ⟨hdeeds, hstarted, hresults⟩ := Ensemble.moves_apart (ledgerLooks l) [] []
  simp only [List.map_nil, List.append_nil] at hdeeds hstarted hresults
  -- behind the starts the leading thread only waits
  have hnone : ms'.filterMap Move.fork? = [] :=
    List.eq_nil_iff_forall_not_mem.2 fun s hs =>
      (starts_joinStatuses (P := fun _ => False) _ _).of_does hrest s hs
  obtain ⟨hquiet, hjoined⟩ := comes_joinStatuses hrest.comes
  unfold History.started History.deedsOf History.results
  rw [hms, List.filterMap_append, List.filterMap_append, List.filterMap_append, hnone, hquiet]
  refine ⟨?_, ?_, ?_⟩
  · rw [List.append_nil]
    exact hstarted
  · rw [List.append_nil]
    exact hdeeds
  · change List.filterMap Move.join? (List.map Move.fork (ledgerLooks l)) = [] at hresults
    unfold ledgerLooks at hresults
    rw [hresults]
    exact hjoined

/-- **How all looks stand when there is a result.** -/
theorem looking_of_run (run : Threads.Run p (.ofEnsemble (checkNetwork l).run) w ms t v)
    (ht : t.lead = .done r) : Looking l.allIds ms t := by
  have hx := run.explained
  obtain ⟨hstarted, hlead, -⟩ := lead_of_checkNetwork hx ht
  have hlen : ms.started.length = l.allIds.length := by
    rw [hstarted, ledgerLooks, List.length_map]
  refine ⟨hlead, hx.length_scripts.trans hlen, fun i id hi => ?_, fun i hi => hx.idle i (by omega)⟩
  have hlook : ms.started[i]? = some (inspectState id).run := by
    rw [hstarted, ledgerLooks, List.getElem?_map, hi]
    rfl
  obtain ⟨s, hs, hdoes⟩ := hx.scripts i _ hlook
  exact ⟨s, hs, oneLook_of_does hdoes⟩

/-- A look that was waited for was made, and its result is what it saw. -/
theorem look_of_result (run : Threads.Run p (.ofEnsemble (checkNetwork l).run) w ms t v)
    (ht : t.lead = .done r) {i : Nat} {o : Except OperationError ContainerState}
    (ho : ms.results[i]? = some o) :
    ∃ id a, l.allIds[i]? = some id ∧ ms.deedsOf (.script i) = [⟨.call (.inspect id), a⟩] ∧
      o = a.map ContainerState.ofDetails := by
  have hended := run.explained.results i o ho
  have hlooking := looking_of_run run ht
  have hi : i < l.allIds.length := by
    rw [← hlooking.length_scripts]
    exact (List.getElem?_eq_some_iff.1 hended).1
  obtain ⟨s, hs, hlook⟩ := hlooking.looks i _ (List.getElem?_eq_getElem hi)
  obtain rfl : s = .done o := Option.some.inj (hs.symm.trans hended)
  obtain ⟨a, hdeeds, ho⟩ := hlook.of_done
  exact ⟨_, a, List.getElem?_eq_getElem hi, hdeeds, ho⟩

/-- **What the result is made of.** -/
theorem returned_of_run (run : Threads.Run p (.ofEnsemble (checkNetwork l).run) w ms t v)
    (ht : t.lead = .done r) : Returned l.allIds ms r := by
  -- a look whose status was put together has seen its container
  have look : ∀ {states : List ContainerState} {later : List (Except OperationError ContainerState)},
      ms.results = states.map .ok ++ later → ∀ (i : Nat) (id : String) (s : ContainerState),
        l.allIds[i]? = some id → states[i]? = some s →
        ∃ d, s = .ofDetails d ∧ ms.deedsOf (.script i) = [⟨.call (.inspect id), .ok d⟩] := by
    intro states later hresults i id s hid hs
    have ho : ms.results[i]? = some (.ok s) := by
      rw [hresults, List.getElem?_append_left, List.getElem?_map, hs]
      · rfl
      · rw [List.length_map]
        exact (List.getElem?_eq_some_iff.1 hs).1
    obtain ⟨id', a, hid', hdeeds, ha⟩ := look_of_result run ht ho
    obtain rfl : id' = id := Option.some.inj (hid'.symm.trans hid)
    cases a with
    | error e => cases ha
    | ok d => exact ⟨d, Except.ok.inj ha, hdeeds⟩
  obtain ⟨-, -, ⟨states, e, hresults, rfl⟩ | ⟨states, hresults, hlen, rfl⟩⟩ :=
    lead_of_checkNetwork run.explained ht
  · have ho : ms.results[states.length]? = some (.error e) := by
      rw [hresults, List.getElem?_append_right (by rw [List.length_map]), List.length_map,
        Nat.sub_self]
      rfl
    obtain ⟨id, a, hid, hdeeds, ha⟩ := look_of_result run ht ho
    cases a with
    | ok d => cases ha
    | error e' =>
        cases ha
        refine .failed states.length id e hid hdeeds fun i id hi hid => ?_
        obtain ⟨d, -, hd⟩ := look hresults i id _ hid (List.getElem?_eq_getElem hi)
        exact ⟨d, hd⟩
  · exact .seen states hlen (@look states [] (by rw [hresults, List.append_nil]))

theorem affords_checkNetwork (n : Nat) (l : Ledger) : (checkNetwork l).run.Affords n := by
  refine Ensemble.Leaves.forkAll ?_
  rw [List.length_map]
  exact affords_joinStatuses (Nat.le_add_left ..) _

/-- Looks that are still to come when there is a result can all be made behind it. -/
theorem exists_run_behind_result
    (run : Threads.Run p (.ofEnsemble (checkNetwork l).run) w ms t v) (ht : t.lead = .done r) :
    ∃ ns u x, Threads.Run p t v ns u x ∧ u.lead = .done r ∧
      ∀ (i : Nat) (id : String), l.allIds[i]? = some id →
        ∃ a, (ms ++ ns).deedsOf (.script i) = [⟨.call (.inspect id), a⟩] := by
  obtain ⟨ns, rs, x, hrest⟩ := Threads.exists_run_scripts (p := p) t.lead [] t.scripts t.joined v
  refine ⟨ns, _, x, hrest, ht, fun i id hid => ?_⟩
  obtain ⟨s, hs, hlook⟩ := (looking_of_run (run.trans hrest) ht).looks i id hid
  rw [List.getElem?_map] at hs
  obtain ⟨o, -, rfl⟩ := Option.map_eq_some_iff.1 hs
  obtain ⟨a, hdeeds, -⟩ := hlook.of_done
  exact ⟨a, hdeeds⟩

end Moment

/-! ### A result before the last look -/

section Early

variable {W : Type} {p : Performer W}

/-- Scripts can be started without any of them doing anything. -/
theorem exists_run_forkAll {τ α : Type} (ss ss' : List (Script τ)) (f : Unit → Ensemble τ α)
    (k : Nat) (w : W) :
    ∃ ms : History τ, Threads.Run p ⟨(Ensemble.forkAll ss).bind f, ss', k⟩ w ms
      ⟨f (), ss' ++ ss, k⟩ w ∧ ∀ i, ms.deedsOf (.script i) = [] := by
  induction ss generalizing ss' with
  | nil =>
      refine ⟨[], ?_, fun i => rfl⟩
      rw [List.append_nil]
      exact .nil _ _
  | cons s ss ih =>
      obtain ⟨ms, run, hidle⟩ := ih (ss' ++ [s])
      refine ⟨(.lead, .fork s) :: ms, .cons (.leadFork s _ ss' k w) ?_, fun i => ?_⟩
      · rwa [List.append_assoc] at run
      · rw [History.deedsOf_cons, hidle]
        simp

/-- One look is made and waited for, and no other script does anything. -/
theorem exists_run_look {α : Type} {id : String} {w : W}
    {a : Except OperationError ContainerDetails} (ha : (p (.call (.inspect id)) w).1 = a)
    (next : Except OperationError ContainerState →
      Ensemble (Except OperationError ContainerState) α)
    (ended rest : List (Script (Except OperationError ContainerState))) :
    ∃ (ms : History (Except OperationError ContainerState)) (x : W),
      Threads.Run p ⟨.join next, ended ++ (inspectState id).run :: rest, ended.length⟩ w ms
        ⟨next (a.map .ofDetails), ended ++ .done (a.map .ofDetails) :: rest, ended.length + 1⟩ x ∧
      ∀ i, i ≠ ended.length → ms.deedsOf (.script i) = [] := by
  have hturn : (ended ++ (inspectState id).run :: rest)[ended.length]? =
      some (.act (.call (.inspect id)) fun a => .done (a.map .ofDetails)) := by
    rw [← inspectState_run]
    simp
  have hact := Threads.Step.scriptAct (p := p) (.join next) _ ended.length ended.length _ _ w hturn
  have hset : ∀ s s' : Script (Except OperationError ContainerState),
      (ended ++ s :: rest).set ended.length s' = ended ++ s' :: rest := fun s s' => by simp
  rw [hset, ha] at hact
  have hjoin := Threads.Step.leadJoin (p := p) next (ended ++ .done (a.map .ofDetails) :: rest)
    ended.length (a.map .ofDetails) (p (.call (.inspect id)) w).2 (by simp)
  refine ⟨_, _, .cons hact (.cons hjoin (.nil _ _)), fun i hi => ?_⟩
  rw [History.deedsOf_cons]
  simp [Ne.symm hi]

/-- How the wait goes on behind a look: with the looks that are left, or not at all. -/
def heedLook (n : Nat) (status : NetworkStatus) : Except OperationError ContainerState →
    Ensemble (Except OperationError ContainerState) (Except OperationError NetworkStatus)
  | .error e => .done (.error e)
  | .ok s => joinStatuses n (status.and (.ofState s))

theorem joinStatuses_succ (n : Nat) (status : NetworkStatus) :
    joinStatuses (n + 1) status = .join (heedLook n status) := rfl

variable {answers : String → Except OperationError ContainerDetails} {before : List String}
  (behind : List String) {id : String} {e : OperationError}

/-- Looks that are made one at a time, each when it is waited for, end at the first failure. -/
theorem exists_run_joinStatuses (table : ∀ id w, (p (.call (.inspect id)) w).1 = answers id)
    (answered : ∀ i ∈ before, ∃ d, answers i = .ok d) (failure : answers id = .error e)
    (ended : List (Script (Except OperationError ContainerState))) (n : Nat)
    (status : NetworkStatus) (w : W) :
    ∃ ms t v, Threads.Run p ⟨joinStatuses (n + before.length + 1) status,
        ended ++ (before ++ id :: behind).map fun id => (inspectState id).run, ended.length⟩ w ms
        t v ∧
      t.lead = .done (.error e) ∧
      ∀ i, ended.length + before.length < i → ms.deedsOf (.script i) = [] := by
  induction before generalizing ended status w with
  | nil =>
      obtain ⟨ms, x, run, hidle⟩ := exists_run_look ((table id w).trans failure)
        (heedLook n status) ended (behind.map fun id => (inspectState id).run)
      refine ⟨ms, _, x, joinStatuses_succ n status ▸ run, rfl, fun i hi => hidle i ?_⟩
      rw [List.length_nil] at hi
      omega
  | cons i before ih =>
      obtain ⟨d, hd⟩ := answered i List.mem_cons_self
      obtain ⟨ms, x, run, hidle⟩ := exists_run_look ((table i w).trans hd)
        (heedLook (n + before.length + 1) status) ended
        ((before ++ id :: behind).map fun id => (inspectState id).run)
      obtain ⟨ns, t, v, hrest, ht, hlater⟩ := ih (fun j hj => answered j (List.mem_cons_of_mem i hj))
        (ended ++ [.done (.ok (.ofDetails d))]) (status.and (.ofState (.ofDetails d))) x
      rw [List.length_append, List.length_singleton] at hrest hlater
      rw [List.append_assoc] at hrest
      refine ⟨ms ++ ns, t, v, ?_, ht, fun j hj => ?_⟩
      · rw [List.length_cons, ← Nat.add_assoc, joinStatuses_succ]
        exact run.trans hrest
      · rw [List.length_cons] at hj
        rw [History.deedsOf_append, hidle j (by omega), hlater j (by omega)]
        rfl

/-- **A failure can be the result before any look behind it is made.** -/
theorem exists_run_to_failure {l : Ledger} (before : List String)
    (table : ∀ id w, (p (.call (.inspect id)) w).1 = answers id)
    (listed : l.allIds = before ++ id :: behind)
    (answered : ∀ i ∈ before, ∃ d, answers i = .ok d) (failure : answers id = .error e) (w : W) :
    ∃ ms t v, Threads.Run p (.ofEnsemble (checkNetwork l).run) w ms t v ∧
      t.lead = .done (.error e) ∧
      ∀ (i : Nat) (id : String), before.length < i → l.allIds[i]? = some id →
        ms.deedsOf (.script i) = [] ∧ t.scripts[i]? = some (inspectState id).run := by
  obtain ⟨ms, run, hidle⟩ := exists_run_forkAll (p := p) (ledgerLooks l) []
    (fun _ => joinStatuses l.allIds.length .full) 0 w
  obtain ⟨ns, t, v, hrest, ht, hlater⟩ := exists_run_joinStatuses behind table answered failure []
    behind.length .full w
  have hlen : l.allIds.length = behind.length + before.length + 1 := by
    rw [listed, List.length_append, List.length_cons]
    omega
  rw [← listed, ← hlen] at hrest
  have hrun := run.trans hrest
  refine ⟨ms ++ ns, t, v, hrun, ht, fun i id hi hid => ?_⟩
  have hnone : (ms ++ ns).deedsOf (.script i) = [] := by
    rw [History.deedsOf_append, hidle, hlater i (by simpa using hi)]
    rfl
  obtain ⟨s, hs, hlook⟩ := (looking_of_run hrun ht).looks i id hid
  rw [hnone] at hlook
  cases hlook
  exact ⟨hnone, hs⟩

end Early

/-! ### Answers that depend on the container -/

/-- Is the status of a container "running", in any letter case? -/
def ContainerDetails.Running (d : ContainerDetails) : Prop :=
  Text.sameWord d.status "running" = true

/-- Has a container passed its health check, in any letter case? -/
def ContainerDetails.Healthy (d : ContainerDetails) : Prop :=
  ∃ h ∈ d.health, Text.sameWord h "healthy" = true

theorem ContainerState.isRunning_iff {d : ContainerDetails} :
    (ofDetails d).isRunning = true ↔ d.Running := .rfl

theorem ContainerState.isHealthy_iff {d : ContainerDetails} :
    (ofDetails d).isHealthy = true ↔ d.Healthy := by
  show (d.health.any fun h => Text.sameWord h "healthy") = true ↔ _
  unfold ContainerDetails.Healthy
  cases d.health <;> simp

/-- Does every look at a container get the answer that a table has for its id? -/
def AnsweredById {τ : Type} (answers : String → Except OperationError ContainerDetails)
    (ms : History τ) : Prop :=
  ∀ who id a, (who, .deed ⟨.call (.inspect id), a⟩) ∈ ms → a = answers id

/-- **What the answers about some containers come to**: the failure of the first of them whose look
fails, and otherwise two bits, which say whether all are running, and whether all are healthy. -/
inductive Surveyed (answers : String → Except OperationError ContainerDetails)
    (ids : List String) : Except OperationError NetworkStatus → Prop
  | failed (before later : List String) (id : String) (e : OperationError)
      (split : ids = before ++ id :: later) (answered : ∀ i ∈ before, ∃ d, answers i = .ok d)
      (failure : answers id = .error e) : Surveyed answers ids (.error e)
  | seen (status : NetworkStatus) (answered : ∀ id ∈ ids, ∃ d, answers id = .ok d)
      (running : status.running = true ↔ ∀ id ∈ ids, ∀ d, answers id = .ok d → d.Running)
      (healthy : status.healthy = true ↔ ∀ id ∈ ids, ∀ d, answers id = .ok d → d.Healthy) :
      Surveyed answers ids (.ok status)

section Survey

variable {answers : String → Except OperationError ContainerDetails} {ids ids' : List String}
  {ms : History (Except OperationError ContainerState)} {r r' : Except OperationError NetworkStatus}

theorem AnsweredById.of_deedsOf {τ : Type} {ms : History τ} (answered : AnsweredById answers ms)
    {who : Thread} {id : String} {a : Except OperationError ContainerDetails}
    (h : ms.deedsOf who = [⟨.call (.inspect id), a⟩]) : answers id = a :=
  (answered who id a (History.mem_deedsOf.1 (by rw [h]; exact List.mem_singleton_self _))).symm

/-- A runtime that answers every call by the call alone answers looks by id. -/
theorem answeredById_of_run {τ α : Type} {f : (c : Call) → Except OperationError c.Answer}
    {t t' : Threads τ α} {w w' : Rehearsal.World Unit} {ms : History τ}
    (run : Threads.Run (Rehearsal.perform (.ofAnswers f)) t w ms t' w') :
    AnsweredById (fun id => f (.inspect id)) ms := by
  intro who id a ha
  obtain ⟨_, _, _, _, hanswer⟩ := run.exists_world ha
  exact hanswer

/-- A property of all statuses is one of all containers. -/
theorem forall_states_iff {states : List ContainerState} {f : ContainerState → Bool}
    {P : ContainerDetails → Prop} (hP : ∀ d, f (.ofDetails d) = true ↔ P d)
    (length : states.length = ids.length)
    (look : ∀ (i : Nat) (id : String) (s : ContainerState), ids[i]? = some id →
      states[i]? = some s → ∃ d, s = .ofDetails d ∧ answers id = .ok d) :
    states.all f = true ↔ ∀ id ∈ ids, ∀ d, answers id = .ok d → P d := by
  rw [List.all_eq_true]
  constructor
  · intro hall id hid d hd
    obtain ⟨i, hi⟩ := List.mem_iff_getElem?.1 hid
    have hlt : i < states.length := by
      rw [length]
      exact (List.getElem?_eq_some_iff.1 hi).1
    obtain ⟨d', hs, hd'⟩ := look i id _ hi (List.getElem?_eq_getElem hlt)
    obtain rfl : d' = d := Except.ok.inj (hd'.symm.trans hd)
    refine (hP d').1 ?_
    rw [← hs]
    exact hall _ (List.getElem_mem hlt)
  · intro hall s hs
    obtain ⟨i, hi⟩ := List.mem_iff_getElem?.1 hs
    have hlt : i < ids.length := by
      rw [← length]
      exact (List.getElem?_eq_some_iff.1 hi).1
    obtain ⟨d, rfl, hd⟩ := look i _ s (List.getElem?_eq_getElem hlt) hi
    exact (hP d).2 (hall _ (List.getElem_mem hlt) d hd)

/-- **The result depends on the answers alone**, in whatever order they came. -/
theorem surveyed_of_returned (h : Returned ids ms r) (answered : AnsweredById answers ms) :
    Surveyed answers ids r := by
  cases h with
  | seen states length looks =>
      have look : ∀ (i : Nat) (id : String) (s : ContainerState), ids[i]? = some id →
          states[i]? = some s → ∃ d, s = .ofDetails d ∧ answers id = .ok d := by
        intro i id s hid hs
        obtain ⟨d, hd, hdeeds⟩ := looks i id s hid hs
        exact ⟨d, hd, answered.of_deedsOf hdeeds⟩
      have hall : NetworkStatus.all states =
          ⟨states.all ContainerState.isRunning, states.all ContainerState.isHealthy⟩ := by
        unfold NetworkStatus.all
        rw [NetworkStatus.foldl_and]
        simp [NetworkStatus.full]
      rw [hall]
      refine .seen _ (fun id hid => ?_) ?_ ?_
      · obtain ⟨i, hi⟩ := List.mem_iff_getElem?.1 hid
        have hlt : i < states.length := by
          rw [length]
          exact (List.getElem?_eq_some_iff.1 hi).1
        obtain ⟨d, -, hd⟩ := look i id _ hi (List.getElem?_eq_getElem hlt)
        exact ⟨d, hd⟩
      · exact forall_states_iff (fun d => ContainerState.isRunning_iff) length look
      · exact forall_states_iff (fun d => ContainerState.isHealthy_iff) length look
  | failed k id e place failure before =>
      obtain ⟨hk, rfl⟩ := List.getElem?_eq_some_iff.1 place
      refine .failed (ids.take k) (ids.drop (k + 1)) _ e ?_ (fun i hi => ?_)
        (answered.of_deedsOf failure)
      · rw [← List.drop_eq_getElem_cons hk, List.take_append_drop]
      · obtain ⟨j, hj⟩ := List.mem_iff_getElem?.1 hi
        have hlt : j < k := by
          have := (List.getElem?_eq_some_iff.1 hj).1
          rw [List.length_take] at this
          omega
        rw [List.getElem?_take_of_lt hlt] at hj
        obtain ⟨d, hd⟩ := before j i hlt hj
        exact ⟨d, answered.of_deedsOf hd⟩

/-- Where all looks are answered, there is a status. -/
theorem Surveyed.exists_status (h : Surveyed answers ids r)
    (answered : ∀ id ∈ ids, ∃ d, answers id = .ok d) :
    ∃ status, r = .ok status ∧
      (status.running = true ↔ ∀ id ∈ ids, ∀ d, answers id = .ok d → d.Running) ∧
      (status.healthy = true ↔ ∀ id ∈ ids, ∀ d, answers id = .ok d → d.Healthy) := by
  cases h with
  | seen status _ running healthy => exact ⟨status, rfl, running, healthy⟩
  | failed before later id e split _ failure =>
      obtain ⟨d, hd⟩ := answered id (by rw [split]; simp)
      cases failure.symm.trans hd

/-- Both bits are set exactly when all containers are running and healthy. -/
theorem Surveyed.eq_full_iff (h : Surveyed answers ids r) :
    r = .ok .full ↔ ∀ id ∈ ids, ∃ d, answers id = .ok d ∧ d.Running ∧ d.Healthy := by
  constructor
  · rintro rfl id hid
    cases h with
    | seen status answered running healthy =>
        obtain ⟨d, hd⟩ := answered id hid
        exact ⟨d, hd, running.1 rfl id hid d hd, healthy.1 rfl id hid d hd⟩
  · intro hall
    obtain ⟨⟨running, healthy⟩, rfl, hrunning, hhealthy⟩ := h.exists_status fun id hid => by
      obtain ⟨d, hd, -⟩ := hall id hid
      exact ⟨d, hd⟩
    have good : ∀ id ∈ ids, ∀ d, answers id = .ok d → d.Running ∧ d.Healthy := by
      intro id hid d hd
      obtain ⟨d', hd', hgood⟩ := hall id hid
      obtain rfl : d' = d := Except.ok.inj (hd'.symm.trans hd)
      exact hgood
    obtain rfl : running = true := hrunning.2 fun id hid d hd => (good id hid d hd).1
    obtain rfl : healthy = true := hhealthy.2 fun id hid d hd => (good id hid d hd).2
    rfl

/-- More containers never set a bit. -/
theorem Surveyed.mono (h : Surveyed answers ids r) (h' : Surveyed answers ids' r')
    (answered : ∀ id ∈ ids', ∃ d, answers id = .ok d) (more : ∀ id ∈ ids, id ∈ ids') :
    ∃ status status', r = .ok status ∧ r' = .ok status' ∧
      (status'.running = true → status.running = true) ∧
      (status'.healthy = true → status.healthy = true) := by
  obtain ⟨status, hr, hrunning, hhealthy⟩ := h.exists_status fun id hid => answered id (more id hid)
  obtain ⟨status', hr', hrunning', hhealthy'⟩ := h'.exists_status answered
  refine ⟨status, status', hr, hr', fun hset => ?_, fun hset => ?_⟩
  · exact hrunning.2 fun id hid => hrunning'.1 hset id (more id hid)
  · exact hhealthy.2 fun id hid => hhealthy'.1 hset id (more id hid)

/-- Neither the order of the containers nor how often they are listed matters. -/
theorem Surveyed.unique (h : Surveyed answers ids r) (h' : Surveyed answers ids' r')
    (answered : ∀ id ∈ ids, ∃ d, answers id = .ok d) (same : ∀ id, id ∈ ids' ↔ id ∈ ids) :
    r' = r := by
  obtain ⟨s, s', rfl, rfl, hrunning, hhealthy⟩ :=
    h.mono h' (fun id hid => answered id ((same id).1 hid)) fun id hid => (same id).2 hid
  obtain ⟨u, u', hu, hu', hrunning', hhealthy'⟩ :=
    h'.mono h answered fun id hid => (same id).1 hid
  cases hu
  cases hu'
  have hsame : s' = s := calc
    s' = ⟨s'.running, s'.healthy⟩ := rfl
    _ = ⟨s.running, s.healthy⟩ := by
      rw [Bool.eq_iff_iff.2 ⟨hrunning, hrunning'⟩, Bool.eq_iff_iff.2 ⟨hhealthy, hhealthy'⟩]
  rw [hsame]

end Survey

/-! ### Every look at a network -/

section Result

variable {W : Type} {p : Performer W} {w v : W} {l : Ledger}
  {ms : History (Except OperationError ContainerState)}
  {t : Threads (Except OperationError ContainerState) (Except OperationError NetworkStatus)}

/-- A status is there only when every look was answered, and has ended. -/
theorem made_of_ok {status : NetworkStatus}
    (run : Threads.Run p (.ofEnsemble (checkNetwork l).run) w ms t v)
    (ht : t.lead = .done (.ok status)) :
    Threads.Idle t.scripts ∧ ∀ (i : Nat) (id : String), l.allIds[i]? = some id →
      ∃ d, ms.deedsOf (.script i) = [⟨.call (.inspect id), .ok d⟩] := by
  have hlooking := looking_of_run run ht
  have hmade : ∀ (i : Nat) (id : String), l.allIds[i]? = some id →
      ∃ d, ms.deedsOf (.script i) = [⟨.call (.inspect id), .ok d⟩] := by
    intro i id hid
    cases returned_of_run run ht with
    | seen states hlen looks =>
        have hi : i < states.length := by
          rw [hlen]
          exact (List.getElem?_eq_some_iff.1 hid).1
        obtain ⟨d, -, hd⟩ := looks i id _ hid (List.getElem?_eq_getElem hi)
        exact ⟨d, hd⟩
  refine ⟨fun s hs => ?_, hmade⟩
  obtain ⟨i, hi⟩ := List.mem_iff_getElem?.1 hs
  have hlt : i < l.allIds.length := by
    rw [← hlooking.length_scripts]
    exact (List.getElem?_eq_some_iff.1 hi).1
  obtain ⟨s', hs', hlook⟩ := hlooking.looks i _ (List.getElem?_eq_getElem hlt)
  obtain rfl : s' = s := Option.some.inj (hs'.symm.trans hi)
  obtain ⟨d, hd⟩ := hmade i _ (List.getElem?_eq_getElem hlt)
  rw [hd] at hlook
  cases hlook with
  | made a => exact ⟨_, rfl⟩

end Result

/-- **A look at a network waits for its looks in the order of the ledger, and no longer than up to
the first failure.**  Every run can go on to a result.  When there is one, every container that is
listed has a look of its own, as often as it is listed, which was made once or is still to come, and
nothing else was done.  If the result is a status, all looks were made and answered, and none is on
its way any more.  If it is a failure, it is that of the first look that failed, in the order of the
ledger, and all looks in front of it were answered; those behind it can still be made then.  They
need not have been made before: whatever look fails, there is a run in which none of those behind it
was. -/
theorem checkNetwork_waits_up_to_failure {W : Type} (p : Performer W) (w : W) (l : Ledger) :
    (∀ ms t v, Threads.Run p (.ofEnsemble (checkNetwork l).run) w ms t v →
      ∃ ns u x r, Threads.Run p t v ns u x ∧ u.lead = .done r) ∧
    (∀ ms t v r, Threads.Run p (.ofEnsemble (checkNetwork l).run) w ms t v → t.lead = .done r →
      Looking l.allIds ms t ∧ Returned l.allIds ms r ∧
      (∀ status, r = .ok status → Threads.Idle t.scripts ∧
        ∀ (i : Nat) (id : String), l.allIds[i]? = some id →
          ∃ d, ms.deedsOf (.script i) = [⟨.call (.inspect id), .ok d⟩]) ∧
      ∃ ns u x, Threads.Run p t v ns u x ∧ u.lead = .done r ∧
        ∀ (i : Nat) (id : String), l.allIds[i]? = some id →
          ∃ a, (ms ++ ns).deedsOf (.script i) = [⟨.call (.inspect id), a⟩]) ∧
    ∀ (answers : String → Except OperationError ContainerDetails) (before behind : List String)
      (id : String) (e : OperationError),
      (∀ id w, (p (.call (.inspect id)) w).1 = answers id) → l.allIds = before ++ id :: behind →
      (∀ i ∈ before, ∃ d, answers i = .ok d) → answers id = .error e →
      ∃ ms t v, Threads.Run p (.ofEnsemble (checkNetwork l).run) w ms t v ∧
        t.lead = .done (.error e) ∧
        ∀ (i : Nat) (id : String), before.length < i → l.allIds[i]? = some id →
          ms.deedsOf (.script i) = [] ∧ t.scripts[i]? = some (inspectState id).run := by
  refine ⟨fun ms t v run => run.goesOn (affords_checkNetwork 0 l), fun ms t v r run ht => ?_, ?_⟩
  · refine ⟨looking_of_run run ht, returned_of_run run ht, fun status hr => ?_,
      exists_run_behind_result run ht⟩
    subst hr
    exact made_of_ok run ht
  · intro answers before behind id e table listed answered failure
    exact exists_run_to_failure behind before table listed answered failure w

/-- Two containers, of which the first is not there any more. -/
def goneAndThere : (c : Call) → Except OperationError c.Answer
  | .inspect id => if id = "a" then .error (.containerNotFound id) else .ok default
  | _ => .error default

/-- A ledger that lists both. -/
def goneAndThereLedger : Ledger := ⟨Dict.ofList [("n", ["a", "b"])]⟩

theorem checkNetwork_waits_up_to_failure_of_two :
    ∃ ms t v, Threads.Run (Rehearsal.perform (.ofAnswers goneAndThere))
        (.ofEnsemble (checkNetwork goneAndThereLedger).run) { runtime := () } ms t v ∧
      t.lead = .done (.error (.containerNotFound "a")) ∧ Looking ["a", "b"] ms t ∧
      Returned ["a", "b"] ms (.error (.containerNotFound "a")) ∧
      t.scripts[1]? = some (inspectState "b").run := by
  have hids : goneAndThereLedger.allIds = ["a", "b"] := by decide +kernel
  obtain ⟨-, hdone, hearly⟩ := checkNetwork_waits_up_to_failure
    (Rehearsal.perform (.ofAnswers goneAndThere)) { runtime := () } goneAndThereLedger
  rw [hids] at hdone hearly
  obtain ⟨ms, t, v, run, ht, hpending⟩ := hearly
    (fun id => if id = "a" then .error (.containerNotFound id) else .ok default) [] ["b"] "a" _
    (fun id w => rfl) rfl (by simp) rfl
  obtain ⟨hlooking, hreturned, -⟩ := hdone ms t v _ run ht
  exact ⟨ms, t, v, run, ht, hlooking, hreturned, (hpending 1 "b" (by decide) rfl).2⟩

/-- **A look can be still to come when there is a result**: the first container is not there, and
nobody has looked at the second one. -/
theorem look_to_come_at_failure :
    ∃ ms t v, Threads.Run (Rehearsal.perform (.ofAnswers goneAndThere))
        (.ofEnsemble (checkNetwork goneAndThereLedger).run) { runtime := () } ms t v ∧
      t.lead = .done (.error (.containerNotFound "a")) ∧
      goneAndThereLedger.allIds[1]? = some "b" ∧ ms.deedsOf (.script 1) = [] ∧
      ¬ Threads.Idle t.scripts := by
  have hids : goneAndThereLedger.allIds = ["a", "b"] := by decide +kernel
  obtain ⟨ms, t, v, run, ht, hpending⟩ := exists_run_to_failure ["b"] []
    (p := Rehearsal.perform (.ofAnswers goneAndThere)) (e := .containerNotFound "a")
    (fun id w => rfl) hids (by simp) rfl { runtime := () }
  rw [hids] at hpending
  obtain ⟨hnone, hscript⟩ := hpending 1 "b" (by decide) rfl
  refine ⟨ms, t, v, run, ht, by rw [hids]; rfl, hnone, fun hidle => ?_⟩
  obtain ⟨r, hr⟩ := hidle _ (List.mem_of_getElem? hscript)
  rw [inspectState_run] at hr
  cases hr

end Testbed
