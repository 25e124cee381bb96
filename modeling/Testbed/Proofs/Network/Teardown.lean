/-
**Tearing down, node by node.**

The containers of a node are stopped and removed one after the other, up to the first call that
fails; what happens to the other nodes makes no difference.  So what is removed is known from the
answers alone, and all went well exactly if everything that was listed is removed.

Main definitions:

* `Testbed.Stopped` — the answers behind which a container is stopped;
* `Testbed.TornDown` — **the calls for one list of containers, and their outcome**;
* `Testbed.Exchange.removed?`, `Testbed.removedIds` — the containers that were removed.

Main results:

* `Testbed.tornDown_of_does` — the work on one node makes these calls;
* `Testbed.TornDown.all_or_part` — it removes all that is listed, or fails behind a part of it;
* `Testbed.end_of_tearDown` — at the end the work on all nodes has ended;
* `Testbed.verdict_of_tornDown` — **all went well exactly if everything was removed**.
-/

import Testbed.Network.Teardown
import Testbed.Proofs.Network.Outcomes
import Testbed.Proofs.Rehearsal.World
import Testbed.Proofs.Script.Together

set_option relaxedAutoImplicit false
set_option autoImplicit false

namespace Testbed

/-! ### One node -/

/-- The answers behind which a container is stopped. -/
inductive Stopped : Except OperationError Unit → Prop
  | now : Stopped (.ok ())
  | before (id : String) : Stopped (.error (.notModified id))

/-- **The calls for a list of containers, and their outcome.** -/
inductive TornDown : List String → List Exchange → Except OperationError Bool → Prop
  | nil : TornDown [] [] (.ok true)
  | removed (id : String) {ids : List String} {a : Except OperationError Unit} {xs : List Exchange}
      {r : Except OperationError Bool} (stopped : Stopped a) (rest : TornDown ids xs r) :
      TornDown (id :: ids) (⟨.stop id, a⟩ :: ⟨.remove id, .ok ()⟩ :: xs) r
  | unstopped (id : String) (ids : List String) (e : OperationError)
      (running : ¬ Stopped (.error e)) : TornDown (id :: ids) [⟨.stop id, .error e⟩] (.error e)
  | unremoved (id : String) (ids : List String) {a : Except OperationError Unit}
      (e : OperationError) (stopped : Stopped a) :
      TornDown (id :: ids) [⟨.stop id, a⟩, ⟨.remove id, .error e⟩] (.error e)

/-- The container that an exchange removes. -/
def Exchange.removed? : Exchange → Option String
  | ⟨.remove id, .ok _⟩ => some id
  | _ => none

/-- The containers that exchanges remove, in order. -/
def removedIds (xs : List Exchange) : List String := xs.filterMap Exchange.removed?

@[simp] theorem removedIds_removed (id : String) (a : Except OperationError Unit)
    (xs : List Exchange) :
    removedIds (⟨.stop id, a⟩ :: ⟨.remove id, .ok ()⟩ :: xs) = id :: removedIds xs := rfl

theorem mem_removedIds {xs : List Exchange} {id : String} :
    id ∈ removedIds xs ↔ ⟨.remove id, .ok ()⟩ ∈ xs := by
  constructor
  · intro h
    obtain ⟨⟨c, a⟩, hx, hid⟩ := List.mem_filterMap.1 h
    cases c with
    | remove id' =>
        cases a with
        | error e => cases hid
        | ok u =>
            cases hid
            exact hx
    | _ => cases hid
  · intro h
    exact List.mem_filterMap.2 ⟨_, h, rfl⟩

theorem mem_of_removedIds {ds : List Deed} {id : String} (h : id ∈ removedIds (exchanges ds)) :
    ⟨.call (.remove id), .ok ()⟩ ∈ ds := mem_exchanges.1 (mem_removedIds.1 h)

/-- Either everything is removed, or the work fails behind a part of the list. -/
theorem TornDown.all_or_part {ids : List String} {xs : List Exchange}
    {r : Except OperationError Bool} (h : TornDown ids xs r) :
    (r = .ok true ∧ removedIds xs = ids) ∨
      ∃ e id rest, r = .error e ∧ ids = removedIds xs ++ id :: rest := by
  induction h with
  | nil => exact .inl ⟨rfl, rfl⟩
  | removed id _ _ ih =>
      rcases ih with ⟨hr, hids⟩ | ⟨e, id', rest, hr, hids⟩
      · exact .inl ⟨hr, by rw [removedIds_removed, hids]⟩
      · refine .inr ⟨e, id', rest, hr, ?_⟩
        rw [removedIds_removed, List.cons_append, ← hids]
  | unstopped id ids e _ => exact .inr ⟨e, id, ids, rfl, rfl⟩
  | unremoved id ids e _ => exact .inr ⟨e, id, ids, rfl, rfl⟩

theorem TornDown.ok_iff {ids : List String} {xs : List Exchange} {r : Except OperationError Bool}
    (h : TornDown ids xs r) : r = .ok true ↔ removedIds xs = ids := by
  rcases h.all_or_part with ⟨hr, hids⟩ | ⟨e, id, rest, rfl, hids⟩
  · exact ⟨fun _ => hids, fun _ => hr⟩
  · constructor
    · intro h
      cases h
    · intro h
      have hlen := congrArg List.length hids
      rw [h, List.length_append, List.length_cons] at hlen
      omega

/-- What is made of the answer to the call to stop a container. -/
def stopOutcome : Except OperationError Unit → Except OperationError Unit
  | .error (.notModified _) => .ok ()
  | a => a

theorem stopIfRunning_run (id : String) :
    (stopIfRunning id).run = .act (.call (.stop id)) fun a => .done (stopOutcome a) := by
  show Script.act _ _ = Script.act _ _
  congr 1
  funext a
  cases a with
  | ok u => rfl
  | error e => cases e <;> rfl

theorem stopOutcome_cases (a : Except OperationError Unit) :
    (stopOutcome a = .ok () ∧ Stopped a) ∨
      ∃ e, a = .error e ∧ stopOutcome a = .error e ∧ ¬ Stopped a := by
  cases a with
  | ok u => exact .inl ⟨rfl, .now⟩
  | error e =>
      cases e with
      | notModified id => exact .inl ⟨rfl, .before id⟩
      | _ => exact .inr ⟨_, rfl, rfl, nofun⟩

/-- The work on one node makes the calls that its list asks for. -/
theorem tornDown_of_does {ids : List String} {ds : List Deed} {r : Except OperationError Bool}
    (h : (removeContainers ids).run.Does ds (.done r)) : TornDown ids (exchanges ds) r := by
  -- the work has ended, so at every call it is either past the call or has failed at it
  induction ids generalizing ds with
  | nil =>
      obtain ⟨rfl, hr⟩ := Script.does_done.1 h
      cases hr
      exact .nil
  | cons id ids ih =>
      unfold removeContainers at h
      rw [Operation.run_bind, stopIfRunning_run] at h
      rcases Script.does_act.1 h with ⟨-, hr⟩ | ⟨a, ds, rfl, h₁⟩
      · cases hr
      change Script.Does (Operation.after _ (stopOutcome a)) ds _ at h₁
      rcases stopOutcome_cases a with ⟨hok, hstopped⟩ | ⟨e, rfl, herr, hrunning⟩
      · rw [hok, Operation.after_ok, Operation.run_call_bind] at h₁
        rcases Script.does_act.1 h₁ with ⟨-, hr⟩ | ⟨b, ds, rfl, h₂⟩
        · cases hr
        cases b with
        | error e =>
            obtain ⟨rfl, hr⟩ := Script.does_done.1 h₂
            cases hr
            exact .unremoved id ids e hstopped
        | ok u =>
            rw [Operation.after_ok, Operation.count, Operation.run_act_bind] at h₂
            rcases Script.does_act.1 h₂ with ⟨-, hr⟩ | ⟨u', ds, rfl, h₃⟩
            · cases hr
            · have hrest := ih h₃
              exact .removed id hstopped hrest
      · rw [herr] at h₁
        obtain ⟨rfl, hr⟩ := Script.does_done.1 h₁
        cases hr
        exact .unstopped id ids e hrunning

/-- Actions that tear containers down. -/
inductive Action.TearsDown : Action → Prop
  | stop (id : String) : TearsDown (.call (.stop id))
  | remove (id : String) : TearsDown (.call (.remove id))
  | count (e : Event) : TearsDown (.count e)

theorem Action.TearsDown.isPlain {x : Action} (h : x.TearsDown) : x.IsPlain := by
  cases h <;> trivial

theorem removeContainers_within (ids : List String) :
    (removeContainers ids).run.Within Action.TearsDown := by
  induction ids with
  | nil => trivial
  | cons id ids ih =>
      unfold removeContainers
      have hstop : (stopIfRunning id).run.Within Action.TearsDown := by
        rw [stopIfRunning_run]
        exact ⟨.stop id, fun _ => trivial⟩
      refine Script.within_bind hstop fun _ => ?_
      refine Script.within_bind ⟨.remove id, fun _ => trivial⟩ fun _ => ?_
      exact Script.within_bind ⟨.count _, fun _ => trivial⟩ fun _ => ih

/-! ### All nodes -/

/-- In a dictionary the lesser key stands further to the front. -/
theorem Dict.index_lt {β : Type} {d : Dict β} {i j : Nat} {a b : String} {u v : β}
    (hi : d.entries[i]? = some (a, u)) (hj : d.entries[j]? = some (b, v)) (h : a < b) : i < j := by
  refine Nat.lt_of_not_le fun hle => ?_
  obtain ⟨hi', hiv⟩ := List.getElem?_eq_some_iff.1 hi
  obtain ⟨hj', hjv⟩ := List.getElem?_eq_some_iff.1 hj
  rcases Nat.lt_or_eq_of_le hle with hlt | rfl
  · have hba := List.pairwise_iff_getElem.1 d.increasing j i hj' hi' hlt
    rw [hiv, hjv] at hba
    exact String.lt_irrefl a (String.lt_trans h hba)
  · cases hi.symm.trans hj
    exact String.lt_irrefl a h

/-- The outcomes of the nodes, taken together: all went well exactly if everything was removed, and
otherwise the first node that failed, by name, says how. -/
theorem verdict_of_tornDown {d : Dict (List String)} {xs : Nat → List Exchange}
    {rs : List (Except OperationError Bool)} {r : Except OperationError Bool}
    (hjoin : Joined rs r) (hlen : rs.length = d.entries.length)
    (hnodes : ∀ (i : Nat) node ids, d.entries[i]? = some (node, ids) →
      ∃ o, rs[i]? = some o ∧ TornDown ids (xs i) o) :
    (r = .ok true ↔ ∀ (i : Nat) node ids, d.entries[i]? = some (node, ids) →
      removedIds (xs i) = ids) ∧
    r ≠ .ok false ∧
    ∀ e, r = .error e → ∃ (i : Nat) (node : String) (ids : List String),
      d.entries[i]? = some (node, ids) ∧ rs[i]? = some (.error e) ∧
      ∀ (j : Nat) node' ids', d.entries[j]? = some (node', ids') → node' < node →
        rs[j]? = some (.ok true) := by
  have hentry : ∀ {i : Nat} {o}, rs[i]? = some o → ∃ (node : String) (ids : List String),
      d.entries[i]? = some (node, ids) ∧ TornDown ids (xs i) o := by
    intro i o ho
    have hlt : i < d.entries.length := hlen ▸ (List.getElem?_eq_some_iff.1 ho).1
    have hi : d.entries[i]? = some d.entries[i] := List.getElem?_eq_getElem hlt
    obtain ⟨o', ho', htorn⟩ := hnodes i _ _ hi
    obtain rfl : o' = o := Option.some.inj (ho'.symm.trans ho)
    exact ⟨_, _, hi, htorn⟩
  refine ⟨?_, ?_, ?_⟩
  · rw [hjoin.ok_true_iff]
    constructor
    · intro hall i node ids hi
      obtain ⟨o, ho, htorn⟩ := hnodes i node ids hi
      exact htorn.ok_iff.1 (hall o (List.mem_of_getElem? ho))
    · intro hall o ho
      obtain ⟨i, hoi⟩ := List.getElem?_of_mem ho
      obtain ⟨node, ids, hi, htorn⟩ := hentry hoi
      exact htorn.ok_iff.2 (hall i node ids hi)
  · rintro rfl
    obtain ⟨i, hoi⟩ := List.getElem?_of_mem hjoin.mem_ok_false
    obtain ⟨node, ids, hi, htorn⟩ := hentry hoi
    rcases htorn.all_or_part with ⟨hr, -⟩ | ⟨e, _, _, hr, -⟩
    · cases hr
    · cases hr
  · rintro e rfl
    obtain ⟨i, hoi, hbefore⟩ := hjoin.first_error
    obtain ⟨node, ids, hi, -⟩ := hentry hoi
    refine ⟨i, node, ids, hi, hoi, fun j node' ids' hj hless => ?_⟩
    obtain ⟨b, hb⟩ := hbefore j (Dict.index_lt hj hi hless)
    obtain ⟨_, _, -, htorn⟩ := hentry hb
    rcases htorn.all_or_part with ⟨hr, -⟩ | ⟨e', _, _, hr, -⟩
    · rw [hb, hr]
    · cases hr

/-- A teardown runs the work on all nodes beside each other. -/
theorem tearDown_run (l : Ledger) :
    (tearDown l).run = Ensemble.fanOut (l.nodes.entries.map fun e => (removeContainers e.2).run)
      fun rs => .done (Orchestrator.conjunction rs) := by
  unfold tearDown
  rw [FanOut.run_together_bind, Dict.values]
  simp only [List.map_map]
  rfl

theorem settles_tearDown (l : Ledger) : (tearDown l).run.Settles 0 := by
  rw [tearDown_run]
  exact Ensemble.settles_fanOut _ _

theorem tearDown_within (l : Ledger) : (tearDown l).run.Within Action.TearsDown := by
  rw [tearDown_run]
  refine Ensemble.Within.fanOut (fun s hs => ?_) fun rs => trivial
  obtain ⟨e, -, rfl⟩ := List.mem_map.1 hs
  exact removeContainers_within e.2

theorem tearDown_plain (l : Ledger) : (tearDown l).run.Within Action.IsPlain :=
  (tearDown_within l).mono fun _ hx => hx.isPlain

section Runs

variable {l : Ledger} {ms : History (Except OperationError Bool)}
  {t : Threads (Except OperationError Bool) (Except OperationError Bool)}

/-- The end of a teardown: the work on all nodes has ended, and the leading thread did nothing. -/
theorem end_of_tearDown (x : Threads.Explained (tearDown l).run ms t)
    {r : Except OperationError Bool} (ht : t.lead = .done r) :
    ∃ rs : List (Except OperationError Bool), rs.length = l.nodes.entries.length ∧
      t.scripts = rs.map .done ∧ Joined rs r ∧ ms.deedsOf .lead = [] ∧
      ∀ (i : Nat) node ids, l.nodes.entries[i]? = some (node, ids) →
        ∃ o, rs[i]? = some o ∧ TornDown ids (exchanges (ms.deedsOf (.script i))) o := by
  rw [tearDown_run] at x
  obtain ⟨rs, hlen, hsc, hg, hdoes⟩ := x.end_of_fanOut ht
  rw [List.length_map] at hlen
  obtain ⟨hlead, hr⟩ := Script.does_done.1 hg
  refine ⟨rs, hlen, hsc, ?_, hlead, fun i node ids hi => ?_⟩
  · cases hr
    exact joined_conjunction rs
  · have hlt : i < rs.length := by
      rw [hlen]
      exact (List.getElem?_eq_some_iff.1 hi).1
    have hrs : rs[i]? = some rs[i] := List.getElem?_eq_getElem hlt
    refine ⟨rs[i], hrs, tornDown_of_does (hdoes i _ _ ?_ hrs)⟩
    rw [List.getElem?_map, hi]
    rfl

/-- **Behind a teardown that went well** everything that was listed is removed. -/
theorem removed_of_tearDown (x : Threads.Explained (tearDown l).run ms t)
    (ht : t.lead = .done (.ok true)) {node id : String} (hid : id ∈ l.ids node) :
    ∃ who, (who, .deed ⟨.call (.remove id), .ok ()⟩) ∈ ms := by
  obtain ⟨rs, -, -, hjoin, -, hnodes⟩ := end_of_tearDown x ht
  obtain ⟨ids, hentry, hmem⟩ := Ledger.exists_entry hid
  obtain ⟨i, hi⟩ := List.getElem?_of_mem hentry
  obtain ⟨o, ho, htorn⟩ := hnodes i node ids hi
  have hremoved : removedIds (exchanges (ms.deedsOf (.script i))) = ids :=
    htorn.ok_iff.1 (hjoin.ok_true_iff.1 rfl o (List.mem_of_getElem? ho))
  rw [← hremoved] at hmem
  exact ⟨.script i, History.mem_deedsOf.1 (mem_of_removedIds hmem)⟩

/-- Only the work on the nodes of the ledger makes calls. -/
theorem calls_of_tearDown (x : Threads.Explained (tearDown l).run ms t)
    {r : Except OperationError Bool} (ht : t.lead = .done r) {who : Thread} {d : Deed}
    (hd : (who, .deed d) ∈ ms) : ∃ i, who = .script i ∧ i < l.nodes.entries.length := by
  obtain ⟨rs, hlen, hsc, -, hlead, -⟩ := end_of_tearDown x ht
  cases who with
  | lead =>
      have hmem : d ∈ ms.deedsOf .lead := History.mem_deedsOf.2 hd
      rw [hlead] at hmem
      simp at hmem
  | script i =>
      refine ⟨i, rfl, Nat.lt_of_not_le fun hge => ?_⟩
      have hmem : d ∈ ms.deedsOf (.script i) := History.mem_deedsOf.2 hd
      have hstarted := x.length_scripts
      rw [hsc, List.length_map] at hstarted
      rw [x.idle i (by omega)] at hmem
      simp at hmem

/-- A teardown of an empty ledger has ended before anything is done. -/
theorem idle_of_isEmpty {W : Type} {p : Performer W} {w v : W} (hempty : l.isEmpty = true)
    (run : Threads.Run p (.ofEnsemble (tearDown l).run) w ms t v) :
    ms = [] ∧ t.lead = .done (.ok true) := by
  have hdone : (tearDown l).run = .done (.ok true) := by
    have hnil : l.nodes.entries = [] := List.isEmpty_iff.1 hempty
    rw [tearDown_run, hnil]
    rfl
  rw [hdone] at run
  cases run with
  | nil => exact ⟨rfl, rfl⟩
  | cons step _ =>
      cases step with
      | scriptAct e ss k i y next _ turn => cases turn

end Runs

/-! ### Every run of a teardown -/

open Rehearsal

/-- **Every run tears down each node by itself, and exactly.**  An empty ledger asks for no call.
Otherwise the work on every node makes the calls that its own list asks for, up to the first that
fails, and nothing else makes calls; with the same answers it makes the same calls in every run,
whatever the other nodes do.  All went well exactly if every listed container was removed; if not,
the outcome is the failure of the first node, by name, that failed, and it is known when the work on
all nodes has ended.  Every run can come to such an end. -/
theorem tearDown_exact {R : Type} (h : Host R) (l : Ledger) (w v : World R)
    (ms : History (Except OperationError Bool))
    (t : Threads (Except OperationError Bool) (Except OperationError Bool))
    (run : Threads.Run (perform h) (.ofEnsemble (tearDown l).run) w ms t v) :
    (l.isEmpty = true → ms = [] ∧ t.lead = .done (.ok true)) ∧
    (∀ r, t.lead = .done r → ∃ outcomes : List (Except OperationError Bool),
      outcomes.length = l.nodes.entries.length ∧ t.scripts = outcomes.map .done ∧
      (∀ (i : Nat) node ids, l.nodes.entries[i]? = some (node, ids) → ∃ o, outcomes[i]? = some o ∧
        TornDown ids (exchanges (ms.deedsOf (.script i))) o) ∧
      (∀ who d, (who, .deed d) ∈ ms → ∃ i, who = .script i ∧ i < l.nodes.entries.length) ∧
      (r = .ok true ↔ ∀ (i : Nat) node ids, l.nodes.entries[i]? = some (node, ids) →
        removedIds (exchanges (ms.deedsOf (.script i))) = ids) ∧
      r ≠ .ok false ∧
      ∀ e, r = .error e → ∃ (i : Nat) (node : String) (ids : List String),
        l.nodes.entries[i]? = some (node, ids) ∧ outcomes[i]? = some (.error e) ∧
        ∀ (j : Nat) node' ids', l.nodes.entries[j]? = some (node', ids') → node' < node →
          outcomes[j]? = some (.ok true)) ∧
    (∀ (S : Type) (k : Host S) (w' v' : World S) (ms' : History (Except OperationError Bool))
      (t' : Threads (Except OperationError Bool) (Except OperationError Bool)) r r'
      (reply : List Exchange → (c : Call) → Except OperationError c.Answer) i,
      Threads.Run (perform k) (.ofEnsemble (tearDown l).run) w' ms' t' v' →
      t.lead = .done r → t'.lead = .done r' →
      Exchange.Follows reply (exchanges (ms.deedsOf (.script i))) →
      Exchange.Follows reply (exchanges (ms'.deedsOf (.script i))) →
      ms.deedsOf (.script i) = ms'.deedsOf (.script i)) ∧
    ∃ ns u x r, Threads.Run (perform h) t v ns u x ∧ u.lead = .done r := by
  have hx := run.explained
  refine ⟨fun hempty => idle_of_isEmpty hempty run, fun r ht => ?_, ?_,
    run.completes (settles_tearDown l)⟩
  · obtain ⟨rs, hlen, hsc, hjoin, -, hnodes⟩ := end_of_tearDown hx ht
    exact ⟨rs, hlen, hsc, hnodes, fun who d => calls_of_tearDown hx ht,
      verdict_of_tornDown hjoin hlen hnodes⟩
  · intro S k w' v' ms' t' r r' reply i run' ht ht' hf hf'
    have hx' := run'.explained
    rw [tearDown_run] at hx hx'
    refine (Threads.Explained.script_unique (fun s hs => ?_) hx ht hx' ht' hf hf').2
    obtain ⟨e, -, rfl⟩ := List.mem_map.1 hs
    exact (removeContainers_within e.2).mono fun _ hx => hx.isPlain

/-- A ledger of two nodes, of which one lists a container twice. -/
def twoNodes : Ledger := ⟨Dict.ofList [("a", ["x", "y"]), ("b", ["z", "z"])]⟩

/-- One container is stopped already, another one cannot be stopped. -/
def wornAnswers : (c : Call) → Except OperationError c.Answer
  | .stop id =>
    if id = "x" then .error (.notModified id)
    else if id = "y" then .error (.api "device busy") else .ok ()
  | .inspect id => .error (.containerNotFound id)
  | .create spec => .ok ("id-" ++ spec.name)
  | .start _ | .restart _ | .remove _ | .exec .. | .upload .. | .ping => .ok ()
  | .download .. => .ok []
  | .info => .ok default

theorem tearDown_exact_of_two :
    ∃ ms t v r, ∃ outcomes : List (Except OperationError Bool),
      Threads.Run (perform (.ofAnswers wornAnswers))
        (.ofEnsemble (tearDown twoNodes).run) { runtime := () } ms t v ∧
      t.lead = .done r ∧ t.scripts = outcomes.map .done ∧ r ≠ .ok false ∧
      (∃ o, outcomes[0]? = some o ∧
        TornDown ["x", "y"] (exchanges (ms.deedsOf (.script 0))) o) ∧
      ∃ o, outcomes[1]? = some o ∧
        TornDown ["z", "z"] (exchanges (ms.deedsOf (.script 1))) o := by
  have hend : ((tearDown twoNodes).run.endIn? (perform (.ofAnswers wornAnswers))
      [.lead, .lead, .script 1, .script 0, .script 1, .script 0, .script 0, .script 0, .script 1,
        .lead, .script 1, .script 1, .script 1, .lead] { runtime := () }).isSome = true := by
    decide +kernel
  obtain ⟨⟨r, v⟩, hx⟩ := Option.isSome_iff_exists.1 hend
  obtain ⟨ms, t, run, ht⟩ := Ensemble.ends_of_endIn? hx
  obtain ⟨-, hdone, -⟩ := tearDown_exact _ _ _ _ _ _ run
  obtain ⟨outcomes, -, hsc, hnodes, -, -, hfalse, -⟩ := hdone r ht
  exact ⟨ms, t, v, r, outcomes, run, ht, hsc, hfalse, hnodes 0 "a" _ rfl, hnodes 1 "b" _ rfl⟩

end Testbed
