/-
**Tearing down what is gone in part.**

When a ledger is torn down for a second time, a part of its containers may be gone.  In a runtime in
which these are not found, and all others can be stopped and removed, the work on a node ends at its
first container that is gone, however many of the others are still there.  So the whole succeeds
only if nothing that is listed was gone, and if nothing is listed twice.

Main definitions:

* `Testbed.Exchange.FailsAt` — **a call that ends the work on its node**;
* `Testbed.Obliging` — the answers of a runtime in which some containers are gone, and all others
  can be stopped and removed.

Main results:

* `Testbed.TornDown.failure` — where the work on a node has ended early;
* `Testbed.removed_perm_of_tearDown` — what a successful teardown removes is what is listed;
* `Testbed.Obliging.stops_at_gone`, `Testbed.Obliging.removes_all` — the work on one node;
* `Testbed.Obliging.verdict` — **the whole succeeds exactly if nothing is gone or listed twice**.
-/

import Testbed.Proofs.Network.Teardown

set_option relaxedAutoImplicit false
set_option autoImplicit false

namespace Testbed

/-! ### Ledgers that list nothing twice -/

namespace Ledger

variable {l : Ledger} {i j : Nat} {node node' id : String} {ids ids' : List String}

theorem mem_allIds : id ∈ l.allIds ↔ ∃ (i : Nat) (node : String) (ids : List String),
    l.nodes.entries[i]? = some (node, ids) ∧ id ∈ ids := by
  constructor
  · intro h
    obtain ⟨ids, hids, hid⟩ := List.mem_flatten.1 h
    obtain ⟨⟨node, ids'⟩, he, rfl⟩ := List.mem_map.1 hids
    obtain ⟨i, hi⟩ := List.getElem?_of_mem he
    exact ⟨i, node, ids', hi, hid⟩
  · rintro ⟨i, node, ids, hi, hid⟩
    exact List.mem_flatten.2 ⟨ids, List.mem_map.2 ⟨_, List.mem_of_getElem? hi, rfl⟩, hid⟩

theorem nodup_of_entry (h : l.allIds.Nodup) (hi : l.nodes.entries[i]? = some (node, ids)) :
    ids.Nodup :=
  (List.pairwise_flatten.1 h).1 ids (List.mem_map.2 ⟨_, List.mem_of_getElem? hi, rfl⟩)

/-- A container is listed under one node. -/
theorem index_unique (h : l.allIds.Nodup) (hi : l.nodes.entries[i]? = some (node, ids))
    (hj : l.nodes.entries[j]? = some (node', ids')) (hid : id ∈ ids) (hid' : id ∈ ids') :
    i = j := by
  have hvalue : ∀ {k : Nat} {node : String} {ids : List String},
      l.nodes.entries[k]? = some (node, ids) → l.nodes.values[k]? = some ids := by
    intro k node ids hk
    rw [Dict.values, List.getElem?_map, hk]
    rfl
  obtain ⟨hi', rfl⟩ := List.getElem?_eq_some_iff.1 (hvalue hi)
  obtain ⟨hj', rfl⟩ := List.getElem?_eq_some_iff.1 (hvalue hj)
  have happart := List.pairwise_iff_getElem.1 (List.pairwise_flatten.1 h).2
  rcases Nat.lt_trichotomy i j with hlt | heq | hgt
  · exact absurd rfl (happart i j hi' hj' hlt id hid id hid')
  · exact heq
  · exact absurd rfl (happart j i hj' hi' hgt id hid' id hid)

end Ledger

/-! ### Where the work on a node ends early -/

/-- **A call that ends the work on its node**, with the container and the failure. -/
inductive Exchange.FailsAt : Exchange → String → OperationError → Prop
  | stop (id : String) (e : OperationError) (running : ¬ Stopped (.error e)) :
      FailsAt ⟨.stop id, .error e⟩ id e
  | remove (id : String) (e : OperationError) : FailsAt ⟨.remove id, .error e⟩ id e

namespace TornDown

variable {ids : List String} {xs : List Exchange} {r : Except OperationError Bool}
  {e : OperationError} {id : String}

/-- Work that failed has ended at a container, with the failure of the call on it. -/
theorem failure (h : TornDown ids xs (.error e)) :
    ∃ id rest x, ids = removedIds xs ++ id :: rest ∧ x ∈ xs ∧ x.FailsAt id e := by
  generalize hr : (Except.error e : Except OperationError Bool) = r at h
  induction h with
  | nil => cases hr
  | removed id stopped _ ih =>
      obtain ⟨id', rest, x, rfl, hx, hfails⟩ := ih hr
      exact ⟨id', rest, x, rfl, by simp [hx], hfails⟩
  | unstopped id ids e running =>
      cases hr
      exact ⟨id, ids, _, rfl, List.mem_singleton_self _, .stop id e running⟩
  | unremoved id ids e stopped =>
      cases hr
      exact ⟨id, ids, _, rfl, by simp, .remove id e⟩

/-- A call that fails is the failure of the work. -/
theorem eq_error (h : TornDown ids xs r) {x : Exchange} (hx : x ∈ xs) (hfails : x.FailsAt id e) :
    r = .error e := by
  induction h with
  | nil => cases hx
  | removed id stopped _ ih =>
      rcases List.mem_cons.1 hx with rfl | hx
      · cases hfails with
        | stop id e running => exact absurd stopped running
      · rcases List.mem_cons.1 hx with rfl | hx
        · cases hfails
        · exact ih hx
  | unstopped id ids e running =>
      obtain rfl := List.mem_singleton.1 hx
      cases hfails
      rfl
  | unremoved id ids e stopped =>
      rcases List.mem_cons.1 hx with rfl | hx
      · cases hfails with
        | stop id e running => exact absurd stopped running
      · obtain rfl := List.mem_singleton.1 hx
        cases hfails
        rfl

/-- What is removed stands at the front of the list. -/
theorem removed_prefix (h : TornDown ids xs r) : removedIds xs <+: ids := by
  rcases h.all_or_part with ⟨-, hids⟩ | ⟨e, id, rest, -, hids⟩
  · exact ⟨[], by rw [List.append_nil, hids]⟩
  · exact ⟨id :: rest, hids.symm⟩

end TornDown

/-! ### A runtime in which some containers are gone -/

/-- An answer of a runtime in which some containers are gone. -/
inductive Exchange.Obliges (gone : String → Prop) : Exchange → Prop
  | stop {id : String} {a : Except OperationError Unit} (there : ¬ gone id) (stopped : Stopped a) :
      Obliges gone ⟨.stop id, a⟩
  | remove {id : String} (there : ¬ gone id) : Obliges gone ⟨.remove id, .ok ()⟩
  | stopGone {id : String} (missing : gone id) :
      Obliges gone ⟨.stop id, .error (.containerNotFound id)⟩
  | removeGone {id : String} (missing : gone id) :
      Obliges gone ⟨.remove id, .error (.containerNotFound id)⟩

/-- **Exchanges with an obliging runtime**: a container that is gone from the beginning, or was
removed since, is not found, and every other one can be stopped and removed. -/
def Obliging (gone : String → Prop) (xs : List Exchange) : Prop :=
  ∀ before x behind, xs = before ++ x :: behind →
    x.Obliges fun id => gone id ∨ id ∈ removedIds before

namespace Obliging

variable {gone : String → Prop} {xs : List Exchange} {x : Exchange} {id : String}
  {e : OperationError}

theorem cons_iff : Obliging gone (x :: xs) ↔
    x.Obliges gone ∧ Obliging (fun id => gone id ∨ x.removed? = some id) xs := by
  have hsame : ∀ before : List Exchange, (fun id => gone id ∨ id ∈ removedIds (x :: before)) =
      fun id => (gone id ∨ x.removed? = some id) ∨ id ∈ removedIds before := by
    intro before
    funext id
    rw [or_assoc, removedIds, List.filterMap_cons]
    cases x.removed? with
    | none => simp [removedIds]
    | some id' => simp [removedIds, eq_comm]
  have hnone : (fun id => gone id ∨ id ∈ removedIds []) = gone := by
    funext id
    simp [removedIds]
  constructor
  · intro h
    refine ⟨hnone ▸ h [] x xs rfl, fun before y behind hxs => ?_⟩
    rw [← hsame]
    exact h (x :: before) y behind (by rw [hxs, List.cons_append])
  · rintro ⟨hx, hxs⟩ before y behind h
    cases before with
    | nil =>
        obtain ⟨rfl, -⟩ := List.cons.inj h
        exact hnone.symm ▸ hx
    | cons z before =>
        obtain ⟨rfl, h'⟩ := List.cons.inj h
        rw [hsame]
        exact hxs before y behind h'

/-- Nothing is removed twice, and nothing that was gone. -/
theorem removed_once (h : Obliging gone xs) :
    (removedIds xs).Nodup ∧ ∀ id ∈ removedIds xs, ¬ gone id := by
  -- by induction for all `gone`, as what the first exchange removes is gone for the later ones
  induction xs generalizing gone with
  | nil => exact ⟨List.nodup_nil, by simp [removedIds]⟩
  | cons x xs ih =>
      obtain ⟨hx, hxs⟩ := cons_iff.1 h
      obtain ⟨hnodup, hthere⟩ := ih hxs
      unfold removedIds at hnodup hthere ⊢
      rw [List.filterMap_cons]
      cases hremoved : x.removed? with
      | none => exact ⟨hnodup, fun id hid hg => hthere id hid (.inl hg)⟩
      | some id =>
          refine ⟨List.nodup_cons.2 ⟨fun hid => hthere id hid (.inr hremoved), hnodup⟩, ?_⟩
          refine List.forall_mem_cons.2 ⟨fun hg => ?_, fun id' hid hg => hthere id' hid (.inl hg)⟩
          cases hx with
          | stop _ stopped => cases hremoved
          | remove there =>
              cases hremoved
              exact there hg
          | stopGone _ => cases hremoved
          | removeGone _ => cases hremoved

/-- A call fails only on a container that is gone, and as such. -/
theorem of_failsAt (h : Obliging gone xs) (hx : x ∈ xs) (hfails : x.FailsAt id e) :
    (gone id ∨ id ∈ removedIds xs) ∧ e = .containerNotFound id := by
  obtain ⟨before, behind, rfl⟩ := List.append_of_mem hx
  have hbefore : ∀ {id}, id ∈ removedIds before → id ∈ removedIds (before ++ x :: behind) :=
    fun hid => mem_removedIds.2 (List.mem_append_left _ (mem_removedIds.1 hid))
  have hobliges := h before x behind rfl
  cases hfails with
  | stop id e running =>
      cases hobliges with
      | stop _ stopped => exact absurd stopped running
      | stopGone missing => exact ⟨missing.imp_right hbefore, rfl⟩
  | remove id e =>
      cases hobliges with
      | removeGone missing => exact ⟨missing.imp_right hbefore, rfl⟩

/-- A container that was gone from the beginning cannot be stopped. -/
theorem of_stop_gone (h : Obliging gone xs) {a : Except OperationError Unit}
    (hx : ⟨.stop id, a⟩ ∈ xs) (hgone : gone id) : a = .error (.containerNotFound id) := by
  obtain ⟨before, behind, rfl⟩ := List.append_of_mem hx
  cases h before _ behind rfl with
  | stop there _ => exact absurd (.inl hgone) there
  | stopGone _ => rfl

end Obliging

/-! ### A runtime that lacks containers -/

namespace Rehearsal

/-- A runtime that knows which containers are gone.  Every other one can be stopped, and removed
unless it is busy. -/
def Host.lacking (busy : String → Bool) : Host (List String) where
  connect gone _ _ := (.ok (), gone)
  answer
    | gone, .stop id => (if id ∈ gone then .error (.containerNotFound id) else .ok (), gone)
    | gone, .remove id =>
      if id ∈ gone then (.error (.containerNotFound id), gone)
      else if busy id then (.error (.api "device busy"), gone)
      else (.ok (), id :: gone)
    | gone, _ => (.error (.api "not supported"), gone)
  openLog gone _ _ := (⟨[], false⟩, gone)

variable {busy : String → Bool}

/-- What is gone behind a call was gone before it, or is removed by it. -/
theorem answer_lacking (gone : List String) (c : Call) (id : String) :
    id ∈ ((Host.lacking busy).answer gone c).2 ↔ id ∈ gone ∨
      Exchange.removed? ⟨c, ((Host.lacking busy).answer gone c).1⟩ = some id := by
  cases c with
  | remove id' =>
      simp only [Host.lacking]
      split
      · simp [Exchange.removed?]
      · split
        · simp [Exchange.removed?]
        · rw [List.mem_cons, or_comm]
          simp [Exchange.removed?, eq_comm]
  | _ => simp [Host.lacking, Exchange.removed?]

/-- What is gone behind an action was gone before it, or is removed by it. -/
theorem perform_lacking (x : Action) (w : World (List String)) (id : String) :
    id ∈ (perform (.lacking busy) x w).2.runtime ↔ id ∈ w.runtime ∨
      (Deed.exchange? ⟨x, (perform (.lacking busy) x w).1⟩).bind Exchange.removed? = some id := by
  have hother : ∀ v : World (List String), v.runtime = w.runtime →
      (id ∈ v.runtime ↔ id ∈ w.runtime ∨ none = some id) := by
    intro v hv
    rw [hv]
    simp
  cases x with
  | call c =>
      rw [perform_call_runtime]
      exact answer_lacking w.runtime c id
  | print text =>
      refine hother _ ?_
      simp only [perform]
      split <;> rfl
  | writeFile path content =>
      refine hother _ ?_
      simp only [perform]
      split <;> rfl
  | removeFile path =>
      refine hother _ ?_
      simp only [perform]
      split <;> rfl
  | _ => exact hother _ rfl

/-- An answer of such a runtime in which no container is busy. -/
theorem obliges_lacking (gone : List String) {c : Call} (hc : Action.TearsDown (.call c)) :
    Exchange.Obliges (· ∈ gone) ⟨c, ((Host.lacking fun _ => false).answer gone c).1⟩ := by
  cases hc with
  | stop id =>
      by_cases hgone : id ∈ gone
      · simp only [Host.lacking, if_pos hgone]
        exact .stopGone hgone
      · simp only [Host.lacking, if_neg hgone]
        exact .stop hgone .now
  | remove id =>
      by_cases hgone : id ∈ gone
      · simp only [Host.lacking, if_pos hgone]
        exact .removeGone hgone
      · simp only [Host.lacking, if_neg hgone]
        exact .remove hgone

end Rehearsal

namespace Threads

open Rehearsal

variable {τ α : Type} {busy : String → Bool} {t t' : Threads τ α} {w w' : World (List String)}
  {ms : History τ}

theorem Step.gone_lacking {m : Thread × Move τ} (step : Step (perform (.lacking busy)) t w m t' w')
    (id : String) : id ∈ w'.runtime ↔ id ∈ w.runtime ∨
      (m.2.deed?.bind Deed.exchange?).bind Exchange.removed? = some id := by
  rcases step.answered with ⟨⟨x, a⟩, hm, ha, rfl⟩ | ⟨hm, rfl⟩
  · obtain rfl : a = (perform (.lacking busy) x w).1 := ha
    rw [hm]
    exact perform_lacking x w id
  · rw [hm]
    simp

/-- **What is gone behind a run** was gone before it, or is removed in it. -/
theorem Run.gone_lacking (run : Run (perform (.lacking busy)) t w ms t' w') (id : String) :
    id ∈ w'.runtime ↔ id ∈ w.runtime ∨ id ∈ removedIds ms.exchanges := by
  induction run with
  | nil t w => simp [removedIds, History.exchanges]
  | @cons t t₁ u w w₁ v m ms step run ih =>
      rw [ih, step.gone_lacking, or_assoc]
      refine or_congr_right ?_
      unfold removedIds History.exchanges
      rw [History.collect_cons, List.filterMap_append, List.mem_append]
      refine or_congr_left ?_
      cases m.2.deed?.bind Deed.exchange? with
      | none => simp
      | some x => cases x.removed? <;> simp [eq_comm]

/-- **A runtime in which no container is busy is obliging.** -/
theorem Run.obliging_lacking (run : Run (perform (.lacking fun _ => false)) t w ms t' w')
    (tearsDown : ∀ x ∈ ms.exchanges, Action.TearsDown (.call x.call)) :
    Obliging (· ∈ w.runtime) ms.exchanges := by
  induction run with
  | nil t w => exact fun before x behind h => by simp [History.exchanges] at h
  | @cons t t₁ u w w₁ v m ms step run ih =>
      have hgone : (· ∈ w₁.runtime) = fun id => id ∈ w.runtime ∨
          (m.2.deed?.bind Deed.exchange?).bind Exchange.removed? = some id :=
        funext fun id => propext (step.gone_lacking id)
      rw [hgone] at ih
      have hsplit : History.exchanges (m :: ms) =
          (m.2.deed?.bind Deed.exchange?).toList ++ ms.exchanges := History.collect_cons ..
      rw [hsplit] at tearsDown ⊢
      cases hx : m.2.deed?.bind Deed.exchange? with
      | none =>
          rw [hx] at ih tearsDown
          simpa using ih (fun x h => tearsDown x (by simpa using h))
      | some x =>
          rw [hx] at ih tearsDown
          refine Obliging.cons_iff.2 ⟨?_, ih fun y h => tearsDown y (List.mem_append_right _ h)⟩
          obtain ⟨c, a⟩ := x
          rcases step.answered with ⟨d, hm, ha, -⟩ | ⟨hm, -⟩
          · -- the step is this call, and the runtime has answered it
            rw [hm] at hx
            obtain rfl := Deed.exchange?_eq_some_iff.1 hx
            obtain rfl : a = ((Host.lacking fun _ => false).answer w.runtime c).1 := ha
            exact obliges_lacking w.runtime (tearsDown _ List.mem_cons_self)
          · rw [hm] at hx
            cases hx

end Threads

/-! ### Tearing everything down -/

/-- What is removed in a history is what its scripts remove, in some order. -/
theorem removedIds_perm_scripts {τ : Type} {n : Nat} {ms : History τ}
    (h : ∀ who d, (who, .deed d) ∈ ms → ∃ i, who = .script i ∧ i < n) :
    (removedIds ms.exchanges).Perm
      ((List.range n).flatMap fun i => removedIds (exchanges (ms.deedsOf (.script i)))) := by
  have hperm := (History.collect_perm_scripts (fun _ d => d.exchange?) h).filterMap
    Exchange.removed?
  rwa [List.filterMap_flatMap] at hperm

section Runs

variable {l : Ledger} {ms : History (Except OperationError Bool)}
  {t : Threads (Except OperationError Bool) (Except OperationError Bool)}
  {r : Except OperationError Bool} {gone : String → Prop} {i : Nat} {node id : String}
  {ids : List String}

/-- **Behind a teardown that went well** that is removed which was listed. -/
theorem removed_perm_of_tearDown (x : Threads.Explained (tearDown l).run ms t)
    (ht : t.lead = .done (.ok true)) : (removedIds ms.exchanges).Perm l.allIds := by
  obtain ⟨rs, -, -, hjoin, -, hnodes⟩ := end_of_tearDown x ht
  refine (removedIds_perm_scripts fun who d hd => calls_of_tearDown x ht hd).trans (.of_eq ?_)
  rw [List.flatMap_def, Ledger.allIds, Dict.values]
  congr 1
  refine List.ext_getElem? fun i => ?_
  rw [List.getElem?_map, List.getElem?_map]
  cases hi : l.nodes.entries[i]? with
  | none =>
      have hlen := List.getElem?_eq_none_iff.1 hi
      rw [List.getElem?_eq_none (by simpa using hlen)]
      rfl
  | some entry =>
      obtain ⟨node, ids⟩ := entry
      obtain ⟨o, ho, htorn⟩ := hnodes i node ids hi
      have hall := htorn.ok_iff.1 (hjoin.ok_true_iff.1 rfl o (List.mem_of_getElem? ho))
      rw [List.getElem?_range (List.getElem?_eq_some_iff.1 hi).1, Option.map_some, hall]
      rfl

/-- A container that is removed is removed by the work on a node that lists it. -/
theorem node_of_removed (x : Threads.Explained (tearDown l).run ms t) (ht : t.lead = .done r)
    (h : id ∈ removedIds ms.exchanges) : ∃ (j : Nat) (node : String) (ids : List String),
      l.nodes.entries[j]? = some (node, ids) ∧ id ∈ ids ∧
      id ∈ removedIds (exchanges (ms.deedsOf (.script j))) := by
  obtain ⟨who, hd⟩ := History.mem_exchanges.1 (mem_removedIds.1 h)
  obtain ⟨j, rfl, hj⟩ := calls_of_tearDown x ht hd
  obtain ⟨rs, -, -, -, -, hnodes⟩ := end_of_tearDown x ht
  have hentry := List.getElem?_eq_getElem hj
  obtain ⟨o, -, htorn⟩ := hnodes j _ _ hentry
  have hremoved := mem_removedIds.2 (History.mem_exchanges_deedsOf.2 hd)
  exact ⟨j, _, _, hentry, htorn.removed_prefix.subset hremoved, hremoved⟩

/-- A call that fails makes the teardown fail. -/
theorem not_ok_of_failsAt (x : Threads.Explained (tearDown l).run ms t) (ht : t.lead = .done r)
    {y : Exchange} {e : OperationError} (hy : y ∈ ms.exchanges) (hfails : y.FailsAt id e) :
    r ≠ .ok true := by
  rintro rfl
  obtain ⟨who, hd⟩ := History.mem_exchanges.1 hy
  obtain ⟨j, rfl, hj⟩ := calls_of_tearDown x ht hd
  obtain ⟨rs, -, -, hjoin, -, hnodes⟩ := end_of_tearDown x ht
  obtain ⟨o, ho, htorn⟩ := hnodes j _ _ (List.getElem?_eq_getElem hj)
  have hok := hjoin.ok_true_iff.1 rfl o (List.mem_of_getElem? ho)
  cases hok.symm.trans (htorn.eq_error (History.mem_exchanges_deedsOf.2 hd) hfails)

/-- A teardown fails only by a call that fails. -/
theorem failsAt_of_tearDown (x : Threads.Explained (tearDown l).run ms t) {e : OperationError}
    (ht : t.lead = .done (.error e)) : ∃ y ∈ ms.exchanges, ∃ id e, y.FailsAt id e := by
  obtain ⟨rs, hlen, -, hjoin, -, hnodes⟩ := end_of_tearDown x ht
  obtain ⟨i, node, ids, hi, hrs, -⟩ := (verdict_of_tornDown hjoin hlen hnodes).2.2 e rfl
  obtain ⟨o, ho, htorn⟩ := hnodes i node ids hi
  cases hrs.symm.trans ho
  obtain ⟨id, rest, y, -, hy, hfails⟩ := htorn.failure
  have hd := History.mem_exchanges_deedsOf.1 hy
  exact ⟨y, History.mem_exchanges.2 ⟨_, hd⟩, id, e, hfails⟩

/-- If anything of a node is removed, its first container is. -/
theorem untouched_or_first (x : Threads.Explained (tearDown l).run ms t) (ht : t.lead = .done r)
    (distinct : l.allIds.Nodup) (hi : l.nodes.entries[i]? = some (node, ids)) :
    (∀ id ∈ ids, id ∉ removedIds ms.exchanges) ∨
      ∃ id rest, ids = id :: rest ∧ id ∈ removedIds ms.exchanges := by
  obtain ⟨rs, -, -, -, -, hnodes⟩ := end_of_tearDown x ht
  obtain ⟨o, -, htorn⟩ := hnodes i node ids hi
  cases hremoved : removedIds (exchanges (ms.deedsOf (.script i))) with
  | nil =>
      -- the work on another node does not list it
      refine .inl fun id hid h => ?_
      obtain ⟨j, node', ids', hj, hid', hby⟩ := node_of_removed x ht h
      obtain rfl := Ledger.index_unique distinct hi hj hid hid'
      rw [hremoved] at hby
      cases hby
  | cons id more =>
      obtain ⟨rest, hids⟩ := hremoved ▸ htorn.removed_prefix
      have hid : id ∈ removedIds (exchanges (ms.deedsOf (.script i))) := by simp [hremoved]
      refine .inr ⟨id, more ++ rest, hids.symm, ?_⟩
      have hd := History.mem_exchanges_deedsOf.1 (mem_removedIds.1 hid)
      exact mem_removedIds.2 (History.mem_exchanges.2 ⟨_, hd⟩)

namespace Obliging

/-- **The work on a node ends at once if its first container is gone.** -/
theorem stops_at_gone (x : Threads.Explained (tearDown l).run ms t) (ht : t.lead = .done r)
    (ob : Obliging gone ms.exchanges) {rest : List String}
    (hi : l.nodes.entries[i]? = some (node, id :: rest)) (hgone : gone id) :
    exchanges (ms.deedsOf (.script i)) = [⟨.stop id, .error (.containerNotFound id)⟩] := by
  obtain ⟨rs, -, -, -, -, hnodes⟩ := end_of_tearDown x ht
  obtain ⟨o, -, htorn⟩ := hnodes i node _ hi
  have hstop : ∀ a, ⟨.stop id, a⟩ ∈ exchanges (ms.deedsOf (.script i)) →
      a = .error (.containerNotFound id) := fun a ha =>
    ob.of_stop_gone (History.mem_exchanges.2 ⟨_, History.mem_exchanges_deedsOf.1 ha⟩) hgone
  generalize exchanges (ms.deedsOf (.script i)) = xs at htorn hstop
  cases htorn with
  | removed id stopped _ =>
      rw [hstop _ List.mem_cons_self] at stopped
      cases stopped
  | unstopped id ids e _ =>
      cases hstop _ List.mem_cons_self
      rfl
  | unremoved id ids e stopped =>
      rw [hstop _ List.mem_cons_self] at stopped
      cases stopped

/-- **All of a node is removed if nothing of it is gone**, and no container is listed twice. -/
theorem removes_all (x : Threads.Explained (tearDown l).run ms t) (ht : t.lead = .done r)
    (ob : Obliging gone ms.exchanges) (distinct : l.allIds.Nodup)
    (hi : l.nodes.entries[i]? = some (node, ids)) (there : ∀ id ∈ ids, ¬ gone id) :
    removedIds (exchanges (ms.deedsOf (.script i))) = ids := by
  obtain ⟨rs, -, -, -, -, hnodes⟩ := end_of_tearDown x ht
  obtain ⟨o, -, htorn⟩ := hnodes i node _ hi
  rcases htorn.all_or_part with ⟨-, hall⟩ | ⟨e, -, -, rfl, -⟩
  · exact hall
  -- a call that failed was about a container that had been removed, but by whom?
  obtain ⟨id, rest, y, hids, hy, hfails⟩ := htorn.failure
  have hid : id ∈ ids := by simp [hids]
  have hd := History.mem_exchanges_deedsOf.1 hy
  rcases (ob.of_failsAt (History.mem_exchanges.2 ⟨_, hd⟩) hfails).1 with hgone | hremoved
  · exact absurd hgone (there id hid)
  · -- by the work on this node, in front of the failure, so that it is listed twice
    obtain ⟨j, node', ids', hj, hid', hby⟩ := node_of_removed x ht hremoved
    obtain rfl := Ledger.index_unique distinct hi hj hid hid'
    have hnodup := Ledger.nodup_of_entry distinct hi
    rw [hids] at hnodup
    exact absurd rfl ((List.nodup_append.1 hnodup).2.2 id hby id (by simp))

/-- **A teardown succeeds exactly if nothing that is listed is gone**, and nothing is listed
twice. -/
theorem verdict (x : Threads.Explained (tearDown l).run ms t) (ht : t.lead = .done r)
    (ob : Obliging gone ms.exchanges) :
    r = .ok true ↔ (∀ id ∈ l.allIds, ¬ gone id) ∧ l.allIds.Nodup := by
  constructor
  · rintro rfl
    have hperm := removed_perm_of_tearDown x ht
    obtain ⟨hnodup, hthere⟩ := ob.removed_once
    exact ⟨fun id hid => hthere id (hperm.mem_iff.2 hid), hperm.nodup_iff.1 hnodup⟩
  · rintro ⟨hthere, distinct⟩
    obtain ⟨rs, hlen, -, hjoin, -, hnodes⟩ := end_of_tearDown x ht
    refine (verdict_of_tornDown hjoin hlen hnodes).1.2 fun i node ids hi => ?_
    refine removes_all x ht ob distinct hi fun id hid => ?_
    exact hthere id (Ledger.mem_allIds.2 ⟨i, node, ids, hi, hid⟩)

/-- If of every node either nothing is gone or its first container is, the failure is that of the
first node, by name, of which something is gone. -/
theorem first_failure (x : Threads.Explained (tearDown l).run ms t)
    (ob : Obliging gone ms.exchanges) (distinct : l.allIds.Nodup)
    (parted : ∀ (i : Nat) node ids, l.nodes.entries[i]? = some (node, ids) →
      (∀ id ∈ ids, ¬ gone id) ∨ ∃ id rest, ids = id :: rest ∧ gone id)
    {e : OperationError} (ht : t.lead = .done (.error e)) :
    ∃ (i : Nat) (node id : String) (rest : List String),
      l.nodes.entries[i]? = some (node, id :: rest) ∧ gone id ∧ e = .containerNotFound id ∧
      ∀ (j : Nat) node' ids', l.nodes.entries[j]? = some (node', ids') → node' < node →
        ∀ id ∈ ids', ¬ gone id := by
  obtain ⟨rs, hlen, -, hjoin, -, hnodes⟩ := end_of_tearDown x ht
  have hfails : ∀ {i : Nat} {node id : String} {rest : List String},
      l.nodes.entries[i]? = some (node, id :: rest) → gone id →
      rs[i]? = some (.error (.containerNotFound id)) := by
    intro i node id rest hi hgone
    obtain ⟨o, ho, htorn⟩ := hnodes i _ _ hi
    rw [stops_at_gone x ht ob hi hgone] at htorn
    rw [ho, htorn.eq_error (List.mem_singleton_self _) (.stop id _ nofun)]
  obtain ⟨i, node, ids, hi, hrs, hbefore⟩ := (verdict_of_tornDown hjoin hlen hnodes).2.2 e rfl
  rcases parted i node ids hi with hthere | ⟨id, rest, rfl, hgone⟩
  · -- a node of which nothing is gone does not fail
    obtain ⟨o, ho, htorn⟩ := hnodes i node ids hi
    cases (hrs.symm.trans ho).trans
      (congrArg some (htorn.ok_iff.2 (removes_all x ht ob distinct hi hthere)))
  · cases hrs.symm.trans (hfails hi hgone)
    refine ⟨i, node, id, rest, hi, hgone, rfl, fun j node' ids' hj hless => ?_⟩
    rcases parted j node' ids' hj with hthere | ⟨id', rest', rfl, hgone'⟩
    · exact hthere
    · cases (hbefore j _ _ hj hless).symm.trans (hfails hj hgone')

end Obliging

end Runs

end Testbed
