/-
**What many outcomes amount to.**

Whatever is done for several nodes beside each other has one outcome in the end: the first failure
in the order of the nodes, or else whether all went well.  It makes no difference whether the
outcomes are taken together at once or group by group.

Main definition:

* `Testbed.Joined` — **the outcome that many outcomes amount to**.

Main results:

* `Testbed.joined_iff` — `conjunction` computes it;
* `Testbed.Orchestrator.conjunction_flatten` — groups of outcomes amount to what all outcomes
  amount to.
-/

import Testbed.Network.Start

set_option relaxedAutoImplicit false
set_option autoImplicit false

namespace Testbed

/-- **What many outcomes amount to**: the first failure, or else whether all are `true`. -/
inductive Joined : List (Except OperationError Bool) → Except OperationError Bool → Prop
  | failed (flags : List Bool) (e : OperationError) (later : List (Except OperationError Bool)) :
      Joined (flags.map .ok ++ .error e :: later) (.error e)
  | passed (flags : List Bool) : Joined (flags.map .ok) (.ok (flags.all id))

namespace Orchestrator

@[simp] theorem conjunction_nil : conjunction [] = .ok true := rfl

@[simp] theorem conjunction_ok (b : Bool) (os : List (Except OperationError Bool)) :
    conjunction (.ok b :: os) = (conjunction os).map (b && ·) := by
  unfold conjunction allOk
  rw [List.mapM_cons]
  cases List.mapM id os <;> rfl

theorem conjunction_append (os later : List (Except OperationError Bool)) :
    conjunction (os ++ later) = conjunction (conjunction os :: later) := by
  induction os with
  | nil =>
      rw [List.nil_append, conjunction_nil, conjunction_ok]
      cases conjunction later <;> rfl
  | cons o os ih =>
      cases o with
      | error e => rfl
      | ok b =>
          rw [List.cons_append, conjunction_ok, ih, conjunction_ok]
          cases conjunction os with
          | error e => rfl
          | ok c =>
              show _ = conjunction (.ok (b && c) :: later)
              rw [conjunction_ok, conjunction_ok]
              cases conjunction later with
              | error e => rfl
              | ok d => exact congrArg Except.ok (Bool.and_assoc b c d).symm

/-- **Groups of outcomes** amount to what all outcomes amount to. -/
theorem conjunction_flatten (groups : List (List (Except OperationError Bool))) :
    conjunction groups.flatten = conjunction (groups.map conjunction) := by
  induction groups with
  | nil => rfl
  | cons os groups ih =>
      rw [List.flatten_cons, conjunction_append, List.map_cons]
      cases conjunction os with
      | error e => rfl
      | ok b => rw [conjunction_ok, conjunction_ok, ih]

end Orchestrator

open Orchestrator

theorem Joined.cons_ok {os : List (Except OperationError Bool)} {r : Except OperationError Bool}
    (b : Bool) (h : Joined os r) : Joined (.ok b :: os) (r.map (b && ·)) := by
  cases h with
  | failed flags e later => exact .failed (b :: flags) e later
  | passed flags => exact .passed (b :: flags)

theorem joined_conjunction (os : List (Except OperationError Bool)) :
    Joined os (conjunction os) := by
  induction os with
  | nil => exact .passed []
  | cons o os ih =>
      cases o with
      | error e => exact .failed [] e os
      | ok b =>
          rw [conjunction_ok]
          exact ih.cons_ok b

theorem Joined.eq_conjunction {os : List (Except OperationError Bool)}
    {r : Except OperationError Bool} (h : Joined os r) : r = conjunction os := by
  cases h with
  | failed flags e later =>
      induction flags with
      | nil => rfl
      | cons b flags ih =>
          rw [List.map_cons, List.cons_append, conjunction_ok, ← ih]
          rfl
  | passed flags =>
      induction flags with
      | nil => rfl
      | cons b flags ih =>
          rw [List.map_cons, conjunction_ok, ← ih]
          rfl

theorem joined_iff {os : List (Except OperationError Bool)} {r : Except OperationError Bool} :
    Joined os r ↔ r = conjunction os :=
  ⟨Joined.eq_conjunction, fun h => h ▸ joined_conjunction os⟩

theorem Joined.ok_true_iff {os : List (Except OperationError Bool)}
    {r : Except OperationError Bool} (h : Joined os r) : r = .ok true ↔ ∀ o ∈ os, o = .ok true := by
  cases h with
  | failed flags e later =>
      constructor
      · intro h
        cases h
      · intro h
        cases h (.error e) (by simp)
  | passed flags =>
      constructor
      · intro h o ho
        obtain ⟨b, hb, rfl⟩ := List.mem_map.1 ho
        have hall := List.all_eq_true.1 (Except.ok.inj h) b hb
        exact congrArg Except.ok hall
      · intro h
        refine congrArg Except.ok (List.all_eq_true.2 fun b hb => ?_)
        exact Except.ok.inj (h (.ok b) (List.mem_map.2 ⟨b, hb, rfl⟩))

theorem Joined.mem_ok_false {os : List (Except OperationError Bool)}
    (h : Joined os (.ok false)) : .ok false ∈ os := by
  generalize hr : (Except.ok false : Except OperationError Bool) = r at h
  cases h with
  | failed flags e later => cases hr
  | passed flags =>
      have hall : flags.all id = false := (Except.ok.inj hr).symm
      obtain ⟨b, hb, hid⟩ := List.all_eq_false.1 hall
      have hfalse : b = false := Bool.eq_false_iff.2 hid
      exact List.mem_map.2 ⟨b, hb, by rw [hfalse, hall]⟩

/-- A failure is the first one. -/
theorem Joined.first_error {os : List (Except OperationError Bool)} {e : OperationError}
    (h : Joined os (.error e)) :
    ∃ i : Nat, os[i]? = some (.error e) ∧ ∀ j < i, ∃ b, os[j]? = some (.ok b) := by
  generalize hr : (Except.error e : Except OperationError Bool) = r at h
  cases h with
  | failed flags e' later =>
      cases hr
      refine ⟨flags.length, ?_, fun j hj => ⟨flags[j], ?_⟩⟩
      · rw [List.getElem?_append_right (by simp)]
        simp
      · rw [List.getElem?_append_left (by simpa using hj), List.getElem?_map,
          List.getElem?_eq_getElem hj]
        rfl
  | passed flags => cases hr

end Testbed
