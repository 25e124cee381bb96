/-
**Shuffles.**

A shuffle of some rows takes the elements of all of them, each row in its own order, and the rows in
any.  What the threads of an ensemble do is shuffled in the history of a run, whatever is picked out
of it.

Main definition:

* `Testbed.Shuffle` — **a row that shuffles other rows**.

Main results:

* `Testbed.Shuffle.perm`, `Testbed.Shuffle.sublist` — nothing is lost or doubled, and each row keeps
  its order;
* `Testbed.Shuffle.filterMap` — what is picked out of a shuffle shuffles what is picked out of its
  rows;
* `Testbed.History.collect_shuffle` — **a history shuffles what its scripts yield**.
-/

import Mathlib
import Testbed.Proofs.Script.Histories

set_option relaxedAutoImplicit false
set_option autoImplicit false

namespace Testbed

variable {α β : Type}

/-- **A row that shuffles other rows**: it takes the first element of one of them, and shuffles what
is left, until all rows are empty. -/
inductive Shuffle : List (List α) → List α → Prop
  | nil {rows : List (List α)} (h : ∀ row ∈ rows, row = []) : Shuffle rows []
  | cons {before after : List (List α)} {row s : List α} (a : α)
      (h : Shuffle (before ++ row :: after) s) : Shuffle (before ++ (a :: row) :: after) (a :: s)

namespace Shuffle

variable {rows : List (List α)} {s : List α}

/-- A shuffle has the elements of its rows, each as often as they have it. -/
theorem perm (h : Shuffle rows s) : s.Perm rows.flatten := by
  induction h with
  | nil hrows => rw [List.flatten_eq_nil_iff.2 hrows]
  | cons a _ ih =>
      simp only [List.flatten_append, List.flatten_cons, List.cons_append] at ih ⊢
      exact (ih.cons a).trans List.perm_middle.symm

/-- A shuffle is as long as its rows together. -/
theorem length_eq (h : Shuffle rows s) : s.length = (rows.map List.length).sum := by
  rw [h.perm.length_eq, List.length_flatten]

/-- Every row stands in a shuffle in its order. -/
theorem sublist (h : Shuffle rows s) {row : List α} (hrow : row ∈ rows) : row.Sublist s := by
  induction h generalizing row with
  | nil hrows => rw [hrows row hrow]
  | @cons before after rest s a _ ih =>
      rcases List.mem_append.1 hrow with hrow | hrow
      · exact (ih (List.mem_append_left _ hrow)).cons a
      · rcases List.mem_cons.1 hrow with rfl | hrow
        · exact (ih (by simp)).cons_cons a
        · exact (ih (by simp [hrow])).cons a

/-- **What is picked out of a shuffle** shuffles what is picked out of its rows. -/
theorem filterMap (h : Shuffle rows s) (f : α → Option β) :
    Shuffle (rows.map (List.filterMap f)) (s.filterMap f) := by
  induction h with
  | nil hrows =>
      refine .nil fun row hrow => ?_
      obtain ⟨row, hmem, rfl⟩ := List.mem_map.1 hrow
      rw [hrows row hmem, List.filterMap_nil]
  | cons a _ ih =>
      rw [List.map_append, List.map_cons] at ih ⊢
      cases hf : f a with
      | none => rwa [List.filterMap_cons_none hf, List.filterMap_cons_none hf]
      | some b =>
          rw [List.filterMap_cons_some hf, List.filterMap_cons_some hf]
          exact ih.cons b

/-- One more element in front of one of several rows. -/
theorem cons_map {ι : Type} {is : List ι} (hnodup : is.Nodup) {i : ι} (hi : i ∈ is)
    {f g : ι → List α} {a : α} (hsame : ∀ j, j ≠ i → g j = f j) (hone : g i = a :: f i)
    (h : Shuffle (is.map f) s) : Shuffle (is.map g) (a :: s) := by
  obtain ⟨before, after, rfl⟩ := List.append_of_mem hi
  have hne := List.nodup_middle.1 hnodup
  rw [List.nodup_cons, List.mem_append, not_or] at hne
  have hbefore : before.map g = before.map f :=
    List.map_congr_left fun j hj => hsame j fun h => hne.1.1 (h ▸ hj)
  have hafter : after.map g = after.map f :=
    List.map_congr_left fun j hj => hsame j fun h => hne.1.2 (h ▸ hj)
  rw [List.map_append, List.map_cons] at h ⊢
  rw [hbefore, hafter, hone]
  exact h.cons a

end Shuffle

namespace History

variable {τ : Type}

/-- What one more move adds to the yield of a thread. -/
theorem filterMap_deedsOf_cons (f : Thread → Deed → Option β) (who : Thread)
    (m : Thread × Move τ) (ms : History τ) :
    (deedsOf who (m :: ms)).filterMap (f who) =
      (if m.1 = who then (m.2.deed?.bind (f who)).toList else []) ++
        (ms.deedsOf who).filterMap (f who) := by
  rw [deedsOf_cons, deedsOf_single, List.filterMap_append]
  congr 1
  split
  · cases m.2.deed? with
    | none => rfl
    | some d => cases h : f who d <;> simp [h]
  · rfl

/-- **A history shuffles what its scripts yield.** -/
theorem collect_shuffle (f : Thread → Deed → Option β) {n : Nat} {ms : History τ}
    (h : ∀ who d, (who, .deed d) ∈ ms → ∃ i, who = .script i ∧ i < n) :
    Shuffle ((List.range n).map fun i => (ms.deedsOf (.script i)).filterMap (f (.script i)))
      (ms.collect f) := by
  induction ms with
  | nil =>
      refine .nil fun row hrow => ?_
      obtain ⟨i, -, rfl⟩ := List.mem_map.1 hrow
      rfl
  | cons m ms ih =>
      have ih := ih fun who d hd => h who d (List.mem_cons_of_mem m hd)
      obtain ⟨who, m⟩ := m
      rw [collect_cons]
      cases hyield : m.deed?.bind (f who) with
      | none =>
          -- the move yields nothing, whichever thread made it
          have hsame (i : Nat) : (deedsOf (.script i) ((who, m) :: ms)).filterMap (f (.script i)) =
              (deedsOf (.script i) ms).filterMap (f (.script i)) := by
            rw [filterMap_deedsOf_cons]
            by_cases hi : who = .script i
            · subst hi
              rw [if_pos rfl, hyield]
              rfl
            · rw [if_neg hi]
              rfl
          simpa only [hsame, Option.toList_none, List.nil_append] using ih
      | some b =>
          obtain ⟨d, hd, hb⟩ := Option.bind_eq_some_iff.1 hyield
          obtain rfl : m = .deed d := by cases m <;> simp_all
          obtain ⟨i, rfl, hi⟩ := h who d List.mem_cons_self
          refine ih.cons_map List.nodup_range (List.mem_range.2 hi) (fun j hj => ?_) ?_
          · have hij : Thread.script i ≠ .script j := fun heq => hj (by cases heq; rfl)
            rw [filterMap_deedsOf_cons, if_neg hij, List.nil_append]
          · rw [filterMap_deedsOf_cons, if_pos rfl, hyield]
            rfl

end History

end Testbed
