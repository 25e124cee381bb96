/-
**What an ensemble comes to.**

The end of an ensemble depends on two things only: what the deeds of its leading thread were
answered, and what the scripts that it waited for have resulted in.  In which order the scripts
acted, and what they did, does not matter beyond that.

Main definition:

* `Testbed.Ensemble.Comes` — **the deeds and the results that an ensemble comes to its end by**.

Main results:

* `Testbed.Ensemble.Ends.comes` — a run to the end, seen by its leading thread;
* `Testbed.Ensemble.Comes.of_bind` — a composed ensemble, part after part;
* `Testbed.Ensemble.Comes.of_together`, `Testbed.Ensemble.Comes.of_fanOut` — scripts beside each
  other.
-/

import Testbed.Proofs.Script.Together

set_option relaxedAutoImplicit false
set_option autoImplicit false

namespace Testbed

namespace Ensemble

variable {τ α β : Type}

/-- **The deeds and the results that an ensemble comes to its end by**: the deeds of its leading
thread, the results that it waited for, and its own result. -/
inductive Comes : Ensemble τ α → List Deed → List τ → α → Prop
  | done (a : α) : Comes (.done a) [] [] a
  | act {x : Action} {next : x.Answer → Ensemble τ α} (a : x.Answer) {ds : List Deed} {rs : List τ}
      {b : α} : Comes (next a) ds rs b → Comes (.act x next) (⟨x, a⟩ :: ds) rs b
  | fork {s : Script τ} {next : Ensemble τ α} {ds : List Deed} {rs : List τ} {b : α} :
      Comes next ds rs b → Comes (.fork s next) ds rs b
  | join {next : τ → Ensemble τ α} (r : τ) {ds : List Deed} {rs : List τ} {b : α} :
      Comes (next r) ds rs b → Comes (.join next) ds (r :: rs) b

theorem Does.comes {e : Ensemble τ α} {ms : List (Move τ)} {a : α} (h : e.Does ms (.done a)) :
    e.Comes (ms.filterMap Move.deed?) (ms.filterMap Move.join?) a := by
  generalize hend : (Ensemble.done a : Ensemble τ α) = e' at h
  induction h with
  | nil e =>
      subst hend
      exact .done a
  | act y _ ih => exact .act y (ih hend)
  | fork _ ih => exact .fork (ih hend)
  | join r _ ih => exact .join r (ih hend)

/-- **A run to the end, seen by its leading thread.** -/
theorem Ends.comes {W : Type} {p : Performer W} {e : Ensemble τ α} {w v : W} {ms : History τ}
    {a : α} (h : e.Ends p w ms a v) : e.Comes (ms.deedsOf .lead) ms.results a := by
  obtain ⟨t, run, ht⟩ := h
  have hlead := run.explained.lead
  rw [ht] at hlead
  exact hlead.comes

namespace Comes

variable {ds : List Deed} {rs : List τ} {a : α} {b : β}

/-- **A composed ensemble** comes to its end part after part. -/
theorem of_bind {e : Ensemble τ α} {f : α → Ensemble τ β} (h : (e.bind f).Comes ds rs b) :
    ∃ ds₁ ds₂ rs₁ rs₂ a, ds = ds₁ ++ ds₂ ∧ rs = rs₁ ++ rs₂ ∧ e.Comes ds₁ rs₁ a ∧
      (f a).Comes ds₂ rs₂ b := by
  induction e generalizing ds rs with
  | done a => exact ⟨[], ds, [], rs, a, rfl, rfl, .done a, h⟩
  | act x next ih =>
      cases h with
      | act y h =>
          obtain ⟨ds₁, ds₂, rs₁, rs₂, a, rfl, rfl, h₁, h₂⟩ := ih y h
          exact ⟨_ :: ds₁, ds₂, rs₁, rs₂, a, rfl, rfl, .act y h₁, h₂⟩
  | fork s next ih =>
      cases h with
      | fork h =>
          obtain ⟨ds₁, ds₂, rs₁, rs₂, a, rfl, rfl, h₁, h₂⟩ := ih h
          exact ⟨ds₁, ds₂, rs₁, rs₂, a, rfl, rfl, .fork h₁, h₂⟩
  | join next ih =>
      cases h with
      | join r h =>
          obtain ⟨ds₁, ds₂, rs₁, rs₂, a, rfl, rfl, h₁, h₂⟩ := ih r h
          exact ⟨ds₁, ds₂, r :: rs₁, rs₂, a, rfl, rfl, .join r h₁, h₂⟩

theorem of_ofScript {s : Script α} (h : (ofScript s : Ensemble τ α).Comes ds rs a) :
    s.Does ds (.done a) ∧ rs = [] := by
  induction s generalizing ds with
  | done c =>
      cases h
      exact ⟨.nil _, rfl⟩
  | act x next ih =>
      cases h with
      | act y h =>
          obtain ⟨hdoes, hrs⟩ := ih y h
          exact ⟨.cons y hdoes, hrs⟩

/-- To start scripts shows nothing. -/
theorem of_forkAll {ss : List (Script τ)} {f : Unit → Ensemble τ α}
    (h : ((forkAll ss).bind f).Comes ds rs a) : (f ()).Comes ds rs a := by
  induction ss with
  | nil => exact h
  | cons s ss ih =>
      cases h with
      | fork h => exact ih h

theorem of_joinAll {n : Nat} {rs' : List τ} (h : (joinAll n).Comes ds rs rs') :
    ds = [] ∧ rs' = rs ∧ rs.length = n := by
  induction n generalizing ds rs rs' with
  | zero =>
      cases h
      exact ⟨rfl, rfl, rfl⟩
  | succ n ih =>
      cases h with
      | join r h =>
          obtain ⟨ds₁, ds₂, rs₁, rs₂, later, rfl, rfl, h₁, h₂⟩ := h.of_bind
          obtain ⟨rfl, rfl, hlen⟩ := ih h₁
          cases h₂
          exact ⟨rfl, by simp, by simp [hlen]⟩

/-- **Scripts beside each other** come to their results, all of which are waited for. -/
theorem of_together {ss : List (Script τ)} {rs' : List τ} (h : (together ss).Comes ds rs rs') :
    ds = [] ∧ rs' = rs ∧ rs.length = ss.length := of_joinAll (of_forkAll h)

theorem of_fanOut {ss : List (Script τ)} {g : List τ → Script α} (h : (fanOut ss g).Comes ds rs a) :
    rs.length = ss.length ∧ (g rs).Does ds (.done a) := by
  obtain ⟨ds₁, ds₂, rs₁, rs₂, results, rfl, rfl, htogether, hrest⟩ := h.of_bind
  obtain ⟨rfl, rfl, hlen⟩ := htogether.of_together
  obtain ⟨hdoes, rfl⟩ := hrest.of_ofScript
  rw [List.append_nil]
  exact ⟨hlen, hdoes⟩

end Comes

end Ensemble

end Testbed
