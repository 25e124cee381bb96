/-
**Faults that are heeded.**

Most operations stop at the first thing that goes wrong: the deed that was answered with a fault is
the last one, and its failure is the result.  A script that heeds faults in this way may still fail
on its own account, without any fault, if it does not like what it was answered.  Scripts that heed
faults can be composed.

Main definitions:

* `Testbed.Script.Heeds` — **a script that ends at the first fault**;
* `Testbed.Heeded` — what this means for the deeds of the script and its result;
* `Testbed.Deed.failure?` — the failure that a call was answered with.

Main results:

* `Testbed.Script.Heeds.of_does` — a script that heeds faults has heeded them at its end;
* `Testbed.Script.heeds_bind`, `Testbed.Script.heeds_adapt` — composition;
* `Testbed.Heeded.of_fault` — **behind a fault there is nothing but its failure**.
-/

import Testbed.Proofs.Script.Deeds

set_option relaxedAutoImplicit false
set_option autoImplicit false

namespace Testbed

variable {ε δ α β : Type} {fault : Deed → Option ε} {own : ε → Prop}

/-! ### Faults among deeds -/

/-- **Deeds up to the first fault**: either there is none, and a failure is one of the script's own,
or the last deed is the only one with a fault, and its failure is the result. -/
inductive Heeded (fault : Deed → Option ε) (own : ε → Prop) : List Deed → Except ε α → Prop
  | smooth {ds : List Deed} {r : Except ε α} (clean : ∀ d ∈ ds, fault d = none)
      (owned : ∀ e, r = .error e → own e) : Heeded fault own ds r
  | broken {ds : List Deed} {d : Deed} {e : ε} (clean : ∀ d ∈ ds, fault d = none)
      (cause : fault d = some e) : Heeded fault own (ds ++ [d]) (.error e)

namespace Heeded

variable {ds : List Deed} {r : Except ε α}

theorem cons {d : Deed} (hd : fault d = none) (h : Heeded fault own ds r) :
    Heeded fault own (d :: ds) r := by
  cases h with
  | smooth clean owned => exact .smooth (List.forall_mem_cons.2 ⟨hd, clean⟩) owned
  | broken clean cause => exact .broken (List.forall_mem_cons.2 ⟨hd, clean⟩) cause

theorem only {d : Deed} {e : ε} (hd : fault d = some e) :
    Heeded fault own [d] (.error e : Except ε α) :=
  .broken (List.forall_mem_nil _) hd

theorem append {before : List Deed} (clean : ∀ d ∈ before, fault d = none)
    (h : Heeded fault own ds r) : Heeded fault own (before ++ ds) r := by
  induction before with
  | nil => exact h
  | cons d before ih =>
      obtain ⟨hd, hrest⟩ := List.forall_mem_cons.1 clean
      exact (ih hrest).cons hd

/-- **Behind a fault there is nothing but its failure.** -/
theorem of_fault {before behind : List Deed} {d : Deed} {e : ε}
    (h : Heeded fault own (before ++ d :: behind) r) (hd : fault d = some e) :
    behind = [] ∧ r = .error e := by
  generalize hds : before ++ d :: behind = ds at h
  cases h with
  | smooth clean owned =>
      have hclean := clean d (by simp [← hds])
      rw [hclean] at hd
      cases hd
  | @broken ds d' e' clean cause =>
      -- all deeds but the last are without fault
      rcases List.eq_nil_or_concat behind with rfl | ⟨behind, d'', rfl⟩
      · obtain ⟨-, hlast⟩ := List.append_inj' hds rfl
        obtain rfl : d = d' := by simpa using hlast
        exact ⟨rfl, congrArg _ (Option.some.inj (cause.symm.trans hd))⟩
      · rw [List.concat_eq_append, ← List.cons_append, ← List.append_assoc] at hds
        obtain ⟨hinit, -⟩ := List.append_inj' hds rfl
        have hclean := clean d (by simp [← hinit])
        rw [hclean] at hd
        cases hd

/-- A fault that was met is the result. -/
theorem error_of_mem {d : Deed} {e : ε} (h : Heeded fault own ds r) (hmem : d ∈ ds)
    (hd : fault d = some e) : r = .error e := by
  obtain ⟨before, behind, rfl⟩ := List.append_of_mem hmem
  exact (h.of_fault hd).2

/-- What is made of a result does not matter. -/
theorem map {f : α → β} (h : Heeded fault own ds r) : Heeded fault own ds (r.map f) := by
  cases h with
  | smooth clean owned =>
      refine .smooth clean fun e he => owned e ?_
      cases r with
      | ok a => cases he
      | error e' => exact congrArg _ (Except.error.inj he)
  | broken clean cause => exact .broken clean cause

/-- A failure is that of the last deed, or the script's own. -/
theorem error_cases {e : ε} (h : Heeded fault own ds (.error e : Except ε α)) :
    (∃ before d, ds = before ++ [d] ∧ fault d = some e) ∨ own e := by
  generalize hr : (Except.error e : Except ε α) = r at h
  cases h with
  | smooth clean owned => exact .inr (owned e hr.symm)
  | broken clean cause =>
      cases hr
      exact .inl ⟨_, _, rfl, cause⟩

/-- Where there is no fault, a failure is the script's own. -/
theorem owned_of_clean {e : ε} (h : Heeded fault own ds (.error e : Except ε α))
    (clean : ∀ d ∈ ds, fault d = none) : own e := by
  rcases h.error_cases with ⟨before, d, rfl, hd⟩ | hown
  · rw [clean d (by simp)] at hd
    cases hd
  · exact hown

end Heeded

/-! ### Scripts that heed faults -/

namespace Script

/-- **A script that ends at the first fault**, with the failure that the fault is, and whose other
failures are of some kind of its own. -/
def Heeds (fault : Deed → Option ε) (own : ε → Prop) : Script (Except ε α) → Prop
  | .done r => ∀ e, r = .error e → own e
  | .act x next => ∀ a,
    (fault ⟨x, a⟩ = none → (next a).Heeds fault own) ∧
      ∀ e, fault ⟨x, a⟩ = some e → next a = .done (.error e)

theorem Heeds.of_does {s : Script (Except ε α)} {ds : List Deed} {r : Except ε α}
    (hs : s.Heeds fault own) (h : s.Does ds (.done r)) : Heeded fault own ds r := by
  induction s generalizing ds with
  | done r' =>
      obtain ⟨rfl, hr⟩ := does_done.1 h
      cases hr
      exact .smooth (by simp) hs
  | act x next ih =>
      rcases does_act.1 h with ⟨-, hr⟩ | ⟨a, ds, rfl, hrest⟩
      · cases hr
      cases hfault : fault ⟨x, a⟩ with
      | none => exact (ih a ((hs a).1 hfault) hrest).cons hfault
      | some e =>
          rw [(hs a).2 e hfault] at hrest
          obtain ⟨rfl, hr⟩ := does_done.1 hrest
          cases hr
          exact .only hfault

/-- Two ways to see faults that agree on the actions of a script. -/
theorem Heeds.congr {fault' : Deed → Option ε} {P : Action → Prop} {s : Script (Except ε α)}
    (h : s.Heeds fault own) (hs : s.Within P) (hfault : ∀ x a, P x → fault' ⟨x, a⟩ = fault ⟨x, a⟩) :
    s.Heeds fault' own := by
  induction s with
  | done r => exact h
  | act x next ih =>
      intro a
      rw [hfault x a hs.1]
      exact ⟨fun hnone => ih a ((h a).1 hnone) (hs.2 a), (h a).2⟩

theorem Heeds.mono {own' : ε → Prop} (hown : ∀ e, own e → own' e) {s : Script (Except ε α)}
    (h : s.Heeds fault own) : s.Heeds fault own' := by
  induction s with
  | done r => exact fun e he => hown e (h e he)
  | act x next ih => exact fun a => ⟨fun hnone => ih a ((h a).1 hnone), (h a).2⟩

theorem heeds_bind {s : ExceptT ε Script α} {f : α → ExceptT ε Script β}
    (hs : s.run.Heeds fault own) (hf : ∀ a, (f a).run.Heeds fault own) :
    (s >>= f).run.Heeds fault own := by
  change (Script.bind s.run _).Heeds fault own
  revert hs
  generalize s.run = t
  intro hs
  induction t with
  | done r =>
      cases r with
      | ok a => exact hf a
      | error e =>
          intro e' he'
          cases he'
          exact hs e rfl
  | act x next ih =>
      refine fun a => ⟨fun hnone => ih a ((hs a).1 hnone), fun e he => ?_⟩
      change Script.bind (next a) _ = _
      rw [(hs a).2 e he]
      rfl

/-- Faults as they are seen by a caller who words them in another way. -/
theorem heeds_adapt {own' : δ → Prop} (g : ε → δ) (hown : ∀ e, own e → own' (g e))
    {s : ExceptT ε Script α} (hs : s.run.Heeds fault own) :
    (s.adapt g).run.Heeds (fun d => (fault d).map g) own' := by
  change (Script.bind s.run _).Heeds _ own'
  revert hs
  generalize s.run = t
  intro hs
  induction t with
  | done r =>
      intro e' he'
      cases r with
      | ok a => cases he'
      | error e =>
          cases he'
          exact hown e (hs e rfl)
  | act x next ih =>
      refine fun a => ⟨fun hnone => ih a ((hs a).1 (Option.map_eq_none_iff.1 hnone)), ?_⟩
      intro e' he'
      obtain ⟨e, he, rfl⟩ := Option.map_eq_some_iff.1 he'
      change Script.bind (next a) _ = _
      rw [(hs a).2 e he]
      rfl

/-- One action, and what is made of its answer: a fault, or a result or a failure of the script's
own. -/
theorem heeds_act {x : Action} (f : x.Answer → Except ε α)
    (h : ∀ a, (fault ⟨x, a⟩ = none ∧ ∀ e, f a = .error e → own e) ∨
      ∃ e, fault ⟨x, a⟩ = some e ∧ f a = .error e) :
    (Script.act x fun a => .done (f a)).Heeds fault own := by
  intro a
  rcases h a with ⟨hnone, hown⟩ | ⟨e, hsome, hf⟩
  · exact ⟨fun _ => hown, fun e he => by rw [hnone] at he; cases he⟩
  · refine ⟨fun hnone => ?_, fun e' he' => ?_⟩
    · rw [hnone] at hsome
      cases hsome
    · obtain rfl : e = e' := Option.some.inj (hsome.symm.trans he')
      exact congrArg done hf

/-- A script that has ended has acted, and has gone on to its end. -/
theorem Does.ends_of_act {x : Action} {next : x.Answer → Script α} {ds : List Deed} {b : α}
    (h : (act x next).Does ds (.done b)) :
    ∃ a ds', ds = ⟨x, a⟩ :: ds' ∧ (next a).Does ds' (.done b) := by
  rcases does_act.1 h with ⟨-, hend⟩ | hrest
  · cases hend
  · exact hrest

/-- A composed script that has ended has ended in both parts. -/
theorem Does.ends_of_bind {s : Script α} {f : α → Script β} {ds : List Deed} {b : β}
    (h : (s.bind f).Does ds (.done b)) :
    ∃ ds₁ ds₂ a, ds = ds₁ ++ ds₂ ∧ s.Does ds₁ (.done a) ∧ (f a).Does ds₂ (.done b) := by
  rcases h.of_bind with ⟨t, hdoes, hend⟩ | hparts
  · cases t with
    | done a => exact ⟨ds, [], a, by simp, hdoes, by simp [hend, bind]⟩
    | act x next => cases hend
  · exact hparts

end Script

/-! ### Calls -/

/-- The failure that a call was answered with. -/
def Deed.failure? : Deed → Option OperationError
  | ⟨.call _, .error e⟩ => some e
  | _ => none

theorem Operation.heeds_call {own : OperationError → Prop} (c : Call) :
    (Operation.call c).run.Heeds Deed.failure? own := by
  refine Script.heeds_act (x := .call c) (fun a => a) fun a => ?_
  cases a with
  | ok b => exact .inl ⟨rfl, nofun⟩
  | error e => exact .inr ⟨e, rfl, rfl⟩

end Testbed
