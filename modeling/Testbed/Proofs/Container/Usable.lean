/-
**The first look that decides.**

A wait looks at a container until a look decides what has become of it, or the attempts are used up.
Whatever the looks are answered, the first answer that decides is the outcome, no look follows it,
and a pause stands between two looks and nowhere else.

Main definitions:

* `Testbed.ContainerDetails.Dead`, `Testbed.ContainerDetails.Settled` — what is reported of a
  container that is dead, and of one without a health check still to pass;
* `Testbed.Decides`, `Testbed.Decisive` — **what the answer to a look decides**, if it does;
* `Testbed.inTurn` — answers to looks, one after the other;
* `Testbed.Watched` — a wait up to the first look that decides.

Main results:

* `Testbed.ContainerState.verdict?_cases` — what is made of a look that was answered;
* `Testbed.watched_of_does` — **a wait goes up to the first look that decides**;
* `Testbed.Watched.result_of_does` — and ends with what that look decides;
* `Testbed.looks_behind_nap` — behind every pause there is another look.
-/

import Mathlib
import Testbed.Proofs.Container.Launch

set_option relaxedAutoImplicit false
set_option autoImplicit false

namespace Testbed

/-! ### What a look decides -/

namespace ContainerDetails

/-- Is a container dead?  Its status says so in any letter case, whatever its health. -/
def Dead (d : ContainerDetails) : Prop :=
  Text.sameWord d.status "dead" = true ∨ Text.sameWord d.status "exited" = true

/-- Has a container no health check, or one that has passed, in any letter case? -/
def Settled (d : ContainerDetails) : Prop := ∀ h ∈ d.health, Text.sameWord h "healthy" = true

end ContainerDetails

/-- **What the answer to a look decides**: a failure ends the wait, as does death, which counts
before the health. -/
inductive Decides :
    Except OperationError ContainerDetails → Except OperationError WaitOutcome → Prop
  | failed (e : OperationError) : Decides (.error e) (.error e)
  | dead {d : ContainerDetails} (dead : d.Dead) : Decides (.ok d) (.ok .dead)
  | usable {d : ContainerDetails} (alive : ¬ d.Dead) (settled : d.Settled) :
      Decides (.ok d) (.ok .healthy)

/-- Does the answer to a look decide anything? -/
def Decisive (a : Except OperationError ContainerDetails) : Prop := ∃ r, Decides a r

/-- An answer decides one thing at most. -/
theorem Decides.unique {a : Except OperationError ContainerDetails}
    {r r' : Except OperationError WaitOutcome} (h : Decides a r) (h' : Decides a r') : r = r' := by
  cases h with
  | failed e =>
      cases h'
      rfl
  | dead dead =>
      cases h' with
      | dead _ => rfl
      | usable alive _ => exact absurd dead alive
  | usable alive settled =>
      cases h' with
      | dead dead => exact absurd dead alive
      | usable _ _ => rfl

/-- A container that is alive and has a health check still to pass decides nothing. -/
theorem not_decisive {d : ContainerDetails} (alive : ¬ d.Dead) (pending : ¬ d.Settled) :
    ¬ Decisive (.ok d) := by
  rintro ⟨r, h⟩
  cases h with
  | dead dead => exact alive dead
  | usable _ settled => exact pending settled

namespace ContainerState

variable {d : ContainerDetails}

theorem isDead_iff : (ofDetails d).isDead = true ↔ d.Dead := Bool.or_eq_true_iff

theorem isOngoing_iff : (ofDetails d).isOngoing = true ↔ ¬ d.Settled := by
  show (d.health.any fun h => !Text.sameWord h "healthy") = true ↔ _
  unfold ContainerDetails.Settled
  cases d.health with
  | none => simp
  | some h => simp

/-- What is made of a look that was answered. -/
theorem verdict?_cases (d : ContainerDetails) :
    (d.Dead ∧ (ofDetails d).verdict? = some .dead) ∨
    (¬ d.Dead ∧ d.Settled ∧ (ofDetails d).verdict? = some .healthy) ∨
    (¬ d.Dead ∧ ¬ d.Settled ∧ (ofDetails d).verdict? = none) := by
  unfold verdict?
  by_cases hdead : d.Dead
  · exact .inl ⟨hdead, if_pos (isDead_iff.2 hdead)⟩
  rw [if_neg (mt isDead_iff.1 hdead)]
  by_cases hsettled : d.Settled
  · exact .inr (.inl ⟨hdead, hsettled, if_neg fun h => isOngoing_iff.1 h hsettled⟩)
  · exact .inr (.inr ⟨hdead, hsettled, if_pos (isOngoing_iff.2 hsettled)⟩)

end ContainerState

/-! ### Looks and pauses -/

/-- How long a deed sleeps, if it does. -/
def Deed.nap? : Deed → Option Nat
  | ⟨.sleep d, _⟩ => some d
  | _ => none

/-- The pauses among deeds. -/
def naps (ds : List Deed) : List Nat := ds.filterMap Deed.nap?

/-- Answers to looks, one after the other: every call before counts as one. -/
def inTurn (answers : Nat → Except OperationError ContainerDetails) (before : List Exchange) :
    (c : Call) → Except OperationError c.Answer
  | .inspect _ => answers before.length
  | _ => .error default

/-- The first looks at a container, as many as asked for. -/
def looks (id : String) (answers : Nat → Except OperationError ContainerDetails) (n : Nat) :
    List Exchange :=
  (List.range n).map fun i => ⟨.inspect id, answers i⟩

theorem looks_succ (id : String) (answers : Nat → Except OperationError ContainerDetails)
    (n : Nat) :
    looks id answers (n + 1) = ⟨.inspect id, answers 0⟩ :: looks id (fun i => answers (i + 1)) n := by
  unfold looks
  rw [List.range_succ_eq_map, List.map_cons, List.map_map]
  rfl

@[simp] theorem length_looks (id : String)
    (answers : Nat → Except OperationError ContainerDetails) (n : Nat) :
    (looks id answers n).length = n := by
  unfold looks
  rw [List.length_map, List.length_range]

/-- Behind the first call it is the turn of the next answer. -/
theorem inTurn_behind (answers : Nat → Except OperationError ContainerDetails) (x : Exchange) :
    (fun before => inTurn answers (x :: before)) = inTurn fun i => answers (i + 1) := by
  funext before c
  cases c <;> rfl

/-- Looks are answered one after the other. -/
theorem follows_looks (id : String) (answers : Nat → Except OperationError ContainerDetails)
    (n : Nat) : Exchange.Follows (inTurn answers) (looks id answers n) := by
  induction n generalizing answers with
  | zero => exact fun before x behind h => by simp [looks] at h
  | succ n ih =>
      rw [looks_succ, Exchange.follows_cons, inTurn_behind]
      exact ⟨rfl, ih _⟩

/-- Whatever looks at a container were answered, they were answered one after the other. -/
theorem exists_inTurn (id : String) {xs : List Exchange}
    (h : ∀ x ∈ xs, ∃ a, x = ⟨.inspect id, a⟩) :
    ∃ answers, Exchange.Follows (inTurn answers) xs := by
  induction xs with
  | nil => exact ⟨fun _ => .error default, fun before x behind h => by simp at h⟩
  | cons x xs ih =>
      obtain ⟨⟨a, rfl⟩, hxs⟩ := List.forall_mem_cons.1 h
      obtain ⟨answers, hanswers⟩ := ih hxs
      refine ⟨fun i => i.casesOn a answers, ?_⟩
      rw [Exchange.follows_cons, inTurn_behind]
      exact ⟨rfl, hanswers⟩

/-- **A wait up to the first look that decides**, or up to the last attempt. -/
inductive Watched (id : String) (interval n : Nat)
    (answers : Nat → Except OperationError ContainerDetails) (ds : List Deed)
    (r : Except OperationError WaitOutcome) : Prop
  | decided (k : Nat) (attempt : k < n) (first : ∀ i < k, ¬ Decisive (answers i))
      (verdict : Decides (answers k) r) (calls : exchanges ds = looks id answers (k + 1))
      (pauses : naps ds = List.replicate k interval)
  | exhausted (pending : ∀ i < n, ¬ Decisive (answers i)) (result : r = .ok .exhausted)
      (calls : exchanges ds = looks id answers n)
      (pauses : naps ds = List.replicate (n - 1) interval)

/-- One look that decides nothing, and the pause behind it if another look follows. -/
theorem Watched.later {id : String} {interval n : Nat}
    {answers : Nat → Except OperationError ContainerDetails} {ds : List Deed}
    {r : Except OperationError WaitOutcome} (pending : ¬ Decisive (answers 0))
    (h : Watched id interval (n + 1) (fun i => answers (i + 1)) ds r) :
    Watched id interval (n + 2) answers
      (⟨.call (.inspect id), answers 0⟩ :: ⟨.sleep interval, ()⟩ :: ds) r := by
  have hpending : ∀ k, (∀ i < k, ¬ Decisive (answers (i + 1))) →
      ∀ i < k + 1, ¬ Decisive (answers i) := by
    intro k hk i hi
    cases i with
    | zero => exact pending
    | succ i => exact hk i (by omega)
  cases h with
  | decided k attempt first verdict calls pauses =>
      refine .decided (k + 1) (by omega) (hpending k first) verdict ?_ ?_
      · rw [looks_succ, ← calls]
        rfl
      · rw [List.replicate_succ, ← pauses]
        rfl
  | exhausted rest result calls pauses =>
      refine .exhausted (hpending _ rest) result ?_ ?_
      · rw [looks_succ, ← calls]
        rfl
      · rw [show n + 2 - 1 = (n + 1 - 1) + 1 by omega, List.replicate_succ, ← pauses]
        rfl

/-! ### The course of a wait -/

/-- How a wait goes on behind what one look decides, with so many attempts left. -/
def heed (id : String) (interval left : Nat) :
    Option WaitOutcome → Script (Except OperationError WaitOutcome)
  | some .dead => .act (.count .waitDead) fun _ => .done (.ok .dead)
  | some outcome => .done (.ok outcome)
  | none =>
    if left = 0 then (waitFrom id interval 0).run
    else .act (.sleep interval) fun _ => (waitFrom id interval left).run

/-- How a wait goes on behind the answer to a look. -/
def waitBehind (id : String) (interval left : Nat) :
    Except OperationError ContainerDetails → Script (Except OperationError WaitOutcome)
  | .error e => .done (.error e)
  | .ok d => heed id interval left (ContainerState.ofDetails d).verdict?

theorem waitFrom_succ_run (id : String) (interval left : Nat) :
    (waitFrom id interval (left + 1)).run =
      .act (.call (.inspect id)) (waitBehind id interval left) := by
  unfold waitFrom inspectState
  rw [Operation.run_bind, Operation.run_call_bind]
  show Script.act _ _ = Script.act _ _
  congr 1
  funext a
  cases a with
  | error e => rfl
  | ok d =>
      show Operation.after _ (.ok (ContainerState.ofDetails d)) =
        heed id interval left (ContainerState.ofDetails d).verdict?
      rw [Operation.after_ok]
      cases (ContainerState.ofDetails d).verdict? with
      | some outcome => cases outcome <;> rfl
      | none =>
          unfold heed
          by_cases hleft : left = 0
          · subst hleft
            rfl
          · simp only [ne_eq, hleft, not_false_eq_true, if_true, if_false]
            rfl

/-- A wait without attempts. -/
theorem does_waitFrom_zero {id : String} {interval : Nat} {ds : List Deed}
    {r : Except OperationError WaitOutcome}
    (h : (waitFrom id interval 0).run.Does ds (.done r)) :
    r = .ok .exhausted ∧ exchanges ds = [] ∧ naps ds = [] := by
  rcases Script.does_act.1 h with ⟨-, hr⟩ | ⟨u, ds, rfl, h'⟩
  · cases hr
  obtain ⟨rfl, hr⟩ := Script.does_done.1 h'
  cases hr
  exact ⟨rfl, rfl, rfl⟩

/-- A wait with attempts left looks, and the answer decides or lets it go on. -/
theorem does_waitFrom_succ {id : String} {interval left : Nat} {ds : List Deed}
    {r : Except OperationError WaitOutcome}
    (h : (waitFrom id interval (left + 1)).run.Does ds (.done r)) :
    ∃ a ds', ds = ⟨.call (.inspect id), a⟩ :: ds' ∧
      ((Decides a r ∧ exchanges ds' = [] ∧ naps ds' = []) ∨
       (¬ Decisive a ∧ left = 0 ∧ r = .ok .exhausted ∧ exchanges ds' = [] ∧ naps ds' = []) ∨
       (¬ Decisive a ∧ left ≠ 0 ∧ ∃ ds'', ds' = ⟨.sleep interval, ()⟩ :: ds'' ∧
         (waitFrom id interval left).run.Does ds'' (.done r))) := by
  rw [waitFrom_succ_run] at h
  rcases Script.does_act.1 h with ⟨-, hr⟩ | ⟨a, ds', rfl, h₁⟩
  · cases hr
  refine ⟨a, ds', rfl, ?_⟩
  cases a with
  | error e =>
      obtain ⟨rfl, hr⟩ := Script.does_done.1 h₁
      cases hr
      exact .inl ⟨.failed e, rfl, rfl⟩
  | ok d =>
      change (heed id interval left (ContainerState.ofDetails d).verdict?).Does ds' _ at h₁
      rcases ContainerState.verdict?_cases d with ⟨hdead, hv⟩ | ⟨halive, hs, hv⟩ | ⟨halive, hs, hv⟩
      · rw [hv] at h₁
        rcases Script.does_act.1 h₁ with ⟨-, hr⟩ | ⟨u, ds', rfl, h₂⟩
        · cases hr
        obtain ⟨rfl, hr⟩ := Script.does_done.1 h₂
        cases hr
        exact .inl ⟨.dead hdead, rfl, rfl⟩
      · rw [hv] at h₁
        obtain ⟨rfl, hr⟩ := Script.does_done.1 h₁
        cases hr
        exact .inl ⟨.usable halive hs, rfl, rfl⟩
      · have hnot := not_decisive halive hs
        rw [hv] at h₁
        unfold heed at h₁
        by_cases hleft : left = 0
        · rw [if_pos hleft] at h₁
          exact .inr (.inl ⟨hnot, hleft, does_waitFrom_zero h₁⟩)
        · rw [if_neg hleft] at h₁
          rcases Script.does_act.1 h₁ with ⟨-, hr⟩ | ⟨u, ds'', rfl, h₂⟩
          · cases hr
          · exact .inr (.inr ⟨hnot, hleft, ds'', rfl, h₂⟩)

/-- **A wait goes up to the first look that decides.** -/
theorem watched_of_does {id : String} {interval n : Nat}
    {answers : Nat → Except OperationError ContainerDetails} {ds : List Deed}
    {r : Except OperationError WaitOutcome}
    (h : (waitFrom id interval n).run.Does ds (.done r))
    (answered : Exchange.Follows (inTurn answers) (exchanges ds)) :
    Watched id interval n answers ds r := by
  -- induction on the attempts: the answers behind the first one are those of a shorter wait
  induction n generalizing answers ds with
  | zero =>
      obtain ⟨rfl, hcalls, hnaps⟩ := does_waitFrom_zero h
      exact .exhausted (by omega) rfl hcalls hnaps
  | succ n ih =>
      obtain ⟨a, ds, rfl, hcases⟩ := does_waitFrom_succ h
      rw [exchanges_call, Exchange.follows_cons] at answered
      obtain ⟨hfirst, hrest⟩ := answered
      obtain rfl : a = answers 0 := hfirst
      rw [inTurn_behind] at hrest
      rcases hcases with ⟨hdecides, hcalls, hnaps⟩ | ⟨hnot, rfl, rfl, hcalls, hnaps⟩ |
        ⟨hnot, hn, ds, rfl, hlater⟩
      · refine .decided 0 (by omega) (by omega) hdecides ?_ hnaps
        rw [exchanges_call, hcalls]
        rfl
      · refine .exhausted (fun i hi => ?_) rfl ?_ hnaps
        · obtain rfl : i = 0 := by omega
          exact hnot
        · rw [exchanges_call, hcalls]
          rfl
      · obtain ⟨n, rfl⟩ := Nat.exists_eq_succ_of_ne_zero hn
        exact (ih hlater hrest).later hnot

/-- Whatever the looks of a wait were answered, it went up to the first of them that decides. -/
theorem exists_watched {id : String} {interval n : Nat} {ds : List Deed}
    {r : Except OperationError WaitOutcome}
    (h : (waitFrom id interval n).run.Does ds (.done r)) :
    ∃ answers, Watched id interval n answers ds r := by
  obtain ⟨answers, hanswers⟩ : ∃ answers, Exchange.Follows (inTurn answers) (exchanges ds) := by
    refine exists_inTurn id fun x hx => ?_
    have hlook := ((waitFrom_within id interval n).of_does h).2 _ (mem_exchanges.1 hx)
    obtain ⟨c, a⟩ := x
    cases hlook
    exact ⟨a, rfl⟩
  exact ⟨answers, watched_of_does h hanswers⟩

/-- The same looks decide the same. -/
theorem Watched.result_unique {id : String} {interval n : Nat}
    {answers : Nat → Except OperationError ContainerDetails} {ds : List Deed}
    {r r' : Except OperationError WaitOutcome} (h : Watched id interval n answers ds r)
    (h' : Watched id interval n answers ds r') : r = r' := by
  cases h with
  | decided k attempt first verdict calls pauses =>
      cases h' with
      | decided k' attempt' first' verdict' calls' pauses' =>
          have hlength := congrArg List.length (calls.symm.trans calls')
          rw [length_looks, length_looks] at hlength
          obtain rfl : k = k' := by omega
          exact verdict.unique verdict'
      | exhausted pending result calls' pauses' => exact absurd ⟨r, verdict⟩ (pending k attempt)
  | exhausted pending result calls pauses =>
      cases h' with
      | decided k attempt first verdict calls' pauses' =>
          exact absurd ⟨r', verdict⟩ (pending k attempt)
      | exhausted pending' result' calls' pauses' => rw [result, result']

/-- **A wait ends with what the first look that decides has decided.** -/
theorem Watched.result_of_does {id : String} {interval n : Nat}
    {answers : Nat → Except OperationError ContainerDetails} {ds : List Deed}
    {r r' : Except OperationError WaitOutcome} (h : Watched id interval n answers ds r)
    (hdoes : (waitFrom id interval n).run.Does ds (.done r')) : r' = r := by
  have hfollows : Exchange.Follows (inTurn answers) (exchanges ds) := by
    cases h with
    | decided k attempt first verdict calls pauses =>
        rw [calls]
        exact follows_looks id answers (k + 1)
    | exhausted pending result calls pauses =>
        rw [calls]
        exact follows_looks id answers n
  exact (watched_of_does hdoes hfollows).result_unique h

/-- **Behind every pause there is another look.** -/
theorem looks_behind_nap {id : String} {interval n : Nat} {before behind : List Deed} {nap : Deed}
    {r : Except OperationError WaitOutcome} (hnap : nap.nap?.isSome)
    (h : (waitFrom id interval n).run.Does (before ++ nap :: behind) (.done r)) :
    exchanges behind ≠ [] := by
  have hno : ∀ {before behind : List Deed}, naps (before ++ nap :: behind) ≠ [] := by
    intro before behind hnone
    have := List.filterMap_eq_nil_iff.1 hnone nap (by simp)
    rw [this] at hnap
    cases hnap
  induction n generalizing before with
  | zero => exact absurd (does_waitFrom_zero h).2.2 hno
  | succ n ih =>
      obtain ⟨a, ds, hds, hcases⟩ := does_waitFrom_succ h
      -- the first deed is a look, so the pause stands behind it
      cases before with
      | nil =>
          obtain ⟨rfl, -⟩ := List.cons.inj hds
          cases hnap
      | cons look before =>
          obtain ⟨-, rfl⟩ := List.cons.inj hds
          rcases hcases with ⟨-, -, hnone⟩ | ⟨-, -, -, -, hnone⟩ | ⟨-, hn, ds, hds, hlater⟩
          · exact absurd hnone hno
          · exact absurd hnone hno
          · cases before with
            | nil =>
                obtain ⟨-, rfl⟩ := List.cons.inj hds
                obtain ⟨n, rfl⟩ := Nat.exists_eq_succ_of_ne_zero hn
                obtain ⟨b, ds, rfl, -⟩ := does_waitFrom_succ hlater
                exact List.cons_ne_nil _ _
            | cons pause before =>
                obtain ⟨-, rfl⟩ := List.cons.inj hds
                exact ih hlater

/-- All pauses of a wait together. -/
theorem Watched.sum_naps {id : String} {interval n : Nat}
    {answers : Nat → Except OperationError ContainerDetails} {ds : List Deed}
    {r : Except OperationError WaitOutcome} (h : Watched id interval n answers ds r) :
    (naps ds).sum ≤ (n - 1) * interval := by
  cases h with
  | decided k attempt first verdict calls pauses =>
      rw [pauses, List.sum_replicate_nat]
      exact Nat.mul_le_mul_right _ (by omega)
  | exhausted pending result calls pauses =>
      exact Nat.le_of_eq (by rw [pauses, List.sum_replicate_nat])

/-! ### Every wait -/

/-- **A wait is decided by the first look that decides.**  Whatever the looks at a container are
answered, one after the other, there is one way for the wait to go.  It looks up to the first answer
that decides, within its attempts, and ends with what that answer decides; if there is none, it
looks as often as it may, and its attempts are exhausted.  Between two looks it pauses once; behind
the last one it does not, so all pauses together are those of one look fewer than there are
attempts. -/
theorem waitUntilUsable_first_decisive (id : String) (policy : WaitPolicy)
    (answers : Nat → Except OperationError ContainerDetails) :
    ∃ ds r, (waitUntilUsable id policy).run.Does ds (.done r) ∧
      Exchange.Follows (inTurn answers) (exchanges ds) ∧
      (∀ ds' r', (waitUntilUsable id policy).run.Does ds' (.done r') →
        Exchange.Follows (inTurn answers) (exchanges ds') → ds' = ds ∧ r' = r) ∧
      Watched id policy.interval policy.attempts answers ds r ∧
      (∀ before nap behind, ds = before ++ nap :: behind → nap.nap?.isSome →
        exchanges behind ≠ []) ∧
      (naps ds).sum ≤ (policy.attempts - 1) * policy.interval := by
  have hplain : (waitUntilUsable id policy).run.Within Action.IsPlain :=
    (waitUntilUsable_within id policy).mono fun x hx => by cases hx <;> trivial
  obtain ⟨ds, r, hdoes, hfollows⟩ := Script.Does.exists_follows (inTurn answers) hplain
  have hwatched := watched_of_does hdoes hfollows
  refine ⟨ds, r, hdoes, hfollows, fun ds' r' hdoes' hfollows' => ?_, hwatched, ?_,
    hwatched.sum_naps⟩
  · exact Script.Does.unique hplain hdoes' hdoes hfollows' hfollows
  · rintro before nap behind rfl hnap
    exact looks_behind_nap hnap hdoes

end Testbed
