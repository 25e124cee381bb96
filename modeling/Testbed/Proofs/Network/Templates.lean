/-
**The first round that decides.**

The wait for a network looks at all its containers at once, round after round, until a round decides
what has become of them, or the rounds are used up.  In a round every container is looked at, even
if some look fails; what the round decides is decided by all answers together.  A pause stands
between two rounds and nowhere else, but for the one that gives fresh peers time to find each other.

Main definitions:

* `Testbed.RoundDecides`, `Testbed.RoundDecisive` — **what the answers of a round decide**, if they
  do;
* `Testbed.LookedAt`, `Testbed.Rounds` — the history of one round, and of rounds with pauses between
  them;
* `Testbed.Concludes` — how many rounds there are, and what they come to.

Main results:

* `Testbed.Round.judge_cases` — what is made of the answers of a round;
* `Testbed.finishes_waitRounds_succ` — one round, and how the wait goes on behind it;
* `Testbed.course_of_finishes` — **a wait goes up to the first round that decides**.
-/

import Testbed.Network.Templates
import Testbed.Proofs.Container.Usable
import Testbed.Proofs.Script.Rounds
import Testbed.Rehearsal.World

set_option relaxedAutoImplicit false
set_option autoImplicit false

namespace Testbed

/-! ### What a round decides -/

/-- **What the answers of a round decide**: the first failure ends the wait, even if a container is
dead; then the first death does, even if others have a health check still to pass. -/
inductive RoundDecides :
    List (Except OperationError ContainerDetails) → Except OperationError Unit → Prop
  | failed (before : List ContainerDetails) (e : OperationError)
      (later : List (Except OperationError ContainerDetails)) :
      RoundDecides (before.map .ok ++ .error e :: later) (.error e)
  | dead (before later : List ContainerDetails) (d : ContainerDetails)
      (alive : ∀ x ∈ before, ¬ x.Dead) (dead : d.Dead) :
      RoundDecides ((before ++ d :: later).map .ok) (.error (.networkNotReady
        ("container " ++ d.name ++ " (" ++ shortId d.id ++ ") is " ++ d.status)))
  | ready (ds : List ContainerDetails) (alive : ∀ d ∈ ds, ¬ d.Dead) (settled : ∀ d ∈ ds, d.Settled) :
      RoundDecides (ds.map .ok) (.ok ())

/-- Do the answers of a round decide anything? -/
def RoundDecisive (row : List (Except OperationError ContainerDetails)) : Prop :=
  ∃ r, RoundDecides row r

theorem error_mem_or_all_ok {α ε : Type} (row : List (Except ε α)) :
    (∃ (before : List α) (e : ε) (later : List (Except ε α)),
        row = before.map .ok ++ .error e :: later) ∨ ∃ as : List α, row = as.map .ok := by
  induction row with
  | nil => exact .inr ⟨[], rfl⟩
  | cons a row ih =>
      cases a with
      | error e => exact .inl ⟨[], e, row, rfl⟩
      | ok a =>
          rcases ih with ⟨before, e, later, rfl⟩ | ⟨as, rfl⟩
          · exact .inl ⟨a :: before, e, later, rfl⟩
          · exact .inr ⟨a :: as, rfl⟩

/-- Containers that are alive, some of them with a health check still to pass, decide nothing. -/
theorem not_roundDecisive {ds : List ContainerDetails} (alive : ∀ d ∈ ds, ¬ d.Dead)
    {d : ContainerDetails} (hd : d ∈ ds) (pending : ¬ d.Settled) :
    ¬ RoundDecisive (ds.map .ok) := by
  have ok_injective : ∀ {ds' : List ContainerDetails},
      (ds.map .ok : List (Except OperationError ContainerDetails)) = ds'.map .ok → ds = ds' :=
    fun h => (List.map_inj_right fun _ _ => Except.ok.inj).1 h
  rintro ⟨r, h⟩
  generalize hrow : (ds.map .ok : List (Except OperationError ContainerDetails)) = row at h
  cases h with
  | failed before e later =>
      have hmem : Except.error e ∈ (ds.map .ok : List (Except OperationError ContainerDetails)) := by
        rw [hrow]
        simp
      simp at hmem
  | dead before later x _ dead =>
      obtain rfl := ok_injective hrow
      exact alive x (by simp) dead
  | ready ds' _ settled =>
      obtain rfl := ok_injective hrow
      exact pending (settled d hd)

/-! ### The judge of a round -/

@[simp] theorem allOk_nil {β : Type} : allOk ([] : List (Except OperationError β)) = .ok [] := rfl

@[simp] theorem allOk_error {β : Type} (e : OperationError)
    (outcomes : List (Except OperationError β)) : allOk (.error e :: outcomes) = .error e := rfl

@[simp] theorem allOk_ok {β : Type} (b : β) (outcomes : List (Except OperationError β)) :
    allOk (.ok b :: outcomes) = (allOk outcomes).map (b :: ·) := by
  unfold allOk
  rw [List.mapM_cons]
  cases List.mapM id outcomes <;> rfl

theorem allOk_map_ok {β : Type} (bs : List β) : allOk (bs.map .ok) = .ok bs := by
  induction bs with
  | nil => rfl
  | cons b bs ih =>
      rw [List.map_cons, allOk_ok, ih]
      rfl

theorem allOk_first_error {β : Type} (bs : List β) (e : OperationError)
    (later : List (Except OperationError β)) :
    allOk (bs.map .ok ++ .error e :: later) = .error e := by
  induction bs with
  | nil => rfl
  | cons b bs ih =>
      rw [List.map_cons, List.cons_append, allOk_ok, ih]
      rfl

namespace Round

/-- What the looks of a round report. -/
def reports (row : List (Except OperationError ContainerDetails)) :
    List (Except OperationError ContainerState) := row.map (Except.map ContainerState.ofDetails)

theorem reports_map_ok (ds : List ContainerDetails) :
    reports (ds.map .ok) = (ds.map ContainerState.ofDetails).map .ok := by
  unfold reports
  rw [List.map_map, List.map_map]
  rfl

theorem reports_first_error (before : List ContainerDetails) (e : OperationError)
    (later : List (Except OperationError ContainerDetails)) :
    reports (before.map .ok ++ .error e :: later) =
      (before.map ContainerState.ofDetails).map .ok ++ .error e :: reports later := by
  rw [← reports_map_ok]
  exact List.map_append

theorem judge_first_error (before : List ContainerDetails) (e : OperationError)
    (later : List (Except OperationError ContainerDetails)) :
    judge (reports (before.map .ok ++ .error e :: later)) = .failed e := by
  unfold judge
  rw [reports_first_error, allOk_first_error]

theorem judge_map_ok (ds : List ContainerDetails) :
    judge (reports (ds.map .ok)) =
      match ds.find? (ContainerState.isDead ∘ ContainerState.ofDetails) with
      | some d => .failed (deathReport (ContainerState.ofDetails d))
      | none => if (ds.map ContainerState.ofDetails).any ContainerState.isOngoing then .pending
          else .ready := by
  unfold judge
  rw [reports_map_ok, allOk_map_ok]
  dsimp only
  rw [List.find?_map]
  cases ds.find? (ContainerState.isDead ∘ ContainerState.ofDetails) <;> rfl

/-- What is made of the answers of a round. -/
theorem judge_cases (row : List (Except OperationError ContainerDetails)) :
    (∃ e, RoundDecides row (.error e) ∧ judge (reports row) = .failed e) ∨
    (RoundDecides row (.ok ()) ∧ judge (reports row) = .ready) ∨
    (¬ RoundDecisive row ∧ judge (reports row) = .pending) := by
  rcases error_mem_or_all_ok row with ⟨before, e, later, rfl⟩ | ⟨ds, rfl⟩
  · exact .inl ⟨e, .failed before e later, judge_first_error before e later⟩
  · rw [judge_map_ok]
    cases hfind : ds.find? (ContainerState.isDead ∘ ContainerState.ofDetails) with
    | some d =>
        obtain ⟨hdead, before, later, rfl, halive⟩ := List.find?_eq_some_iff_append.1 hfind
        refine .inl ⟨_, .dead before later d (fun x hx hd => ?_) (ContainerState.isDead_iff.1 hdead),
          rfl⟩
        have := ContainerState.isDead_iff.2 hd
        simp_all
    | none =>
        have halive : ∀ d ∈ ds, ¬ d.Dead := fun d hd hdead =>
          List.find?_eq_none.1 hfind d hd (ContainerState.isDead_iff.2 hdead)
        by_cases hpending : ∃ d ∈ ds, ¬ d.Settled
        · obtain ⟨d, hd, hnot⟩ := hpending
          refine .inr (.inr ⟨not_roundDecisive halive hd hnot, if_pos ?_⟩)
          exact List.any_eq_true.2
            ⟨_, List.mem_map_of_mem hd, ContainerState.isOngoing_iff.2 hnot⟩
        · have hsettled : ∀ d ∈ ds, d.Settled := by simpa using hpending
          refine .inr (.inl ⟨.ready ds halive hsettled, if_neg fun hany => ?_⟩)
          obtain ⟨s, hs, hongoing⟩ := List.any_eq_true.1 hany
          obtain ⟨d, hd, rfl⟩ := List.mem_map.1 hs
          exact ContainerState.isOngoing_iff.1 hongoing (hsettled d hd)

end Round

/-! ### Rounds of looks -/

variable {ids : List String}

/-- The answers of a round to the looks at so many containers. -/
def roundOf (ids : List String) (row : Nat → Except OperationError ContainerDetails) :
    List (Except OperationError ContainerDetails) := (List.range ids.length).map row

/-- **The history of one round**: of the scripts from a number on, each looks at one container,
once, and nothing else is done. -/
structure LookedAt (ids : List String) (row : Nat → Except OperationError ContainerDetails)
    (first : Nat) (ms : History (Except OperationError ContainerState)) : Prop where
  lead : ms.deedsOf .lead = []
  looks : ∀ (j : Nat) (id : String), ids[j]? = some id →
    ms.deedsOf (.script (first + j)) = [⟨.call (.inspect id), row j⟩]
  others : ∀ i, i < first ∨ first + ids.length ≤ i → ms.deedsOf (.script i) = []

/-- **The history of rounds** whose answers are those of a table, with a pause between two of
them. -/
inductive Rounds (ids : List String) (interval : Nat) :
    (Nat → Nat → Except OperationError ContainerDetails) → (first n : Nat) →
      History (Except OperationError ContainerState) → Prop
  | none (answers : Nat → Nat → Except OperationError ContainerDetails) (first : Nat) :
      Rounds ids interval answers first 0 []
  | last {answers : Nat → Nat → Except OperationError ContainerDetails} {first : Nat}
      {ms : History (Except OperationError ContainerState)}
      (round : LookedAt ids (answers 0) first ms) : Rounds ids interval answers first 1 ms
  | more {answers : Nat → Nat → Except OperationError ContainerDetails} {first n : Nat}
      {ms later : History (Except OperationError ContainerState)}
      (round : LookedAt ids (answers 0) first ms)
      (rest : Rounds ids interval (fun i => answers (i + 1)) (first + ids.length) (n + 1) later) :
      Rounds ids interval answers first (n + 2)
        (ms ++ (.lead, .deed ⟨.sleep interval, ()⟩) :: later)

/-- Does every look get the answer that a table has for it? -/
def AnsweredBy (ids : List String) (answers : Nat → Nat → Except OperationError ContainerDetails)
    (ms : History (Except OperationError ContainerState)) : Prop :=
  ∀ i j, j < ids.length → Exchange.Follows (inTurn fun _ => answers i j)
    (exchanges (ms.deedsOf (.script (i * ids.length + j))))

theorem LookedAt.behind {row : Nat → Except OperationError ContainerDetails} {first : Nat}
    {ms : History (Except OperationError ContainerState)} (h : LookedAt ids row first ms) (n : Nat) :
    LookedAt ids row (n + first) (ms.behind n) where
  lead := (History.deedsOf_behind_lead n ms).trans h.lead
  looks j id hj := by
    rw [Nat.add_assoc, History.deedsOf_behind_script]
    exact h.looks j id hj
  others i hi := by
    rcases Nat.lt_or_ge i n with hlt | hge
    · exact History.deedsOf_behind_of_lt hlt ms
    · obtain ⟨i, rfl⟩ := Nat.exists_eq_add_of_le hge
      rw [History.deedsOf_behind_script]
      exact h.others i (by omega)

namespace Rounds

variable {interval : Nat} {answers : Nat → Nat → Except OperationError ContainerDetails}
  {first n : Nat} {ms : History (Except OperationError ContainerState)}

theorem behind (h : Rounds ids interval answers first n ms) (k : Nat) :
    Rounds ids interval answers (k + first) n (ms.behind k) := by
  induction h with
  | none answers first => exact .none _ _
  | last round => exact .last (round.behind k)
  | more round _ ih =>
      rw [History.behind_append, History.behind_cons]
      exact .more (round.behind k) (by rwa [Nat.add_assoc])

/-- The leading thread pauses between two rounds and does nothing else. -/
theorem lead (h : Rounds ids interval answers first n ms) :
    ms.deedsOf .lead = List.replicate (n - 1) ⟨.sleep interval, ()⟩ := by
  induction h with
  | none answers first => rfl
  | last round => exact round.lead
  | more round _ ih =>
      rw [History.deedsOf_append, History.deedsOf_cons, round.lead, ih]
      simp [List.replicate_succ]

/-- There is one script for each container and round. -/
theorem others (h : Rounds ids interval answers first n ms) {i : Nat}
    (hi : i < first ∨ first + n * ids.length ≤ i) : ms.deedsOf (.script i) = [] := by
  induction h with
  | none answers first => rfl
  | last round => exact round.others i (by omega)
  | @more answers first n ms later round _ ih =>
      have hlen : (n + 2) * ids.length = ids.length + (n + 1) * ids.length := by
        rw [Nat.add_mul, Nat.add_mul]
        omega
      rw [History.deedsOf_append, History.deedsOf_cons, round.others i (by omega), ih (by omega)]
      simp

/-- Every container is looked at once in each round. -/
theorem looks (h : Rounds ids interval answers first n ms) {i j : Nat} {id : String} (hi : i < n)
    (hj : ids[j]? = some id) :
    ms.deedsOf (.script (first + (i * ids.length + j))) =
      [⟨.call (.inspect id), answers i j⟩] := by
  have hlt : j < ids.length := (List.getElem?_eq_some_iff.1 hj).1
  induction h generalizing i with
  | none answers first => omega
  | last round =>
      obtain rfl : i = 0 := by omega
      simpa using round.looks j id hj
  | @more answers first n ms later round rest ih =>
      rw [History.deedsOf_append, History.deedsOf_cons]
      cases i with
      | zero =>
          have hnone := rest.others (i := first + j) (by omega)
          rw [Nat.zero_mul, Nat.zero_add, round.looks j id hj, hnone]
          simp
      | succ i =>
          have hindex : first + ((i + 1) * ids.length + j) =
              first + ids.length + (i * ids.length + j) := by
            rw [Nat.add_mul]
            omega
          rw [hindex, round.others _ (by omega), ih (by omega)]
          simp

end Rounds

/-! ### One round -/

theorem inspectState_run (id : String) :
    (inspectState id).run =
      .act (.call (.inspect id)) fun a => .done (a.map ContainerState.ofDetails) := by
  unfold inspectState
  rw [Operation.run_call_bind]
  congr 1
  funext a
  cases a <;> rfl

/-- The looks of a round. -/
def looksAt (ids : List String) : List (Script (Except OperationError ContainerState)) :=
  ids.map fun id => (inspectState id).run

theorem lookedAt_of_together {row : Nat → Except OperationError ContainerDetails}
    {rs : List (Except OperationError ContainerState)}
    {ms later : History (Except OperationError ContainerState)}
    (h : Threads.Together (looksAt ids) rs ms)
    (answered : ∀ j < ids.length, Exchange.Follows (inTurn fun _ => row j)
      (exchanges ((ms ++ later).deedsOf (.script j)))) :
    LookedAt ids row 0 ms ∧ rs = Round.reports (roundOf ids row) := by
  have hlen : rs.length = ids.length := h.length_results.trans (List.length_map _)
  have hlook : ∀ (j : Nat) (id : String), ids[j]? = some id →
      ms.deedsOf (.script j) = [⟨.call (.inspect id), row j⟩] ∧
        rs[j]? = some ((row j).map ContainerState.ofDetails) := by
    intro j id hj
    have hlt : j < ids.length := (List.getElem?_eq_some_iff.1 hj).1
    have hscript : (looksAt ids)[j]? = some (inspectState id).run := by
      rw [looksAt, List.getElem?_map, hj]
      rfl
    obtain ⟨r, hr⟩ : ∃ r, rs[j]? = some r := ⟨_, List.getElem?_eq_getElem (by omega)⟩
    have hdoes := h.scripts j _ _ hscript hr
    rw [inspectState_run] at hdoes
    rcases Script.does_act.1 hdoes with ⟨-, hend⟩ | ⟨a, ds, hds, hrest⟩
    · cases hend
    obtain ⟨rfl, hend⟩ := Script.does_done.1 hrest
    have hanswer := answered j hlt
    rw [History.deedsOf_append, hds] at hanswer
    obtain rfl : a = row j := (Exchange.follows_cons.1 hanswer).1
    exact ⟨hds, hr.trans (congrArg some (Script.done.inj hend))⟩
  refine ⟨⟨h.lead, fun j id hj => ?_, fun i hi => h.idle i ?_⟩, ?_⟩
  · rw [Nat.zero_add]
    exact (hlook j id hj).1
  · rw [looksAt, List.length_map]
    omega
  · refine List.ext_getElem? fun j => ?_
    rcases Nat.lt_or_ge j ids.length with hj | hj
    · rw [(hlook j _ (List.getElem?_eq_getElem hj)).2]
      simp [Round.reports, roundOf, hj]
    · rw [List.getElem?_eq_none (by omega), List.getElem?_eq_none]
      simpa [Round.reports, roundOf] using hj

/-- The report that the rounds are used up. -/
def exhaustion (policy : WaitPolicy) : OperationError :=
  .networkNotReady
    ("not all containers became healthy after " ++ toString policy.attempts ++ " attempts")

/-- The pause for fresh peers, made behind a good end if `again` says that there was more than one
round. -/
def gracePause (grace : Nat) (again : Bool) : Except OperationError Unit → List Deed
  | .ok () => if again ∧ 0 < grace then [⟨.sleep grace, ()⟩] else []
  | .error _ => []

/-- How a wait goes on behind what a round decides, with so many rounds left. -/
def heedRound (ids : List String) (policy : WaitPolicy) (grace : Nat) (again : Bool) (left : Nat) :
    Round → Ensemble (Except OperationError ContainerState) (Except OperationError Unit)
  | .failed e => .done (.error e)
  | .ready =>
    if again ∧ 0 < grace then .ofScript (.act (.sleep grace) fun _ => .done (.ok ()))
    else .done (.ok ())
  | .pending =>
    if left = 0 then (waitRounds ids policy grace true 0).run
    else .act (.sleep policy.interval) fun _ => (waitRounds ids policy grace true left).run

theorem waitRounds_succ_run (ids : List String) (policy : WaitPolicy) (grace : Nat) (again : Bool)
    (left : Nat) :
    (waitRounds ids policy grace again (left + 1)).run =
      (Ensemble.together (looksAt ids)).bind fun rs =>
        heedRound ids policy grace again left (Round.judge rs) := by
  rw [waitRounds, FanOut.run_together_bind, looksAt, List.map_map]
  congr 1
  funext rs
  cases Round.judge rs with
  | failed e => rfl
  | ready =>
      cases again with
      | false => rfl
      | true =>
          cases grace with
          | zero => rfl
          | succ grace => rfl
  | pending =>
      unfold heedRound
      by_cases hleft : left = 0
      · subst hleft
        rfl
      · simp only [ne_eq, hleft, not_false_eq_true, if_true, if_false]
        rfl

section Course

variable {W : Type} {p : Performer W} {policy : WaitPolicy} {grace left : Nat} {again : Bool}
  {w v : W} {ms : History (Except OperationError ContainerState)} {r : Except OperationError Unit}

/-- A wait whose rounds are used up. -/
theorem finishes_waitRounds_zero {ss : List (Script (Except OperationError ContainerState))} {k : Nat}
    (hss : Threads.Idle ss)
    (h : Threads.Finishes p ⟨(waitRounds ids policy grace again 0).run, ss, k⟩ w ms r v) :
    ms = [] ∧ r = .error (exhaustion policy) := by
  obtain ⟨rfl, hr, -⟩ := Threads.Finishes.of_done hss h
  exact ⟨rfl, hr.symm⟩

/-- **One round**, and how the wait goes on behind it: what is decided ends it, the last round ends
it, or a pause and further rounds follow. -/
theorem finishes_waitRounds_succ {row : Nat → Except OperationError ContainerDetails}
    (h : Threads.Finishes p (.ofEnsemble (waitRounds ids policy grace again (left + 1)).run) w ms r v)
    (answered : ∀ j < ids.length, Exchange.Follows (inTurn fun _ => row j)
      (exchanges (ms.deedsOf (.script j)))) :
    ∃ ms₁ ms₂, ms = ms₁ ++ ms₂ ∧ LookedAt ids row 0 ms₁ ∧
      ((RoundDecides (roundOf ids row) r ∧ ms₂ = .ofLead (gracePause grace again r)) ∨
       (¬ RoundDecisive (roundOf ids row) ∧ left = 0 ∧ ms₂ = [] ∧ r = .error (exhaustion policy)) ∨
       (¬ RoundDecisive (roundOf ids row) ∧ left ≠ 0 ∧ ∃ later x,
         ms₂ = (.lead, .deed ⟨.sleep policy.interval, ()⟩) :: later.behind ids.length ∧
         Threads.Finishes p (.ofEnsemble (waitRounds ids policy grace true left).run) x later r
           v)) := by
  rw [waitRounds_succ_run] at h
  obtain ⟨ms₁, ms₂, rs, x, rfl, htogether, hrest⟩ := h.of_together
  have hlen : (rs.map Script.done).length = ids.length := by
    rw [List.length_map, htogether.length_results, looksAt, List.length_map]
  obtain ⟨hlooked, hreports⟩ := lookedAt_of_together htogether answered
  refine ⟨ms₁, ms₂, rfl, hlooked, ?_⟩
  have hidle := Threads.idle_map_done rs
  have hcases := Round.judge_cases (roundOf ids row)
  rw [← hreports] at hcases
  rcases hcases with ⟨e, hdecides, hjudge⟩ | ⟨hdecides, hjudge⟩ | ⟨hnot, hjudge⟩
  · rw [hjudge] at hrest
    obtain ⟨rfl, rfl, -⟩ := Threads.Finishes.of_done hidle hrest
    exact .inl ⟨hdecides, rfl⟩
  · rw [hjudge] at hrest
    unfold heedRound at hrest
    by_cases hgrace : again ∧ 0 < grace
    · rw [if_pos hgrace] at hrest
      obtain ⟨u, run, hu⟩ := hrest
      obtain ⟨rfl, hperform, -⟩ := Threads.Finishes.of_ofScript hidle run hu
      obtain rfl : .ok () = r := congrArg Prod.fst hperform
      exact .inl ⟨hdecides, by rw [gracePause, if_pos hgrace]; rfl⟩
    · rw [if_neg hgrace] at hrest
      obtain ⟨rfl, rfl, -⟩ := Threads.Finishes.of_done hidle hrest
      exact .inl ⟨hdecides, by rw [gracePause, if_neg hgrace]; rfl⟩
  · rw [hjudge] at hrest
    unfold heedRound at hrest
    by_cases hleft : left = 0
    · rw [if_pos hleft] at hrest
      exact .inr (.inl ⟨hnot, hleft, finishes_waitRounds_zero hidle hrest⟩)
    · rw [if_neg hleft] at hrest
      obtain ⟨ms', rfl, hlater⟩ := Threads.Finishes.of_ofScript_bind
        (s := Script.action (.sleep policy.interval)) hidle hrest
      have hjoined : rs.length = (rs.map Script.done).length := (List.length_map _).symm
      rw [hjoined] at hlater
      obtain ⟨later, rfl, hfinishes⟩ := hlater.of_idle hidle
      rw [hlen]
      exact .inr (.inr ⟨hnot, hleft, later, _, rfl, hfinishes⟩)

/-- **How many rounds there are, and what they come to**: the pause behind them and the outcome.
`again` says whether rounds went before the first of so many that are left. -/
inductive Concludes (ids : List String) (policy : WaitPolicy) (grace : Nat)
    (answers : Nat → Nat → Except OperationError ContainerDetails) (again : Bool) (left : Nat) :
    (n : Nat) → (closing : List Deed) → Except OperationError Unit → Prop
  | decided (k : Nat) {r : Except OperationError Unit} (round : k < left)
      (pending : ∀ i < k, ¬ RoundDecisive (roundOf ids (answers i)))
      (verdict : RoundDecides (roundOf ids (answers k)) r) :
      Concludes ids policy grace answers again left (k + 1) (gracePause grace (again || 0 < k) r) r
  | exhausted (pending : ∀ i < left, ¬ RoundDecisive (roundOf ids (answers i))) :
      Concludes ids policy grace answers again left left [] (.error (exhaustion policy))

/-- One round more that decides nothing. -/
theorem Concludes.later {answers : Nat → Nat → Except OperationError ContainerDetails} {n : Nat}
    {closing : List Deed} (pending : ¬ RoundDecisive (roundOf ids (answers 0)))
    (h : Concludes ids policy grace (fun i => answers (i + 1)) true left n closing r) :
    Concludes ids policy grace answers again (left + 1) (n + 1) closing r := by
  have hpending : ∀ k, (∀ i < k, ¬ RoundDecisive (roundOf ids (answers (i + 1)))) →
      ∀ i < k + 1, ¬ RoundDecisive (roundOf ids (answers i)) := by
    intro k hk i hi
    cases i with
    | zero => exact pending
    | succ i => exact hk i (by omega)
  cases h with
  | decided k round first verdict =>
      have hdecided : Concludes ids policy grace answers again (left + 1) (k + 2)
          (gracePause grace (again || 0 < k + 1) r) r :=
        .decided (k + 1) (Nat.succ_lt_succ round) (hpending k first) verdict
      simpa using hdecided
  | exhausted rest => exact .exhausted (hpending left rest)

theorem Concludes.rounds_pos {answers : Nat → Nat → Except OperationError ContainerDetails} {n : Nat}
    {closing : List Deed} (h : Concludes ids policy grace answers again left n closing r)
    (hleft : left ≠ 0) : n ≠ 0 := by
  cases h with
  | decided k => exact Nat.succ_ne_zero k
  | exhausted => exact hleft

/-- **A wait goes up to the first round that decides.** -/
theorem course_of_finishes {answers : Nat → Nat → Except OperationError ContainerDetails}
    (h : Threads.Finishes p (.ofEnsemble (waitRounds ids policy grace again left).run) w ms r v)
    (answered : AnsweredBy ids answers ms) :
    ∃ n rounds closing, Concludes ids policy grace answers again left n closing r ∧
      Rounds ids policy.interval answers 0 n rounds ∧ ms = rounds ++ .ofLead closing := by
  -- induction on the rounds left: the rounds behind the first one are those of a shorter wait
  induction left generalizing answers again w ms with
  | zero =>
      obtain ⟨rfl, rfl⟩ := finishes_waitRounds_zero (Threads.idle_map_done []) h
      exact ⟨0, [], [], .exhausted (by omega), .none _ _, rfl⟩
  | succ left ih =>
      have hrow : ∀ j < ids.length, Exchange.Follows (inTurn fun _ => answers 0 j)
          (exchanges (ms.deedsOf (.script j))) := by
        intro j hj
        simpa using answered 0 j hj
      obtain ⟨ms₁, ms₂, rfl, hlooked, hcases⟩ := finishes_waitRounds_succ h hrow
      rcases hcases with ⟨hdecides, rfl⟩ | ⟨hnot, rfl, rfl, rfl⟩ | ⟨hnot, hleft, later, x, rfl, hlater⟩
      · refine ⟨1, ms₁, gracePause grace again r, ?_, .last hlooked, rfl⟩
        have hdecided : Concludes ids policy grace answers again (left + 1) 1
            (gracePause grace (again || 0 < 0) r) r := .decided 0 (by omega) (by omega) hdecides
        simpa using hdecided
      · refine ⟨1, ms₁, [], .exhausted fun i hi => ?_, .last hlooked, rfl⟩
        obtain rfl : i = 0 := by omega
        exact hnot
      · have hanswered : AnsweredBy ids (fun i => answers (i + 1)) later := by
          intro i j hj
          have hfollows := answered (i + 1) j hj
          have hindex : (i + 1) * ids.length + j = ids.length + (i * ids.length + j) := by
            rw [Nat.add_mul]
            omega
          rw [hindex, History.deedsOf_append, hlooked.others _ (by omega), History.deedsOf_cons,
            History.deedsOf_behind_script] at hfollows
          simpa using hfollows
        obtain ⟨n, rounds, closing, hconcludes, hrounds, rfl⟩ := ih hlater hanswered
        obtain ⟨n, rfl⟩ := Nat.exists_eq_succ_of_ne_zero (hconcludes.rounds_pos hleft)
        have hshifted := hrounds.behind ids.length
        rw [Nat.add_comm] at hshifted
        exact ⟨n + 2, _, closing, hconcludes.later hnot, .more hlooked hshifted, by simp⟩

end Course

/-! ### Every wait -/

/-- Behind a round the wait acts alone to its end or pauses and goes on. -/
theorem heedRound_cases {ids : List String} {policy : WaitPolicy} {grace left : Nat} {again : Bool}
    {P : Ensemble (Except OperationError ContainerState) (Except OperationError Unit) → Prop}
    (alone : ∀ s, P (.ofScript s))
    (goesOn : P (.act (.sleep policy.interval) fun _ => (waitRounds ids policy grace true left).run))
    (round : Round) : P (heedRound ids policy grace again left round) := by
  cases round with
  | failed e => exact alone (.done (.error e))
  | ready =>
      simp only [heedRound]
      split
      · exact alone _
      · exact alone (.done (.ok ()))
  | pending =>
      simp only [heedRound]
      split
      · exact alone (.done (.error (exhaustion policy)))
      · exact goesOn

theorem settles_waitRounds (ids : List String) (policy : WaitPolicy) (grace : Nat) (again : Bool)
    (left : Nat) : (waitRounds ids policy grace again left).run.Settles 0 := by
  induction left generalizing again with
  | zero => rfl
  | succ left ih =>
      rw [waitRounds_succ_run]
      exact (Ensemble.settles_together _).bind fun rs =>
        heedRound_cases Ensemble.settles_ofScript (fun _ => ih true) _

theorem starts_waitRounds (ids : List String) (policy : WaitPolicy) (grace : Nat) (again : Bool)
    (left : Nat) : (waitRounds ids policy grace again left).run.Starts
      fun s => ∃ id, s = (inspectState id).run := by
  induction left generalizing again with
  | zero => trivial
  | succ left ih =>
      rw [waitRounds_succ_run]
      refine (Ensemble.starts_together fun s hs => ?_).bind fun rs =>
        heedRound_cases Ensemble.starts_ofScript (fun _ => ih true) _
      obtain ⟨id, -, rfl⟩ := List.mem_map.1 hs
      exact ⟨id, rfl⟩

/-- What the first of some deeds was answered, if it is a look. -/
def firstLook : List Deed → Except OperationError ContainerDetails
  | ⟨.call (.inspect _), a⟩ :: _ => a
  | _ => .error default

/-- Every run of a wait has a table of its answers. -/
theorem exists_answeredBy {W : Type} {p : Performer W} {policy : WaitPolicy} {grace left : Nat}
    {again : Bool} {w v : W} {ms : History (Except OperationError ContainerState)}
    {t : Threads (Except OperationError ContainerState) (Except OperationError Unit)}
    (run : Threads.Run p (.ofEnsemble (waitRounds ids policy grace again left).run) w ms t v) :
    ∃ answers, AnsweredBy ids answers ms := by
  have follows_nil : ∀ reply, Exchange.Follows reply [] := fun _ _ _ _ h => by simp at h
  refine ⟨fun i j => firstLook (ms.deedsOf (.script (i * ids.length + j))), fun i j _ => ?_⟩
  rcases run.script_of_starts (starts_waitRounds ids policy grace again left)
    (i * ids.length + j) with hnone | ⟨_, s', ⟨id, rfl⟩, hdoes⟩
  · rw [hnone]
    exact follows_nil _
  · rw [inspectState_run] at hdoes
    rcases Script.does_act.1 hdoes with ⟨hnone, -⟩ | ⟨a, ds, hds, hrest⟩
    · rw [hnone]
      exact follows_nil _
    · obtain ⟨rfl, -⟩ := Script.does_done.1 hrest
      dsimp only
      rw [hds]
      exact Exchange.follows_cons.2 ⟨rfl, follows_nil _⟩

/-- **A wait for a network is decided by the first round that decides.**  A run of the wait can
always go on to an end, and there is a table of the answers in it.  If a run that has ended is
answered by a table, then the first round of the table that decides, within the rounds allowed, ends
the wait with what it decides; if there is none, all rounds are made, and the containers did not
become healthy.  In each round that is reached every container is looked at once, whatever the other
looks are answered, and no other look is made.  The leading thread pauses between two rounds and
nowhere else, but for the pause for fresh peers behind a good end that took more than one round. -/
theorem waitForContainers_first_decisive_round {W : Type} (p : Performer W) (w : W)
    (ids : List String) (policy : WaitPolicy) (grace : Nat) :
    (∀ ms t v, Threads.Run p (.ofEnsemble (waitForContainers ids policy grace).run) w ms t v →
      (∃ ns u x r, Threads.Run p t v ns u x ∧ u.lead = .done r) ∧
      ∃ answers, AnsweredBy ids answers ms) ∧
    ∀ answers ms r v, (waitForContainers ids policy grace).run.Ends p w ms r v →
      AnsweredBy ids answers ms →
      ∃ n rounds closing, Concludes ids policy grace answers false policy.attempts n closing r ∧
        Rounds ids policy.interval answers 0 n rounds ∧ ms = rounds ++ .ofLead closing ∧
        (∀ i < n, ∀ j id, ids[j]? = some id →
          ms.deedsOf (.script (i * ids.length + j)) = [⟨.call (.inspect id), answers i j⟩]) ∧
        (∀ i, n * ids.length ≤ i → ms.deedsOf (.script i) = []) ∧
        ms.deedsOf .lead = List.replicate (n - 1) ⟨.sleep policy.interval, ()⟩ ++ closing := by
  refine ⟨fun ms t v run => ⟨?_, exists_answeredBy run⟩, fun answers ms r v hends answered => ?_⟩
  · exact run.completes (settles_waitRounds ids policy grace false policy.attempts)
  · obtain ⟨n, rounds, closing, hconcludes, hrounds, rfl⟩ := course_of_finishes hends answered
    refine ⟨n, rounds, closing, hconcludes, hrounds, rfl, fun i hi j id hj => ?_, fun i hi => ?_, ?_⟩
    · have hlook := hrounds.looks hi hj
      rw [Nat.zero_add] at hlook
      simpa using hlook
    · simpa using hrounds.others (.inr (by omega))
    · simpa using hrounds.lead

/-- Two containers, of which one becomes healthy at the second look. -/
def slowPair : Rehearsal.World Rehearsal.Runtime where
  runtime := ({} : Rehearsal.Runtime)
    |>.put "x" { details := { (default : ContainerDetails) with id := "x" }
                 states := [("running", some "starting"), ("running", some "healthy")] }
    |>.put "y" { details := { (default : ContainerDetails) with id := "y", status := "running" } }

theorem waitForContainers_first_decisive_round_of_two :
    ∃ answers ms v n rounds closing,
      (waitForContainers ["x", "y"] ⟨3, 5⟩ 7).run.Ends
        (Rehearsal.perform Rehearsal.Runtime.host) slowPair ms (.ok ()) v ∧
      AnsweredBy ["x", "y"] answers ms ∧
      Concludes ["x", "y"] ⟨3, 5⟩ 7 answers false 3 n closing (.ok ()) ∧
      Rounds ["x", "y"] 5 answers 0 n rounds ∧ ms = rounds ++ .ofLead closing := by
  have hend : ((waitForContainers ["x", "y"] ⟨3, 5⟩ 7).run.endIn?
      (Rehearsal.perform Rehearsal.Runtime.host)
      [.lead, .lead, .script 1, .script 0, .lead, .lead, .lead, .lead, .lead, .script 2, .script 3,
        .lead, .lead, .lead] slowPair).map (fun x => x.1.isOk) = some true := by decide +kernel
  obtain ⟨⟨r, v⟩, hx, hok⟩ := Option.map_eq_some_iff.1 hend
  obtain ⟨ms, hends⟩ := Ensemble.ends_of_endIn? hx
  cases r with
  | error e => cases hok
  | ok u =>
      obtain ⟨hruns, hcourse⟩ := waitForContainers_first_decisive_round
        (Rehearsal.perform Rehearsal.Runtime.host) slowPair ["x", "y"] ⟨3, 5⟩ 7
      obtain ⟨t, run, ht⟩ := hends
      obtain ⟨-, answers, hanswered⟩ := hruns ms t v run
      obtain ⟨n, rounds, closing, hconcludes, hrounds, hms, -⟩ :=
        hcourse answers ms (.ok ()) v ⟨t, run, ht⟩ hanswered
      exact ⟨answers, ms, v, n, rounds, closing, ⟨t, run, ht⟩, hanswered, hconcludes, hrounds, hms⟩

end Testbed
