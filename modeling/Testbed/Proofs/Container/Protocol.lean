/-
**The protocol of a launch.**

Seen from outside a launch shows its calls and its entry in the ledger.  They follow a protocol: the
template is looked at, the clone of this template is created, the id that came back is listed and
started, and then it is looked at again and again, at most as often as the policy allows.  Whatever
the calls are answered, a launch shows a beginning of this and ends at the first failure.

Main definitions:

* `Testbed.shown` — what deeds show from outside;
* `Testbed.Launch.protocol` — the protocol with so many looks at its end;
* `Testbed.Launch.Course` — the courses that a launch can take to its end;
* `Testbed.Launch.WaitEnded` — a launch whose clone was started and waited for;
* `Testbed.Launch.Kept` — **a launch that has kept to the protocol**.

Main results:

* `Testbed.shown_of_wait` — what a wait shows;
* `Testbed.Launch.heeds` — a launch ends at the first call that fails;
* `Testbed.launchClone_keeps_protocol` — **every launch keeps to the protocol**.
-/

import Testbed.Proofs.Container.Usable
import Testbed.Proofs.Network.Start
import Testbed.Proofs.Script.Faults

set_option relaxedAutoImplicit false
set_option autoImplicit false

namespace Testbed

/-! ### What is seen from outside -/

/-- Is an action seen from outside?  Calls and entries in the ledger are. -/
def Action.isShown : Action → Bool
  | .call _ | .record .. => true
  | _ => false

/-- What deeds show from outside. -/
def shown (ds : List Deed) : List Action := (ds.map Deed.action).filter Action.isShown

theorem mem_shown {ds : List Deed} {x : Action} (hx : x.isShown = true) :
    x ∈ shown ds ↔ ∃ a, ⟨x, a⟩ ∈ ds := by
  rw [shown, List.mem_filter, and_iff_left hx, List.mem_map]
  constructor
  · rintro ⟨⟨y, a⟩, hd, rfl⟩
    exact ⟨a, hd⟩
  · rintro ⟨a, hd⟩
    exact ⟨⟨x, a⟩, hd, rfl⟩

/-- Deeds that watch a container show as many looks at it as there are exchanges. -/
theorem shown_of_watches {id : String} {ds : List Deed} (h : ∀ d ∈ ds, d.action.Watches id) :
    shown ds = List.replicate (exchanges ds).length (.call (.inspect id)) := by
  induction ds with
  | nil => rfl
  | cons d ds ih =>
      obtain ⟨hd, hds⟩ := List.forall_mem_cons.1 h
      obtain ⟨x, a⟩ := d
      cases hd with
      | look => exact congrArg (_ :: ·) (ih hds)
      | sleep d => exact ih hds
      | count e => exact ih hds

/-- A wait makes at most as many calls as it has attempts. -/
theorem length_exchanges_waitFrom {id : String} {interval n : Nat} {ds : List Deed}
    {r : Except OperationError WaitOutcome} (h : (waitFrom id interval n).run.Does ds (.done r)) :
    (exchanges ds).length ≤ n := by
  induction n generalizing ds with
  | zero => simp [(does_waitFrom_zero h).2.1]
  | succ n ih =>
      obtain ⟨a, ds, rfl, hcases⟩ := does_waitFrom_succ h
      rw [exchanges_call, List.length_cons]
      refine Nat.succ_le_succ ?_
      rcases hcases with ⟨-, hnone, -⟩ | ⟨-, -, -, hnone, -⟩ | ⟨-, -, later, rfl, hlater⟩
      · simp [hnone]
      · simp [hnone]
      · have hle := ih hlater
        exact hle

/-- **What a wait shows**: looks at the container, at most as many as it has attempts. -/
theorem shown_of_wait {id : String} {policy : WaitPolicy} {ds : List Deed}
    {r : Except OperationError WaitOutcome}
    (h : (waitUntilUsable id policy).run.Does ds (.done r)) :
    ∃ k ≤ policy.attempts, shown ds = List.replicate k (.call (.inspect id)) :=
  ⟨_, length_exchanges_waitFrom h, shown_of_watches ((waitUntilUsable_within id policy).of_does h).2⟩

/-- A wait ends at the first look that fails. -/
theorem heeds_waitFrom (id : String) (interval n : Nat) {own : OperationError → Prop} :
    (waitFrom id interval n).run.Heeds Deed.failure? own := by
  induction n with
  | zero => exact fun u => ⟨fun _ => nofun, nofun⟩
  | succ n ih =>
      rw [waitFrom_succ_run]
      intro a
      cases a with
      | error e => exact ⟨nofun, fun e' he' => by cases he'; rfl⟩
      | ok d =>
          refine ⟨fun _ => ?_, nofun⟩
          change (heed id interval n (ContainerState.ofDetails d).verdict?).Heeds _ _
          cases (ContainerState.ofDetails d).verdict? with
          | some outcome => cases outcome <;> simp [heed, Script.Heeds, Deed.failure?]
          | none =>
              change (if n = 0 then (waitFrom id interval 0).run
                else .act (.sleep interval) fun _ => (waitFrom id interval n).run).Heeds _ _
              split
              · exact fun u => ⟨fun _ => nofun, nofun⟩
              · exact fun u => ⟨fun _ => ih, nofun⟩

/-- Deeds that come one after the other lead through what is left in between. -/
theorem Script.Does.of_append {α : Type} {s t : Script α} {ds es : List Deed}
    (h : s.Does (ds ++ es) t) : ∃ u, s.Does ds u ∧ u.Does es t := by
  induction ds generalizing s with
  | nil => exact ⟨s, .nil s, h⟩
  | cons d ds ih =>
      cases h with
      | cons a h =>
          obtain ⟨u, hu, hrest⟩ := ih h
          exact ⟨u, .cons a hu, hrest⟩

namespace Launch

variable {template image : String} {request : NodeRequest} {policy : WaitPolicy}
  {ds : List Deed} {r : Except OperationError Bool}

/-! ### Courses -/

/-- The deeds of a launch up to the start of its clone. -/
def started (template : String) (request : NodeRequest) (t : ContainerDetails)
    (spec : ContainerSpec) (id : String) (a : Except OperationError Unit) : List Deed :=
  [⟨.call (.inspect template), .ok t⟩, ⟨.call (.create spec), .ok id⟩, ⟨.record request.node id, ()⟩,
    ⟨.call (.start id), a⟩]

/-- **The courses that a launch can take to its end.** -/
inductive Course (template : String) (request : NodeRequest) (image : String)
    (policy : WaitPolicy) : List Deed → Except OperationError Bool → Prop
  | unseen (e : OperationError) :
      Course template request image policy [⟨.call (.inspect template), .error e⟩] (.error e)
  | refused (t : ContainerDetails) (e : OperationError)
      (rejected : ContainerSpec.ofTemplate template t request image = .error e) :
      Course template request image policy [⟨.call (.inspect template), .ok t⟩] (.error e)
  | uncreated (t : ContainerDetails) (spec : ContainerSpec) (e : OperationError)
      (accepted : ContainerSpec.ofTemplate template t request image = .ok spec) :
      Course template request image policy
        [⟨.call (.inspect template), .ok t⟩, ⟨.call (.create spec), .error e⟩] (.error e)
  | unstarted (t : ContainerDetails) (spec : ContainerSpec) (id : String) (e : OperationError)
      (accepted : ContainerSpec.ofTemplate template t request image = .ok spec) :
      Course template request image policy (started template request t spec id (.error e))
        (.error e)
  | watched (t : ContainerDetails) (spec : ContainerSpec) (id : String) (watch : List Deed)
      (r : Except OperationError WaitOutcome)
      (accepted : ContainerSpec.ofTemplate template t request image = .ok spec)
      (wait : (waitUntilUsable id policy).run.Does watch (.done r)) :
      Course template request image policy
        (started template request t spec id (.ok ()) ++
          ⟨.count (.containerStarted request.node), ()⟩ :: watch)
        (r.map fun o => decide (o = .healthy))

theorem course_of_does (h : (launchClone template request image policy).run.Does ds (.done r)) :
    Course template request image policy ds r := by
  generalize hs : Script.done r = s at h
  cases stage_of_does h with
  | unseen e =>
      cases hs
      exact .unseen e
  | refused t e rejected =>
      cases hs
      exact .refused t e rejected
  | uncreated t spec e accepted =>
      cases hs
      exact .uncreated t spec e accepted
  | unstarted t spec id e accepted =>
      cases hs
      exact .unstarted t spec id e accepted
  | watched t spec id watch s accepted wait =>
      cases s with
      | act x next => cases hs
      | done o =>
          cases hs
          exact .watched t spec id watch o accepted wait
  | _ => cases hs

/-! ### The protocol -/

/-- **The protocol of a launch**, with so many looks at its end. -/
def protocol (template node : String) (spec : ContainerSpec) (id : String) (looks : Nat) :
    List Action :=
  [.call (.inspect template), .call (.create spec), .record node id, .call (.start id)] ++
    List.replicate looks (.call (.inspect id))

/-- **A launch whose clone was started, and then watched** up to the first look that decides, or up
to the last attempt, with an outcome. -/
def WaitEnded (template : String) (request : NodeRequest) (policy : WaitPolicy) (ds : List Deed)
    (outcome : WaitOutcome) : Prop :=
  ∃ t spec id watch answers, ds = started template request t spec id (.ok ()) ++
      ⟨.count (.containerStarted request.node), ()⟩ :: watch ∧
    Watched id policy.interval policy.attempts answers watch (.ok outcome)

/-- **A launch that has kept to the protocol.** -/
structure Kept (template : String) (request : NodeRequest) (image : String) (policy : WaitPolicy)
    (ds : List Deed) (r : Except OperationError Bool) : Prop where
  /-- It shows a beginning of the protocol.  What it creates is the clone of the template that it
  has looked at, and what it lists is what it has created. -/
  follows : ∃ spec id, ∃ looks ≤ policy.attempts,
    shown ds <+: protocol template request.node spec id looks ∧
    (.call (.create spec) ∈ shown ds → ∃ t, ⟨.call (.inspect template), .ok t⟩ ∈ ds ∧
      ContainerSpec.ofTemplate template t request image = .ok spec) ∧
    (.record request.node id ∈ shown ds → ⟨.call (.create spec), .ok id⟩ ∈ ds)
  /-- What is created is listed once, and nothing else is. -/
  lists : ds.filterMap Deed.recorded? = (ds.filterMap Deed.created?).map (request.node, ·)
  /-- At most one container is created. -/
  creates_one : (ds.filterMap Deed.created?).length ≤ 1
  /-- What is started is listed before. -/
  lists_first : ∀ before id a behind, ds = before ++ ⟨.call (.start id), a⟩ :: behind →
    (request.node, id) ∈ before.filterMap Deed.recorded?
  /-- Nothing is created unless there is a template that can be cloned. -/
  creates_clone : ∀ spec a, ⟨.call (.create spec), a⟩ ∈ ds →
    ∃ t, ⟨.call (.inspect template), .ok t⟩ ∈ ds ∧
      ContainerSpec.ofTemplate template t request image = .ok spec
  /-- A template that cannot be cloned ends the launch. -/
  refuses : ∀ t e, ⟨.call (.inspect template), .ok t⟩ ∈ ds.head? →
    ContainerSpec.ofTemplate template t request image = .error e →
    ds = [⟨.call (.inspect template), .ok t⟩] ∧ r = .error e
  /-- A call that fails is the last deed, and its failure the result. -/
  ends : ∀ before d e behind, ds = before ++ d :: behind → d.failure? = some e →
    behind = [] ∧ r = .error e
  /-- A failure is that of the last call, or the template cannot be cloned. -/
  fails : ∀ e, r = .error e → (∃ before d, ds = before ++ [d] ∧ d.failure? = some e) ∨
    ∃ t, ds = [⟨.call (.inspect template), .ok t⟩] ∧
      ContainerSpec.ofTemplate template t request image = .error e
  usable : r = .ok true ↔ WaitEnded template request policy ds .healthy
  unusable : r = .ok false ↔ WaitEnded template request policy ds .dead ∨
    WaitEnded template request policy ds .exhausted

/-- **A launch ends at the first call that fails.** -/
theorem heeds : (launchClone template request image policy).run.Heeds Deed.failure?
    fun e => ∃ t, ContainerSpec.ofTemplate template t request image = .error e := by
  unfold launchClone
  refine Script.heeds_bind (Operation.heeds_call _) fun t => ?_
  refine Script.heeds_bind (fun e he => ⟨t, he⟩) fun spec => ?_
  refine Script.heeds_bind (Operation.heeds_call _) fun id => ?_
  refine Script.heeds_bind (fun u => ⟨fun _ => nofun, nofun⟩) fun _ => ?_
  refine Script.heeds_bind (Operation.heeds_call _) fun _ => ?_
  refine Script.heeds_bind (fun u => ⟨fun _ => nofun, nofun⟩) fun _ => ?_
  exact Script.heeds_bind (heeds_waitFrom _ _ _) fun o => nofun

/-- The deeds of a wait are about its container. -/
theorem watches_of_wait {id : String} {watch : List Deed} {o : Except OperationError WaitOutcome}
    (wait : (waitUntilUsable id policy).run.Does watch (.done o)) :
    ∀ d ∈ watch, d.action.Watches id := ((waitUntilUsable_within id policy).of_does wait).2

namespace Course

/-- What is created in a course is the clone of the template that was looked at. -/
theorem clone_of_create (h : Course template request image policy ds r) {spec : ContainerSpec}
    {a : Except OperationError String} (hd : ⟨.call (.create spec), a⟩ ∈ ds) :
    ∃ t, ⟨.call (.inspect template), .ok t⟩ ∈ ds ∧
      ContainerSpec.ofTemplate template t request image = .ok spec := by
  cases h with
  | unseen e => simp at hd
  | refused t e rejected => simp at hd
  | uncreated t spec' e accepted =>
      obtain ⟨rfl, -⟩ : spec = spec' ∧ a = .error e := by simpa using hd
      exact ⟨t, by simp, accepted⟩
  | unstarted t spec' id e accepted =>
      obtain ⟨rfl, -⟩ : spec = spec' ∧ a = .ok id := by simpa [started] using hd
      exact ⟨t, by simp [started], accepted⟩
  | watched t spec' id watch o accepted wait =>
      rcases List.mem_append.1 hd with hd | hd
      · obtain ⟨rfl, -⟩ : spec = spec' ∧ a = .ok id := by simpa [started] using hd
        exact ⟨t, by simp [started], accepted⟩
      · rcases List.mem_cons.1 hd with hd | hd
        · cases hd
        · cases watches_of_wait wait _ hd

/-- A course shows a beginning of the protocol. -/
theorem follows (h : Course template request image policy ds r) :
    ∃ spec id, ∃ looks ≤ policy.attempts,
      shown ds <+: protocol template request.node spec id looks ∧
      (.call (.create spec) ∈ shown ds → ∃ t, ⟨.call (.inspect template), .ok t⟩ ∈ ds ∧
        ContainerSpec.ofTemplate template t request image = .ok spec) ∧
      (.record request.node id ∈ shown ds → ⟨.call (.create spec), .ok id⟩ ∈ ds) := by
  have hclone (spec : ContainerSpec) (hshown : .call (.create spec) ∈ shown ds) :
      ∃ t, ⟨.call (.inspect template), .ok t⟩ ∈ ds ∧
        ContainerSpec.ofTemplate template t request image = .ok spec := by
    obtain ⟨a, hd⟩ := (mem_shown rfl).1 hshown
    exact h.clone_of_create hd
  cases h with
  | unseen e =>
      refine ⟨default, default, 0, Nat.zero_le _, ⟨_, rfl⟩, hclone _, fun hrecord => ?_⟩
      simp [shown, Action.isShown] at hrecord
  | refused t e rejected =>
      refine ⟨default, default, 0, Nat.zero_le _, ⟨_, rfl⟩, hclone _, fun hrecord => ?_⟩
      simp [shown, Action.isShown] at hrecord
  | uncreated t spec e accepted =>
      refine ⟨spec, default, 0, Nat.zero_le _, ⟨_, rfl⟩, hclone _, fun hrecord => ?_⟩
      simp [shown, Action.isShown] at hrecord
  | unstarted t spec id e accepted =>
      exact ⟨spec, id, 0, Nat.zero_le _, ⟨[], rfl⟩, hclone _, fun _ => by simp [started]⟩
  | watched t spec id watch o accepted wait =>
      obtain ⟨k, hk, hshown⟩ := shown_of_wait wait
      refine ⟨spec, id, k, hk, ⟨[], ?_⟩, hclone _, fun _ => by simp [started]⟩
      rw [List.append_nil, protocol, ← hshown]
      rfl

/-- At most one container is created. -/
theorem creates_one (h : Course template request image policy ds r) :
    (ds.filterMap Deed.created?).length ≤ 1 := by
  cases h with
  | watched t spec id watch o accepted wait =>
      have hquiet := (quiet_of_watches (watches_of_wait wait)).1
      simp [started, Deed.created?, List.filterMap_cons, hquiet]
  | _ => simp [started, Deed.created?, List.filterMap_cons]

/-- A template that cannot be cloned ends the launch. -/
theorem refuses (h : Course template request image policy ds r) {t : ContainerDetails}
    {e : OperationError} (hd : ⟨.call (.inspect template), .ok t⟩ ∈ ds.head?)
    (rejected : ContainerSpec.ofTemplate template t request image = .error e) :
    ds = [⟨.call (.inspect template), .ok t⟩] ∧ r = .error e := by
  cases h with
  | unseen e' => simp at hd
  | refused t' e' rejected' =>
      obtain rfl : t' = t := by simpa using hd
      exact ⟨rfl, congrArg _ (Except.error.inj (rejected'.symm.trans rejected))⟩
  | uncreated t' spec e' accepted =>
      obtain rfl : t' = t := by simpa using hd
      cases accepted.symm.trans rejected
  | unstarted t' spec id e' accepted =>
      obtain rfl : t' = t := by simpa [started] using hd
      cases accepted.symm.trans rejected
  | watched t' spec id watch o accepted wait =>
      obtain rfl : t' = t := by simpa [started] using hd
      cases accepted.symm.trans rejected

/-- A failure is that of the last call, or the template cannot be cloned. -/
theorem fails (h : Course template request image policy ds r) {e : OperationError}
    (he : r = .error e) : (∃ before d, ds = before ++ [d] ∧ d.failure? = some e) ∨
      ∃ t, ds = [⟨.call (.inspect template), .ok t⟩] ∧
        ContainerSpec.ofTemplate template t request image = .error e := by
  cases h with
  | unseen e' =>
      cases he
      exact .inl ⟨[], _, rfl, rfl⟩
  | refused t e' rejected =>
      cases he
      exact .inr ⟨t, rfl, rejected⟩
  | uncreated t spec e' accepted =>
      cases he
      exact .inl ⟨[_], _, rfl, rfl⟩
  | unstarted t spec id e' accepted =>
      cases he
      exact .inl ⟨[_, _, _], _, rfl, rfl⟩
  | watched t spec id watch o accepted wait =>
      cases o with
      | ok o => cases he
      | error e' =>
          cases he
          have hheeded : Heeded Deed.failure? (fun _ => False) watch (.error e) :=
            (heeds_waitFrom id policy.interval policy.attempts).of_does wait
          rcases hheeded.error_cases with ⟨before, d, rfl, hd⟩ | hfalse
          · exact .inl ⟨started template request t spec id (.ok ()) ++ _ :: before, d,
              by rw [List.append_assoc, List.cons_append], hd⟩
          · exact hfalse.elim

/-- **The result of a launch is that of its wait**, if it has come so far. -/
theorem ok_iff (h : Course template request image policy ds r) (b : Bool) :
    r = .ok b ↔ ∃ o, WaitEnded template request policy ds o ∧ decide (o = .healthy) = b := by
  constructor
  · rintro rfl
    generalize hr : (Except.ok b : Except OperationError Bool) = r at h
    cases h with
    | watched t spec id watch o accepted wait =>
        cases o with
        | error e => cases hr
        | ok o =>
            obtain ⟨answers, hwatched⟩ := exists_watched wait
            exact ⟨o, ⟨t, spec, id, watch, answers, rfl, hwatched⟩, (Except.ok.inj hr).symm⟩
    | _ => cases hr
  · rintro ⟨o, ⟨t, spec, id, watch, answers, hds, hwatched⟩, rfl⟩
    cases h with
    | watched t' spec' id' watch' o' accepted wait' =>
        obtain ⟨-, ⟨-, rfl⟩, -, rfl⟩ :
            t' = t ∧ (spec' = spec ∧ id' = id) ∧ id' = id ∧ watch' = watch := by
          simpa [started] using hds
        rw [hwatched.result_of_does wait']
        rfl
    | unseen e => simp [started] at hds
    | refused t' e rejected => simp [started] at hds
    | uncreated t' spec' e accepted => simp [started] at hds
    | unstarted t' spec' id' e accepted => simp [started] at hds

end Course

/-- What is started is listed before. -/
theorem lists_first (h : (launchClone template request image policy).run.Does ds (.done r))
    {before behind : List Deed} {id : String} {a : Except OperationError Unit}
    (hds : ds = before ++ ⟨.call (.start id), a⟩ :: behind) :
    (request.node, id) ∈ before.filterMap Deed.recorded? := by
  subst hds
  obtain ⟨u, hbefore, hrest⟩ := h.of_append
  cases hrest with
  | cons a _ => exact recorded_of_start hbefore

/-- A launch that has ended has kept to the protocol. -/
theorem kept_of_does (h : (launchClone template request image policy).run.Does ds (.done r)) :
    Kept template request image policy ds r := by
  have hcourse := course_of_does h
  have hheeded := heeds.of_does h
  refine
    { follows := hcourse.follows
      lists := recorded_eq_created h
      creates_one := hcourse.creates_one
      lists_first := fun before id a behind hds => lists_first h hds
      creates_clone := fun spec a hd => hcourse.clone_of_create hd
      refuses := fun t e hd rejected => hcourse.refuses hd rejected
      ends := fun before d e behind hds hd => ?_
      fails := fun e he => hcourse.fails he
      usable := ?_
      unusable := ?_ }
  · subst hds
    exact hheeded.of_fault hd
  · rw [hcourse.ok_iff]
    simp
  · rw [hcourse.ok_iff]
    constructor
    · rintro ⟨o, hend, ho⟩
      cases o with
      | healthy => cases ho
      | dead => exact .inl hend
      | exhausted => exact .inr hend
    · rintro (hend | hend)
      · exact ⟨.dead, hend, rfl⟩
      · exact ⟨.exhausted, hend, rfl⟩

end Launch

/-- **Every launch keeps to the protocol.**  Whatever its calls are answered, each answer depending
on all that was called before, there is one way for a launch to go, and it keeps to the protocol. -/
theorem launchClone_keeps_protocol (template : String) (request : NodeRequest) (image : String)
    (policy : WaitPolicy) (reply : List Exchange → (c : Call) → Except OperationError c.Answer) :
    ∃ ds r, (launchClone template request image policy).run.Does ds (.done r) ∧
      Exchange.Follows reply (exchanges ds) ∧
      (∀ ds' r', (launchClone template request image policy).run.Does ds' (.done r') →
        Exchange.Follows reply (exchanges ds') → ds' = ds ∧ r' = r) ∧
      Launch.Kept template request image policy ds r := by
  have hplain := Orchestrator.launchClone_plain template request image policy
  obtain ⟨ds, r, hdoes, hfollows⟩ := Script.Does.exists_follows reply hplain
  refine ⟨ds, r, hdoes, hfollows, fun ds' r' hdoes' hfollows' => ?_, Launch.kept_of_does hdoes⟩
  exact Script.Does.unique hplain hdoes' hdoes hfollows' hfollows

end Testbed
