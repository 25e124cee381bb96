/-
**The course of a launch.**

A launch takes a fixed course: it looks at the template, creates the clone, lists it in the ledger,
starts it and watches it.  It can end behind each call that fails.  Where a launch stands is known
from its deeds.

Main definitions:

* `Testbed.Deed.created?`, `Testbed.Deed.recorded?` — what a deed created, what it listed;
* `Testbed.Launch.Stage` — **where a launch can stand**, and behind which deeds.

Main results:

* `Testbed.Launch.stage_of_does` — a launch always stands at one of its stages;
* `Testbed.Launch.recorded_of_start` — what is about to be started is listed;
* `Testbed.Launch.recorded_eq_created` — a launch that has ended has listed what it created.
-/

import Testbed.Container.Launch
import Testbed.Proofs.Script.Deeds

set_option relaxedAutoImplicit false
set_option autoImplicit false

namespace Testbed

/-! ### Deeds that concern the ledger -/

namespace Deed

/-- The id that a deed created, if it is a call to create that succeeded. -/
def created? : Deed → Option String
  | ⟨.call (.create _), .ok id⟩ => some id
  | _ => none

/-- The node and the id that a deed listed. -/
def recorded? : Deed → Option (String × String)
  | ⟨.record node id, _⟩ => some (node, id)
  | _ => none

end Deed

/-! ### Watching a container -/

/-- Actions that watch a container. -/
inductive Action.Watches (id : String) : Action → Prop
  | look : Watches id (.call (.inspect id))
  | sleep (d : Nat) : Watches id (.sleep d)
  | count (e : Event) : Watches id (.count e)

theorem waitFrom_within (id : String) (interval n : Nat) :
    (waitFrom id interval n).run.Within (Action.Watches id) := by
  induction n with
  | zero =>
      refine Script.within_bind ⟨.count _, fun _ => trivial⟩ fun _ => ?_
      trivial
  | succ n ih =>
      have hlook : (inspectState id).run.Within (Action.Watches id) :=
        Script.within_bind ⟨.look, fun _ => trivial⟩ fun _ => trivial
      refine Script.within_bind hlook fun s => ?_
      cases s.verdict? with
      | none =>
          by_cases hn : n = 0
          · simpa [hn] using ih
          · simp only [ne_eq, hn, not_false_eq_true, if_true]
            exact Script.within_bind ⟨.sleep _, fun _ => trivial⟩ fun _ => ih
      | some o =>
          cases o with
          | dead => exact Script.within_bind ⟨.count _, fun _ => trivial⟩ fun _ => trivial
          | healthy => trivial
          | exhausted => trivial

theorem waitUntilUsable_within (id : String) (policy : WaitPolicy) :
    (waitUntilUsable id policy).run.Within (Action.Watches id) :=
  waitFrom_within id policy.interval policy.attempts

namespace Launch

variable {template image : String} {request : NodeRequest} {policy : WaitPolicy}

/-- **Where a launch can stand**: the deeds behind it, and what is left to do. -/
inductive Stage (template : String) (request : NodeRequest) (image : String)
    (policy : WaitPolicy) : List Deed → Script (Except OperationError Bool) → Prop
  | fresh (next : (Action.call (.inspect template)).Answer → Script (Except OperationError Bool)) :
      Stage template request image policy [] (.act (.call (.inspect template)) next)
  | unseen (e : OperationError) :
      Stage template request image policy [⟨.call (.inspect template), .error e⟩]
        (.done (.error e))
  | refused (t : ContainerDetails) (e : OperationError)
      (rejected : ContainerSpec.ofTemplate template t request image = .error e) :
      Stage template request image policy [⟨.call (.inspect template), .ok t⟩] (.done (.error e))
  | prepared (t : ContainerDetails) (spec : ContainerSpec)
      (next : (Action.call (.create spec)).Answer → Script (Except OperationError Bool))
      (accepted : ContainerSpec.ofTemplate template t request image = .ok spec) :
      Stage template request image policy [⟨.call (.inspect template), .ok t⟩]
        (.act (.call (.create spec)) next)
  | uncreated (t : ContainerDetails) (spec : ContainerSpec) (e : OperationError)
      (accepted : ContainerSpec.ofTemplate template t request image = .ok spec) :
      Stage template request image policy
        [⟨.call (.inspect template), .ok t⟩, ⟨.call (.create spec), .error e⟩] (.done (.error e))
  | created (t : ContainerDetails) (spec : ContainerSpec) (id : String)
      (next : (Action.record request.node id).Answer → Script (Except OperationError Bool))
      (accepted : ContainerSpec.ofTemplate template t request image = .ok spec) :
      Stage template request image policy
        [⟨.call (.inspect template), .ok t⟩, ⟨.call (.create spec), .ok id⟩]
        (.act (.record request.node id) next)
  | recorded (t : ContainerDetails) (spec : ContainerSpec) (id : String)
      (next : (Action.call (.start id)).Answer → Script (Except OperationError Bool))
      (accepted : ContainerSpec.ofTemplate template t request image = .ok spec) :
      Stage template request image policy
        [⟨.call (.inspect template), .ok t⟩, ⟨.call (.create spec), .ok id⟩,
          ⟨.record request.node id, ()⟩] (.act (.call (.start id)) next)
  | unstarted (t : ContainerDetails) (spec : ContainerSpec) (id : String) (e : OperationError)
      (accepted : ContainerSpec.ofTemplate template t request image = .ok spec) :
      Stage template request image policy
        [⟨.call (.inspect template), .ok t⟩, ⟨.call (.create spec), .ok id⟩,
          ⟨.record request.node id, ()⟩, ⟨.call (.start id), .error e⟩] (.done (.error e))
  | started (t : ContainerDetails) (spec : ContainerSpec) (id : String)
      (next : (Action.count (.containerStarted request.node)).Answer →
        Script (Except OperationError Bool))
      (accepted : ContainerSpec.ofTemplate template t request image = .ok spec) :
      Stage template request image policy
        [⟨.call (.inspect template), .ok t⟩, ⟨.call (.create spec), .ok id⟩,
          ⟨.record request.node id, ()⟩, ⟨.call (.start id), .ok ()⟩]
        (.act (.count (.containerStarted request.node)) next)
  | watched (t : ContainerDetails) (spec : ContainerSpec) (id : String) (ds : List Deed)
      (s : Script (Except OperationError WaitOutcome))
      (accepted : ContainerSpec.ofTemplate template t request image = .ok spec)
      (watch : (waitUntilUsable id policy).run.Does ds s) :
      Stage template request image policy
        (⟨.call (.inspect template), .ok t⟩ :: ⟨.call (.create spec), .ok id⟩ ::
          ⟨.record request.node id, ()⟩ :: ⟨.call (.start id), .ok ()⟩ ::
          ⟨.count (.containerStarted request.node), ()⟩ :: ds)
        (s.bind fun r => .done (r.map fun o => decide (o = .healthy)))

/-- **A launch always stands at one of its stages.** -/
theorem stage_of_does {ds : List Deed} {s : Script (Except OperationError Bool)}
    (h : (launchClone template request image policy).run.Does ds s) :
    Stage template request image policy ds s := by
  unfold launchClone at h
  -- action by action: the launch stands before it, has failed at it, or is past it
  rw [Operation.run_call_bind] at h
  rcases Script.does_act.1 h with ⟨rfl, rfl⟩ | ⟨a, ds, rfl, h₁⟩
  · exact .fresh _
  cases a with
  | error e =>
      obtain ⟨rfl, rfl⟩ := Script.does_done.1 h₁
      exact .unseen e
  | ok t =>
  rw [Operation.after_ok, Operation.run_ofExcept_bind] at h₁
  cases hspec : ContainerSpec.ofTemplate template t request image with
  | error e =>
      rw [hspec] at h₁
      obtain ⟨rfl, rfl⟩ := Script.does_done.1 h₁
      exact .refused t e hspec
  | ok spec =>
  rw [hspec, Operation.after_ok, Operation.run_call_bind] at h₁
  rcases Script.does_act.1 h₁ with ⟨rfl, rfl⟩ | ⟨a, ds, rfl, h₂⟩
  · exact .prepared t spec _ hspec
  cases a with
  | error e =>
      obtain ⟨rfl, rfl⟩ := Script.does_done.1 h₂
      exact .uncreated t spec e hspec
  | ok id =>
  rw [Operation.after_ok, Operation.run_act_bind] at h₂
  rcases Script.does_act.1 h₂ with ⟨rfl, rfl⟩ | ⟨u, ds, rfl, h₃⟩
  · exact .created t spec id _ hspec
  rw [Operation.run_call_bind] at h₃
  rcases Script.does_act.1 h₃ with ⟨rfl, rfl⟩ | ⟨a, ds, rfl, h₄⟩
  · exact .recorded t spec id _ hspec
  cases a with
  | error e =>
      obtain ⟨rfl, rfl⟩ := Script.does_done.1 h₄
      exact .unstarted t spec id e hspec
  | ok v =>
  rw [Operation.after_ok, Operation.count, Operation.run_act_bind] at h₄
  rcases Script.does_act.1 h₄ with ⟨rfl, rfl⟩ | ⟨v', ds, rfl, h₅⟩
  · exact .started t spec id _ hspec
  have hafter : Operation.after (fun o => (pure (decide (o = WaitOutcome.healthy)) :
      Operation Bool)) = fun r => .done (r.map fun o => decide (o = .healthy)) := by
    funext r
    cases r <;> rfl
  rw [Operation.run_bind, hafter] at h₅
  rcases h₅.of_bind with ⟨s', hs', rfl⟩ | ⟨ds₁, ds₂, r, rfl, hw, hr⟩
  · exact .watched t spec id ds s' hspec hs'
  · obtain ⟨rfl, rfl⟩ := Script.does_done.1 hr
    rw [List.append_nil]
    exact .watched t spec id ds₁ (.done r) hspec hw

variable {ds : List Deed} {s : Script (Except OperationError Bool)}

/-- Watching a container creates nothing and lists nothing. -/
theorem quiet_of_watches {id : String} (h : ∀ d ∈ ds, d.action.Watches id) :
    ds.filterMap Deed.created? = [] ∧ ds.filterMap Deed.recorded? = [] := by
  refine ⟨List.filterMap_eq_nil_iff.2 fun d hd => ?_, List.filterMap_eq_nil_iff.2 fun d hd => ?_⟩
  all_goals
    obtain ⟨x, a⟩ := d
    cases h _ hd <;> rfl

/-- What is left of a watch starts nothing. -/
theorem watched_ne_start {id : String} {s' : Script (Except OperationError WaitOutcome)}
    (hs : s'.Within (Action.Watches id)) (f : Except OperationError WaitOutcome →
      Except OperationError Bool) {id' : String}
    {next : (Action.call (.start id')).Answer → Script (Except OperationError Bool)} :
    s'.bind (fun r => .done (f r)) ≠ .act (.call (.start id')) next := by
  intro h
  cases s' with
  | done r => cases h
  | act x n =>
      have hx : x = .call (.start id') := by
        cases h
        rfl
      have := hs.1
      rw [hx] at this
      cases this

/-- **A launch that has ended has listed what it created.** -/
theorem recorded_eq_created {r : Except OperationError Bool}
    (h : (launchClone template request image policy).run.Does ds (.done r)) :
    ds.filterMap Deed.recorded? = (ds.filterMap Deed.created?).map (request.node, ·) := by
  generalize hs : (Script.done r) = s at h
  cases stage_of_does h with
  | watched t spec id ds' s' _ watch =>
      obtain ⟨hc, hr⟩ :=
        quiet_of_watches ((waitUntilUsable_within id policy).of_does watch).2
      simp [Deed.recorded?, Deed.created?, List.filterMap_cons, hc, hr]
  | created => cases hs
  | _ => rfl

/-- Under its node a launch that has ended has listed what it created, under others nothing. -/
theorem recorded_under {r : Except OperationError Bool}
    (h : (launchClone template request image policy).run.Does ds (.done r)) (node : String) :
    ds.filterMap (fun d => d.recorded?.bind fun e => if e.1 = node then some e.2 else none) =
      if request.node = node then ds.filterMap Deed.created? else [] := by
  rw [← List.filterMap_filterMap, recorded_eq_created h, List.filterMap_map]
  show List.filterMap (fun id => if request.node = node then some id else none) _ = _
  by_cases hn : request.node = node
  · simp [hn]
  · simp [hn]

/-- **What a launch is about to start it has listed.** -/
theorem recorded_of_start {id : String}
    {next : (Action.call (.start id)).Answer → Script (Except OperationError Bool)}
    (h : (launchClone template request image policy).run.Does ds (.act (.call (.start id)) next)) :
    (request.node, id) ∈ ds.filterMap Deed.recorded? := by
  generalize hs : Script.act (.call (.start id)) next = s at h
  cases stage_of_does h with
  | recorded t spec id' next' _ =>
      cases hs
      simp [Deed.recorded?]
  | watched t spec id' ds' s' _ watch =>
      exact absurd hs.symm (watched_ne_start
        ((waitUntilUsable_within id' policy).of_does watch).1 _)
  | _ => cases hs

end Launch

end Testbed
