/-
**Starting nodes, whatever the order.**

The clones of all nodes are launched beside each other, and their calls interleave as they like.
Each launch still takes its own course, so that at the end the ledger lists what was created, and
the outcome is the same for every order.

Main definitions:

* `Testbed.CloneTask`, `Testbed.Orchestrator.allTasks` — the clones that requests ask for;
* `Testbed.Orchestrator.outcomes` — their outcomes, request by request;
* `Testbed.History.created` — the ids that were created for a node.

Main results:

* `Testbed.Orchestrator.startNetwork_run` — a start of a network is a fan-out of its clones;
* `Testbed.Orchestrator.listed_of_start` — what is about to be started is listed;
* `Testbed.Orchestrator.launches_of_end` — at the end every clone has taken the course of its launch;
* `Testbed.Orchestrator.recorded_perm_created` — **at the end the ledger lists what was created**;
* `Testbed.Orchestrator.alike_of_startNetwork` — **launches that are answered alike come to the same
  outcome**, in whatever order they interleave.
-/

import Testbed.Proofs.Network.Outcomes
import Testbed.Proofs.Rehearsal.World
import Testbed.Proofs.Script.Together

set_option relaxedAutoImplicit false
set_option autoImplicit false

namespace Testbed

/-! ### The clones of a start -/

/-- A clone that is to be launched. -/
structure CloneTask where
  template : String
  request : NodeRequest
  image : String

namespace CloneTask

/-- The node that a clone is for. -/
def node (c : CloneTask) : String := c.request.node

/-- The launch of a clone. -/
def operation (policy : WaitPolicy) (c : CloneTask) : Operation Bool :=
  launchClone c.template c.request c.image policy

end CloneTask

/-- The ids that the clones for a node created, in order. -/
def History.created {τ : Type} (tasks : List CloneTask) (node : String) (ms : History τ) :
    List String :=
  ms.collect fun who d =>
    match who with
    | .lead => none
    | .script i => if (tasks[i]?).map CloneTask.node = some node then d.created? else none

namespace Orchestrator

variable (o : Orchestrator) (requests : List NodeRequest)

/-- The clones of one request, quorum before tessera; none for a node without templates. -/
def cloneTasks (r : NodeRequest) : List CloneTask :=
  match o.settings.nodes.get? r.node with
  | none => []
  | some pair =>
    let quorum := o.catalog.quorumOrEmpty r.quorumVersion
    [⟨pair.quorum, withImage r quorum, quorum.image⟩,
      ⟨pair.tessera, withImage r quorum, o.catalog.tesseraOrEmpty r.tesseraVersion⟩]

/-- The clones of all requests. -/
def allTasks : List CloneTask := requests.flatMap o.cloneTasks

/-- The outcomes of requests, given those of their clones: a request for a node without templates
fails by itself. -/
def outcomes : List NodeRequest → List (Except OperationError Bool) →
    List (List (Except OperationError Bool))
  | [], _ => []
  | r :: requests, rs =>
    match o.settings.nodes.get? r.node with
    | none => [.error (.unknownNode r.node)] :: outcomes requests rs
    | some _ => rs.take 2 :: outcomes requests (rs.drop 2)

theorem node_withImage (r : NodeRequest) (q : QuorumImage) : (withImage r q).node = r.node := by
  unfold withImage
  by_cases h : q.image = "" <;> simp [h]

theorem node_of_cloneTasks {r : NodeRequest} {c : CloneTask} (h : c ∈ o.cloneTasks r) :
    c.node = r.node ∧ (o.settings.nodes.get? c.node).isSome := by
  have hnode : c.node = r.node := by
    unfold cloneTasks at h
    split at h
    · simp at h
    · rcases List.mem_cons.1 h with rfl | h
      · exact node_withImage r _
      · obtain rfl := List.mem_singleton.1 h
        exact node_withImage r _
  refine ⟨hnode, ?_⟩
  rw [hnode]
  unfold cloneTasks at h
  split at h
  · simp at h
  · rename_i pair hpair
    simp [hpair]

theorem node_of_allTasks {c : CloneTask} (h : c ∈ o.allTasks requests) :
    c.node ∈ requests.map NodeRequest.node ∧ (o.settings.nodes.get? c.node).isSome := by
  obtain ⟨r, hr, hc⟩ := List.mem_flatMap.1 h
  obtain ⟨hnode, hsome⟩ := o.node_of_cloneTasks hc
  exact ⟨List.mem_map.2 ⟨r, hr, hnode.symm⟩, hsome⟩

theorem operations_launches :
    operations (requests.flatMap o.launches) =
      (o.allTasks requests).map (CloneTask.operation o.settings.waitPolicy) := by
  induction requests with
  | nil => rfl
  | cons r requests ih =>
      unfold operations at ih
      unfold operations allTasks
      rw [List.flatMap_cons, List.flatMap_cons, List.filterMap_append, List.map_append, ih]
      refine congrArg (· ++ _) ?_
      unfold launches cloneTasks
      cases o.settings.nodes.get? r.node <;> rfl

theorem settle_launches {rs : List (Except OperationError Bool)}
    (h : rs.length = (o.allTasks requests).length) :
    settle (requests.flatMap o.launches) rs = (o.outcomes requests rs).flatten := by
  induction requests generalizing rs with
  | nil => rfl
  | cons r requests ih =>
      have hsum : rs.length = (o.cloneTasks r).length + (o.allTasks requests).length := by
        rwa [allTasks, List.flatMap_cons, List.length_append] at h
      rw [List.flatMap_cons]
      unfold launches outcomes
      -- a node without templates takes no outcome, any other takes two
      cases hpair : o.settings.nodes.get? r.node with
      | none =>
          have hnone : (o.cloneTasks r).length = 0 := by simp [cloneTasks, hpair]
          show _ :: settle (requests.flatMap o.launches) rs = _
          rw [ih (by omega)]
          rfl
      | some pair =>
          have htwo : (o.cloneTasks r).length = 2 := by simp [cloneTasks, hpair]
          obtain ⟨a, rs, rfl⟩ := List.exists_cons_of_length_pos (l := rs) (by omega)
          rw [List.length_cons] at hsum
          obtain ⟨b, rs, rfl⟩ := List.exists_cons_of_length_pos (l := rs) (by omega)
          rw [List.length_cons] at hsum
          show a :: b :: settle (requests.flatMap o.launches) rs = _
          rw [ih (by omega)]
          rfl

/-! ### A start as a fan-out -/

/-- What follows the launches: the pause for consensus, if all went well. -/
def conclude (rs : List (Except OperationError Bool)) : Script (Except OperationError Bool) :=
  match conjunction (settle (requests.flatMap o.launches) rs) with
  | .ok true => .act (.sleep (seconds o.settings.waiting.gracePeriod)) fun _ => .done (.ok true)
  | r => .done r

/-- The launches of a start as scripts. -/
def launchScripts : List (Script (Except OperationError Bool)) :=
  (o.allTasks requests).map fun c => (c.operation o.settings.waitPolicy).run

/-- A start of a network runs its clones beside each other. -/
theorem startNetwork_run :
    (o.startNetwork requests).run =
      Ensemble.fanOut (o.launchScripts requests) (o.conclude requests) := by
  unfold startNetwork startNodes launchScripts
  rw [FanOut.run_bind, FanOut.run_together_bind, Ensemble.bind_assoc, operations_launches,
    List.map_map]
  unfold Ensemble.fanOut
  congr 1
  funext rs
  unfold conclude
  cases conjunction (settle (requests.flatMap o.launches) rs) with
  | error e => rfl
  | ok b => cases b <;> rfl

theorem settles_startNetwork : (o.startNetwork requests).run.Settles 0 := by
  rw [startNetwork_run]
  exact Ensemble.settles_fanOut _ _

theorem launchClone_plain (template : String) (request : NodeRequest) (image : String)
    (policy : WaitPolicy) : (launchClone template request image policy).run.Within
      Action.IsPlain := by
  have hcall : ∀ c, (Operation.call c).run.Within Action.IsPlain :=
    fun c => ⟨trivial, fun _ => trivial⟩
  refine Script.within_bind (hcall _) fun t => Script.within_bind ?_ fun spec => ?_
  · trivial
  refine Script.within_bind (hcall _) fun id => ?_
  refine Script.within_bind ⟨trivial, fun _ => trivial⟩ fun _ => ?_
  refine Script.within_bind (hcall _) fun _ => ?_
  refine Script.within_bind ⟨trivial, fun _ => trivial⟩ fun _ => ?_
  refine Script.within_bind ?_ fun _ => trivial
  refine (waitUntilUsable_within id policy).mono fun x hx => ?_
  cases hx <;> trivial

/-- A start reads no file and does nothing with the ledger but list what it creates. -/
theorem startNetwork_plain : (o.startNetwork requests).run.Within Action.IsPlain := by
  rw [startNetwork_run]
  refine Ensemble.Within.fanOut (fun s hs => ?_) fun rs => ?_
  · obtain ⟨c, -, rfl⟩ := List.mem_map.1 hs
    exact launchClone_plain ..
  · unfold conclude
    cases conjunction (settle (requests.flatMap o.launches) rs) with
    | error e => trivial
    | ok b =>
        cases b with
        | false => trivial
        | true => exact ⟨trivial, fun _ => trivial⟩

/-! ### Runs of a start -/

section Runs

variable {o : Orchestrator} {requests : List NodeRequest}
  {ms : History (Except OperationError Bool)}
  {t : Threads (Except OperationError Bool) (Except OperationError Bool)}

/-- What follows the launches is the pause, and only if all went well. -/
theorem deeds_of_conclude {rs : List (Except OperationError Bool)} {ds : List Deed}
    {r : Except OperationError Bool} (h : (o.conclude requests rs).Does ds (.done r)) :
    r = conjunction (settle (requests.flatMap o.launches) rs) ∧
      (r = .ok true → ds = [⟨.sleep (seconds o.settings.waiting.gracePeriod), ()⟩]) ∧
      (r ≠ .ok true → ds = []) := by
  unfold conclude at h
  generalize conjunction (settle (requests.flatMap o.launches) rs) = verdict at h
  cases verdict with
  | error e =>
      obtain ⟨rfl, hr⟩ := Script.does_done.1 h
      cases hr
      exact ⟨rfl, nofun, fun _ => rfl⟩
  | ok b =>
      cases b with
      | false =>
          obtain ⟨rfl, hr⟩ := Script.does_done.1 h
          cases hr
          exact ⟨rfl, nofun, fun _ => rfl⟩
      | true =>
          rcases Script.does_act.1 h with ⟨-, hr⟩ | ⟨u, ds, rfl, h'⟩
          · cases hr
          · obtain ⟨rfl, hr⟩ := Script.does_done.1 h'
            cases hr
            exact ⟨rfl, fun _ => rfl, fun h => absurd rfl h⟩

theorem conclude_within (rs : List (Except OperationError Bool)) :
    (o.conclude requests rs).Within
      (· = .sleep (seconds o.settings.waiting.gracePeriod)) := by
  unfold conclude
  cases conjunction (settle (requests.flatMap o.launches) rs) with
  | error e => trivial
  | ok b =>
      cases b with
      | false => trivial
      | true => exact ⟨rfl, fun _ => trivial⟩

/-- Each script of a start is on the way of its own launch. -/
theorem launch_of_script (x : Threads.Explained (o.startNetwork requests).run ms t) {i : Nat}
    {s : Script (Except OperationError Bool)} (hi : t.scripts[i]? = some s) :
    ∃ c, (o.allTasks requests)[i]? = some c ∧
      (c.operation o.settings.waitPolicy).run.Does (ms.deedsOf (.script i)) s := by
  rw [startNetwork_run] at x
  obtain ⟨s₀, hs₀, hdoes⟩ := x.script_of_fanOut hi
  rw [launchScripts, List.getElem?_map] at hs₀
  obtain ⟨c, hc, rfl⟩ := Option.map_eq_some_iff.1 hs₀
  exact ⟨c, hc, hdoes⟩

/-- The leading thread of a start does nothing but pause, behind all launches. -/
theorem lead_of_startNetwork (x : Threads.Explained (o.startNetwork requests).run ms t) :
    (t.lead.Waits ∧ ms.deedsOf .lead = []) ∨
      ∃ (rs : List (Except OperationError Bool)) (s : Script (Except OperationError Bool)),
        rs.length = (o.allTasks requests).length ∧ t.scripts = rs.map .done ∧
          t.lead = .ofScript s ∧ (o.conclude requests rs).Does (ms.deedsOf .lead) s := by
  rw [startNetwork_run] at x
  rcases x.lead_of_fanOut with ⟨hw, hd, -⟩ | ⟨rs, s, hst, hsc, hl, hs⟩
  · exact .inl ⟨hw, hd⟩
  · refine .inr ⟨rs, s, ?_, hsc, hl, hs⟩
    have hlen := x.length_scripts
    rw [hst, hsc, List.length_map, launchScripts, List.length_map] at hlen
    exact hlen

/-- **What is about to be started is listed**, under the node that it was created for. -/
theorem listed_of_start (x : Threads.Explained (o.startNetwork requests).run ms t)
    {who : Thread} {id : String} (h : t.action? who = some (.call (.start id))) :
    ∃ i c, who = .script i ∧ (o.allTasks requests)[i]? = some c ∧ id ∈ ms.recorded c.node := by
  cases who with
  | lead =>
      exfalso
      rcases lead_of_startNetwork x with ⟨hw, -⟩ | ⟨rs, s, -, -, hl, hs⟩
      · unfold Threads.action? at h
        cases hlead : t.lead <;> simp [hlead] at h
        rw [hlead] at hw
        exact hw
      · have hwithin := ((conclude_within rs).of_does hs).1
        cases s with
        | done r =>
            have hnone : t.action? .lead = none := by
              unfold Threads.action?
              rw [hl]
              rfl
            rw [hnone] at h
            cases h
        | act y next =>
            have hsome : t.action? .lead = some y := by
              unfold Threads.action?
              rw [hl]
              rfl
            rw [hsome] at h
            cases hwithin.1.symm.trans (Option.some.inj h)
  | script i =>
      unfold Threads.action? at h
      simp only at h
      split at h
      · rename_i y next hi
        obtain rfl : y = .call (.start id) := Option.some.inj h
        obtain ⟨c, hc, hdoes⟩ := launch_of_script x hi
        refine ⟨i, c, rfl, hc, ?_⟩
        obtain ⟨d, hd, hrec⟩ := List.mem_filterMap.1 (Launch.recorded_of_start hdoes)
        refine History.mem_collect.2 ⟨.script i, d, History.mem_deedsOf.1 hd, ?_⟩
        simp [hrec, CloneTask.node]
      · cases h

/-- The end of a start: all launches have ended. -/
theorem end_of_startNetwork (x : Threads.Explained (o.startNetwork requests).run ms t)
    {r : Except OperationError Bool} (ht : t.lead = .done r) :
    ∃ rs : List (Except OperationError Bool), rs.length = (o.allTasks requests).length ∧
      t.scripts = rs.map .done ∧ r = conjunction (o.outcomes requests rs).flatten ∧
      (r = .ok true →
        ms.deedsOf .lead = [⟨.sleep (seconds o.settings.waiting.gracePeriod), ()⟩]) ∧
      (r ≠ .ok true → ms.deedsOf .lead = []) := by
  rw [startNetwork_run] at x
  obtain ⟨rs, hlen, hsc, hg, -⟩ := x.end_of_fanOut ht
  rw [launchScripts, List.length_map] at hlen
  obtain ⟨hr, hd⟩ := deeds_of_conclude hg
  refine ⟨rs, hlen, hsc, ?_, hd⟩
  rw [hr, o.settle_launches requests hlen]

/-- **At the end of a start every clone has taken the course of its launch**: the thread at its place
has done what its launch does, and ended with its outcome. -/
theorem launches_of_end (x : Threads.Explained (o.startNetwork requests).run ms t)
    {rs : List (Except OperationError Bool)} (hsc : t.scripts = rs.map .done) {i : Nat}
    {c : CloneTask} {r : Except OperationError Bool} (hc : (o.allTasks requests)[i]? = some c)
    (hr : rs[i]? = some r) :
    (c.operation o.settings.waitPolicy).run.Does (ms.deedsOf (.script i)) (.done r) := by
  have hscript : t.scripts[i]? = some (.done r) := by rw [hsc, List.getElem?_map, hr, Option.map_some]
  obtain ⟨c', hc', hdoes⟩ := launch_of_script x hscript
  obtain rfl : c = c' := Option.some.inj (hc.symm.trans hc')
  exact hdoes

/-- At the end of a start all its launches have been started. -/
theorem started_of_startNetwork (x : Threads.Explained (o.startNetwork requests).run ms t)
    {r : Except OperationError Bool} (ht : t.lead = .done r) :
    ms.started = o.launchScripts requests := by
  rw [startNetwork_run] at x
  rcases x.lead_of_fanOut with ⟨hwaits, -, -⟩ | ⟨rs, s, hstarted, -⟩
  · rw [ht] at hwaits
    exact hwaits.elim
  · exact hstarted

/-- At the end of a start every call was made by the launch of a clone. -/
theorem task_of_call (x : Threads.Explained (o.startNetwork requests).run ms t)
    {r : Except OperationError Bool} (ht : t.lead = .done r) {who : Thread} {c : Call}
    {a : Except OperationError c.Answer} (hcall : (who, .deed ⟨.call c, a⟩) ∈ ms) :
    ∃ i task, who = .script i ∧ (o.allTasks requests)[i]? = some task := by
  have hdeed := History.mem_deedsOf.2 hcall
  cases who with
  | lead =>
      -- the leading thread only pauses
      obtain ⟨-, -, -, -, hpause, hnone⟩ := end_of_startNetwork x ht
      by_cases hok : r = .ok true
      · rw [hpause hok] at hdeed
        cases List.mem_singleton.1 hdeed
      · rw [hnone hok] at hdeed
        simp at hdeed
  | script i =>
      have hlt : i < t.scripts.length := by
        rw [x.length_scripts]
        refine Nat.lt_of_not_le fun hge => ?_
        rw [x.idle i hge] at hdeed
        simp at hdeed
      obtain ⟨task, htask, -⟩ := launch_of_script x (List.getElem?_eq_getElem hlt)
      exact ⟨i, task, rfl, htask⟩

/-- **Two starts whose launches are answered alike** come to the same outcomes by the same deeds. -/
theorem alike_of_startNetwork {ms' : History (Except OperationError Bool)}
    {t' : Threads (Except OperationError Bool) (Except OperationError Bool)}
    {reply : Nat → List Exchange → (c : Call) → Except OperationError c.Answer}
    {r r' : Except OperationError Bool}
    (x : Threads.Explained (o.startNetwork requests).run ms t) (ht : t.lead = .done r)
    (x' : Threads.Explained (o.startNetwork requests).run ms' t') (ht' : t'.lead = .done r')
    (h : ∀ i, Exchange.Follows (reply i) (exchanges (ms.deedsOf (.script i))))
    (h' : ∀ i, Exchange.Follows (reply i) (exchanges (ms'.deedsOf (.script i)))) :
    r = r' ∧ ∀ who, ms.deedsOf who = ms'.deedsOf who := by
  have hsame : ∀ i, t.scripts[i]? = t'.scripts[i]? ∧
      ms.deedsOf (.script i) = ms'.deedsOf (.script i) := by
    intro i
    rw [startNetwork_run] at x x'
    refine Threads.Explained.script_unique (fun s hs => ?_) x ht x' ht' (h i) (h' i)
    obtain ⟨c, -, rfl⟩ := List.mem_map.1 hs
    exact launchClone_plain ..
  obtain ⟨rs, -, hsc, hr, hpause, hnone⟩ := end_of_startNetwork x ht
  obtain ⟨rs', -, hsc', hr', hpause', hnone'⟩ := end_of_startNetwork x' ht'
  have hscripts : rs.map Script.done = rs'.map Script.done := by
    rw [← hsc, ← hsc']
    exact List.ext_getElem? fun i => (hsame i).1
  have hrs : rs = rs' := (List.map_inj_right fun _ _ he => Script.done.inj he).1 hscripts
  have hrr : r = r' := by rw [hr, hr', hrs]
  refine ⟨hrr, fun who => ?_⟩
  cases who with
  | script i => exact (hsame i).2
  | lead =>
      by_cases hok : r = .ok true
      · rw [hpause hok, hpause' (hrr ▸ hok)]
      · rw [hnone hok, hnone' (hrr ▸ hok)]

/-- **At the end of a start** each node lists what its launches created. -/
theorem recorded_perm_created (x : Threads.Explained (o.startNetwork requests).run ms t)
    {r : Except OperationError Bool} (ht : t.lead = .done r) (node : String) :
    (ms.recorded node).Perm (ms.created (o.allTasks requests) node) := by
  obtain ⟨rs, hlen, hsc, -, hpause, hnone⟩ := end_of_startNetwork x ht
  refine History.collect_perm fun who => ?_
  cases who with
  | lead =>
      -- the pause lists nothing
      by_cases hr : r = .ok true
      · rw [hpause hr]
        exact .nil
      · rw [hnone hr]
        exact .nil
  | script i =>
      rcases Nat.lt_or_ge i rs.length with hi | hi
      · have hscript : t.scripts[i]? = some (.done rs[i]) := by
          rw [hsc, List.getElem?_map, List.getElem?_eq_getElem hi]
          rfl
        obtain ⟨c, hc, hdoes⟩ := launch_of_script x hscript
        simp only [hc, Option.map_some, Option.some.injEq]
        rw [Launch.recorded_under hdoes]
        show (if c.node = node then _ else _ : List String).Perm _
        by_cases hn : c.node = node
        · simp [hn]
        · simp [hn]
      · have hidle : ms.deedsOf (.script i) = [] := by
          refine x.idle i ?_
          rw [← x.length_scripts, hsc, List.length_map]
          exact hi
        rw [hidle]
        exact .nil

end Runs

open Rehearsal

/-- A start adds to the ledger what it lists, in the order in which it lists it. -/
theorem ids_of_startNetwork {R : Type} {h : Host R} {o : Orchestrator}
    {requests : List NodeRequest} {w v : World R} {ms : History (Except OperationError Bool)}
    {t : Threads (Except OperationError Bool) (Except OperationError Bool)}
    (run : Threads.Run (perform h) (.ofEnsemble (o.startNetwork requests).run) w ms t v)
    (node : String) : v.ledger.ids node = w.ledger.ids node ++ ms.recorded node :=
  (run.plain (fun _ _ hd => run.explained.within (o.startNetwork_plain requests) hd) node).1

/-! ### A small network -/

/-- One node with two templates. -/
def soleNode : Orchestrator :=
  ⟨{ nodes := Dict.ofList [("n", ⟨"q", "t"⟩)] }, ⟨Dict.empty, Dict.empty⟩⟩

/-- Two nodes are asked for, of which one has no templates. -/
def twoRequests : List NodeRequest := [{ node := "n" }, { node := "m" }]

/-- Every template is ready, and the clone of the second one does not start. -/
def stubbornAnswers : (c : Call) → Except OperationError c.Answer
  | .inspect id =>
    .ok { (default : ContainerDetails) with
      id, name := id, status := "created", networks := [{ name := "net" }] }
  | .create spec => .ok ("id-" ++ spec.name)
  | .start id => if id = "id-t-clone" then .error (.api "no such port") else .ok ()
  | .stop _ | .restart _ | .remove _ | .exec .. | .upload .. | .ping => .ok ()
  | .download .. => .ok []
  | .info => .ok default

/-! ### Every run of a start -/

/-- **A start of a network lists exactly what it creates**, whatever the runtime answers and in
whatever order the launches interleave: what is about to be started is listed; at the end, with or
without a failure, no launch is still under way, and every node lists what was there before and
behind it what its launches created, in the order in which they listed it.  Every run can come to
such an end. -/
theorem startNetwork_lists_created {R : Type} (h : Host R) (o : Orchestrator)
    (requests : List NodeRequest) (w v : World R) (ms : History (Except OperationError Bool))
    (t : Threads (Except OperationError Bool) (Except OperationError Bool))
    (run : Threads.Run (perform h) (.ofEnsemble (o.startNetwork requests).run) w ms t v) :
    (∀ who id, t.action? who = some (.call (.start id)) →
      ∃ i c, who = .script i ∧ (o.allTasks requests)[i]? = some c ∧ id ∈ v.ledger.ids c.node) ∧
    (∀ r, t.lead = .done r →
      (∃ rs : List (Except OperationError Bool),
        rs.length = (o.allTasks requests).length ∧ t.scripts = rs.map .done) ∧
      (∀ node, v.ledger.ids node = w.ledger.ids node ++ ms.recorded node ∧
        (ms.recorded node).Perm (ms.created (o.allTasks requests) node)) ∧
      ∀ node, node ∉ requests.map NodeRequest.node → v.ledger.ids node = w.ledger.ids node) ∧
    ∃ ns u x r, Threads.Run (perform h) t v ns u x ∧ u.lead = .done r := by
  have hx := run.explained
  have hledger : ∀ node, v.ledger.ids node = w.ledger.ids node ++ ms.recorded node := fun node =>
    (run.plain (fun who d hd => hx.within (o.startNetwork_plain requests) hd) node).1
  refine ⟨fun who id hact => ?_, fun r ht => ⟨?_, fun node => ?_, fun node hnode => ?_⟩, ?_⟩
  · obtain ⟨i, c, hwho, hc, hmem⟩ := listed_of_start hx hact
    refine ⟨i, c, hwho, hc, ?_⟩
    rw [hledger c.node]
    exact List.mem_append_right _ hmem
  · obtain ⟨rs, hlen, hsc, -⟩ := end_of_startNetwork hx ht
    exact ⟨rs, hlen, hsc⟩
  · exact ⟨hledger node, recorded_perm_created hx ht node⟩
  · -- no clone is for this node
    have hnone : ms.created (o.allTasks requests) node = [] := by
      refine List.eq_nil_iff_forall_not_mem.2 fun id hid => ?_
      obtain ⟨who, d, -, hd⟩ := History.mem_collect.1 hid
      cases who with
      | lead => cases hd
      | script i =>
          simp only at hd
          split at hd
          · rename_i hsome
            obtain ⟨c, hc, hcn⟩ := Option.map_eq_some_iff.1 hsome
            exact hnode (hcn ▸ (o.node_of_allTasks requests (List.mem_of_getElem? hc)).1)
          · cases hd
    have hempty : ms.recorded node = [] :=
      List.perm_nil.1 (hnone ▸ recorded_perm_created hx ht node)
    rw [hledger node, hempty, List.append_nil]
  · exact run.completes (o.settles_startNetwork requests)

theorem startNetwork_lists_created_of_two :
    ∃ ms t v r, Threads.Run (perform (.ofAnswers stubbornAnswers))
        (.ofEnsemble (soleNode.startNetwork twoRequests).run) { runtime := () } ms t v ∧
      t.lead = .done r ∧ v.ledger.ids "n" = ["id-t-clone", "id-q-clone"] ∧
      (ms.created (soleNode.allTasks twoRequests) "n").Perm ["id-q-clone", "id-t-clone"] := by
  have hend : ((soleNode.startNetwork twoRequests).run.endIn? (perform (.ofAnswers stubbornAnswers))
      [.lead, .lead, .script 1, .script 0, .script 1, .script 1, .script 0, .script 1, .script 0,
        .script 0, .script 0, .script 0, .lead, .lead] { runtime := () }).map
        (fun x => x.2.ledger.ids "n") = some ["id-t-clone", "id-q-clone"] := by decide +kernel
  obtain ⟨⟨r, v⟩, hx, hids⟩ := Option.map_eq_some_iff.1 hend
  obtain ⟨ms, t, run, ht⟩ := Ensemble.ends_of_endIn? hx
  refine ⟨ms, t, v, r, run, ht, hids, ?_⟩
  obtain ⟨-, hdone, -⟩ := startNetwork_lists_created _ _ _ _ _ _ _ run
  obtain ⟨-, hlist, -⟩ := hdone r ht
  obtain ⟨hids', hperm⟩ := hlist "n"
  rw [hids] at hids'
  refine hperm.symm.trans ?_
  rw [show ms.recorded "n" = ["id-t-clone", "id-q-clone"] from hids'.symm]
  exact .swap ..

/-- **The outcome of a start does not depend on the order** in which its launches interleave, if
the answers to each launch depend on its own calls only: every thread does the same.  All clones are
launched, quorum before tessera in the order of the requests, and each takes the course of its
launch.  The outcome of the start is the first failure in this order, where a node without templates
fails without a call, or else whether all clones became usable; and it makes no difference whether
the outcomes are taken together at once or node by node.  The pause for consensus comes behind all
launches, once, if all went well, and not at all otherwise. -/
theorem startNetwork_order_independent {R₁ R₂ : Type} (h₁ : Host R₁) (h₂ : Host R₂)
    (o : Orchestrator) (requests : List NodeRequest)
    (reply : Nat → List Exchange → (c : Call) → Except OperationError c.Answer)
    (w₁ v₁ : World R₁) (w₂ v₂ : World R₂) (ms₁ ms₂ : History (Except OperationError Bool))
    (t₁ t₂ : Threads (Except OperationError Bool) (Except OperationError Bool))
    (r₁ r₂ : Except OperationError Bool)
    (run₁ : Threads.Run (perform h₁) (.ofEnsemble (o.startNetwork requests).run) w₁ ms₁ t₁ v₁)
    (end₁ : t₁.lead = .done r₁)
    (answers₁ : ∀ i, Exchange.Follows (reply i) (exchanges (ms₁.deedsOf (.script i))))
    (run₂ : Threads.Run (perform h₂) (.ofEnsemble (o.startNetwork requests).run) w₂ ms₂ t₂ v₂)
    (end₂ : t₂.lead = .done r₂)
    (answers₂ : ∀ i, Exchange.Follows (reply i) (exchanges (ms₂.deedsOf (.script i)))) :
    r₁ = r₂ ∧
    (∀ node, v₁.ledger.ids node = w₁.ledger.ids node ++ ms₁.recorded node ∧
      v₂.ledger.ids node = w₂.ledger.ids node ++ ms₂.recorded node ∧
      (ms₁.recorded node).Perm (ms₂.recorded node)) ∧
    (∀ who, ms₁.deedsOf who = ms₂.deedsOf who) ∧
    (∃ rs : List (Except OperationError Bool), rs.length = (o.allTasks requests).length ∧
      t₁.scripts = rs.map .done ∧
      (∀ (i : Nat) (c : CloneTask) (r : Except OperationError Bool),
        (o.allTasks requests)[i]? = some c → rs[i]? = some r →
        (c.operation o.settings.waitPolicy).run.Does (ms₁.deedsOf (.script i)) (.done r)) ∧
      Joined (o.outcomes requests rs).flatten r₁ ∧
      Joined ((o.outcomes requests rs).map conjunction) r₁) ∧
    (r₁ = .ok true →
      ms₁.deedsOf .lead = [⟨.sleep (seconds o.settings.waiting.gracePeriod), ()⟩]) ∧
    (r₁ ≠ .ok true → ms₁.deedsOf .lead = []) ∧
    (∀ before d behind, ms₁ = before ++ (.lead, .deed d) :: behind →
      ∀ i m, (Thread.script i, m) ∉ behind) ∧
    ∀ who c a, (who, .deed ⟨.call c, a⟩) ∈ ms₁ → ∃ i task, who = .script i ∧
      (o.allTasks requests)[i]? = some task ∧ (o.settings.nodes.get? task.node).isSome := by
  have x₁ := run₁.explained
  have x₂ := run₂.explained
  obtain ⟨rs₁, hlen₁, hsc₁, hr₁, hpause₁, hnone₁⟩ := end_of_startNetwork x₁ end₁
  obtain ⟨hr, hdeeds⟩ := alike_of_startNetwork x₁ end₁ x₂ end₂ answers₁ answers₂
  refine ⟨hr, fun node => ⟨?_, ?_, ?_⟩, hdeeds, ⟨rs₁, hlen₁, hsc₁, ?_, ?_, ?_⟩, hpause₁, hnone₁, ?_,
    ?_⟩
  · exact (run₁.plain (fun _ _ hd => x₁.within (o.startNetwork_plain requests) hd) node).1
  · exact (run₂.plain (fun _ _ hd => x₂.within (o.startNetwork_plain requests) hd) node).1
  · refine History.collect_perm fun who => ?_
    rw [hdeeds who]
  · intro i c r hc hi
    exact launches_of_end x₁ hsc₁ hc hi
  · exact joined_iff.2 hr₁
  · exact joined_iff.2 (hr₁.trans (conjunction_flatten _))
  · rintro before d behind rfl
    rw [startNetwork_run] at run₁
    exact run₁.scripts_before_lead
  · intro who c a hcall
    obtain ⟨i, task, hwho, htask⟩ := task_of_call x₁ end₁ hcall
    exact ⟨i, task, hwho, htask, (o.node_of_allTasks requests (List.mem_of_getElem? htask)).2⟩

theorem startNetwork_order_independent_of_two :
    ∃ ms₁ t₁ v₁ ms₂ t₂ v₂ r, Threads.Run (perform (.ofAnswers stubbornAnswers))
        (.ofEnsemble (soleNode.startNetwork twoRequests).run) { runtime := () } ms₁ t₁ v₁ ∧
      Threads.Run (perform (.ofAnswers stubbornAnswers))
        (.ofEnsemble (soleNode.startNetwork twoRequests).run) { runtime := () } ms₂ t₂ v₂ ∧
      v₁.ledger.ids "n" = ["id-t-clone", "id-q-clone"] ∧
      v₂.ledger.ids "n" = ["id-q-clone", "id-t-clone"] ∧
      t₁.lead = .done r ∧ t₂.lead = .done r := by
  have hend₁ : ((soleNode.startNetwork twoRequests).run.endIn?
      (perform (.ofAnswers stubbornAnswers))
      [.lead, .lead, .script 1, .script 0, .script 1, .script 1, .script 0, .script 1, .script 0,
        .script 0, .script 0, .script 0, .lead, .lead] { runtime := () }).map
        (fun x => x.2.ledger.ids "n") = some ["id-t-clone", "id-q-clone"] := by decide +kernel
  have hend₂ : ((soleNode.startNetwork twoRequests).run.endIn?
      (perform (.ofAnswers stubbornAnswers))
      [.lead, .script 0, .script 0, .script 0, .script 0, .lead, .script 0, .script 0, .lead,
        .script 1, .script 1, .script 1, .script 1, .lead] { runtime := () }).map
        (fun x => x.2.ledger.ids "n") = some ["id-q-clone", "id-t-clone"] := by decide +kernel
  obtain ⟨⟨r₁, v₁⟩, hx₁, hids₁⟩ := Option.map_eq_some_iff.1 hend₁
  obtain ⟨⟨r₂, v₂⟩, hx₂, hids₂⟩ := Option.map_eq_some_iff.1 hend₂
  obtain ⟨ms₁, t₁, run₁, ht₁⟩ := Ensemble.ends_of_endIn? hx₁
  obtain ⟨ms₂, t₂, run₂, ht₂⟩ := Ensemble.ends_of_endIn? hx₂
  obtain ⟨hr, -⟩ := startNetwork_order_independent _ _ _ _ (fun _ _ => stubbornAnswers) _ _ _ _
    _ _ _ _ _ _ run₁ ht₁ (fun i => run₁.follows_ofAnswers _) run₂ ht₂
    (fun i => run₂.follows_ofAnswers _)
  exact ⟨ms₁, t₁, v₁, ms₂, t₂, v₂, r₁, run₁, run₂, hids₁, hids₂, ht₁, hr ▸ ht₂⟩

end Orchestrator

end Testbed
