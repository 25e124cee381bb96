/-
**Wiping the data of consensus peers.**

The wipe goes through the containers of a ledger in order.  It looks at each of them, and removes
the data of those that carry the label of a peer, up to the first call that fails.  A clone carries
this label exactly if its template does: the labels that are put over those of the template are
other ones.  So where containers are reported with the labels that they were created with, a wipe
behind a start reaches the clones of peers and no other clone.

Main definitions:

* `Testbed.visits`, `Testbed.Wiped` — **what a wipe does, and what comes of it**, from what was seen;
* `Testbed.Orchestrator.PeerClone` — a container that a start created from the template of a peer;
* `Testbed.ReportsCreated` — containers are reported with the labels that they were created with.

Main results:

* `Testbed.wiped_iff` — **a wipe does this and nothing else**;
* `Testbed.ContainerSpec.label_of_ofTemplate` — a clone keeps the labels of its template;
* `Testbed.Orchestrator.peerClone_of_exec`, `Testbed.Orchestrator.exec_of_peerClone` — what a wipe
  behind a start reaches.
-/

import Testbed.Network.Inspection
import Testbed.Proofs.Network.Images
import Testbed.Proofs.Network.LedgerHistory

set_option relaxedAutoImplicit false
set_option autoImplicit false

namespace Testbed

/-! ### One container after the other -/

/-- What a wipe does about a container that it gets to see. -/
def visit (id : String) (d : ContainerDetails) : List Deed :=
  ⟨.call (.inspect id), .ok d⟩ ::
    if d.hasLabel Label.peer then [⟨.call (.exec id wipeCommand), .ok ()⟩] else []

/-- What a wipe does about containers that it gets to see, one after the other. -/
def visits (seen : List (String × ContainerDetails)) : List Deed :=
  seen.flatMap fun s => visit s.1 s.2

/-- **What a wipe does, and what comes of it**: it comes through, or ends with the first look or the
first command that fails. -/
inductive Wiped : List String → List Deed → Except OperationError Bool → Prop
  | through (seen : List (String × ContainerDetails)) :
      Wiped (seen.map Prod.fst) (visits seen) (.ok true)
  | unseen (seen : List (String × ContainerDetails)) (id : String) (behind : List String)
      (e : OperationError) :
      Wiped (seen.map Prod.fst ++ id :: behind)
        (visits seen ++ [⟨.call (.inspect id), .error e⟩]) (.error e)
  | unwiped (seen : List (String × ContainerDetails)) (id : String) (behind : List String)
      (d : ContainerDetails) (e : OperationError) (peer : d.hasLabel Label.peer = true) :
      Wiped (seen.map Prod.fst ++ id :: behind)
        (visits seen ++ [⟨.call (.inspect id), .ok d⟩, ⟨.call (.exec id wipeCommand), .error e⟩])
        (.error e)

theorem wipeData_cons_run (id : String) (ids : List String) :
    (wipeData (id :: ids)).run = .act (.call (.inspect id)) (Operation.after fun d =>
      if d.hasLabel Label.peer then
        Operation.call (.exec id wipeCommand) >>= fun _ => wipeData ids
      else wipeData ids) := by
  rw [wipeData, hasLabel, bind_assoc, Operation.run_call_bind]
  rfl

/-- One more container in front. -/
theorem Wiped.cons {ids : List String} {ds : List Deed} {o : Except OperationError Bool}
    (h : Wiped ids ds o) (id : String) (d : ContainerDetails) :
    Wiped (id :: ids) (visit id d ++ ds) o := by
  cases h with
  | through seen => exact .through ((id, d) :: seen)
  | unseen seen id' behind e =>
      rw [← List.append_assoc]
      exact .unseen ((id, d) :: seen) id' behind e
  | unwiped seen id' behind d' e peer =>
      rw [← List.append_assoc]
      exact .unwiped ((id, d) :: seen) id' behind d' e peer

theorem wiped_of_does {ids : List String} {ds : List Deed} {o : Except OperationError Bool}
    (h : (wipeData ids).run.Does ds (.done o)) : Wiped ids ds o := by
  -- the wipe has ended, so at every call it is either past the call or has failed at it
  induction ids generalizing ds with
  | nil =>
      obtain ⟨rfl, ho⟩ := Script.does_done.1 h
      cases ho
      exact .through []
  | cons id ids ih =>
      rw [wipeData_cons_run] at h
      rcases Script.does_act.1 h with ⟨-, ho⟩ | ⟨a, ds, rfl, h₁⟩
      · cases ho
      cases a with
      | error e =>
          obtain ⟨rfl, ho⟩ := Script.does_done.1 h₁
          cases ho
          exact .unseen [] id ids e
      | ok d =>
      rw [Operation.after_ok] at h₁
      cases hpeer : d.hasLabel Label.peer with
      | false =>
          have hvisit : visit id d = [⟨.call (.inspect id), .ok d⟩] := by simp [visit, hpeer]
          rw [hpeer, if_neg Bool.false_ne_true] at h₁
          have hrest := (ih h₁).cons id d
          rwa [hvisit] at hrest
      | true =>
      have hvisit : visit id d =
          [⟨.call (.inspect id), .ok d⟩, ⟨.call (.exec id wipeCommand), .ok ()⟩] := by
        simp [visit, hpeer]
      rw [hpeer, if_pos rfl, Operation.run_call_bind] at h₁
      rcases Script.does_act.1 h₁ with ⟨-, ho⟩ | ⟨b, ds, rfl, h₂⟩
      · cases ho
      cases b with
      | error e =>
          obtain ⟨rfl, ho⟩ := Script.does_done.1 h₂
          cases ho
          exact .unwiped [] id ids d e hpeer
      | ok u =>
          have hrest := (ih h₂).cons id d
          rwa [hvisit] at hrest

/-- A wipe can go on behind every container that it gets to see. -/
theorem does_visits (seen : List (String × ContainerDetails)) {ids : List String} {ds : List Deed}
    {s : Script (Except OperationError Bool)} (h : (wipeData ids).run.Does ds s) :
    (wipeData (seen.map Prod.fst ++ ids)).run.Does (visits seen ++ ds) s := by
  induction seen with
  | nil => exact h
  | cons x seen ih =>
      obtain ⟨id, d⟩ := x
      show (wipeData (id :: _)).run.Does (visit id d ++ visits seen ++ ds) s
      rw [wipeData_cons_run, List.append_assoc]
      refine .cons _ ?_
      rw [Operation.after_ok]
      cases d.hasLabel Label.peer with
      | false => exact ih
      | true =>
          rw [if_pos rfl, Operation.run_call_bind]
          exact .cons _ ih

/-- **A wipe does this and nothing else**, whatever is answered. -/
theorem wiped_iff {ids : List String} {ds : List Deed} {o : Except OperationError Bool} :
    (wipeData ids).run.Does ds (.done o) ↔ Wiped ids ds o := by
  refine ⟨wiped_of_does, fun h => ?_⟩
  cases h with
  | through seen =>
      have hend := does_visits seen (.nil (wipeData []).run)
      rwa [List.append_nil, List.append_nil] at hend
  | unseen seen id behind e =>
      refine does_visits seen ?_
      rw [wipeData_cons_run]
      exact .cons _ (.nil _)
  | unwiped seen id behind d e peer =>
      refine does_visits seen ?_
      rw [wipeData_cons_run]
      refine .cons _ ?_
      rw [Operation.after_ok, peer, if_pos rfl, Operation.run_call_bind]
      exact .cons _ (.nil _)

/-! ### What a wipe reaches -/

theorem mem_visits {seen : List (String × ContainerDetails)} {deed : Deed} :
    deed ∈ visits seen ↔ ∃ id d, (id, d) ∈ seen ∧ (deed = ⟨.call (.inspect id), .ok d⟩ ∨
      d.hasLabel Label.peer = true ∧ deed = ⟨.call (.exec id wipeCommand), .ok ()⟩) := by
  simp only [visits, visit, List.mem_flatMap, Prod.exists, List.mem_cons, List.mem_ite_nil_right,
    List.not_mem_nil, or_false]

theorem inspect_mem_visits {seen : List (String × ContainerDetails)} {id : String}
    {d : ContainerDetails} : ⟨.call (.inspect id), .ok d⟩ ∈ visits seen ↔ (id, d) ∈ seen := by
  rw [mem_visits]
  constructor
  · rintro ⟨id', d', hmem, heq | ⟨-, heq⟩⟩
    · cases heq
      exact hmem
    · cases heq
  · intro hmem
    exact ⟨id, d, hmem, .inl rfl⟩

theorem exec_mem_visits {seen : List (String × ContainerDetails)} {id : String}
    {a : Except OperationError Unit} : ⟨.call (.exec id wipeCommand), a⟩ ∈ visits seen ↔
      a = .ok () ∧ ∃ d, (id, d) ∈ seen ∧ d.hasLabel Label.peer = true := by
  rw [mem_visits]
  constructor
  · rintro ⟨id', d, hseen, heq | ⟨hpeer, heq⟩⟩
    · cases heq
    · cases heq
      exact ⟨rfl, d, hseen, hpeer⟩
  · rintro ⟨rfl, d, hseen, hpeer⟩
    exact ⟨id, d, hseen, .inr ⟨hpeer, rfl⟩⟩

/-- A command that went well was run where the label was seen, whatever comes behind. -/
theorem peer_of_exec_visits {seen : List (String × ContainerDetails)} {id : String}
    {a : Except OperationError Unit} (h : ⟨.call (.exec id wipeCommand), a⟩ ∈ visits seen)
    (behind : List String) (ds : List Deed) :
    id ∈ seen.map Prod.fst ++ behind ∧
      ∃ d, ⟨.call (.inspect id), .ok d⟩ ∈ visits seen ++ ds ∧ d.hasLabel Label.peer = true := by
  obtain ⟨-, d, hseen, hpeer⟩ := exec_mem_visits.1 h
  have hid : id ∈ seen.map Prod.fst := List.mem_map.2 ⟨_, hseen, rfl⟩
  exact ⟨List.mem_append_left _ hid, d, List.mem_append_left _ (inspect_mem_visits.2 hseen), hpeer⟩

/-- **A command is run where the label was seen**, in one of the containers of the ledger. -/
theorem Wiped.peer_of_exec {ids : List String} {ds : List Deed} {o : Except OperationError Bool}
    (h : Wiped ids ds o) {id : String} {a : Except OperationError Unit}
    (hd : ⟨.call (.exec id wipeCommand), a⟩ ∈ ds) :
    id ∈ ids ∧ ∃ d, ⟨.call (.inspect id), .ok d⟩ ∈ ds ∧ d.hasLabel Label.peer = true := by
  cases h with
  | through seen =>
      have hfront := peer_of_exec_visits hd [] []
      rwa [List.append_nil, List.append_nil] at hfront
  | unseen seen id' behind e =>
      rcases List.mem_append.1 hd with hd | hd
      · exact peer_of_exec_visits hd _ _
      · cases List.mem_singleton.1 hd
  | unwiped seen id' behind d e peer =>
      rcases List.mem_append.1 hd with hd | hd
      · exact peer_of_exec_visits hd _ _
      · rcases List.mem_cons.1 hd with heq | hd
        · cases heq
        · -- the command that failed is the last deed
          cases List.mem_singleton.1 hd
          exact ⟨by simp, d, by simp, peer⟩

/-- A wipe that comes through has seen every container. -/
theorem Wiped.seen_of_ok {ids : List String} {ds : List Deed} (h : Wiped ids ds (.ok true))
    {id : String} (hid : id ∈ ids) : ∃ d, ⟨.call (.inspect id), .ok d⟩ ∈ ds := by
  cases h with
  | through seen =>
      obtain ⟨⟨_, d⟩, hseen, rfl⟩ := List.mem_map.1 hid
      exact ⟨d, inspect_mem_visits.2 hseen⟩

/-- A wipe that comes through has run its command wherever it has seen the label. -/
theorem Wiped.exec_of_ok {ids : List String} {ds : List Deed} (h : Wiped ids ds (.ok true))
    {id : String} {d : ContainerDetails} (hd : ⟨.call (.inspect id), .ok d⟩ ∈ ds)
    (hpeer : d.hasLabel Label.peer = true) : ⟨.call (.exec id wipeCommand), .ok ()⟩ ∈ ds := by
  cases h with
  | through seen => exact exec_mem_visits.2 ⟨rfl, d, inspect_mem_visits.1 hd, hpeer⟩

/-! ### Labels of clones -/

namespace ContainerSpec

variable {template image : String} {t : ContainerDetails} {r : NodeRequest} {spec : ContainerSpec}

/-- How a clone is called, and how it is labelled. -/
theorem marks_of_ofTemplate (h : ofTemplate template t r image = .ok spec) :
    spec.name = cloneName t.name ∧
      spec.labels =
        (t.labels.insert Label.clonedFromId template).insert Label.clonedFromName t.name := by
  obtain ⟨-, rfl⟩ := ofTemplate_eq_ok_iff.1 h
  exact ⟨rfl, rfl⟩

/-- **A clone keeps the labels of its template**, but for the two that say where it came from. -/
theorem label_of_ofTemplate (h : ofTemplate template t r image = .ok spec) {label : String}
    (hid : label ≠ Label.clonedFromId) (hname : label ≠ Label.clonedFromName) :
    spec.labels.contains label = t.hasLabel label := by
  rw [(marks_of_ofTemplate h).2]
  simp [Dict.contains, ContainerDetails.hasLabel, hid, hname]

/-- A clone carries the label of a peer exactly if its template does. -/
theorem peer_of_ofTemplate (h : ofTemplate template t r image = .ok spec) :
    spec.labels.contains Label.peer = t.hasLabel Label.peer :=
  label_of_ofTemplate h (by decide) (by decide)

end ContainerSpec

/-! ### A wipe behind a start -/

/-- **Created containers are reported with the labels that they were created with.** -/
def ReportsCreated {τ : Type} (ms : History τ) (ds : List Deed) : Prop :=
  ∀ who spec id d, (who, .deed ⟨.call (.create spec), .ok id⟩) ∈ ms →
    ⟨.call (.inspect id), .ok d⟩ ∈ ds → d.labels = spec.labels

theorem Deed.created?_eq_some_iff {d : Deed} {id : String} :
    d.created? = some id ↔ ∃ spec, d = ⟨.call (.create spec), .ok id⟩ := by
  constructor
  · intro h
    unfold created? at h
    split at h
    · rename_i spec id'
      cases h
      exact ⟨spec, rfl⟩
    · cases h
  · rintro ⟨spec, rfl⟩
    rfl

namespace Orchestrator

open Rehearsal

/-- **A clone of a peer**: its launch has looked at a template with the label of a peer, and has
created it as the clone of that template. -/
def PeerClone (o : Orchestrator) (requests : List NodeRequest)
    (ms : History (Except OperationError Bool)) (id : String) : Prop :=
  ∃ i task t spec, (o.allTasks requests)[i]? = some task ∧
    (ms.deedsOf (.script i)).head? = some ⟨.call (.inspect task.template), .ok t⟩ ∧
    ContainerSpec.ofTemplate task.template t task.request task.image = .ok spec ∧
    ⟨.call (.create spec), .ok id⟩ ∈ ms.deedsOf (.script i) ∧ t.hasLabel Label.peer = true

section Runs

variable {o : Orchestrator} {requests : List NodeRequest}
  {ms : History (Except OperationError Bool)}
  {t : Threads (Except OperationError Bool) (Except OperationError Bool)}
  {r : Except OperationError Bool}

/-- What a start created is the clone of a template that its launch looked at first. -/
theorem clone_of_created (x : Threads.Explained (o.startNetwork requests).run ms t)
    (ht : t.lead = .done r) {who : Thread} {spec : ContainerSpec}
    {a : Except OperationError String} (h : (who, .deed ⟨.call (.create spec), a⟩) ∈ ms) :
    ∃ i task t, who = .script i ∧ (o.allTasks requests)[i]? = some task ∧
      (ms.deedsOf (.script i)).head? = some ⟨.call (.inspect task.template), .ok t⟩ ∧
      ContainerSpec.ofTemplate task.template t task.request task.image = .ok spec := by
  obtain ⟨i, task, rfl, htask⟩ := task_of_call x ht h
  rw [startNetwork_run] at x
  obtain ⟨t, hhead, hclone⟩ := clone_of_task x htask (History.mem_deedsOf.2 h)
  exact ⟨i, task, t, rfl, htask, hhead, hclone⟩

/-- At the end of a start what it listed is what it created. -/
theorem recorded_iff_created (x : Threads.Explained (o.startNetwork requests).run ms t)
    (ht : t.lead = .done r) {id : String} :
    (∃ node, id ∈ ms.recorded node) ↔
      ∃ who spec, (who, .deed ⟨.call (.create spec), .ok id⟩) ∈ ms := by
  constructor
  · rintro ⟨node, hid⟩
    obtain ⟨who, d, hd, hcreated⟩ :=
      History.mem_collect.1 ((recorded_perm_created x ht node).mem_iff.1 hid)
    cases who with
    | lead => cases hcreated
    | script i =>
        simp only at hcreated
        split at hcreated
        · obtain ⟨spec, rfl⟩ := Deed.created?_eq_some_iff.1 hcreated
          exact ⟨_, spec, hd⟩
        · cases hcreated
  · rintro ⟨who, spec, hd⟩
    obtain ⟨i, task, rfl, htask⟩ := task_of_call x ht hd
    refine ⟨task.node, (recorded_perm_created x ht task.node).mem_iff.2 ?_⟩
    refine History.mem_collect.2 ⟨_, _, hd, ?_⟩
    simp [htask, Deed.created?]

variable {R : Type} {h : Host R} {w v : World R} {ds : List Deed} {id : String}

/-- Behind a start the ledger lists what it listed before, and what the start created. -/
theorem mem_allIds_of_start
    (run : Threads.Run (perform h) (.ofEnsemble (o.startNetwork requests).run) w ms t v)
    (ht : t.lead = .done r) :
    id ∈ v.ledger.allIds ↔ id ∈ w.ledger.allIds ∨
      ∃ who spec, (who, .deed ⟨.call (.create spec), .ok id⟩) ∈ ms := by
  rw [Ledger.mem_allIds_iff_ids, Ledger.mem_allIds_iff_ids,
    ← recorded_iff_created run.explained ht, ← exists_or]
  refine exists_congr fun node => ?_
  rw [ids_of_startNetwork run, List.mem_append]

/-- **Behind a start a wipe runs its command in clones of peers**, and in containers that were listed
before and are reported with the label. -/
theorem peerClone_of_exec
    (run : Threads.Run (perform h) (.ofEnsemble (o.startNetwork requests).run) w ms t v)
    (ht : t.lead = .done r) {verdict : Except OperationError Bool}
    (hwiped : Wiped v.ledger.allIds ds verdict) (reports : ReportsCreated ms ds)
    {a : Except OperationError Unit} (hd : ⟨.call (.exec id wipeCommand), a⟩ ∈ ds) :
    o.PeerClone requests ms id ∨ (id ∈ w.ledger.allIds ∧
      ∃ d, ⟨.call (.inspect id), .ok d⟩ ∈ ds ∧ d.hasLabel Label.peer = true) := by
  obtain ⟨hid, d, hseen, hpeer⟩ := hwiped.peer_of_exec hd
  rcases (mem_allIds_of_start run ht).1 hid with hold | ⟨who, spec, hcreated⟩
  · exact .inr ⟨hold, d, hseen, hpeer⟩
  · obtain ⟨i, task, t, rfl, htask, hhead, hclone⟩ := clone_of_created run.explained ht hcreated
    refine .inl ⟨i, task, t, spec, htask, hhead, hclone, History.mem_deedsOf.2 hcreated, ?_⟩
    rw [← ContainerSpec.peer_of_ofTemplate hclone, ← reports _ spec id d hcreated hseen]
    exact hpeer

/-- **A wipe that comes through behind a start reaches all clones of peers.** -/
theorem exec_of_peerClone
    (run : Threads.Run (perform h) (.ofEnsemble (o.startNetwork requests).run) w ms t v)
    (ht : t.lead = .done r) (hwiped : Wiped v.ledger.allIds ds (.ok true))
    (reports : ReportsCreated ms ds) (hclone : o.PeerClone requests ms id) :
    ⟨.call (.exec id wipeCommand), .ok ()⟩ ∈ ds := by
  obtain ⟨i, task, t, spec, -, -, hspec, hcreated, hpeer⟩ := hclone
  have hmem := History.mem_deedsOf.1 hcreated
  obtain ⟨d, hseen⟩ := hwiped.seen_of_ok ((mem_allIds_of_start run ht).2 (.inr ⟨_, spec, hmem⟩))
  refine hwiped.exec_of_ok hseen ?_
  have hlabels := reports _ spec id d hmem hseen
  show d.labels.contains Label.peer = true
  rw [hlabels, ContainerSpec.peer_of_ofTemplate hspec, hpeer]

end Runs

/-! ### A small network with one peer -/

/-- The labels of two templates, of which the first is a peer, and of their clones. -/
def pairLabels (id : String) : Dict String :=
  let peer := Dict.ofList [(Label.peer, "")]
  if id = "q" then peer
  else if id = "id-q-clone" then
    (peer.insert Label.clonedFromId "q").insert Label.clonedFromName "q"
  else if id = "id-t-clone" then
    (Dict.empty.insert Label.clonedFromId "t").insert Label.clonedFromName "t"
  else Dict.empty

/-- A runtime with two such templates, which reports their clones with the labels that they are
created with. -/
def pairAnswers : (c : Call) → Except OperationError c.Answer
  | .inspect id => (stubbornAnswers (.inspect id)).map fun d => { d with labels := pairLabels id }
  | c => stubbornAnswers c

/-- What such a runtime reports about a container. -/
def pairDetails (id : String) : ContainerDetails :=
  { (default : ContainerDetails) with
    id, name := id, status := "created", networks := [{ name := "net" }], labels := pairLabels id }

/-- What a wipe gets to see there. -/
def pairSeen : List (String × ContainerDetails) :=
  ["id-t-clone", "id-q-clone"].map fun id => (id, pairDetails id)

/-- Clones of both templates are reported with the labels that they were created with. -/
theorem reportsCreated_pairSeen {ms : History (Except OperationError Bool)}
    {t : Threads (Except OperationError Bool) (Except OperationError Bool)} {v : World Unit}
    {r : Except OperationError Bool}
    (run : Threads.Run (perform (.ofAnswers pairAnswers))
      (.ofEnsemble (soleNode.startNetwork twoRequests).run) { runtime := () } ms t v)
    (ht : t.lead = .done r) : ReportsCreated ms (visits pairSeen) := by
  intro who spec id d hcreated hseen
  obtain ⟨i, task, t, rfl, htask, hhead, hclone⟩ := clone_of_created run.explained ht hcreated
  have hid : id = "id-" ++ spec.name := Except.ok.inj (run.answer_ofAnswers hcreated)
  obtain rfl : t = pairDetails task.template :=
    Except.ok.inj (run.answer_ofAnswers (History.mem_deedsOf.1 (List.mem_of_head? hhead)))
  obtain ⟨hname, hlabels⟩ := ContainerSpec.marks_of_ofTemplate hclone
  have htemplate : task.template ∈ ["q", "t"] := by
    have htemplates : (soleNode.allTasks twoRequests).map CloneTask.template = ["q", "t"] := by
      decide +kernel
    rw [← htemplates]
    exact List.mem_map.2 ⟨task, List.mem_of_getElem? htask, rfl⟩
  have hdetails : d = pairDetails id := by
    obtain ⟨id', -, heq⟩ := List.mem_map.1 (inspect_mem_visits.1 hseen)
    cases heq
    rfl
  rw [hdetails, hlabels, hid, hname]
  generalize task.template = template at htemplate
  simp only [List.mem_cons, List.not_mem_nil, or_false] at htemplate
  rcases htemplate with rfl | rfl
  · decide +kernel
  · decide +kernel

/-! ### Every wipe -/

/-- **A wipe reaches the consensus peers, also among clones.**  Whatever is answered, it looks at the
containers in the order of the ledger, each time it is listed, and runs its command in a container
exactly if the label of a peer was seen on it; the first look or command that fails is the last thing
done, and the result, and if none fails the result is good.  A clone carries the label exactly if its
template does.  So where containers are reported with the labels that they were created with, a wipe
behind a start runs its command in no other container that was created than the clones of peers, and
if it comes through, in all of these. -/
theorem wipeData_reaches_peers :
    (∀ (l : Ledger) (ds : List Deed) (verdict : Except OperationError Bool),
      (wipeData l.allIds).run.Does ds (.done verdict) ↔ Wiped l.allIds ds verdict) ∧
    (∀ (W : Type) (p : Performer W) (w : W) (l : Ledger),
      Wiped l.allIds ((wipeData l.allIds).run.deedsIn p w)
        ((wipeData l.allIds).run.perform p w).1) ∧
    (∀ (template image : String) (t : ContainerDetails) (r : NodeRequest) (spec : ContainerSpec),
      ContainerSpec.ofTemplate template t r image = .ok spec →
      spec.labels.contains Label.peer = t.hasLabel Label.peer) ∧
    ∀ (R : Type) (h : Host R) (o : Orchestrator) (requests : List NodeRequest) (w v : World R)
      (ms : History (Except OperationError Bool))
      (t : Threads (Except OperationError Bool) (Except OperationError Bool))
      (r verdict : Except OperationError Bool) (ds : List Deed),
      Threads.Run (perform h) (.ofEnsemble (o.startNetwork requests).run) w ms t v →
      t.lead = .done r → (wipeData v.ledger.allIds).run.Does ds (.done verdict) →
      ReportsCreated ms ds →
      (∀ id a, ⟨.call (.exec id wipeCommand), a⟩ ∈ ds → o.PeerClone requests ms id ∨
        (id ∈ w.ledger.allIds ∧
          ∃ d, ⟨.call (.inspect id), .ok d⟩ ∈ ds ∧ d.hasLabel Label.peer = true)) ∧
      (verdict = .ok true → ∀ id, o.PeerClone requests ms id →
        ⟨.call (.exec id wipeCommand), .ok ()⟩ ∈ ds) ∧
      (w.ledger.allIds = [] → verdict = .ok true →
        ∀ id, ⟨.call (.exec id wipeCommand), .ok ()⟩ ∈ ds ↔ o.PeerClone requests ms id) := by
  refine ⟨fun l ds verdict => wiped_iff, fun W p w l => wiped_iff.1 (Script.Does.perform p _ w),
    fun template image t r spec => ContainerSpec.peer_of_ofTemplate, ?_⟩
  intro R h o requests w v ms t r verdict ds run ht hwipe reports
  have hwiped := wiped_iff.1 hwipe
  have only : ∀ id a, ⟨.call (.exec id wipeCommand), a⟩ ∈ ds → o.PeerClone requests ms id ∨
      (id ∈ w.ledger.allIds ∧
        ∃ d, ⟨.call (.inspect id), .ok d⟩ ∈ ds ∧ d.hasLabel Label.peer = true) := by
    intro id a hd
    exact peerClone_of_exec run ht hwiped reports hd
  have all : verdict = .ok true → ∀ id, o.PeerClone requests ms id →
      ⟨.call (.exec id wipeCommand), .ok ()⟩ ∈ ds := by
    rintro rfl id hclone
    exact exec_of_peerClone run ht hwiped reports hclone
  refine ⟨only, all, fun hnone hok id => ⟨fun hd => ?_, all hok id⟩⟩
  rcases only id _ hd with hclone | ⟨hold, -⟩
  · exact hclone
  · rw [hnone] at hold
    cases hold

theorem wipeData_reaches_peers_of_pair :
    ∃ ms t v r, Threads.Run (perform (.ofAnswers pairAnswers))
        (.ofEnsemble (soleNode.startNetwork twoRequests).run) { runtime := () } ms t v ∧
      t.lead = .done r ∧ v.ledger.allIds = ["id-t-clone", "id-q-clone"] ∧
      (wipeData v.ledger.allIds).run.Does (visits pairSeen) (.done (.ok true)) ∧
      ReportsCreated ms (visits pairSeen) ∧
      ∀ id, soleNode.PeerClone twoRequests ms id ↔ id = "id-q-clone" := by
  have hend : ((soleNode.startNetwork twoRequests).run.endIn? (perform (.ofAnswers pairAnswers))
      [.lead, .lead, .script 1, .script 0, .script 1, .script 1, .script 0, .script 1, .script 0,
        .script 0, .script 0, .script 0, .lead, .lead] { runtime := () }).map
        (fun x => x.2.ledger.allIds) = some ["id-t-clone", "id-q-clone"] := by decide +kernel
  obtain ⟨⟨r, v⟩, hx, hids⟩ := Option.map_eq_some_iff.1 hend
  obtain ⟨ms, t, run, ht⟩ := Ensemble.ends_of_endIn? hx
  obtain ⟨hwipes, -, -, hstart⟩ := wipeData_reaches_peers
  have hwipe : (wipeData v.ledger.allIds).run.Does (visits pairSeen) (.done (.ok true)) := by
    rw [hwipes, show v.ledger.allIds = ["id-t-clone", "id-q-clone"] from hids]
    exact .through pairSeen
  have hreports := reportsCreated_pairSeen run ht
  obtain ⟨-, -, hiff⟩ :=
    hstart Unit _ soleNode twoRequests _ v ms t r _ (visits pairSeen) run ht hwipe hreports
  refine ⟨ms, t, v, r, run, ht, hids, hwipe, hreports, fun id => ?_⟩
  rw [← hiff rfl rfl id, exec_mem_visits]
  constructor
  · rintro ⟨-, d, hseen, hpeer⟩
    obtain ⟨id', hmem, heq⟩ := List.mem_map.1 hseen
    cases heq
    have hall : ∀ id ∈ ["id-t-clone", "id-q-clone"],
        (pairDetails id).hasLabel Label.peer = true → id = "id-q-clone" := by decide +kernel
    exact hall id hmem hpeer
  · rintro rfl
    exact ⟨rfl, pairDetails "id-q-clone", List.mem_map.2 ⟨_, by simp, rfl⟩, by decide +kernel⟩

end Orchestrator

end Testbed
