/-
**How commands go.**

Every command, whatever it does, ends at the first fault of its leading thread.  If it meets none,
it comes to what it has learnt of and to what was asked for.  Its scripts end at their first fault
in the same way, each with what its own last call was answered.

Main definitions:

* `Testbed.Cli.Command.fault?` — the failure of a command that a deed is answered with;
* `Testbed.Cli.Command.scriptFault?` — the failure of a script of a command;
* `Testbed.Cli.Command.Orderly` — **a script of a command that ends at its first fault**.

Main results:

* `Testbed.Cli.run_minds` — **a command ends at its first fault**;
* `Testbed.Cli.run_settled` — **what a command without fault comes to**;
* `Testbed.Cli.run_starts` — **every script of a command ends at its first fault**.
-/

import Testbed.Proofs.Cli.Conditions
import Testbed.Proofs.Container.Clone
import Testbed.Proofs.Script.Rounds

set_option relaxedAutoImplicit false
set_option autoImplicit false

namespace Testbed.Cli

/-! ### Faults of commands -/

/-- Does a command need the local file that it reads? -/
def Command.needsFile : Command → Bool
  | .writeFile .. => true
  | _ => false

/-- Does a command report?  A log is written out as it is. -/
def Command.reports : Command → Bool
  | .log _ => false
  | _ => true

/-- Does a command neither ask whether something holds nor depend on scripts or logs? -/
def Command.isPlain : Command → Bool
  | .waitNetwork | .startNode _ | .teardown _ | .check _ | .wait _ | .search .. | .log _ => false
  | _ => true

/-- The failure of a command that a deed is answered with, given the form of its reports. -/
def Command.fault? (c : Command) (format : Format) : Deed → Option Failure :=
  faultOf c.needsFile (c.reports && decide (format = .json))

theorem Failure.exitCode_of_own (e : OperationError) (h : e.exitCode = 1) :
    (ofOperation e).exitCode = 1 :=
  (exitCode_ofOperation e).trans h

theorem faultOf_of_nap {needed json : Bool} {d : Deed} (h : d.nap?.isSome) :
    faultOf needed json d = none := by
  obtain ⟨x, a⟩ := d
  cases x with
  | sleep n => rfl
  | _ => cases h

theorem Job.Minds.mono {β α : Type} {j : Job β α} {fault : Deed → Option Failure}
    {own own' : Failure → Prop} (h : j.Minds fault own) (hown : ∀ f, own f → own' f) :
    j.Minds fault own' := by
  intro ds rs r hcomes
  cases h hcomes with
  | smooth clean owned => exact .smooth clean fun f hf => hown f (owned f hf)
  | broken clean cause => exact .broken clean cause

section

variable {v : Voice}

theorem heeds_wipe (path : String) : (wipe v path).run.Heeds
    (faultOf false (decide (v.format = .json))) fun f => f.exitCode = 1 := by
  refine Script.heeds_bind (LedgerFile.heeds_load path) fun l => ?_
  refine Script.heeds_bind (Operation.Forwards.wipeData l.allIds).step_of_never ?_
  exact fun _ => v.heeds_say _

theorem heeds_actOn (id : String) (verb : Verb) : (actOn v id verb).run.Heeds
    (faultOf false (decide (v.format = .json))) fun f => f.exitCode = 1 := by
  have hlook (say : ContainerState → Report) : (do
      v.say (say (← inspectState id)) : Step Unit).run.Heeds
        (faultOf false (decide (v.format = .json))) fun f => f.exitCode = 1 := by
    exact Script.heeds_bind (Operation.Forwards.inspectState id).step_of_never fun _ =>
      v.heeds_say _
  have hafter (c : Call) (deed : String) : (actOn.after v id c deed).run.Heeds
      (faultOf false (decide (v.format = .json))) fun f => f.exitCode = 1 :=
    Script.heeds_bind (Operation.Forwards.call c).step_of_never fun _ => hlook _
  cases verb with
  | state => exact hlook _
  | stop => exact hafter _ _
  | start => exact hafter _ _
  | restart => exact hafter _ _

theorem heeds_replaceFile (container path source : String) :
    (replaceFile v container path source).run.Heeds (faultOf true (decide (v.format = .json)))
      fun f => f.exitCode = 1 := by
  refine Script.heeds_bind (Step.heeds_read source) fun content => ?_
  refine Script.heeds_bind
    ((Operation.Forwards.writeFile container path content).step Failure.exitCode_of_own) ?_
  exact fun _ => v.heeds_say _

theorem heeds_appendJson (container path value : String) :
    (appendJson v container path value).run.Heeds (faultOf false (decide (v.format = .json)))
      fun f => f.exitCode = 1 := by
  have hmodify : Operation.Forwards _
      (modifyFile container path (JsonList.append (jsonOrText value))) :=
    .modifyFile container path fun _ _ => JsonList.exitCode_of_append
  refine Script.heeds_bind (hmodify.step Failure.exitCode_of_own) ?_
  exact fun _ => v.heeds_say _

theorem heeds_info : (info v).run.Heeds (faultOf false (decide (v.format = .json)))
    fun f => f.exitCode = 1 := by
  refine Script.heeds_bind (Operation.Forwards.call .ping).step_of_never fun _ => ?_
  exact Script.heeds_bind (Operation.Forwards.call .info).step_of_never fun _ => v.heeds_say _

theorem heeds_showConfig (c : Config) (source : String) (part : Option String) :
    (showConfig (.ok c) source v part).run.Heeds (faultOf false (decide (v.format = .json)))
      fun f => f.exitCode = 1 := by
  have htext : ∀ c f, configText c part = .error f → f.exitCode = 1 := by
    intro c f hf
    cases part with
    | none => cases hf
    | some name =>
        simp only [configText] at hf
        split at hf
        · cases hf
        · cases hf
          rfl
  refine Script.heeds_bind (Step.heeds_ofExcept (r := .ok c) nofun) fun _ => ?_
  exact Script.heeds_bind (Step.heeds_ofExcept (htext _)) fun _ => v.heeds_say _

theorem heeds_require (met : Bool) (text : String) {fault : Deed → Option Failure} :
    (require met text).run.Heeds fault fun _ => True := by
  cases met <;> exact fun _ _ => trivial

theorem heeds_wait (o : Orchestrator) (container : String) :
    (wait o v container).run.Heeds (faultOf false (decide (v.format = .json))) fun _ => True := by
  refine Script.heeds_bind (Operation.Forwards.waitUntilUsable container _).step_of_never ?_
  intro outcome
  refine Script.heeds_bind (Operation.Forwards.inspectState container).step_of_never fun _ => ?_
  exact Script.heeds_bind (v.heeds_say _) fun _ => heeds_require _ _

theorem heeds_search (container pattern : String) (patience : Nat) :
    (search v container pattern patience).run.Heeds (faultOf false (decide (v.format = .json)))
      fun _ => True := by
  have hsearch := Operation.Forwards.searchLog container pattern (seconds patience)
  refine Script.heeds_bind (hsearch.step fun _ _ => trivial) fun _ => ?_
  exact Script.heeds_bind (v.heeds_say _) fun _ => heeds_require _ _

theorem heeds_log (container : String) :
    (log container).run.Heeds (faultOf false false) fun _ => True :=
  Script.heeds_bind (heeds_printLog container) fun _ => nofun

/-- A report, and what it says is required. -/
theorem minds_announce {β : Type} (report : Report) (met : Bool) (text : String) : (do
      v.say report
      require met text : Job β Unit).Minds (faultOf false (decide (v.format = .json)))
        fun _ => True :=
  Job.minds_bind (Job.minds_ofStep (v.heeds_say _)) fun _ => Job.minds_ofStep (heeds_require _ _)

theorem minds_waitNetwork (o : Orchestrator) :
    (waitNetwork o v).Minds (faultOf false (decide (v.format = .json))) fun _ => True :=
  Job.minds_fansOut (fun h d hd => faultOf_of_nap ((comes_waitRounds h).1 d hd)) fun _ =>
    Job.minds_ofStep (v.heeds_say _)

theorem minds_startNode (o : Orchestrator) (a : StartOptions) :
    (startNode o v a).Minds (faultOf false (decide (v.format = .json))) fun _ => True := by
  unfold startNode
  simp only
  split
  · intro ds rs r h
    cases h
    exact .smooth (by simp) fun _ _ => trivial
  refine Job.minds_bind (Job.minds_ofStep (Step.heeds_ofExcept fun _ _ => trivial)) fun _ => ?_
  refine Job.minds_bind (Job.minds_ofStep ((LedgerFile.heeds_load _).mono fun _ _ => trivial)) ?_
  intro before
  have hset : Operation.Forwards (fun _ => False) (.act (.setLedger before)) :=
    .act trivial fun _ => rfl
  refine Job.minds_bind (Job.minds_ofStep hset.step_of_never) fun _ => ?_
  refine Job.minds_attempts
    (fun h d hd => faultOf_of_nap ((comes_startNetwork h).1 d hd)) fun outcome => ?_
  have hlook : Operation.Forwards (fun _ => False) (.act .ledger) := .act trivial fun _ => rfl
  refine Job.minds_bind (Job.minds_ofStep hlook.step_of_never) fun after => ?_
  refine Job.minds_bind (Job.minds_ofStep (LedgerFile.heeds_save _ after)) fun _ => ?_
  have houtcome : Operation.Forwards (fun _ => True) (.ofExcept outcome) :=
    .ofExcept fun _ _ => trivial
  exact Job.minds_bind (Job.minds_ofStep (houtcome.step fun _ _ => trivial)) fun healthy =>
    minds_announce _ _ _

theorem minds_teardown (path : String) :
    (teardown v path).Minds (faultOf false (decide (v.format = .json))) fun _ => True := by
  refine Job.minds_bind (Job.minds_ofStep ((LedgerFile.heeds_load path).mono fun _ _ => trivial)) ?_
  refine fun l => Job.minds_fansOut (fun h d hd => ?_) fun removed => ?_
  · rw [(comes_tearDown h).1] at hd
    cases hd
  cases removed with
  | false => exact minds_announce _ _ _
  | true =>
      exact Job.minds_bind (Job.minds_ofStep (LedgerFile.heeds_remove path)) fun _ =>
        minds_announce _ _ _

theorem minds_check (path : String) :
    (check v path).Minds (faultOf false (decide (v.format = .json))) fun _ => True := by
  refine Job.minds_bind (Job.minds_ofStep ((LedgerFile.heeds_load path).mono fun _ _ => trivial)) ?_
  refine fun l => Job.minds_fansOut (fun h d hd => ?_) fun status => ?_
  · rw [(comes_checkNetwork h).1] at hd
    cases hd
  exact minds_announce _ _ _

theorem minds_alone {β : Type} {c : Config} (hc : (Settings.ofConfig c).check = .ok ())
    {needed json : Bool} {own : Failure → Prop} {s : Orchestrator → Step Unit}
    (hs : ∀ o, (s o).run.Heeds (faultOf needed json) own) :
    (run.alone (.ok c) s : Job β Unit).Minds (faultOf needed json) own :=
  Job.minds_ofStep (Script.heeds_bind (heeds_connect hc) hs)

/-- **A command ends at its first fault**, and a plain one fails in no other way but with the exit
code of a general failure. -/
theorem run_minds {c : Config} (hc : (Settings.ofConfig c).check = .ok ()) (source : String)
    (v : Voice) (cmd : Command) : (run (.ok c) source v cmd).Minds (cmd.fault? v.format)
      fun f => cmd.isPlain = true → f.exitCode = 1 := by
  cases cmd with
  | validateConfig => exact Job.minds_ofStep (v.heeds_say _)
  | showConfig part =>
      exact Job.minds_ofStep ((heeds_showConfig c source part).mono fun _ h _ => h)
  | waitNetwork =>
      refine Job.minds_bind (Job.minds_ofStep (heeds_connect hc)) fun o => ?_
      exact (minds_waitNetwork o).mono fun _ _ => nofun
  | startNode a =>
      refine Job.minds_bind (Job.minds_ofStep (heeds_connect hc)) fun o => ?_
      exact (minds_startNode o a).mono fun _ _ => nofun
  | teardown path =>
      refine Job.minds_bind (Job.minds_ofStep (heeds_connect hc)) fun o => ?_
      exact (minds_teardown path).mono fun _ _ => nofun
  | check path =>
      refine Job.minds_bind (Job.minds_ofStep (heeds_connect hc)) fun o => ?_
      exact (minds_check path).mono fun _ _ => nofun
  | wipe path => exact minds_alone hc fun _ => (heeds_wipe path).mono fun _ h _ => h
  | wait id => exact minds_alone hc fun o => (heeds_wait o id).mono fun _ _ => nofun
  | search id pattern patience =>
      exact minds_alone hc fun _ => (heeds_search id pattern patience).mono fun _ _ => nofun
  | log id => exact minds_alone hc fun _ => (heeds_log id).mono fun _ _ => nofun
  | container verb id => exact minds_alone hc fun _ => (heeds_actOn id verb).mono fun _ h _ => h
  | writeFile id path source =>
      exact minds_alone hc fun _ => (heeds_replaceFile id path source).mono fun _ h _ => h
  | appendJson id path value =>
      exact minds_alone hc fun _ => (heeds_appendJson id path value).mono fun _ h _ => h
  | info => exact minds_alone hc fun _ => heeds_info.mono fun _ h _ => h

end

/-! ### Commands without fault -/

/-- A command without fault is connected. -/
theorem connected {β : Type} {c : Config} (hc : (Settings.ofConfig c).check = .ok ())
    {f : Orchestrator → Job β Unit} {needed json : Bool} {ds : List Deed} {rs : List β}
    {r : Except Failure Unit} (clean : ∀ d ∈ ds, faultOf needed json d = none)
    (h : (Job.ofStep (connect (.ok c)) >>= f).run.Comes ds rs r) :
    ∃ ds', ds = ⟨.connect (Settings.ofConfig c).host, .ok ()⟩ :: ds' ∧
      (∀ d ∈ ds', faultOf needed json d = none) ∧ (f (.ofConfig c)).run.Comes ds' rs r := by
  obtain ⟨ds₁, ds₂, o, rfl, hdoes, clean₂, hrest⟩ := Job.passes (heeds_connect hc) clean h
  rw [connect_run hc] at hdoes
  obtain ⟨a, ds, rfl, hdone⟩ := hdoes.ends_of_act
  obtain ⟨rfl, hend⟩ := Script.does_done.1 hdone
  cases a with
  | error e => cases hend
  | ok u =>
      cases hend
      exact ⟨ds₂, rfl, clean₂, hrest⟩

/-- **What a command without fault comes to.** -/
theorem run_settled {c : Config} (hc : c.Valid) {source : String} {v : Voice} {cmd : Command}
    {ds : List Deed} {rs : List cmd.Worker} {r : Except Failure Unit}
    (clean : ∀ d ∈ ds, cmd.fault? v.format d = none)
    (h : (run (.ok c) source v cmd).run.Comes ds rs r) :
    Settled (cmd.trouble? (.ofConfig c) ds rs) (cmd.Unmet (.ofConfig c) ds rs) r := by
  have hsettings := hc.settings_check
  have hplain : cmd.isPlain = true → r = .ok () ∨ exitCode r = 1 := by
    intro hp
    have hheeded := run_minds hsettings source v cmd h
    cases r with
    | ok u => exact .inl rfl
    | error f => exact .inr (hheeded.owned_of_clean clean hp)
  cases cmd with
  | waitNetwork =>
      obtain ⟨ds, rfl, clean, hrest⟩ := connected hsettings clean h
      have hattempts : (Orchestrator.ofConfig c).settings.waiting.networkAttempts ≠ 0 :=
        Nat.ne_of_gt hc.networkAttempts.1
      exact waitNetwork_settled hattempts clean hrest _
  | startNode a =>
      obtain ⟨ds, rfl, clean, hrest⟩ := connected hsettings clean h
      exact startNode_settled clean hrest rfl
  | teardown path =>
      obtain ⟨ds, rfl, clean, hrest⟩ := connected hsettings clean h
      exact teardown_settled clean hrest _
  | check path =>
      obtain ⟨ds, rfl, clean, hrest⟩ := connected hsettings clean h
      exact check_settled clean hrest _
  | wait id =>
      change (Job.ofStep (connect (.ok c) >>= fun o => wait o v id)).run.Comes ds rs r at h
      rw [Job.ofStep_bind] at h
      obtain ⟨ds, rfl, clean, hrest⟩ := connected hsettings clean h
      have hsettled := wait_settled clean hrest
      exact hsettled
  | search id pattern patience =>
      change (Job.ofStep (connect (.ok c) >>= fun _ => search v id pattern patience)).run.Comes
        ds rs r at h
      rw [Job.ofStep_bind] at h
      obtain ⟨ds, rfl, clean, hrest⟩ := connected hsettings clean h
      exact search_settled clean hrest rfl
  | log id =>
      change (Job.ofStep (connect (.ok c) >>= fun _ => log id)).run.Comes ds rs r at h
      rw [Job.ofStep_bind] at h
      obtain ⟨ds, rfl, clean, hrest⟩ := connected hsettings clean h
      exact log_settled clean hrest rfl
  | _ => exact .other rfl id (hplain rfl)

/-! ### Scripts of commands -/

/-- The failure that a script of a command ends with: that of any call, but to stop a container that
does not run is no failure for a teardown. -/
def Command.scriptFault? : Command → Deed → Option OperationError
  | .teardown _, ⟨.call (.stop _), .error (.notModified _)⟩ => none
  | _, d => d.failure?

/-- Whether a script of a command has failed, and why. -/
def Command.outcome : (c : Command) → c.Worker → Except OperationError Unit
  | .waitNetwork, r | .check _, r => r.map fun _ => ()
  | .teardown _, r | .startNode _, r => r.map fun _ => ()
  | _, _ => .ok ()

/-- **A script of a command that ends at its first fault**; whatever else it fails with has the exit
code of a general failure. -/
def Command.Orderly (c : Command) (s : Script c.Worker) : Prop :=
  ∀ ⦃ds : List Deed⦄ ⦃r : c.Worker⦄, s.Does ds (.done r) →
    Heeded c.scriptFault? (fun x => x.exitCode = 1) ds (c.outcome r)

theorem heeds_removeContainers (path : String) (ids : List String) :
    (removeContainers ids).run.Heeds (Command.teardown path).scriptFault?
      fun x => x.exitCode = 1 := by
  induction ids with
  | nil => exact nofun
  | cons id ids ih =>
      have hstop : (stopIfRunning id).run.Heeds (Command.teardown path).scriptFault?
          fun x => x.exitCode = 1 := by
        rw [stopIfRunning_run]
        refine Script.heeds_act (x := .call (.stop id)) stopOutcome fun a => ?_
        cases a with
        | ok u => exact .inl ⟨rfl, nofun⟩
        | error e =>
            cases e with
            | notModified id => exact .inl ⟨rfl, nofun⟩
            | _ => exact .inr ⟨_, rfl, rfl⟩
      have hremove : (Operation.call (.remove id)).run.Heeds (Command.teardown path).scriptFault?
          fun x => x.exitCode = 1 := by
        refine Script.heeds_act (x := .call (.remove id)) (fun a => a) fun a => ?_
        cases a with
        | ok u => exact .inl ⟨rfl, nofun⟩
        | error e => exact .inr ⟨e, rfl, rfl⟩
      refine Script.heeds_bind hstop fun _ => Script.heeds_bind hremove fun _ => ?_
      exact Script.heeds_bind (fun u => ⟨fun _ => nofun, nofun⟩) fun _ => ih

theorem exitCode_of_ofTemplate {template image : String} {t : ContainerDetails} {r : NodeRequest}
    {x : OperationError} (h : ContainerSpec.ofTemplate template t r image = .error x) :
    x.exitCode = 1 := by
  obtain ⟨reason, rfl, -⟩ := (ContainerSpec.ofTemplate_eq_error_iff.1 h).names.2
  rfl

theorem heeds_launchClone (template : String) (request : NodeRequest) (image : String)
    (policy : WaitPolicy) : (launchClone template request image policy).run.Heeds Deed.failure?
      fun x => x.exitCode = 1 :=
  Launch.heeds.mono fun _ ⟨_, rejected⟩ => exitCode_of_ofTemplate rejected

theorem Job.starts_bind {α β γ : Type} {P : Script β → Prop} {j : Job β α} {f : α → Job β γ}
    (hj : j.run.Starts P) (hf : ∀ a, (f a).run.Starts P) : (j >>= f).run.Starts P := by
  rw [run_bind]
  refine hj.bind fun o => ?_
  cases o with
  | ok a => exact hf a
  | error e => trivial

theorem Job.starts_ofStep {α β : Type} {P : Script β → Prop} (s : Step α) :
    (ofStep s : Job β α).run.Starts P := Ensemble.starts_ofScript _

/-- Looks at containers end at their first fault. -/
theorem orderly_looks {c : Command} (hfault : c.scriptFault? = Deed.failure?) (id : String) :
    ∀ ⦃ds : List Deed⦄ ⦃r : Except OperationError ContainerState⦄,
      (inspectState id).run.Does ds (.done r) →
        Heeded c.scriptFault? (fun x => x.exitCode = 1) ds (r.map fun _ => ()) := by
  intro ds r h
  rw [hfault]
  exact ((Operation.Forwards.inspectState id).heeds.of_does h).map

/-- **Every script of a command ends at its first fault.** -/
theorem run_starts (loaded : Loaded) (source : String) (v : Voice) (cmd : Command) :
    (run loaded source v cmd).run.Starts cmd.Orderly := by
  cases cmd with
  | waitNetwork =>
      refine Job.starts_bind (Job.starts_ofStep _) fun o => ?_
      refine Job.starts_bind (Ensemble.Starts.bind ?_ fun _ => trivial) fun _ => Job.starts_ofStep _
      refine Ensemble.Starts.mono (fun s hs => ?_) (starts_waitRounds _ _ _ _ _)
      obtain ⟨id, rfl⟩ := hs
      exact orderly_looks rfl id
  | check path =>
      refine Job.starts_bind (Job.starts_ofStep _) fun o => ?_
      refine Job.starts_bind (Job.starts_ofStep _) fun l => ?_
      refine Job.starts_bind (Ensemble.Starts.bind ?_ fun _ => trivial) fun _ => ?_
      · refine (Ensemble.starts_forkAll fun s hs => ?_).bind fun _ => starts_joinStatuses _ _
        obtain ⟨id, -, rfl⟩ := List.mem_map.1 hs
        exact orderly_looks rfl id
      · exact Job.starts_bind (Job.starts_ofStep _) fun _ => Job.starts_ofStep _
  | teardown path =>
      refine Job.starts_bind (Job.starts_ofStep _) fun _ => ?_
      refine Job.starts_bind (Job.starts_ofStep _) fun l => ?_
      refine Job.starts_bind (Ensemble.Starts.bind ?_ fun _ => trivial) fun removed => ?_
      · change (tearDown l).run.Starts _
        rw [tearDown_run]
        refine Ensemble.starts_fanOut fun s hs => ?_
        obtain ⟨e, -, rfl⟩ := List.mem_map.1 hs
        exact fun ds r h => ((heeds_removeContainers path e.2).of_does h).map
      · have hreport (report : Report) (met : Bool) (text : String) : (do
            v.say report
            require met text : Job (Except OperationError Bool) Unit).run.Starts
              (Command.teardown path).Orderly :=
          Job.starts_bind (Job.starts_ofStep _) fun _ => Job.starts_ofStep _
        cases removed with
        | false => exact hreport _ _ _
        | true => exact Job.starts_bind (Job.starts_ofStep _) fun _ => hreport _ _ _
  | startNode a =>
      refine Job.starts_bind (Job.starts_ofStep _) fun o => ?_
      unfold startNode
      simp only
      split
      · trivial
      refine Job.starts_bind (Job.starts_ofStep _) fun overlay => ?_
      refine Job.starts_bind (Job.starts_ofStep _) fun before => ?_
      refine Job.starts_bind (Job.starts_ofStep _) fun _ => ?_
      refine Job.starts_bind (Ensemble.Starts.bind ?_ fun _ => trivial) fun outcome => ?_
      · rw [Orchestrator.startNetwork_run]
        refine Ensemble.starts_fanOut fun s hs => ?_
        obtain ⟨task, -, rfl⟩ := List.mem_map.1 hs
        exact fun ds r h => ((heeds_launchClone _ _ _ _).of_does h).map
      refine Job.starts_bind (Job.starts_ofStep _) fun after => ?_
      refine Job.starts_bind (Job.starts_ofStep _) fun _ => ?_
      refine Job.starts_bind (Job.starts_ofStep _) fun healthy => ?_
      exact Job.starts_bind (Job.starts_ofStep _) fun _ => Job.starts_ofStep _
  | _ => exact Job.starts_ofStep _

end Testbed.Cli
