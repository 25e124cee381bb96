/-
**Faults that end a command.**

A command ends at the first local file or stream that it cannot use, and at the first request that
is refused; what it says then, and its exit code, depend on the fault alone, not on the command that
met it.  A report in JSON that cannot be written out is a fault of its own.

Main definitions:

* `Testbed.Deed.fileFault?`, `Testbed.Deed.refusal?` — **what ends a command**;
* `Testbed.Cli.faultOf` — the failure that it ends with;
* `Testbed.OperationError.exitCode` — the exit code for a failed operation;
* `Testbed.Operation.Forwards` — an operation that ends at the first call that is refused;
* `Testbed.Cli.Job.Minds` — a job that ends at the first fault of its leading thread.

Main results:

* `Testbed.Operation.Forwards.heeds` — operations that forward refusals, as parts of a command;
* `Testbed.Cli.Job.minds_bind` — composition;
* `Testbed.Cli.Job.passes` — how a command goes on where there is no fault.
-/

import Testbed.Proofs.Cli.LedgerFile
import Testbed.Proofs.Container.Protocol
import Testbed.Proofs.Network.Templates
import Testbed.Proofs.Script.Comes

set_option relaxedAutoImplicit false
set_option autoImplicit false

namespace Testbed

/-! ### What ends a command -/

/-- **Why a local file or the output could not be used**, if a deed was answered so.  A file that is
read need not be there unless it is needed, and one that is removed need not be there. -/
def Deed.fileFault? (needed : Bool) : Deed → Option FileFault
  | ⟨.readFile _, a⟩ =>
    match LocalFile.textOf a with
    | .error .notFound => if needed then some .notFound else none
    | .error f => some f
    | .ok _ => none
  | ⟨.removeFile _, a⟩ =>
    match LocalFile.removedOf a with
    | .error f => some f
    | .ok _ => none
  | ⟨.writeFile .., .error f⟩ => some f
  | ⟨.print _, .error f⟩ => some f
  | _ => none

/-- **Why the daemon could not be turned to or refused a call**, if a deed was answered so. -/
def Deed.refusal? : Deed → Option OperationError
  | ⟨.connect _, .error e⟩ => some e
  | ⟨.call _, .error e⟩ => some e
  | _ => none

/-- Is a deed to write to the output? -/
def Deed.isPrint : Deed → Bool
  | ⟨.print _, _⟩ => true
  | _ => false

/-- The exit code for a failed operation. -/
def OperationError.exitCode : OperationError → Nat
  | .invalidSetting .. => 2
  | .connection _ => 3
  | .networkNotReady _ => 4
  | .io _ => 10
  | _ => 1

/-! ### Operations that forward refusals -/

/-- Actions of operations: neither the output nor local files are used. -/
def Action.IsRemote : Action → Prop
  | .connect _ | .print _ | .readFile _ | .writeFile .. | .removeFile _ => False
  | _ => True

/-- **An operation that ends at the first call that is refused**, with the refusal, and whose other
failures are of some kind. -/
structure Operation.Forwards {α : Type} (own : OperationError → Prop) (op : Operation α) :
    Prop where
  heeds : op.run.Heeds Deed.failure? own
  remote : op.run.Within Action.IsRemote

namespace Operation.Forwards

variable {α β : Type} {own : OperationError → Prop}

theorem bind {op : Operation α} {f : α → Operation β} (hop : op.Forwards own)
    (hf : ∀ a, (f a).Forwards own) : (op >>= f).Forwards own :=
  ⟨Script.heeds_bind hop.heeds fun a => (hf a).heeds,
    Script.within_bind hop.remote fun a => (hf a).remote⟩

theorem pure (a : α) : Forwards own (Pure.pure a : Operation α) := ⟨nofun, trivial⟩

theorem ofExcept {r : Except OperationError α} (h : ∀ e, r = .error e → own e) :
    (Operation.ofExcept r).Forwards own := ⟨h, trivial⟩

theorem call (c : Call) : (Operation.call c).Forwards own :=
  ⟨heeds_call c, trivial, fun _ => trivial⟩

/-- An action that cannot fail. -/
theorem act {x : Action} (hx : x.IsRemote) (hnone : ∀ a, Deed.failure? ⟨x, a⟩ = none) :
    (Operation.act x).Forwards own :=
  ⟨fun a => ⟨fun _ => nofun, fun e he => by rw [hnone a] at he; cases he⟩, hx, fun _ => trivial⟩

theorem count (e : Event) : (Operation.count e).Forwards own := act trivial fun _ => rfl

theorem sleep (d : Nat) : (Operation.sleep d).Forwards own := act trivial fun _ => rfl

theorem inspectState (id : String) : (Testbed.inspectState id).Forwards own :=
  (call _).bind fun _ => pure _

theorem waitUntilUsable (id : String) (policy : WaitPolicy) :
    (Testbed.waitUntilUsable id policy).Forwards own :=
  ⟨heeds_waitFrom id policy.interval policy.attempts,
    (waitUntilUsable_within id policy).mono fun x hx => by cases hx <;> trivial⟩

theorem wipeData (ids : List String) : (Testbed.wipeData ids).Forwards own := by
  induction ids with
  | nil => exact pure true
  | cons id ids ih =>
      have hlabel : (hasLabel Label.peer id).Forwards own := (call _).bind fun _ => pure _
      refine hlabel.bind fun peer => ?_
      cases peer with
      | false => exact ih
      | true => exact (call _).bind fun _ => ih

theorem searchLog (id pattern : String) (patience : Nat) :
    (Testbed.searchLog id pattern patience).Forwards fun _ => True := by
  refine (ofExcept fun _ _ => trivial).bind fun p => ?_
  refine (act (x := .log id true) trivial fun _ => rfl).bind fun stream => ?_
  refine (sleep _).bind fun _ => ?_
  cases (LogStream.search p.isMatch patience stream).result with
  | found => exact (count _).bind fun _ => pure true
  | notFound => exact pure false
  | failed e => exact ofExcept (r := .error e) fun _ _ => trivial

end Operation.Forwards

/-! ### Files of containers -/

theorem FilePath.exitCode_of_parse {container path : String} {e : OperationError}
    (h : FilePath.parse container path = .error e) : e.exitCode = 1 := by
  unfold parse at h
  simp only at h
  split at h
  · cases h
    rfl
  · split at h
    · cases h
      rfl
    · cases h

theorem exitCode_of_textOfArchive {container path : String} {archive : Bytes} {e : OperationError}
    (h : textOfArchive container path archive = .error e) : e.exitCode = 1 := by
  unfold textOfArchive at h
  cases hunpack : Tar.unpack archive with
  | error refusal =>
      rw [hunpack] at h
      cases h
      cases refusal <;> rfl
  | ok content =>
      rw [hunpack] at h
      simp only [Except.mapError, bind, Except.bind] at h
      split at h
      · cases h
      · cases h
        rfl

theorem JsonList.exitCode_of_append {element : Json} {current : String} {e : OperationError}
    (h : append element current = .error e) : e.exitCode = 1 := by
  unfold append at h
  split at h
  · cases h
    rfl
  · cases h

namespace Operation.Forwards

/-- A file of a container is written, unless it cannot be one or the upload is refused. -/
theorem writeFile (container path content : String) :
    (Testbed.writeFile container path content).Forwards fun e => e.exitCode = 1 := by
  refine (ofExcept fun e he => FilePath.exitCode_of_parse he).bind fun target => ?_
  refine (act (x := .time) trivial fun _ => rfl).bind fun modified => ?_
  refine (ofExcept fun e he => ?_).bind fun archive => ?_
  · cases hpack : Tar.pack modified target.name (Utf8.encode content) with
    | ok archive =>
        rw [hpack] at he
        cases he
    | error f =>
        rw [hpack] at he
        cases he
        rfl
  · exact (call _).bind fun _ => (count _).bind fun _ => pure container

theorem modifyFile (container path : String) {change : String → Except OperationError String}
    (hchange : ∀ text e, change text = .error e → e.exitCode = 1) :
    (Testbed.modifyFile container path change).Forwards fun e => e.exitCode = 1 := by
  refine (ofExcept fun e he => FilePath.exitCode_of_parse he).bind fun _ => ?_
  refine (call _).bind fun archive => ?_
  refine (ofExcept fun e he => exitCode_of_textOfArchive he).bind fun old => ?_
  exact (ofExcept fun e he => hchange old e he).bind fun new => writeFile container path new

end Operation.Forwards

/-! ### Steps of a command -/

namespace Cli

/-- **The failure of a command** that a deed is answered with, given whether files that are read are
needed and whether reports are in JSON. -/
def faultOf (needed json : Bool) (d : Deed) : Option Failure :=
  match d.fileFault? needed with
  | some f => some (if json && d.isPrint then .jsonOutput f.message else .io f.message)
  | none => d.refusal?.map .ofOperation

theorem Failure.exitCode_ofOperation (e : OperationError) :
    (ofOperation e).exitCode = e.exitCode := by
  cases e <;> rfl

theorem faultOf_of_isRemote (needed json : Bool) {x : Action} (hx : x.IsRemote) (a : x.Answer) :
    faultOf needed json ⟨x, a⟩ = (Deed.failure? ⟨x, a⟩).map .ofOperation := by
  cases x with
  | call c => cases a <;> rfl
  | connect host => exact hx.elim
  | print text => exact hx.elim
  | readFile path => exact hx.elim
  | writeFile path content => exact hx.elim
  | removeFile path => exact hx.elim
  | _ => rfl

end Cli

/-- **Operations that forward refusals, as parts of a command.** -/
theorem Operation.Forwards.step {α : Type} {op : Operation α} {P : OperationError → Prop}
    {needed json : Bool} {own : Cli.Failure → Prop} (hop : op.Forwards P)
    (hown : ∀ e, P e → own (.ofOperation e)) :
    (Cli.Step.ofOperation op).run.Heeds (Cli.faultOf needed json) own :=
  (Script.heeds_adapt Cli.Failure.ofOperation hown hop.heeds).congr
    (Script.within_adapt _ hop.remote) fun _ a hx => Cli.faultOf_of_isRemote needed json hx a

/-- Operations that fail in no other way. -/
theorem Operation.Forwards.step_of_never {α : Type} {op : Operation α} {needed json : Bool}
    {own : Cli.Failure → Prop} (hop : op.Forwards fun _ => False) :
    (Cli.Step.ofOperation op).run.Heeds (Cli.faultOf needed json) own :=
  hop.step fun _ => False.elim

namespace Cli

variable {α β γ : Type} {needed json : Bool} {own : Failure → Prop}

theorem Step.heeds_ofExcept {fault : Deed → Option Failure} {r : Except Failure α}
    (h : ∀ f, r = .error f → own f) : (Step.ofExcept r).run.Heeds fault own := h

/-- What is made of a report that cannot be written out. -/
def Voice.unsaid (v : Voice) (f : FileFault) : Failure :=
  if v.format = .json then .jsonOutput f.message else .io f.message

theorem Voice.say_run (v : Voice) (report : Report) :
    ∃ text, (v.say report).run = .act (.print text) fun a => .done (a.mapError v.unsaid) := by
  obtain ⟨format, colours⟩ := v
  cases format with
  | text => exact ⟨_, rfl⟩
  | json => exact ⟨_, rfl⟩

/-- A report that cannot be written out ends the command. -/
theorem Voice.heeds_say (v : Voice) (report : Report) :
    (v.say report).run.Heeds (faultOf needed (decide (v.format = .json))) own := by
  obtain ⟨text, hrun⟩ := v.say_run report
  rw [hrun]
  refine Script.heeds_act (x := .print text) (fun a => a.mapError v.unsaid) fun a => ?_
  cases a with
  | ok u => exact .inl ⟨rfl, nofun⟩
  | error f => exact .inr ⟨_, by simp [faultOf, Deed.fileFault?, Deed.isPrint, Voice.unsaid], rfl⟩

/-- A file that holds no ledger is a failure of its own kind; one that is not there is none. -/
theorem LedgerFile.heeds_load (path : String) :
    (load path).run.Heeds (faultOf false json) fun f => f.exitCode = 1 := by
  rw [load_run]
  refine Script.heeds_act _ fun a => ?_
  cases htext : LocalFile.textOf a with
  | ok text =>
      refine .inl ⟨by simp [faultOf, Deed.fileFault?, Deed.refusal?, htext], fun f hf => ?_⟩
      simp only [ledgerOf] at hf
      cases hread : read? text with
      | some l => simp [hread] at hf
      | none =>
          rw [hread] at hf
          cases hf
          rfl
  | error f =>
      cases f with
      | notFound =>
          refine .inl ⟨by simp [faultOf, Deed.fileFault?, Deed.refusal?, htext], fun f hf => ?_⟩
          cases hf
      | _ => exact .inr ⟨_, by simp [faultOf, Deed.fileFault?, Deed.isPrint, htext], rfl⟩

theorem LedgerFile.heeds_save (path : String) (l : Ledger) :
    (save path l).run.Heeds (faultOf needed json) own := by
  rw [save_run]
  refine Script.heeds_act _ fun a => ?_
  cases a with
  | ok u => exact .inl ⟨rfl, nofun⟩
  | error f => exact .inr ⟨_, by simp [faultOf, Deed.fileFault?, Deed.isPrint], rfl⟩

theorem LedgerFile.heeds_remove (path : String) :
    (remove path).run.Heeds (faultOf needed json) own := by
  have hrun : (remove path).run = .act (.removeFile path) fun a =>
      .done ((LocalFile.removedOf a).mapError fun f => Failure.io f.message) := by
    show Script.bind (LocalFile.remove path).run _ = _
    rw [LocalFile.remove_run]
    rfl
  rw [hrun]
  refine Script.heeds_act _ fun a => ?_
  cases hremoved : LocalFile.removedOf a with
  | ok u =>
      exact .inl ⟨by simp [faultOf, Deed.fileFault?, Deed.refusal?, hremoved], nofun⟩
  | error f =>
      exact .inr ⟨_, by simp [faultOf, Deed.fileFault?, Deed.isPrint, hremoved], rfl⟩

/-- A file that is needed has to be there, and has to hold text. -/
theorem Step.heeds_read (path : String) :
    (Step.ofFiles (LocalFile.read path)).run.Heeds (faultOf true json) own := by
  have hrun : (Step.ofFiles (LocalFile.read path)).run = .act (.readFile path) fun a =>
      .done ((LocalFile.textOf a).mapError fun f => Failure.io f.message) := by
    show Script.bind (LocalFile.read path).run _ = _
    rw [LocalFile.read_run]
    rfl
  rw [hrun]
  refine Script.heeds_act _ fun a => ?_
  cases htext : LocalFile.textOf a with
  | ok text => exact .inl ⟨by simp [faultOf, Deed.fileFault?, Deed.refusal?, htext], nofun⟩
  | error f =>
      refine .inr ⟨_, ?_, rfl⟩
      cases f <;> simp [faultOf, Deed.fileFault?, Deed.isPrint, htext]

theorem connect_run {c : Config} (h : (Settings.ofConfig c).check = .ok ()) :
    (connect (.ok c)).run = .act (.connect (Settings.ofConfig c).host) fun a =>
      .done ((a.mapError Failure.ofOperation).map fun _ => Orchestrator.ofConfig c) := by
  have hchecked : ∀ {o : Orchestrator} (r : Except OperationError Unit), r = .ok () →
      ((do
        Operation.ofExcept r
        Step.ofOperation (.mk (Script.action (.connect o.settings.host)))
        return o : Step Orchestrator)).run = .act (.connect o.settings.host) fun a =>
          .done ((a.mapError Failure.ofOperation).map fun _ => o) := by
    rintro o _ rfl
    show Script.act _ _ = Script.act _ _
    congr 1
    funext a
    cases a <;> rfl
  exact hchecked (Settings.ofConfig c).check h

theorem heeds_connect {c : Config} (h : (Settings.ofConfig c).check = .ok ()) :
    (connect (.ok c)).run.Heeds (faultOf needed json) own := by
  rw [connect_run h]
  refine Script.heeds_act (x := .connect _)
    (fun a => (a.mapError Failure.ofOperation).map fun _ => Orchestrator.ofConfig c) fun a => ?_
  cases a with
  | ok u => exact .inl ⟨rfl, nofun⟩
  | error e => exact .inr ⟨_, rfl, rfl⟩

/-- Actions of a log that is written out. -/
def IsCopy : Action → Prop
  | .log .. | .sleep _ | .print _ => True
  | _ => False

theorem printItems_frame_run (s : String) (items : List LogItem) :
    (printItems (.frame s :: items)).run = .act (.print (LogLine.complete s)) fun
      | .error f => .done (.error (.io f.message))
      | .ok _ => (printItems items >>= fun n => pure (n + 1)).run := by
  show Script.act _ _ = Script.act _ _
  congr 1

/-- A log that is written out is no report, in whatever form reports are. -/
theorem heeds_printLog (id : String) :
    (Step.ofOperation (printLog id)).run.Heeds (faultOf false false) fun _ => True := by
  have hitems : ∀ items : List LogItem,
      (printItems items).run.Heeds (fun d => (d.fileFault? false).map fun f => .io f.message)
        (fun _ => True) ∧ (printItems items).run.Within IsCopy := by
    intro items
    induction items with
    | nil => exact ⟨nofun, trivial⟩
    | cons item items ih =>
        obtain ⟨hheeds, hwithin⟩ := ih
        cases item with
        | wait d =>
            exact ⟨Script.heeds_bind (fun a => ⟨fun _ => nofun, nofun⟩) fun _ => hheeds,
              Script.within_bind ⟨trivial, fun _ => trivial⟩ fun _ => hwithin⟩
        | failure e => exact ⟨fun _ _ => trivial, trivial⟩
        | frame s =>
            have hrest := Script.heeds_bind (f := fun n => (pure (n + 1) : Operation Nat)) hheeds
              fun n => nofun
            have hcopy := Script.within_bind (f := fun n => (pure (n + 1) : Operation Nat)) hwithin
              fun n => trivial
            rw [printItems_frame_run]
            refine ⟨fun a => ?_, trivial, fun a => ?_⟩
            · cases a with
              | error f => exact ⟨nofun, fun e he => by cases he; rfl⟩
              | ok u => exact ⟨fun _ => hrest, nofun⟩
            · cases a with
              | error f => trivial
              | ok u => exact hcopy
  have hheeds : (printLog id).run.Heeds
      (fun d => (d.fileFault? false).map fun f => .io f.message) fun _ => True :=
    Script.heeds_bind (fun a => ⟨fun _ => nofun, nofun⟩) fun stream => (hitems stream.items).1
  have hwithin : (printLog id).run.Within IsCopy :=
    Script.within_bind ⟨trivial, fun _ => trivial⟩ fun stream => (hitems stream.items).2
  refine (Script.heeds_adapt Failure.ofOperation (fun _ _ => trivial) hheeds).congr
    (Script.within_adapt _ hwithin) fun x a hx => ?_
  cases x with
  | print text => cases a <;> rfl
  | log id follow => rfl
  | sleep d => rfl
  | _ => exact hx.elim

/-! ### Jobs -/

namespace Job

variable {fault : Deed → Option Failure} {ds : List Deed} {rs : List β} {r : Except Failure γ}

/-- **A job that ends at the first fault** of its leading thread. -/
def Minds (fault : Deed → Option Failure) (own : Failure → Prop) (j : Job β α) : Prop :=
  ∀ ⦃ds : List Deed⦄ ⦃rs : List β⦄ ⦃r : Except Failure α⦄, j.run.Comes ds rs r →
    Heeded fault own ds r

theorem minds_ofStep {s : Step α} (hs : s.run.Heeds fault own) :
    (ofStep s : Job β α).Minds fault own := fun _ _ _ h => hs.of_does h.of_ofScript.1

theorem minds_bind {j : Job β α} {f : α → Job β γ} (hj : j.Minds fault own)
    (hf : ∀ a, (f a).Minds fault own) : (j >>= f).Minds fault own := by
  intro ds rs r h
  rw [run_bind] at h
  obtain ⟨ds₁, ds₂, rs₁, rs₂, o, rfl, -, h₁, h₂⟩ := h.of_bind
  have hheeded := hj h₁
  cases o with
  | ok a =>
      generalize ho : (Except.ok a : Except Failure α) = o at hheeded
      cases hheeded with
      | smooth clean owned => exact (hf a h₂).append clean
      | broken clean cause => cases ho
  | error e =>
      cases h₂
      rw [List.append_nil]
      generalize ho : (Except.error e : Except Failure α) = o at hheeded
      cases hheeded with
      | smooth clean owned =>
          refine .smooth clean fun e' he' => ?_
          cases he'
          exact owned e ho.symm
      | broken clean cause =>
          cases ho
          exact .broken clean cause

theorem ofStep_bind (s : Step α) (f : α → Step γ) :
    (ofStep (s >>= f) : Job β γ).run = (ofStep s >>= fun a => (ofStep (f a) : Job β γ)).run := by
  have hbind : ∀ {δ : Type} (t : Script δ) (g : δ → Script (Except Failure γ)),
      (Ensemble.ofScript (t.bind g) : Ensemble β (Except Failure γ)) =
        (Ensemble.ofScript t).bind fun a => Ensemble.ofScript (g a) := by
    intro δ t g
    induction t with
    | done a => rfl
    | act x next ih => simp only [Script.bind, Ensemble.ofScript, Ensemble.bind, ih]
  rw [run_bind]
  show Ensemble.ofScript (Script.bind s.run _) = (Ensemble.ofScript s.run).bind _
  rw [hbind]
  congr 1
  funext r
  cases r <;> rfl

/-- **A step without fault** fails on its own account, or the job goes on with its result. -/
theorem passes_or {s : Step α} {f : α → Job β γ} (hs : s.run.Heeds fault own)
    (clean : ∀ d ∈ ds, fault d = none) (h : (ofStep s >>= f).run.Comes ds rs r) :
    (∃ x, own x ∧ s.run.Does ds (.done (.error x)) ∧ rs = [] ∧ r = .error x) ∨
      ∃ ds₁ ds₂ a, ds = ds₁ ++ ds₂ ∧ s.run.Does ds₁ (.done (.ok a)) ∧
        (∀ d ∈ ds₂, fault d = none) ∧ (f a).run.Comes ds₂ rs r := by
  rw [run_bind] at h
  obtain ⟨ds₁, ds₂, rs₁, rs₂, o, rfl, rfl, h₁, h₂⟩ := h.of_bind
  obtain ⟨hdoes, rfl⟩ := h₁.of_ofScript
  obtain ⟨clean₁, clean₂⟩ := List.forall_mem_append.1 clean
  cases o with
  | ok a => exact .inr ⟨ds₁, ds₂, a, rfl, hdoes, clean₂, h₂⟩
  | error x =>
      cases h₂
      rw [List.append_nil]
      exact .inl ⟨x, (hs.of_does hdoes).owned_of_clean clean₁, hdoes, rfl, rfl⟩

/-- A step without fault that does not fail on its own account hands its result on. -/
theorem passes {s : Step α} {f : α → Job β γ} (hs : s.run.Heeds fault fun _ => False)
    (clean : ∀ d ∈ ds, fault d = none) (h : (ofStep s >>= f).run.Comes ds rs r) :
    ∃ ds₁ ds₂ a, ds = ds₁ ++ ds₂ ∧ s.run.Does ds₁ (.done (.ok a)) ∧
      (∀ d ∈ ds₂, fault d = none) ∧ (f a).run.Comes ds₂ rs r := by
  rcases passes_or hs clean h with ⟨x, hfalse, -⟩ | hpassed
  · exact hfalse.elim
  · exact hpassed

/-- The last step of a job without fault. -/
theorem last_passes {s : Step γ} (hs : s.run.Heeds fault fun _ => False)
    (clean : ∀ d ∈ ds, fault d = none) (h : (ofStep s : Job β γ).run.Comes ds rs r) :
    rs = [] ∧ ∃ a, r = .ok a ∧ s.run.Does ds (.done (.ok a)) := by
  obtain ⟨hdoes, hrs⟩ := h.of_ofScript
  refine ⟨hrs, ?_⟩
  cases r with
  | ok a => exact ⟨a, rfl, hdoes⟩
  | error x => exact ((hs.of_does hdoes).owned_of_clean clean).elim

end Job

namespace Job

variable {fault : Deed → Option Failure} {ds : List Deed} {rs : List (Except OperationError β)}
  {r : Except Failure γ}

/-- **A fan-out** comes to an outcome, and ends the job or hands its result on. -/
theorem fansOut {op : FanOut β α} {f : α → Job (Except OperationError β) γ}
    (h : (ofFanOut op >>= f).run.Comes ds rs r) :
    ∃ ds₁ ds₂ rs₁ rs₂ o, ds = ds₁ ++ ds₂ ∧ rs = rs₁ ++ rs₂ ∧ op.run.Comes ds₁ rs₁ o ∧
      (after f (o.mapError Failure.ofOperation)).Comes ds₂ rs₂ r := by
  rw [run_ofFanOut_bind] at h
  exact h.of_bind

/-- A fan-out comes to an outcome, and the job goes on with it. -/
theorem attempts {op : FanOut β α} {f : Except OperationError α → Job (Except OperationError β) γ}
    (h : (attempt op >>= f).run.Comes ds rs r) :
    ∃ ds₁ ds₂ rs₁ rs₂ o, ds = ds₁ ++ ds₂ ∧ rs = rs₁ ++ rs₂ ∧ op.run.Comes ds₁ rs₁ o ∧
      (f o).run.Comes ds₂ rs₂ r := by
  rw [run_attempt_bind] at h
  exact h.of_bind

/-- A job with a fan-out whose leading thread meets no fault. -/
theorem minds_fansOut {op : FanOut β α} {f : α → Job (Except OperationError β) γ}
    (hop : ∀ {ds rs o}, op.run.Comes ds rs o → ∀ d ∈ ds, fault d = none)
    (hf : ∀ a, (f a).Minds fault fun _ => True) :
    (ofFanOut op >>= f).Minds fault fun _ => True := by
  intro ds rs r h
  obtain ⟨ds₁, ds₂, rs₁, rs₂, o, rfl, -, h₁, h₂⟩ := fansOut h
  refine Heeded.append (hop h₁) ?_
  cases o with
  | ok a => exact hf a h₂
  | error e =>
      cases h₂
      exact .smooth (by simp) fun _ _ => trivial

theorem minds_attempts {op : FanOut β α}
    {f : Except OperationError α → Job (Except OperationError β) γ}
    (hop : ∀ {ds rs o}, op.run.Comes ds rs o → ∀ d ∈ ds, fault d = none)
    (hf : ∀ o, (f o).Minds fault own) : (attempt op >>= f).Minds fault own := by
  intro ds rs r h
  obtain ⟨ds₁, ds₂, rs₁, rs₂, o, rfl, -, h₁, h₂⟩ := attempts h
  exact (hf o h₂).append (hop h₁)

end Job

end Cli

end Testbed
