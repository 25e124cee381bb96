/-
**Starting and tearing down from the command line.**

Before a start launches anything it has put the ledger of its file into the world, and whatever
becomes of the launches, the file holds the ledger afterwards.  A teardown leaves the file alone
unless every container is gone.

Main results:

* `Testbed.Cli.startNode_finishes` — **what a start leaves in the ledger file**;
* `Testbed.Cli.teardown_finishes` — **what a teardown leaves there**, and how it ends.
-/

import Testbed.Proofs.Cli.LedgerFile
import Testbed.Proofs.Network.Start
import Testbed.Proofs.Network.Teardown

set_option relaxedAutoImplicit false
set_option autoImplicit false

namespace Testbed

/-! ### Quiet steps -/

theorem LocalFile.read_quiet (path : String) : (read path).run.Within Action.IsQuiet := by
  rw [read_run]
  exact ⟨trivial, fun _ => trivial⟩

theorem Config.load_quiet (e : Environment) (path : String) :
    (Config.load e path).run.Within Action.IsQuiet := by
  refine Script.Within.bind (LocalFile.read_quiet path) fun o => ?_
  cases o with
  | error f => cases f <;> trivial
  | ok text => trivial

namespace Cli

theorem Step.ofExcept_quiet {α : Type} (r : Except Failure α) :
    (Step.ofExcept r).run.Within Action.IsQuiet := trivial

theorem Step.ofOutcome_quiet {α : Type} (r : Except OperationError α) :
    (Step.ofOperation (Operation.ofExcept r)).run.Within Action.IsQuiet := trivial

theorem connect_quiet (loaded : Loaded) : (connect loaded).run.Within Action.IsQuiet := by
  refine Script.within_bind trivial fun c => ?_
  refine Script.within_bind trivial fun _ => ?_
  exact Script.within_bind ⟨trivial, fun _ => trivial⟩ fun _ => trivial

theorem Voice.say_quiet (v : Voice) (report : Report) :
    (v.say report).run.Within Action.IsQuiet := by
  unfold Voice.say
  cases v.format with
  | text => exact ⟨trivial, fun _ => trivial⟩
  | json => exact ⟨trivial, fun _ => trivial⟩

theorem require_quiet (met : Bool) (text : String) :
    (require met text).run.Within Action.IsQuiet := by
  cases met <;> trivial

theorem LedgerFile.load_local (path : String) : (load path).run.Within Action.IsLocal := by
  rw [load_run]
  exact ⟨trivial, fun _ => trivial⟩

open Rehearsal Threads

variable {R : Type} {h : Host R} {w v : World R} {l : Ledger}
  {ms : History (Except OperationError Bool)} {r : Except Failure Unit}

/-- No command closes the output. -/
theorem outputOpen_of_finishes {τ α : Type} {t : Threads τ α} {ms : History τ} {o : α}
    (fin : Finishes (perform h) t w ms o v) : v.outputOpen = w.outputOpen := by
  obtain ⟨u, run, -⟩ := fin
  exact run.outputOpen

/-- A report is written if there is a reader of the output. -/
theorem Voice.perform_say (h : Host R) (voice : Voice) (report : Report)
    (hopen : w.outputOpen = true) :
    ((voice.say report).run.perform (perform h) w).1 = .ok () := by
  unfold Voice.say
  cases voice.format with
  | text =>
      show ((perform h (.print _) w).1).mapError _ = _
      simp [perform, hopen]
      rfl
  | json =>
      show ((perform h (.print _) w).1).mapError _ = _
      simp [perform, hopen]
      rfl

/-- An outcome that is reported and required leaves the files alone.  Only a condition that is not
met, or a report that cannot be written, makes it fail. -/
theorem announced_finishes {voice : Voice} {report : Report} {met : Bool} {text : String}
    {ss : List (Script (Except OperationError Bool))} {k : Nat} (hss : Idle ss)
    (fin : Finishes (perform h) ⟨(do
      voice.say report
      require met text : Job (Except OperationError Bool) Unit).run, ss, k⟩ w ms r v) :
    ms.SameCalls [] ∧ v.disk = w.disk ∧ (met = false → ∃ f, r = .error f) ∧
      (met = true → w.outputOpen = true → r = .ok ()) := by
  obtain ⟨ms₁, x, hcalls₁, -, hdisk₁, hrest⟩ := Job.of_quiet hss (voice.say_quiet report) fin
  rcases hrest with ⟨e, hperform, rfl, rfl, rfl⟩ | ⟨u, -, fin⟩
  · refine ⟨hcalls₁, hdisk₁, fun _ => ⟨e, rfl⟩, fun _ hopen => ?_⟩
    have hsaid := Voice.perform_say h voice report hopen
    rw [hperform] at hsaid
    exact hsaid
  · obtain ⟨hcalls₂, hperform⟩ :=
      Job.of_last hss ((require_quiet met text).mono fun _ hx => hx.isLocal) fin
    cases met with
    | false =>
        cases hperform
        exact ⟨hcalls₁.trans hcalls₂, hdisk₁, fun _ => ⟨_, rfl⟩, nofun⟩
    | true =>
        cases hperform
        exact ⟨hcalls₁.trans hcalls₂, hdisk₁, nofun, fun _ _ => rfl⟩

/-! ### Starting -/

/-- Behind the launches the ledger is saved, whatever is made of their outcome. -/
theorem saved_finishes {voice : Voice} {path text : String} {report : Bool → Ledger → Report}
    {outcome : Except OperationError Bool} {ss : List (Script (Except OperationError Bool))}
    {k : Nat} (hss : Idle ss) (hold : LedgerFile.Holds w.disk path l)
    (fin : Finishes (perform h) ⟨(do
      let ledger ← Operation.act .ledger
      LedgerFile.save path ledger
      let healthy ← Operation.ofExcept outcome
      voice.say (report healthy ledger)
      require healthy text : Job (Except OperationError Bool) Unit).run, ss, k⟩ w ms r v) :
    ms.SameCalls [] ∧ LedgerFile.Holds v.disk path (Ledger.ofDict w.ledger.nodes) := by
  have hlook : (Step.ofOperation (Operation.act .ledger)).run.Within Action.IsLocal :=
    ⟨trivial, fun _ => trivial⟩
  obtain ⟨ms₁, hcalls₁, hrest⟩ := Job.of_step hss hlook fin
  rcases hrest with ⟨e, hperform, -, -⟩ | ⟨m, x, hperform, fin⟩
  · cases hperform
  cases hperform
  have hsave : (LedgerFile.save path w.ledger).run.Within Action.IsLocal :=
    ⟨trivial, fun _ => trivial⟩
  obtain ⟨d, hsaved, holdd⟩ := LedgerFile.perform_save h hold w.ledger
  obtain ⟨ms₂, hcalls₂, hrest⟩ := Job.of_step hss hsave fin
  rcases hrest with ⟨e, hperform, -, -⟩ | ⟨u, x, hperform, fin⟩
  · cases hsaved.symm.trans hperform
  cases hsaved.symm.trans hperform
  have hcalls : ms.SameCalls ms₂ := hcalls₁.trans hcalls₂
  -- the file is written; what is made of the outcome leaves it alone
  obtain ⟨ms₃, y, hcalls₃, -, hdisk₃, hrest⟩ := Job.of_quiet hss (Step.ofOutcome_quiet _) fin
  rcases hrest with ⟨e, -, -, rfl, rfl⟩ | ⟨healthy, -, fin⟩
  · exact ⟨hcalls.trans hcalls₃, hdisk₃ ▸ holdd⟩
  obtain ⟨hcalls₄, hdisk₄, -⟩ := announced_finishes hss fin
  exact ⟨hcalls.trans (hcalls₃.trans hcalls₄), (hdisk₄.trans hdisk₃) ▸ holdd⟩

/-- **What a start leaves in the ledger file**: the ledger that was there, if it launches nothing,
and otherwise the one behind all launches. -/
theorem startNode_finishes {o : Orchestrator} {voice : Voice} {a : StartOptions}
    (hold : LedgerFile.Holds w.disk a.ledger l)
    (fin : Finishes (perform h) (.ofEnsemble (startNode o voice a).run) w ms r v) :
    (LedgerFile.Holds v.disk a.ledger l ∧ ms.SameCalls []) ∨
      ∃ requests ms₁ outcome x y, x.ledger = l ∧ ms.SameCalls ms₁ ∧
        Finishes (perform h) (.ofEnsemble (o.startNetwork requests).run) x ms₁ outcome y ∧
        LedgerFile.Holds v.disk a.ledger (Ledger.ofDict y.ledger.nodes) := by
  have hnil : Idle ([] : List (Script (Except OperationError Bool))) := nofun
  unfold startNode at fin
  simp only at fin
  split at fin
  · -- there is nothing to start
    obtain ⟨rfl, -, rfl⟩ := Finishes.of_done hnil fin
    exact .inl ⟨hold, .refl []⟩
  obtain ⟨ms₁, x₁, hcalls₁, -, hdisk₁, hrest⟩ := Job.of_quiet hnil (Step.ofExcept_quiet _) fin
  rcases hrest with ⟨e, -, -, rfl, rfl⟩ | ⟨overlay, -, fin⟩
  · exact .inl ⟨hdisk₁ ▸ hold, hcalls₁⟩
  have hold₁ : LedgerFile.Holds x₁.disk a.ledger l := hdisk₁ ▸ hold
  obtain ⟨ms₂, hcalls₂, hrest⟩ := Job.of_step hnil (LedgerFile.load_local _) fin
  rcases hrest with ⟨e, hperform, -, -⟩ | ⟨before, x₂, hperform, fin⟩
  · cases (LedgerFile.perform_load h hold₁).symm.trans hperform
  cases (LedgerFile.perform_load h hold₁).symm.trans hperform
  have hset : (Step.ofOperation (Operation.act (.setLedger l))).run.Within Action.IsLocal :=
    ⟨trivial, fun _ => trivial⟩
  obtain ⟨ms₃, hcalls₃, hrest⟩ := Job.of_step hnil hset fin
  rcases hrest with ⟨e, hperform, -, -⟩ | ⟨u, x₃, hperform, fin⟩
  · cases hperform
  have hx₃ : x₃ = { x₁ with ledger := l } := by
    cases hperform
    rfl
  obtain ⟨ns, ms₄, outcome, y, ss, k, rfl, hrun, hidle, fin⟩ :=
    Job.of_attempt (o.settles_startNetwork _) fin
  -- the launches leave the files alone
  have hy : y.disk = x₃.disk := by
    obtain ⟨t, run, -⟩ := hrun
    exact (run.plain (fun _ _ hd => run.explained.within (o.startNetwork_plain _) hd) "").2
  have holdy : LedgerFile.Holds y.disk a.ledger l := by
    rw [hy, hx₃]
    exact hold₁
  obtain ⟨hcalls₄, hsaved⟩ := saved_finishes hidle holdy fin
  have hns : (ns ++ ms₄).SameCalls ns := by
    have happend := (History.SameCalls.refl ns).append hcalls₄
    rwa [List.append_nil] at happend
  refine .inr ⟨_, ns, outcome, x₃, y, by rw [hx₃], ?_, hrun, hsaved⟩
  exact (hcalls₁.trans hcalls₂).trans (hcalls₃.trans hns)

/-! ### Ending -/

/-- **What a teardown comes to**: if every container is gone, the ledger file is removed and the
command succeeds, so long as it can report this; otherwise the command fails, with the failure that
there was, and leaves the files alone. -/
theorem teardown_finishes {voice : Voice} {path : String} (hold : LedgerFile.Holds w.disk path l)
    (fin : Finishes (perform h) (.ofEnsemble (teardown voice path).run) w ms r v) :
    ∃ ms₁ outcome y, ms.SameCalls ms₁ ∧
      Finishes (perform h) (.ofEnsemble (tearDown l).run) w ms₁ outcome y ∧
      ((outcome = .ok true ∧ v.disk.Holds path none ∧ (w.outputOpen = true → r = .ok ())) ∨
        (outcome ≠ .ok true ∧ v.disk = w.disk ∧ (∃ f, r = .error f) ∧
          ∀ e, outcome = .error e → r = .error (.ofOperation e))) := by
  have hnil : Idle ([] : List (Script (Except OperationError Bool))) := nofun
  unfold teardown at fin
  obtain ⟨ms₁, hcalls₁, hrest⟩ := Job.of_step hnil (LedgerFile.load_local path) fin
  rcases hrest with ⟨e, hperform, -, -⟩ | ⟨l', x, hperform, fin⟩
  · cases (LedgerFile.perform_load h hold).symm.trans hperform
  cases (LedgerFile.perform_load h hold).symm.trans hperform
  obtain ⟨ns, ms₂, outcome, y, ss, k, rfl, hrun, hidle, hrest⟩ :=
    Job.of_fanOut (settles_tearDown l) fin
  have hy : y.disk = w.disk := by
    obtain ⟨t, run, -⟩ := hrun
    exact (run.plain (fun _ _ hd => run.explained.within (tearDown_plain l) hd) "").2
  have hbehind : ms₂.SameCalls [] → ms.SameCalls ns := fun h₂ => by
    have hns := (History.SameCalls.refl ns).append h₂
    rw [List.append_nil] at hns
    exact hcalls₁.trans hns
  rcases hrest with ⟨e, rfl, rfl, rfl, rfl⟩ | ⟨removed, rfl, fin⟩
  · refine ⟨ns, _, v, hbehind (.refl []), hrun, .inr ⟨nofun, hy, ⟨_, rfl⟩, fun e' he => ?_⟩⟩
    cases he
    rfl
  refine ⟨ns, .ok removed, y, ?_⟩
  cases removed with
  | false =>
      obtain ⟨hcalls₂, hdisk, hfails, -⟩ := announced_finishes hidle fin
      exact ⟨hbehind hcalls₂, hrun, .inr ⟨nofun, hdisk.trans hy, hfails rfl, nofun⟩⟩
  | true =>
      have hremove : (LedgerFile.remove path).run.Within Action.IsLocal := by
        refine Script.within_adapt _ ?_
        rw [LocalFile.remove_run]
        exact ⟨trivial, fun _ => trivial⟩
      obtain ⟨d, hremoved, hgone⟩ := LedgerFile.perform_remove h (hy ▸ hold)
      obtain ⟨ms₃, hcalls₃, hrest⟩ := Job.of_step hidle hremove fin
      rcases hrest with ⟨e, hperform, -, -⟩ | ⟨u, z, hperform, fin⟩
      · cases hremoved.symm.trans hperform
      cases hremoved.symm.trans hperform
      obtain ⟨hcalls₄, hdisk, -, hends⟩ := announced_finishes hidle fin
      refine ⟨hbehind (hcalls₃.trans hcalls₄), hrun, .inl ⟨rfl, hdisk ▸ hgone, fun hopen => ?_⟩⟩
      exact hends rfl ((outputOpen_of_finishes hrun).trans hopen)

/-- A teardown waits for the work on all nodes. -/
theorem settles_teardown (voice : Voice) (path : String) : (teardown voice path).run.Settles 0 := by
  unfold teardown
  refine Job.settles_bind (Job.settles_ofStep _) fun ledger => ?_
  refine Job.settles_bind (Job.settles_ofFanOut (settles_tearDown ledger)) fun removed => ?_
  have hannounce : ((do
      voice.say (.teardown ledger.nodeNames ledger.allIds.length removed)
      require removed "not every resource was removed" :
        Job (Except OperationError Bool) Unit)).run.Settles 0 :=
    Job.settles_bind (Job.settles_ofStep _) fun _ => Job.settles_ofStep _
  cases removed with
  | false => exact hannounce
  | true => exact Job.settles_bind (Job.settles_ofStep _) fun _ => hannounce

end Cli

end Testbed
