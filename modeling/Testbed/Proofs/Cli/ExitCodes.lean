/-
**Exit codes.**

The exit code of a command says what has gone wrong: a local file or stream cannot be used, the
daemon cannot be reached, the configuration is missing or not valid, or what was asked for does not
hold.  Two faults of local files and streams are reported otherwise: a configuration that is there
but cannot be read, and a report in JSON that cannot be written out.

Main definitions:

* `Testbed.Cli.Command.Unhindered` — a command without fault;
* `Testbed.Cli.Cause` — **why a command fails, and with which exit code**.

Main results:

* `Testbed.Cli.Invocation.exitCode_because` — **the exit code of a command is that of its cause**;
* `Testbed.Cli.local_faults_not_ten` — where the exit code does not tell a local fault.
-/

import Testbed.Daemon.Fault
import Testbed.Proofs.Cli.Courses
import Testbed.Rehearsal.World

set_option relaxedAutoImplicit false
set_option autoImplicit false

namespace Testbed.Cli

open Rehearsal

/-! ### Causes -/

/-- **A command without fault**: no local file, no output and no call stands in its way. -/
def Command.Unhindered (c : Command) (ds : List Deed) : Prop :=
  ∀ d ∈ ds, d.fileFault? c.needsFile = none ∧ d.refusal? = none

/-- Does a deed write out a report in JSON? -/
def Invocation.WritesJson (i : Invocation) (d : Deed) : Prop :=
  i.command.reports = true ∧ i.format = .json ∧ d.isPrint = true

/-- **Why a command fails, and with which exit code**: given what came of reading the configuration,
the deeds behind that, and the results of the scripts. -/
inductive Cause (i : Invocation) (e : Environment) (a : Except FileFault Bytes) (ds : List Deed)
    (rs : List i.command.Worker) : Nat → Prop
  /-- A local file or the output cannot be used. -/
  | file {d : Deed} {f : FileFault} (met : d ∈ ds)
      (fault : d.fileFault? i.command.needsFile = some f) (plain : ¬i.WritesJson d) :
      Cause i e a ds rs 10
  /-- A report in JSON cannot be written out. -/
  | report {d : Deed} {f : FileFault} (met : d ∈ ds)
      (fault : d.fileFault? i.command.needsFile = some f) (json : i.WritesJson d) :
      Cause i e a ds rs 1
  /-- The daemon cannot be turned to, or refuses a call. -/
  | refused {d : Deed} {x : OperationError} (met : d ∈ ds) (refusal : d.refusal? = some x) :
      Cause i e a ds rs x.exitCode
  /-- The configuration is there and cannot be read; a validation reports that first. -/
  | unreadable {f : FileFault} (read : LocalFile.textOf a = .error f) (there : f ≠ .notFound)
      (free : i.command = .validateConfig → i.command.Unhindered ds) :
      Cause i e a ds rs (if i.command = .validateConfig then 2 else 1)
  /-- There is no configuration. -/
  | missing (read : LocalFile.textOf a = .error .notFound)
      (free : i.command = .validateConfig → i.command.Unhindered ds) : Cause i e a ds rs 2
  /-- The configuration is malformed or out of range. -/
  | invalid {text : String} {x : ConfigError} (read : LocalFile.textOf a = .ok text)
      (fault : Config.ofText e text = .error x)
      (free : i.command = .validateConfig → i.command.Unhindered ds) : Cause i e a ds rs 2
  /-- A script has failed, or a log has broken off. -/
  | learnt {text : String} {c : Config} {x : OperationError} (read : LocalFile.textOf a = .ok text)
      (loaded : Config.ofText e text = .ok c) (free : i.command.Unhindered ds)
      (trouble : i.command.trouble? (.ofConfig c) ds rs = some x) : Cause i e a ds rs x.exitCode
  /-- What was asked for does not hold. -/
  | unmet {text : String} {c : Config} (read : LocalFile.textOf a = .ok text)
      (loaded : Config.ofText e text = .ok c) (free : i.command.Unhindered ds)
      (quiet : i.command.trouble? (.ofConfig c) ds rs = none)
      (asked : i.command.Unmet (.ofConfig c) ds rs) : Cause i e a ds rs 4

/-- An outcome whose exit code is that of its cause; without one it is a general failure, if any. -/
def Caused (i : Invocation) (e : Environment) (a : Except FileFault Bytes) (ds : List Deed)
    (rs : List i.command.Worker) (r : Except Failure Unit) : Prop :=
  (∀ n, Cause i e a ds rs n → exitCode r = n) ∧
    ((∀ n, ¬Cause i e a ds rs n) → r = .ok () ∨ exitCode r = 1)

section

variable {i : Invocation} {e : Environment} {a : Except FileFault Bytes} {ds : List Deed}
  {rs : List i.command.Worker} {r : Except Failure Unit} {d : Deed}

theorem fault?_eq_none_iff {c : Command} {format : Format} :
    c.fault? format d = none ↔ d.fileFault? c.needsFile = none ∧ d.refusal? = none := by
  unfold Command.fault? faultOf
  cases d.fileFault? c.needsFile <;> simp

theorem Command.Unhindered.clean {c : Command} {format : Format} (h : c.Unhindered ds) :
    ∀ d ∈ ds, c.fault? format d = none := fun d hd => fault?_eq_none_iff.2 (h d hd)

theorem fileFault?_of_refusal? {needed : Bool} {x : OperationError} (h : d.refusal? = some x) :
    d.fileFault? needed = none := by
  obtain ⟨y, b⟩ := d
  cases y with
  | connect host => rfl
  | call c => rfl
  | _ => cases h

/-- What becomes of a file that cannot be used. -/
theorem fault?_of_file {f : FileFault} (fault : d.fileFault? i.command.needsFile = some f)
    (plain : ¬i.WritesJson d) : i.command.fault? i.format d = some (.io f.message) := by
  unfold Command.fault? faultOf
  rw [fault]
  refine congrArg some (if_neg fun hjson => plain ?_)
  simpa [Invocation.WritesJson, and_assoc] using hjson

theorem fault?_of_report {f : FileFault} (fault : d.fileFault? i.command.needsFile = some f)
    (json : i.WritesJson d) : i.command.fault? i.format d = some (.jsonOutput f.message) := by
  unfold Command.fault? faultOf
  rw [fault]
  refine congrArg some (if_pos ?_)
  simpa [Invocation.WritesJson, and_assoc] using json

theorem fault?_of_refusal {x : OperationError} (refusal : d.refusal? = some x) :
    i.command.fault? i.format d = some (.ofOperation x) := by
  unfold Command.fault? faultOf
  rw [fileFault?_of_refusal? refusal, refusal]
  rfl

/-- Every fault is a cause. -/
theorem exists_cause (met : d ∈ ds) (h : i.command.fault? i.format d ≠ none) :
    ∃ n, Cause i e a ds rs n := by
  cases hfile : d.fileFault? i.command.needsFile with
  | some f =>
      by_cases hjson : i.WritesJson d
      · exact ⟨1, .report met hfile hjson⟩
      · exact ⟨10, .file met hfile hjson⟩
  | none =>
      cases hrefusal : d.refusal? with
      | some x => exact ⟨x.exitCode, .refused met hrefusal⟩
      | none => exact absurd (fault?_eq_none_iff.2 ⟨hfile, hrefusal⟩) h

/-- A command is without fault, or there is a cause for it to fail. -/
theorem unhindered_or_cause (i : Invocation) (e : Environment) (a : Except FileFault Bytes)
    (ds : List Deed) (rs : List i.command.Worker) :
    i.command.Unhindered ds ∨ ∃ n, Cause i e a ds rs n := by
  by_cases free : i.command.Unhindered ds
  · exact .inl free
  · simp only [Command.Unhindered, not_forall] at free
    obtain ⟨d, met, hd⟩ := free
    exact .inr (exists_cause met fun hnone => hd (fault?_eq_none_iff.1 hnone))

section

variable {own : Failure → Prop}

theorem exitCode_of_file {f : FileFault} (h : Heeded (i.command.fault? i.format) own ds r)
    (met : d ∈ ds) (fault : d.fileFault? i.command.needsFile = some f) (plain : ¬i.WritesJson d) :
    exitCode r = 10 := by
  rw [h.error_of_mem met (fault?_of_file fault plain)]
  rfl

theorem exitCode_of_report {f : FileFault} (h : Heeded (i.command.fault? i.format) own ds r)
    (met : d ∈ ds) (fault : d.fileFault? i.command.needsFile = some f) (json : i.WritesJson d) :
    exitCode r = 1 := by
  rw [h.error_of_mem met (fault?_of_report fault json)]
  rfl

theorem exitCode_of_refusal {x : OperationError}
    (h : Heeded (i.command.fault? i.format) own ds r) (met : d ∈ ds)
    (refusal : d.refusal? = some x) : exitCode r = x.exitCode := by
  rw [h.error_of_mem met (fault?_of_refusal refusal)]
  exact Failure.exitCode_ofOperation x

end

/-! ### Configurations that are not loaded -/

/-- The exit code of a command whose configuration was not loaded. -/
def Command.unloadedCode (c : Command) (x : Error) : Nat :=
  if c = .validateConfig then 2 else (Failure.core x).exitCode

/-- A command whose configuration was not loaded fails with that, or with the report of it. -/
theorem run_unloaded {x : Error} {source : String} {v : Voice} {c : Command} {rs : List c.Worker}
    (h : (run (.error x) source v c).run.Comes ds rs r) :
    Heeded (c.fault? v.format) (fun _ => True) ds r ∧
      ((c = .validateConfig → c.Unhindered ds) → exitCode r = c.unloadedCode x) := by
  cases c with
  | validateConfig =>
      change (Job.ofStep (v.say (.validation source false [x.message]) >>= fun _ =>
        throw (.config "configuration is invalid"))).run.Comes ds rs r at h
      rw [Job.ofStep_bind] at h
      refine ⟨?_, fun free => ?_⟩
      · have hthrow (u : Unit) : (throw (.config "configuration is invalid") : Step Unit).run.Heeds
            (Command.validateConfig.fault? v.format) fun _ => True := fun _ _ => trivial
        exact Job.minds_bind (Job.minds_ofStep (v.heeds_say _))
          (fun u => Job.minds_ofStep (hthrow u)) h
      · obtain ⟨ds₁, ds₂, u, rfl, -, -, hrest⟩ := Job.passes (v.heeds_say _) (free rfl).clean h
        obtain ⟨-, hend⟩ := Script.does_done.1 hrest.of_ofScript.1
        cases hend
        rfl
  | _ =>
      cases h
      exact ⟨.smooth (by simp) fun _ _ => trivial, fun _ => rfl⟩

/-- A configuration that was not loaded is the cause of a failure. -/
theorem cause_of_unloaded {x : Error}
    (h : Config.loaded e i.config (LocalFile.textOf a) = .error x)
    (free : i.command = .validateConfig → i.command.Unhindered ds) :
    Cause i e a ds rs (i.command.unloadedCode x) := by
  rcases Config.loaded_eq_error_cases h with
    ⟨read, rfl⟩ | ⟨f, read, there, rfl⟩ | ⟨text, y, read, fault, rfl⟩
  · have hcode : i.command.unloadedCode (.config (.fileNotFound i.config)) = 2 := ite_self 2
    rw [hcode]
    exact .missing read free
  · exact .unreadable read there free
  · have hcode : i.command.unloadedCode (.config y) = 2 := ite_self 2
    rw [hcode]
    exact .invalid read fault free

/-- A command whose configuration was not loaded. -/
theorem caused_of_unloaded {x : Error} {source : String} {colours : Bool}
    (hloaded : Config.loaded e i.config (LocalFile.textOf a) = .error x)
    (h : (run (.error x) source ⟨i.format, colours⟩ i.command).run.Comes ds rs r) :
    Caused i e a ds rs r := by
  obtain ⟨hheeded, hcode⟩ := run_unloaded h
  -- the only deed that there can be is the report of a validation
  refine ⟨fun n hn => ?_, fun hnone => ?_⟩
  · cases hn with
    | file met fault plain => exact exitCode_of_file hheeded met fault plain
    | report met fault json => exact exitCode_of_report hheeded met fault json
    | refused met refusal => exact exitCode_of_refusal hheeded met refusal
    | unreadable read there free =>
        rw [hcode free]
        rcases Config.loaded_eq_error_cases hloaded with
          ⟨read', -⟩ | ⟨f, -, -, rfl⟩ | ⟨text, y, read', -⟩
        · cases read.symm.trans read'
          exact absurd rfl there
        · rfl
        · cases read.symm.trans read'
    | missing read free =>
        rw [hcode free]
        rw [read] at hloaded
        cases hloaded
        exact ite_self 2
    | invalid read fault free =>
        rw [hcode free]
        rw [read, Config.loaded, fault] at hloaded
        cases hloaded
        exact ite_self 2
    | learnt read loaded =>
        rw [read, Config.loaded, loaded] at hloaded
        cases hloaded
    | unmet read loaded =>
        rw [read, Config.loaded, loaded] at hloaded
        cases hloaded
  · rcases unhindered_or_cause i e a ds rs with free | ⟨n, hn⟩
    · exact absurd (cause_of_unloaded hloaded fun _ => free) (hnone _)
    · exact absurd hn (hnone n)

/-! ### Configurations that are loaded -/

/-- A command whose configuration was loaded. -/
theorem caused_of_loaded {text : String} {c : Config} {source : String} {colours : Bool}
    (hread : LocalFile.textOf a = .ok text) (hloaded : Config.ofText e text = .ok c)
    (h : (run (.ok c) source ⟨i.format, colours⟩ i.command).run.Comes ds rs r) :
    Caused i e a ds rs r := by
  obtain ⟨written, -, -, -, valid⟩ := Config.ofText_eq_ok_iff.1 hloaded
  have hheeded := run_minds valid.settings_check source ⟨i.format, colours⟩ i.command h
  have hsettled (free : i.command.Unhindered ds) := run_settled valid free.clean h
  have hsame {text' : String} {c' : Config} (read : LocalFile.textOf a = .ok text')
      (loaded : Config.ofText e text' = .ok c') : c' = c := by
    cases hread.symm.trans read
    exact Except.ok.inj (loaded.symm.trans hloaded)
  -- a fault ends the command; without one, what it comes to is settled
  refine ⟨fun n hn => ?_, fun hnone => ?_⟩
  · cases hn with
    | file met fault plain => exact exitCode_of_file hheeded met fault plain
    | report met fault json => exact exitCode_of_report hheeded met fault json
    | refused met refusal => exact exitCode_of_refusal hheeded met refusal
    | unreadable read => cases hread.symm.trans read
    | missing read => cases hread.symm.trans read
    | invalid read fault =>
        cases hread.symm.trans read
        cases hloaded.symm.trans fault
    | learnt read loaded free trouble =>
        obtain rfl := hsame read loaded
        cases hsettled free with
        | troubled x learnt code =>
            cases learnt.symm.trans trouble
            exact code
        | unmet quiet => cases quiet.symm.trans trouble
        | other quiet => cases quiet.symm.trans trouble
    | unmet read loaded free quiet asked =>
        obtain rfl := hsame read loaded
        cases hsettled free with
        | troubled x learnt => cases quiet.symm.trans learnt
        | unmet _ _ code => exact code
        | other _ notAsked => exact absurd asked notAsked
  · rcases unhindered_or_cause i e a ds rs with free | ⟨n, hn⟩
    · cases hsettled free with
      | troubled x learnt => exact absurd (.learnt hread hloaded free learnt) (hnone _)
      | unmet quiet asked => exact absurd (.unmet hread hloaded free quiet asked) (hnone 4)
      | other _ _ code => exact code
    · exact absurd hn (hnone n)

end

/-! ### The exit code of a run -/

theorem exitCode_eq_zero_iff (r : Except Failure Unit) : exitCode r = 0 ↔ r = .ok () := by
  cases r with
  | ok u => exact iff_of_true rfl rfl
  | error f =>
      refine iff_of_false ?_ nofun
      cases f with
      | core x => cases x <;> nofun
      | _ => nofun

theorem Invocation.run_starts (i : Invocation) (e : Environment) (colours : Bool) :
    (i.run e colours).run.Starts i.command.Orderly := by
  unfold Invocation.run
  rw [Job.run_lift_bind]
  exact (Ensemble.starts_ofScript _).bind fun loaded => Cli.run_starts loaded _ _ _

/-- A world with an empty configuration, in which the ledger is a directory. -/
def blocked : World Unit where
  runtime := ()
  disk := ⟨Dict.ofList [("c", .file []), ("l", .directory)]⟩

/-- Does an invocation end with an exit code, in a world in which every call fails in one way? -/
def LeavesWith (i : Invocation) (x : OperationError) (w : World Unit) (code : Nat) : Prop :=
  ∃ ms r v, (i.run Dict.empty false).run.Ends (perform (.ofAnswers fun _ => .error x)) w ms r v ∧
    exitCode r = code

theorem leavesWith_of_endIn? {i : Invocation} {x : OperationError} {w : World Unit} {code : Nat}
    (order : List Thread)
    (h : ((i.run Dict.empty false).run.endIn? (perform (.ofAnswers fun _ => .error x)) order w).map
      (fun y => exitCode y.1) = some code) : LeavesWith i x w code := by
  obtain ⟨⟨r, v⟩, hx, hr⟩ := Option.map_eq_some_iff.1 h
  obtain ⟨ms, ends⟩ := Ensemble.ends_of_endIn? hx
  exact ⟨ms, r, v, ends, hr⟩

/-- **The exit code of a command is that of its cause.**  Whatever the command, its configuration,
its environment and whatever its actions are answered: it reads its configuration first, and if
there is a cause for it to fail, it leaves with the exit code of this cause; without one it succeeds
or is a general failure.  The exit code of a failure is never that of a success.  The scripts that
it has waited for have ended at their first fault, with what their last call was answered, or with a
general failure. -/
theorem Invocation.exitCode_because {W : Type} {p : Performer W} {i : Invocation} {e : Environment}
    {colours : Bool} {w v : W} {ms : History i.command.Worker} {r : Except Failure Unit}
    (h : (i.run e colours).run.Ends p w ms r v) :
    ∃ a ds, ms.deedsOf .lead = ⟨.readFile i.config, a⟩ :: ds ∧
      (∀ n, Cause i e a ds ms.results n → exitCode r = n) ∧
      ((∀ n, ¬Cause i e a ds ms.results n) → r = .ok () ∨ exitCode r = 1) ∧
      (exitCode r = 0 ↔ r = .ok ()) ∧
      ∀ k result, ms.results[k]? = some result →
        Heeded i.command.scriptFault? (fun x => x.exitCode = 1) (ms.deedsOf (.script k))
          (i.command.outcome result) := by
  have hscripts : ∀ k result, ms.results[k]? = some result →
      Heeded i.command.scriptFault? (fun x => x.exitCode = 1) (ms.deedsOf (.script k))
        (i.command.outcome result) := by
    intro k result hresult
    obtain ⟨t, run, -⟩ := h
    obtain ⟨s, horderly, hdoes⟩ := run.result_of_starts (i.run_starts e colours) hresult
    exact horderly hdoes
  -- the leading thread: the configuration is read, and then the command goes its way
  have hcomes := h.comes
  unfold Invocation.run at hcomes
  rw [Job.run_lift_bind] at hcomes
  obtain ⟨ds₁, ds₂, rs₁, rs₂, loaded, hds, hrs, hload, hrest⟩ := hcomes.of_bind
  obtain ⟨hdoes, rfl⟩ := hload.of_ofScript
  rw [Config.load_run] at hdoes
  obtain ⟨a, ds, rfl, hdone⟩ := hdoes.ends_of_act
  obtain ⟨rfl, hloaded⟩ := Script.does_done.1 hdone
  rw [List.nil_append] at hrs
  have hcaused : Caused i e a ds₂ ms.results r := by
    rw [hrs]
    cases loaded with
    | error x => exact caused_of_unloaded (Script.done.inj hloaded).symm hrest
    | ok c =>
        obtain ⟨text, hread, htext⟩ := Config.loaded_eq_ok (Script.done.inj hloaded).symm
        exact caused_of_loaded hread htext hrest
  exact ⟨a, ds₂, hds, hcaused.1, hcaused.2, exitCode_eq_zero_iff r, hscripts⟩

/-- A ledger that is a directory is a local fault. -/
theorem exitCode_because_of_directory : ∃ ms r v a ds,
    Ensemble.Ends (perform (.ofAnswers fun _ => .error (.api "")))
      (Invocation.run ⟨"c", none, .text, .check "l"⟩ Dict.empty false).run blocked ms r v ∧
    ms.deedsOf .lead = ⟨.readFile "c", a⟩ :: ds ∧ exitCode r = 10 ∧
    Cause ⟨"c", none, .text, .check "l"⟩ Dict.empty a ds ms.results 10 := by
  obtain ⟨ms, r, v, ends, hr⟩ : LeavesWith ⟨"c", none, .text, .check "l"⟩ (.api "") blocked 10 :=
    leavesWith_of_endIn? [.lead, .lead, .lead] (by decide +kernel)
  obtain ⟨a, ds, hds, hcode, hfree, -⟩ := Invocation.exitCode_because ends
  have hcause : ∃ n, Cause ⟨"c", none, .text, .check "l"⟩ Dict.empty a ds ms.results n := by
    refine Classical.byContradiction fun hnone => ?_
    rcases hfree fun n hn => hnone ⟨n, hn⟩ with rfl | hone
    · cases hr
    · cases hone.symm.trans hr
  obtain ⟨n, hn⟩ := hcause
  obtain rfl : 10 = n := hr.symm.trans (hcode n hn)
  exact ⟨ms, r, v, a, ds, ends, hds, hr, hn⟩

/-- **Where the exit code does not tell a local fault.**  A configuration that is there and cannot
be read is a general failure, or one of the configuration if it is to be validated.  A report in
JSON that cannot be written out is a general failure, while one in text is a local fault.  Nor does
the exit code always tell that the daemon does not respond: to a call about a container this is a
general failure, and to a call about the daemon itself it is not. -/
theorem local_faults_not_ten :
    (blocked.disk.read "l" = .error .isADirectory ∧
      LeavesWith ⟨"l", none, .text, .info⟩ (.api "") blocked 1 ∧
      LeavesWith ⟨"l", none, .text, .validateConfig⟩ (.api "") blocked 2) ∧
    (LeavesWith ⟨"c", none, .json, .validateConfig⟩ (.api "")
        { blocked with outputOpen := false } 1 ∧
      LeavesWith ⟨"c", none, .text, .validateConfig⟩ (.api "")
        { blocked with outputOpen := false } 10) ∧
    LeavesWith ⟨"c", none, .text, .container .state "a"⟩
      (Daemon.Fault.silence.toOperationError "a" "inspect") blocked 1 ∧
    LeavesWith ⟨"c", none, .text, .info⟩ (Daemon.Fault.silence.toConnectionError "ping") blocked
      3 := by
  refine ⟨⟨by decide +kernel, ?_, ?_⟩, ⟨?_, ?_⟩, ?_, ?_⟩
  · exact leavesWith_of_endIn? [.lead] (by decide +kernel)
  · exact leavesWith_of_endIn? [.lead, .lead] (by decide +kernel)
  · exact leavesWith_of_endIn? [.lead, .lead] (by decide +kernel)
  · exact leavesWith_of_endIn? [.lead, .lead] (by decide +kernel)
  · exact leavesWith_of_endIn? [.lead, .lead, .lead] (by decide +kernel)
  · exact leavesWith_of_endIn? [.lead, .lead, .lead] (by decide +kernel)

end Testbed.Cli
