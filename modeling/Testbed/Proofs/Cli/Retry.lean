/-
**A teardown that is called again.**

A teardown that fails leaves its ledger file as it was, so it can be called again.  By then the
containers that it removed are gone, and a stop of one of them fails.  The second teardown therefore
comes to its end only if the first one removed nothing; of a node of which it did remove something,
the second one removes nothing more.

Main definitions:

* `Testbed.Cli.Attempt` — a teardown from the command line;
* `Testbed.Rehearsal.Host.lacking` — a runtime in which some containers are gone.

Main results:

* `Testbed.Cli.Attempt.ends` — how a teardown ends that gets a connection, and how any other;
* `Testbed.Cli.Attempt.leaves_of_failed` — **what a failed teardown leaves behind**;
* `Testbed.Cli.Attempt.complete_of_there`, `Testbed.Cli.Attempt.kept_of_gone` — **when a teardown
  comes to its end** in a runtime in which some containers are gone;
* `Testbed.Cli.teardown_stuck` — a teardown that stays incomplete.
-/

import Testbed.Proofs.Cli.Sessions
import Testbed.Proofs.Network.Retry

set_option relaxedAutoImplicit false
set_option autoImplicit false

namespace Testbed.Cli

open Rehearsal Threads

/-! ### One teardown -/

/-- How a teardown is called from the command line, its ledger file apart. -/
structure Attempt where
  config : String
  level : Option String
  format : Format
  environment : Environment
  colours : Bool

/-- A teardown from the command line. -/
def Attempt.teardown (a : Attempt) (path : String) :
    Ensemble (Except OperationError Bool) (Except Failure Unit) :=
  (Invocation.run ⟨a.config, a.level, a.format, .teardown path⟩ a.environment a.colours).run

theorem removes_iff {ms : History (Except OperationError Bool)} {id : String} :
    Removes ms id ↔ id ∈ removedIds ms.exchanges := by
  rw [mem_removedIds, History.mem_exchanges]
  rfl

namespace Attempt

variable {R : Type} {h : Host R} {w v : World R} {a : Attempt} {path : String} {l : Ledger}
  {ms : History (Except OperationError Bool)} {r : Except Failure Unit}

theorem settles_teardown (a : Attempt) (path : String) : (a.teardown path).Settles 0 := by
  refine Job.settles_bind (Job.settles_lift _) fun loaded => ?_
  refine Job.settles_bind (Job.settles_ofStep _) fun o => ?_
  exact Cli.settles_teardown _ path

/-- **How a teardown ends.**  Without a connection nothing is done.  With one the ledger is torn
down; if all of it is gone, so is the file, and otherwise the files stay as they are. -/
theorem ends (hold : LedgerFile.Holds w.disk path l)
    (fin : Ensemble.Ends (perform h) (a.teardown path) w ms r v) :
    (¬ Connects h w a.environment a.config ∧ v.disk = w.disk ∧ ms.SameCalls []) ∨
      ∃ ns t outcome, ms.SameCalls ns ∧ Explained (tearDown l).run ns t ∧
        t.lead = .done outcome ∧
        ((outcome = .ok true ∧ v.disk.Holds path none ∧ (w.outputOpen = true → r = .ok ())) ∨
          ∃ e, outcome = .error e ∧ v.disk = w.disk ∧ r = .error (.ofOperation e)) := by
  rcases connected_finishes fin with hnone | ⟨o, ms₁, x, hcalls, hdisk, fin'⟩
  · exact .inl hnone
  have hopen : x.outputOpen = w.outputOpen :=
    (outputOpen_of_finishes fin').symm.trans (outputOpen_of_finishes fin)
  obtain ⟨ns, outcome, y, hcalls', ⟨t, run, ht⟩, hrest⟩ := teardown_finishes (hdisk ▸ hold) fin'
  refine .inr ⟨ns, t, outcome, hcalls.trans hcalls', run.explained, ht, ?_⟩
  rcases hrest with ⟨hok, hgone, hends⟩ | ⟨hne, hdisk', -, herror⟩
  · exact .inl ⟨hok, hgone, fun ho => hends (hopen.trans ho)⟩
  · cases outcome with
    | error e => exact .inr ⟨e, rfl, hdisk'.trans hdisk, herror e rfl⟩
    | ok b =>
        -- no teardown comes to nothing without an error
        obtain ⟨rs, hlen, -, hjoin, -, hnodes⟩ := end_of_tearDown run.explained ht
        cases b with
        | true => exact absurd rfl hne
        | false => exact absurd rfl (verdict_of_tornDown hjoin hlen hnodes).2.1

/-- **What a failed teardown leaves behind**: the files as they were, and of each node either all
containers or not the first one. -/
theorem leaves_of_failed (hold : LedgerFile.Holds w.disk path l)
    (fin : Ensemble.Ends (perform h) (a.teardown path) w ms r v)
    (failed : ∃ x ∈ ms.exchanges, ∃ id e, x.FailsAt id e) :
    ((∃ f, r = .error f) ∧ v.disk = w.disk) ∧
    (l.allIds.Nodup → ∀ (i : Nat) node ids, l.nodes.entries[i]? = some (node, ids) →
      (∀ id ∈ ids, ¬ Removes ms id) ∨ ∃ id rest, ids = id :: rest ∧ Removes ms id) := by
  obtain ⟨x, hx, id, e, hfails⟩ := failed
  rcases ends hold fin with ⟨-, -, hcalls⟩ | ⟨ns, t, outcome, hcalls, hexp, ht, hrest⟩
  · rw [hcalls.exchanges_eq] at hx
    cases hx
  rw [hcalls.exchanges_eq] at hx
  refine ⟨?_, fun distinct i node ids hi => ?_⟩
  · rcases hrest with ⟨hok, -⟩ | ⟨e', -, hdisk, hr⟩
    · exact absurd hok (not_ok_of_failsAt hexp ht hx hfails)
    · exact ⟨⟨_, hr⟩, hdisk⟩
  · simp only [removes_iff, hcalls.exchanges_eq]
    exact untouched_or_first hexp ht distinct hi

/-- A teardown that gets a connection, and can report, fails only by a call that fails. -/
theorem failed_of_error (hold : LedgerFile.Holds w.disk path l)
    (connects : Connects h w a.environment a.config) (reported : w.outputOpen = true)
    (fin : Ensemble.Ends (perform h) (a.teardown path) w ms r v) (hr : r ≠ .ok ()) :
    ∃ x ∈ ms.exchanges, ∃ id e, x.FailsAt id e := by
  rcases ends hold fin with ⟨hnone, -⟩ | ⟨ns, t, outcome, hcalls, hexp, ht, hrest⟩
  · exact absurd connects hnone
  rw [hcalls.exchanges_eq]
  rcases hrest with ⟨-, -, hends⟩ | ⟨e, rfl, -, -⟩
  · exact absurd (hends reported) hr
  · exact failsAt_of_tearDown hexp ht

/-- All calls of a teardown stop or remove a container. -/
theorem tearsDown_of_mem (hold : LedgerFile.Holds w.disk path l)
    (fin : Ensemble.Ends (perform h) (a.teardown path) w ms r v) {x : Exchange}
    (hx : x ∈ ms.exchanges) : Action.TearsDown (.call x.call) := by
  rcases ends hold fin with ⟨-, -, hcalls⟩ | ⟨ns, t, outcome, hcalls, hexp, -⟩
  · rw [hcalls.exchanges_eq] at hx
    cases hx
  · rw [hcalls.exchanges_eq] at hx
    obtain ⟨who, hd⟩ := History.mem_exchanges.1 hx
    exact hexp.within (tearDown_within l) hd

/-! ### In a runtime in which some containers are gone -/

section Gone

variable {gone : String → Prop} (hold : LedgerFile.Holds w.disk path l)
  (connects : Connects h w a.environment a.config)
  (fin : Ensemble.Ends (perform h) (a.teardown path) w ms r v) (ob : Obliging gone ms.exchanges)

include hold connects fin ob

/-- With a connection the ledger is torn down in such a runtime. -/
theorem ends_obliging :
    ∃ ns t outcome, ms.SameCalls ns ∧ Explained (tearDown l).run ns t ∧ t.lead = .done outcome ∧
      Obliging gone ns.exchanges ∧
      ((outcome = .ok true ∧ v.disk.Holds path none ∧ (w.outputOpen = true → r = .ok ())) ∨
        ∃ e, outcome = .error e ∧ v.disk = w.disk ∧ r = .error (.ofOperation e)) := by
  rcases ends hold fin with ⟨hnone, -⟩ | ⟨ns, t, outcome, hcalls, hexp, ht, hrest⟩
  · exact absurd connects hnone
  · exact ⟨ns, t, outcome, hcalls, hexp, ht, hcalls.exchanges_eq ▸ ob, hrest⟩

/-- **A teardown comes to its end if nothing is gone** and nothing is listed twice. -/
theorem complete_of_there (there : ∀ id ∈ l.allIds, ¬ gone id) (distinct : l.allIds.Nodup) :
    (∀ id ∈ l.allIds, Removes ms id) ∧ v.disk.Holds path none ∧
      (w.outputOpen = true → r = .ok ()) := by
  obtain ⟨ns, t, outcome, hcalls, hexp, ht, ob', hrest⟩ := ends_obliging hold connects fin ob
  obtain rfl := (ob'.verdict hexp ht).2 ⟨there, distinct⟩
  rcases hrest with ⟨-, hgone, hends⟩ | ⟨e, herror, -⟩
  · refine ⟨fun id hid => ?_, hgone, hends⟩
    rw [removes_iff, hcalls.exchanges_eq]
    exact (removed_perm_of_tearDown hexp ht).mem_iff.2 hid
  · cases herror

/-- **A teardown fails and leaves the files alone** if something is gone, or listed twice. -/
theorem kept_of_gone (partly : ¬ ((∀ id ∈ l.allIds, ¬ gone id) ∧ l.allIds.Nodup)) :
    (∃ f, r = .error f) ∧ v.disk = w.disk := by
  obtain ⟨ns, t, outcome, -, hexp, ht, ob', hrest⟩ := ends_obliging hold connects fin ob
  rcases hrest with ⟨hok, -⟩ | ⟨e, -, hdisk, hr⟩
  · exact absurd ((ob'.verdict hexp ht).1 hok) partly
  · exact ⟨⟨_, hr⟩, hdisk⟩

/-- A node whose first container is gone is left as it is. -/
theorem node_of_gone {i : Nat} {node id : String} {rest : List String}
    (hi : l.nodes.entries[i]? = some (node, id :: rest)) (hgone : gone id) :
    exchanges (ms.deedsOf (.script i)) = [⟨.stop id, .error (.containerNotFound id)⟩] := by
  obtain ⟨ns, t, outcome, hcalls, hexp, ht, ob', -⟩ := ends_obliging hold connects fin ob
  rw [hcalls.exchanges_deedsOf_eq]
  exact ob'.stops_at_gone hexp ht hi hgone

/-- A node of which nothing is gone is removed. -/
theorem node_of_there (distinct : l.allIds.Nodup) {i : Nat} {node : String} {ids : List String}
    (hi : l.nodes.entries[i]? = some (node, ids)) (there : ∀ id ∈ ids, ¬ gone id) :
    removedIds (exchanges (ms.deedsOf (.script i))) = ids := by
  obtain ⟨ns, t, outcome, hcalls, hexp, ht, ob', -⟩ := ends_obliging hold connects fin ob
  rw [hcalls.exchanges_deedsOf_eq]
  exact ob'.removes_all hexp ht distinct hi there

/-- The failure is about the first node, by name, of which something is gone. -/
theorem failure_of_gone (distinct : l.allIds.Nodup)
    (parted : ∀ (i : Nat) node ids, l.nodes.entries[i]? = some (node, ids) →
      (∀ id ∈ ids, ¬ gone id) ∨ ∃ id rest, ids = id :: rest ∧ gone id)
    (partly : ∃ id ∈ l.allIds, gone id) :
    ∃ (i : Nat) (node id : String) (rest : List String),
      l.nodes.entries[i]? = some (node, id :: rest) ∧ gone id ∧
      r = .error (.orchestrator (.containerNotFound id)) ∧
      ∀ (j : Nat) node' ids', l.nodes.entries[j]? = some (node', ids') → node' < node →
        ∀ id ∈ ids', ¬ gone id := by
  obtain ⟨ns, t, outcome, -, hexp, ht, ob', hrest⟩ := ends_obliging hold connects fin ob
  rcases hrest with ⟨hok, -⟩ | ⟨e, rfl, -, rfl⟩
  · obtain ⟨missing, hlisted, hmissing⟩ := partly
    exact absurd hmissing (((ob'.verdict hexp ht).1 hok).1 missing hlisted)
  · obtain ⟨i, node, id, rest, hi, hgone, rfl, hbefore⟩ :=
      ob'.first_failure hexp distinct parted ht
    exact ⟨i, node, id, rest, hi, hgone, rfl, hbefore⟩

end Gone

end Attempt

/-! ### Two teardowns -/

/-- Outcomes can be compared, so that runs of teardowns can. -/
instance decidableEqOutcome {ε α : Type} [DecidableEq ε] [DecidableEq α] :
    DecidableEq (Except ε α)
  | .ok a, .ok b => decidable_of_iff (a = b) ⟨congrArg _, Except.ok.inj⟩
  | .error e, .error f => decidable_of_iff (e = f) ⟨congrArg _, Except.error.inj⟩
  | .ok _, .error _ => isFalse nofun
  | .error _, .ok _ => isFalse nofun

/-- A teardown with the configuration of one node. -/
def plainAttempt : Attempt := ⟨"c", none, .json, Dict.empty, false⟩

/-- The ledger of the file in `listedDisk`. -/
def listedLedger : Ledger := ⟨Dict.ofList [("n", ["id-t-clone", "id-q-clone"])]⟩

theorem holds_listedDisk : LedgerFile.Holds listedDisk "l" listedLedger := by
  have hnode : listedDisk.node? ["l"] = some (.file (Utf8.encode
      "\x7b\n  \"n\": [\n    \"id-t-clone\",\n    \"id-q-clone\"\n  ]\n\x7d")) := by
    decide +kernel
  exact ⟨some _, ⟨by decide, ["l"], by decide +kernel, hnode⟩, _, Utf8.decode?_encode _,
    by decide +kernel⟩

/-- Two containers that run, of which one cannot be stopped at the first try. -/
def startledRuntime : Runtime where
  containers := Dict.ofList <| ["id-t-clone", "id-q-clone"].map fun id =>
    (id, { details := { (default : ContainerDetails) with id, status := "running" } })
  faults := [⟨"stop", "id-q-clone", .api "device busy", 0, some 1⟩]

/-- **A teardown can stay incomplete.**  One of two containers is removed, then a stop of the other
one fails, once.  Behind that it could be stopped and removed, but the second teardown stops at the
container that is gone, and keeps the ledger file. -/
theorem teardown_stuck :
    LedgerFile.Holds listedDisk "l" listedLedger ∧ ∃ ms₁ v₁ ms₂ v₂,
      Ensemble.Ends (perform Runtime.host) (plainAttempt.teardown "l")
        { runtime := startledRuntime, disk := listedDisk } ms₁
        (.error (.orchestrator (.api "device busy"))) v₁ ∧
      v₁.disk = listedDisk ∧ v₁.runtime.containers.keys = ["id-q-clone"] ∧
      (v₁.runtime.answer (.stop "id-t-clone")).1 = .error (.containerNotFound "id-t-clone") ∧
      (v₁.runtime.answer (.remove "id-t-clone")).1 = .error (.containerNotFound "id-t-clone") ∧
      (v₁.runtime.answer (.stop "id-q-clone")).1 = .ok () ∧
      ((v₁.runtime.answer (.stop "id-q-clone")).2.answer (.remove "id-q-clone")).1 = .ok () ∧
      Ensemble.Ends (perform Runtime.host) (plainAttempt.teardown "l")
        { runtime := v₁.runtime, disk := v₁.disk } ms₂
        (.error (.orchestrator (.containerNotFound "id-t-clone"))) v₂ ∧
      v₂.disk = listedDisk ∧ v₂.runtime.containers.keys = ["id-q-clone"] := by
  have hboth : ((plainAttempt.teardown "l").endIn? (perform Runtime.host)
      [.lead, .lead, .lead, .lead, .script 0, .script 0, .script 0, .script 0, .lead]
      { runtime := startledRuntime, disk := listedDisk }).any (fun x =>
        decide (x.1 = .error (.orchestrator (.api "device busy"))) &&
        decide (x.2.disk = listedDisk) && decide (x.2.runtime.containers.keys = ["id-q-clone"]) &&
        decide ((x.2.runtime.answer (.stop "id-t-clone")).1 =
          .error (.containerNotFound "id-t-clone")) &&
        decide ((x.2.runtime.answer (.remove "id-t-clone")).1 =
          .error (.containerNotFound "id-t-clone")) &&
        decide ((x.2.runtime.answer (.stop "id-q-clone")).1 = .ok ()) &&
        decide (((x.2.runtime.answer (.stop "id-q-clone")).2.answer (.remove "id-q-clone")).1 =
          .ok ()) &&
        ((plainAttempt.teardown "l").endIn? (perform Runtime.host)
          [.lead, .lead, .lead, .lead, .script 0, .lead]
          { runtime := x.2.runtime, disk := x.2.disk }).any fun y =>
            decide (y.1 = .error (.orchestrator (.containerNotFound "id-t-clone"))) &&
            decide (y.2.disk = listedDisk) &&
            decide (y.2.runtime.containers.keys = ["id-q-clone"])) = true := by
    decide +kernel
  simp only [Option.any_eq_true, Bool.and_eq_true, decide_eq_true_eq] at hboth
  obtain ⟨⟨r₁, v₁⟩, hx₁, ⟨⟨⟨⟨⟨⟨rfl, hdisk₁⟩, hkeys₁⟩, hstopGone⟩, hremoveGone⟩, hstop⟩, hremove⟩,
    ⟨r₂, v₂⟩, hx₂, ⟨rfl, hdisk₂⟩, hkeys₂⟩ := hboth
  obtain ⟨ms₁, fin₁⟩ := Ensemble.ends_of_endIn? hx₁
  obtain ⟨ms₂, fin₂⟩ := Ensemble.ends_of_endIn? hx₂
  exact ⟨holds_listedDisk, ms₁, v₁, ms₂, v₂, fin₁, hdisk₁, hkeys₁, hstopGone, hremoveGone, hstop,
    hremove, fin₂, hdisk₂, hkeys₂⟩

/-- **What a second teardown can do.**  A teardown made a call that failed.  Then it failed, and left
the ledger file as it was.  A second one on that file gets a connection, to a runtime in which what
the first one removed is gone, and all else can be stopped and removed.  If the first one removed
nothing, and nothing is listed twice, the second one removes all that is listed and the ledger file,
and succeeds so long as it can report this.  Otherwise it fails and keeps the file.  A node of which
the first one removed something had lost its first container, and the second one only tries to stop
that; a node of which it removed nothing is removed.  The failure is about the first node, by name,
that had lost a container.  And every run of the second teardown can come to an end. -/
theorem teardown_again {R S : Type} {h : Host R} {k : Host S} {a b : Attempt} {path : String}
    {l : Ledger} {w v : World R} {w' v' : World S} {ms ms' : History (Except OperationError Bool)}
    {r r' : Except Failure Unit} (hold : LedgerFile.Holds w.disk path l)
    (first : Ensemble.Ends (perform h) (a.teardown path) w ms r v)
    (failed : ∃ x ∈ ms.exchanges, ∃ id e, x.FailsAt id e)
    (found : ∀ content, v.disk.Holds path content → w'.disk.Holds path content)
    (connects : Connects k w' b.environment b.config)
    (second : Ensemble.Ends (perform k) (b.teardown path) w' ms' r' v')
    (obliging : Obliging (Removes ms) ms'.exchanges) :
    ((∃ f, r = .error f) ∧ v.disk = w.disk) ∧
    ((∀ id ∈ l.allIds, ¬ Removes ms id) ∧ l.allIds.Nodup →
      (∀ id ∈ l.allIds, Removes ms' id) ∧ v'.disk.Holds path none ∧
        (w'.outputOpen = true → r' = .ok ())) ∧
    (¬ ((∀ id ∈ l.allIds, ¬ Removes ms id) ∧ l.allIds.Nodup) →
      (∃ f, r' = .error f) ∧ v'.disk = w'.disk ∧ LedgerFile.Holds v'.disk path l) ∧
    (∀ (i : Nat) node id rest, l.nodes.entries[i]? = some (node, id :: rest) → Removes ms id →
      exchanges (ms'.deedsOf (.script i)) = [⟨.stop id, .error (.containerNotFound id)⟩]) ∧
    (l.allIds.Nodup →
      (∀ (i : Nat) node ids, l.nodes.entries[i]? = some (node, ids) →
        (∀ id ∈ ids, ¬ Removes ms id) ∧ removedIds (exchanges (ms'.deedsOf (.script i))) = ids ∨
          ∃ id rest, ids = id :: rest ∧ Removes ms id) ∧
      ((∃ id ∈ l.allIds, Removes ms id) →
        ∃ (i : Nat) (node id : String) (rest : List String),
          l.nodes.entries[i]? = some (node, id :: rest) ∧ Removes ms id ∧
          r' = .error (.orchestrator (.containerNotFound id)) ∧
          ∀ (j : Nat) node' ids', l.nodes.entries[j]? = some (node', ids') → node' < node →
            ∀ id ∈ ids', ¬ Removes ms id)) ∧
    ∀ ns u x, Threads.Run (perform k) (.ofEnsemble (b.teardown path)) w' ns u x →
      ∃ ns' u' x' o, Threads.Run (perform k) u x ns' u' x' ∧ u'.lead = .done o := by
  obtain ⟨⟨hr, hdisk⟩, hparted⟩ := Attempt.leaves_of_failed hold first failed
  -- the second teardown finds the same ledger
  have hold' : LedgerFile.Holds w'.disk path l := by
    obtain ⟨content, hcontent, hl⟩ := hold
    exact ⟨content, found content (hdisk ▸ hcontent), hl⟩
  refine ⟨⟨hr, hdisk⟩, fun hnone => ?_, fun hsome => ?_, fun i node id rest hi hgone => ?_,
    fun distinct => ⟨fun i node ids hi => ?_, fun hgone => ?_⟩,
    fun ns u x run => run.completes (b.settles_teardown path)⟩
  · exact Attempt.complete_of_there hold' connects second obliging hnone.1 hnone.2
  · obtain ⟨hr', hdisk'⟩ := Attempt.kept_of_gone hold' connects second obliging hsome
    exact ⟨hr', hdisk', hdisk' ▸ hold'⟩
  · exact Attempt.node_of_gone hold' connects second obliging hi hgone
  · rcases hparted distinct i node ids hi with hthere | hfirst
    · have hall := Attempt.node_of_there hold' connects second obliging distinct hi hthere
      exact .inl ⟨hthere, hall⟩
    · exact .inr hfirst
  · exact Attempt.failure_of_gone hold' connects second obliging distinct (hparted distinct) hgone

theorem teardown_again_of_busy :
    ∃ ms v ms' v' r',
      Ensemble.Ends (perform (.lacking (· == "id-t-clone"))) (plainAttempt.teardown "l")
        { runtime := [], disk := listedDisk } ms (.error (.orchestrator (.api "device busy"))) v ∧
      (∃ x ∈ ms.exchanges, ∃ id e, x.FailsAt id e) ∧ v.disk = listedDisk ∧
      Ensemble.Ends (perform (.lacking fun _ => false)) (plainAttempt.teardown "l")
        { runtime := v.runtime, disk := v.disk } ms' r' v' ∧
      Obliging (Removes ms) ms'.exchanges ∧ Removes ms' "id-t-clone" ∧ Removes ms' "id-q-clone" ∧
      v'.disk.Holds "l" none ∧ r' = .ok () := by
  have hfirst : ((plainAttempt.teardown "l").endIn? (perform (.lacking (· == "id-t-clone")))
      [.lead, .lead, .lead, .lead, .script 0, .script 0, .lead]
      { runtime := [], disk := listedDisk }).any (fun x =>
        decide (x.1 = .error (.orchestrator (.api "device busy"))) &&
        decide (x.2.runtime = []) && decide (x.2.disk = listedDisk)) = true := by
    decide +kernel
  simp only [Option.any_eq_true, Bool.and_eq_true, decide_eq_true_eq] at hfirst
  obtain ⟨⟨r, v⟩, hx, ⟨rfl, hruntime⟩, hdisk⟩ := hfirst
  obtain ⟨ms, first⟩ := Ensemble.ends_of_endIn? hx
  have hsecond : ((plainAttempt.teardown "l").endIn? (perform (.lacking fun _ => false))
      [.lead, .lead, .lead, .lead, .script 0, .script 0, .script 0, .script 0, .script 0,
        .script 0, .lead, .lead, .lead] { runtime := [], disk := listedDisk }).isSome = true := by
    decide +kernel
  obtain ⟨⟨r', v'⟩, hx'⟩ := Option.isSome_iff_exists.1 hsecond
  obtain ⟨ms', second⟩ := Ensemble.ends_of_endIn? hx'
  have hconnects : Connects (.lacking (· == "id-t-clone")) { runtime := [], disk := listedDisk }
      plainAttempt.environment plainAttempt.config := by
    unfold Connects
    decide +kernel
  have hconnects' : Connects (.lacking fun _ => false) { runtime := [], disk := listedDisk }
      plainAttempt.environment plainAttempt.config := by
    unfold Connects
    decide +kernel
  have hfailed := Attempt.failed_of_error holds_listedDisk hconnects rfl first nofun
  -- nothing is gone behind the first teardown, as it removed nothing
  have hremoves : (· ∈ ([] : List String)) = Removes ms := by
    obtain ⟨t, run, -⟩ := first
    funext id
    rw [← hruntime, run.gone_lacking, removes_iff]
    simp
  have hobliging : Obliging (Removes ms) ms'.exchanges := by
    have htears : ∀ x ∈ ms'.exchanges, Action.TearsDown (.call x.call) := fun x hx =>
      Attempt.tearsDown_of_mem holds_listedDisk second hx
    obtain ⟨t, run, -⟩ := second
    rw [← hremoves]
    exact run.obliging_lacking htears
  have hnone : ∀ id ∈ listedLedger.allIds, ¬ Removes ms id := by
    rw [← hremoves]
    simp
  obtain ⟨-, hcomplete, -⟩ := teardown_again holds_listedDisk first hfailed
    (fun content hc => hdisk ▸ hc) hconnects' second hobliging
  obtain ⟨hall, hgone, hends⟩ := hcomplete ⟨hnone, by decide⟩
  refine ⟨ms, v, ms', v', r', first, hfailed, hdisk, ?_, hobliging, hall _ (by decide),
    hall _ (by decide), hgone, hends rfl⟩
  rw [hruntime, hdisk]
  exact second

end Testbed.Cli
