/-
**What a check says.**

A check looks at all containers of the ledger file and says two things of them: that all are running
and that all are healthy.  It succeeds exactly when it can say both.  What it says is made of the
answers about the containers that are listed, whatever the order in which they are listed or in which
the looks happen.

Main definition:

* `Testbed.Cli.Reported` — every report was written out.

Main results:

* `Testbed.Cli.affords_check` — a check always comes to an end;
* `Testbed.Cli.check_ends` — **how a check ends**, by the result of its look at the network;
* `Testbed.Cli.check_is_conjunction` — what a look at a network comes to, and a check of one.
-/

import Testbed.Proofs.Cli.Faults
import Testbed.Proofs.Network.Inspection

set_option relaxedAutoImplicit false
set_option autoImplicit false

namespace Testbed

namespace Cli

open Threads

/-! ### How a check ends -/

/-- A check waits only for looks that it has started. -/
theorem affords_check (voice : Voice) (path : String) : (check voice path).run.Affords 0 := by
  have step : ∀ {α : Type} (k : Nat) (s : Step α),
      (Job.ofStep s : Job (Except OperationError ContainerState) α).run.Affords k :=
    fun k s => Ensemble.leaves_ofScript trivial s.run
  unfold check
  refine Job.leaves_bind (step 0 _) (fun _ _ => trivial) fun k ledger _ => ?_
  refine Job.leaves_bind ((affords_checkNetwork k ledger).bind fun _ _ _ => trivial)
    (fun _ _ => trivial) fun k status _ => ?_
  exact Job.leaves_bind (step k _) (fun _ _ => trivial) fun k _ _ => step k _

variable {W : Type} {p : Performer W} {w v : W}
  {ms : History (Except OperationError ContainerState)} {r : Except Failure Unit}

/-- Was every report written out? -/
def Reported {τ : Type} (ms : History τ) : Prop :=
  ∀ text a, (.lead, .deed ⟨.print text, a⟩) ∈ ms → a = .ok ()

/-- What a check makes of the result of its look at the network. -/
def checkVerdict : Except OperationError NetworkStatus → Except Failure Unit
  | .error e => .error (.ofOperation e)
  | .ok status =>
    if status.running && status.healthy then .ok ()
    else .error (.unsatisfied ("network is degraded: " ++ status.text))

/-- **A check succeeds exactly when both bits are set.** -/
theorem checkVerdict_eq_ok_iff {o : Except OperationError NetworkStatus} :
    checkVerdict o = .ok () ↔ o = .ok .full := by
  cases o with
  | error e => exact ⟨nofun, nofun⟩
  | ok status =>
      obtain ⟨running, healthy⟩ := status
      cases running <;> cases healthy <;> simp [checkVerdict, NetworkStatus.full]

theorem require_run (met : Bool) (text : String) :
    (require met text).run = .done (if met then .ok () else .error (.unsatisfied text)) := by
  cases met <;> rfl

/-- **How a check ends**, by the result of its look at the network. -/
theorem check_ends {voice : Voice} {path : String} {ledger : Ledger} {x : W}
    (h : (check voice path).run.Ends p w ms r v) (reported : Reported ms)
    (loaded : (LedgerFile.load path).run.perform p w = (.ok ledger, x)) :
    ∃ before looking behind o y, ms = before ++ looking ++ behind ∧
      (checkNetwork ledger).run.Ends p x looking o y ∧ r = checkVerdict o := by
  have hnil : Idle ([] : List (Script (Except OperationError ContainerState))) := nofun
  unfold check at h
  obtain ⟨ms', rfl, fin⟩ := Job.performed_step (s := LedgerFile.load path) hnil h
  rw [loaded] at fin
  change Finishes p ⟨(Job.ofFanOut (checkNetwork ledger) >>= _).run, [], 0⟩ x ms' r v at fin
  rw [Job.run_ofFanOut_bind] at fin
  obtain ⟨looking, behind, o, u, y, rfl, run, hu, fin⟩ := fin.of_bind
  refine ⟨_, looking, behind, o, y, (List.append_assoc ..).symm, ⟨u, run, hu⟩, ?_⟩
  cases o with
  | error e =>
      -- looks behind the failure may still be on their way, but the command is over
      obtain ⟨u', run', hu'⟩ := fin
      cases (run'.lead_of_done rfl).symm.trans hu'
      rfl
  | ok status =>
      have hidle := (made_of_ok run hu).1
      obtain ⟨closing, rfl, hrest⟩ := Job.performed_step (s := voice.say _) hidle fin
      obtain ⟨line, hsay⟩ := voice.say_run
        (.check ledger.allIds.length status status.running status.healthy)
      rw [hsay] at reported
      have hprinted : (p (.print line) y).1 = .ok () :=
        reported line _ (by simp [Script.deedsIn, History.ofLead])
      have hsaid : ((voice.say (.check ledger.allIds.length status status.running
          status.healthy)).run.perform p y).1 = .ok () := by
        rw [hsay]
        show (p (.print line) y).1.mapError _ = _
        rw [hprinted]
        rfl
      rw [hsaid] at hrest
      obtain ⟨u', run', hu'⟩ := hrest
      obtain ⟨-, hperform, -⟩ := Finishes.of_ofScript (s := (require _ _).run) hidle run' hu'
      rw [require_run] at hperform
      exact (Prod.mk.inj hperform).1.symm

/-- Where there is a reader of the output, every report is written out. -/
theorem reported_of_run {R τ α : Type} {h : Rehearsal.Host R} {t t' : Threads τ α}
    {w w' : Rehearsal.World R} {ms : History τ} (run : Run (Rehearsal.perform h) t w ms t' w')
    (hopen : w.outputOpen = true) : Reported ms := by
  intro text a ha
  obtain ⟨before, u, x, hbefore, hanswer⟩ := run.exists_world ha
  refine hanswer.trans ?_
  simp [Rehearsal.perform, hbefore.outputOpen.trans hopen]

/-! ### Every look and every check -/

/-- **A look at a network says what all its containers have in common, and a check requires both.**
Every run of a look can go on to a result.  Where the answers depend on the containers alone, the
result does: it is the failure of the first container whose look fails, in the order of the ledger,
or else a status whose two bits say whether all containers are running, and whether all are healthy;
in whatever order the looks happen.  So neither the order of the ledger matters nor how often it
lists a container, and with more containers no bit is set that was not.  A check can always go on to
its end, and once it has loaded a ledger and its report could be written out, it ends as the look at
that ledger makes it: it succeeds if and only if both bits are set. -/
theorem check_is_conjunction {W : Type} (p : Performer W)
    (answers : String → Except OperationError ContainerDetails) :
    (∀ l w ms t v, Run p (.ofEnsemble (checkNetwork l).run) w ms t v →
      ∃ ns u x r, Run p t v ns u x ∧ u.lead = .done r) ∧
    (∀ l w ms r v, (checkNetwork l).run.Ends p w ms r v → AnsweredById answers ms →
      Surveyed answers l.allIds r) ∧
    (∀ l l' w w' ms ms' r r' v v', (checkNetwork l).run.Ends p w ms r v →
      (checkNetwork l').run.Ends p w' ms' r' v' → AnsweredById answers ms →
      AnsweredById answers ms' →
      ((∀ id ∈ l.allIds, ∃ d, answers id = .ok d) → (∀ id, id ∈ l'.allIds ↔ id ∈ l.allIds) →
        r' = r) ∧
      ((∀ id ∈ l'.allIds, ∃ d, answers id = .ok d) → (∀ id ∈ l.allIds, id ∈ l'.allIds) →
        ∃ status status', r = .ok status ∧ r' = .ok status' ∧
          (status'.running = true → status.running = true) ∧
          (status'.healthy = true → status.healthy = true))) ∧
    (∀ voice path w ms t v, Run p (.ofEnsemble (check voice path).run) w ms t v →
      ∃ ns u x r, Run p t v ns u x ∧ u.lead = .done r) ∧
    ∀ voice path ledger w x ms r v, (LedgerFile.load path).run.perform p w = (.ok ledger, x) →
      (check voice path).run.Ends p w ms r v → AnsweredById answers ms → Reported ms →
      ∃ o, Surveyed answers ledger.allIds o ∧ r = checkVerdict o ∧ (r = .ok () ↔ o = .ok .full) ∧
        (r = .ok () ↔ ∀ id ∈ ledger.allIds, ∃ d, answers id = .ok d ∧ d.Running ∧ d.Healthy) := by
  have survey : ∀ l w ms r v, (checkNetwork l).run.Ends p w ms r v → AnsweredById answers ms →
      Surveyed answers l.allIds r := by
    rintro l w ms r v ⟨t, run, ht⟩ answered
    exact surveyed_of_returned (returned_of_run run ht) answered
  refine ⟨fun l w ms t v run => run.goesOn (affords_checkNetwork 0 l), survey, ?_,
    fun voice path w ms t v run => run.goesOn (affords_check voice path), ?_⟩
  · intro l l' w w' ms ms' r r' v v' hends hends' answered answered'
    have h := survey l w ms r v hends answered
    have h' := survey l' w' ms' r' v' hends' answered'
    exact ⟨h.unique h', h.mono h'⟩
  · intro voice path ledger w x ms r v loaded hends answered reported
    obtain ⟨before, looking, behind, o, y, rfl, hlook, rfl⟩ := check_ends hends reported loaded
    have h : Surveyed answers ledger.allIds o := survey _ _ _ _ _ hlook fun who id a ha =>
      answered who id a (by simp [ha])
    exact ⟨o, h, rfl, checkVerdict_eq_ok_iff, checkVerdict_eq_ok_iff.trans h.eq_full_iff⟩

/-- Two containers, both running, of which only the first has passed a health check. -/
def halfHealthy : (c : Call) → Except OperationError c.Answer
  | .inspect id => .ok { (default : ContainerDetails) with
      id, status := "Running", health := if id = "a" then some "HEALTHY" else none }
  | _ => .error default

/-- A ledger that lists both, one of them twice. -/
def pairLedger : Ledger := ⟨Dict.ofList [("n", ["b", "a", "b"])]⟩

/-- A directory with this ledger. -/
def pairDisk : Disk :=
  { nodes := Dict.ofList [("l", .file (Utf8.encode "\x7b\"n\": [\"b\", \"a\", \"b\"]\x7d"))] }

theorem holds_pairDisk : LedgerFile.Holds pairDisk "l" pairLedger := by
  have hnode : pairDisk.node? ["l"] =
      some (.file (Utf8.encode "\x7b\"n\": [\"b\", \"a\", \"b\"]\x7d")) := by decide +kernel
  exact ⟨some _, ⟨by decide, ["l"], by decide +kernel, hnode⟩, _, Utf8.decode?_encode _,
    by decide +kernel⟩

theorem check_is_conjunction_of_half_healthy :
    ∃ ms v, (check ⟨.text, false⟩ "l").run.Ends (Rehearsal.perform (.ofAnswers halfHealthy))
      { runtime := (), disk := pairDisk } ms
      (.error (.unsatisfied "network is degraded: running=true healthy=false")) v := by
  obtain ⟨-, -, -, hends, hcheck⟩ := check_is_conjunction
    (Rehearsal.perform (.ofAnswers halfHealthy)) fun id => halfHealthy (.inspect id)
  obtain ⟨ms, t, v, r, run, ht⟩ := hends ⟨.text, false⟩ "l" _ _ _ _
    (.nil _ { runtime := (), disk := pairDisk })
  have hids : pairLedger.allIds = ["b", "a", "b"] := by decide +kernel
  obtain ⟨o, hsurvey, rfl, -⟩ := hcheck _ _ _ _ _ ms r v
    (LedgerFile.perform_load (.ofAnswers halfHealthy) holds_pairDisk) ⟨t, run, ht⟩
    (answeredById_of_run run) (reported_of_run run rfl)
  obtain ⟨⟨running, healthy⟩, rfl, hrunning, hhealthy⟩ := hsurvey.exists_status
    fun id _ => ⟨_, rfl⟩
  obtain rfl : running = true := hrunning.2 fun id _ d hd => by
    cases hd
    exact (by decide +kernel : Text.sameWord "Running" "running" = true)
  obtain rfl : healthy = false := by
    refine Bool.eq_false_iff.2 fun hset => ?_
    obtain ⟨h, hh, -⟩ := hhealthy.1 hset "b" (by rw [hids]; simp) _ rfl
    simp at hh
  exact ⟨ms, v, t, run, ht⟩

end Cli

end Testbed
