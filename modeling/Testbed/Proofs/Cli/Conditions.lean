/-
**What commands find.**

A command that meets no fault itself may still fail, because of what others have met or because of
what it has seen: a script that it waited for has failed, a log has broken off, or what was asked
for does not hold.  Each command has its own way to tell.

Main definitions:

* `Testbed.Cli.Command.trouble?` — **the failure that a command has learnt of**;
* `Testbed.Cli.Command.Unmet` — **what was asked for does not hold**;
* `Testbed.Cli.Settled` — what comes of it.

Main results:

* `Testbed.comes_waitRounds`, `Testbed.comes_checkNetwork` — what a fan-out makes of the results of
  its scripts;
* `Testbed.Cli.startNode_settled` and its kin — **what a command without fault comes to**.
-/

import Testbed.Proofs.Cli.Faults
import Testbed.Proofs.Config.Agreement
import Testbed.Proofs.Log.Search
import Testbed.Proofs.Network.Inspection
import Testbed.Proofs.Network.Teardown

set_option relaxedAutoImplicit false
set_option autoImplicit false

namespace Testbed

/-! ### Outcomes -/

/-- The failure that an outcome is. -/
def failureOf {α : Type} : Except OperationError α → Option OperationError
  | .error e => some e
  | .ok _ => none

/-- The first failure among outcomes. -/
def firstFailure? {α : Type} (os : List (Except OperationError α)) : Option OperationError :=
  os.findSome? failureOf

theorem firstFailure?_map_ok {α : Type} (as : List α) :
    firstFailure? (as.map .ok) = none := by
  simp [firstFailure?, failureOf]

theorem firstFailure?_append_error {α : Type} (as : List α) (e : OperationError)
    (later : List (Except OperationError α)) :
    firstFailure? (as.map .ok ++ .error e :: later) = some e := by
  rw [firstFailure?, List.findSome?_append, ← firstFailure?, firstFailure?_map_ok]
  rfl

/-- What outcomes amount to, by their first failure and by whether one of them is `false`. -/
theorem Orchestrator.conjunction_cases (os : List (Except OperationError Bool)) :
    (∃ e, firstFailure? os = some e ∧ conjunction os = .error e) ∨
      (firstFailure? os = none ∧ .ok false ∈ os ∧ conjunction os = .ok false) ∨
      (firstFailure? os = none ∧ .ok false ∉ os ∧ conjunction os = .ok true) := by
  have hjoined := joined_conjunction os
  generalize conjunction os = r at hjoined
  cases hjoined with
  | failed flags e later => exact .inl ⟨e, firstFailure?_append_error flags e later, rfl⟩
  | passed flags =>
      have hnone := firstFailure?_map_ok flags
      cases hall : flags.all id with
      | false =>
          obtain ⟨b, hb, hid⟩ := List.all_eq_false.1 hall
          obtain rfl : b = false := Bool.eq_false_iff.2 hid
          exact .inr (.inl ⟨hnone, List.mem_map_of_mem hb, rfl⟩)
      | true =>
          refine .inr (.inr ⟨hnone, fun hmem => ?_, rfl⟩)
          obtain ⟨b, hb, hfalse⟩ := List.mem_map.1 hmem
          cases hfalse
          cases List.all_eq_true.1 hall _ hb

/-! ### Fan-outs -/

theorem comes_tearDown {l : Ledger} {ds : List Deed} {rs : List (Except OperationError Bool)}
    {r : Except OperationError Bool} (h : (tearDown l).run.Comes ds rs r) :
    ds = [] ∧ r = Orchestrator.conjunction rs := by
  rw [tearDown_run] at h
  obtain ⟨rfl, hr⟩ := Script.does_done.1 h.of_fanOut.2
  cases hr
  exact ⟨rfl, rfl⟩

theorem comes_startNetwork {o : Orchestrator} {requests : List NodeRequest} {ds : List Deed}
    {rs : List (Except OperationError Bool)} {r : Except OperationError Bool}
    (h : (o.startNetwork requests).run.Comes ds rs r) :
    (∀ d ∈ ds, d.nap?.isSome) ∧ r = Orchestrator.conjunction (o.outcomes requests rs).flatten := by
  rw [Orchestrator.startNetwork_run] at h
  obtain ⟨hlen, hdoes⟩ := h.of_fanOut
  obtain ⟨hr, hslept, hdirect⟩ := Orchestrator.deeds_of_conclude hdoes
  rw [Orchestrator.launchScripts, List.length_map] at hlen
  refine ⟨fun d hd => ?_, by rw [hr, o.settle_launches requests hlen]⟩
  by_cases hok : r = .ok true
  · rw [hslept hok] at hd
    obtain rfl := List.mem_singleton.1 hd
    rfl
  · rw [hdirect hok] at hd
    cases hd

/-- **A look at a network** fails with the first look that failed, or sees all containers. -/
theorem comes_checkNetwork {l : Ledger} {ds : List Deed}
    {rs : List (Except OperationError ContainerState)} {r : Except OperationError NetworkStatus}
    (h : (checkNetwork l).run.Comes ds rs r) :
    ds = [] ∧ ((∃ e, firstFailure? rs = some e ∧ r = .error e) ∨
      ∃ status, firstFailure? rs = none ∧ r = .ok status ∧
        ((status.running && status.healthy) = true ↔
          ∀ s, .ok s ∈ rs → s.isRunning = true ∧ s.isHealthy = true)) := by
  obtain ⟨hds, ⟨states, e, rfl, hr⟩ | ⟨states, rfl, -, hr⟩⟩ := comes_joinStatuses h.of_forkAll
  · exact ⟨hds, .inl ⟨e, firstFailure?_append_error states e [], hr⟩⟩
  · refine ⟨hds, .inr ⟨_, firstFailure?_map_ok states, hr, ?_⟩⟩
    rw [NetworkStatus.foldl_and]
    simp [NetworkStatus.full, List.all_eq_true, forall_and]

/-! ### Rounds -/

/-- What a round decides, by the outcomes of its looks. -/
theorem Round.judge_outcomes (os : List (Except OperationError ContainerState)) :
    (∃ e, firstFailure? os = some e ∧ judge os = .failed e) ∨
      (firstFailure? os = none ∧ (∃ s, .ok s ∈ os ∧ s.verdict? ≠ some .healthy) ∧
        (judge os = .pending ∨ ∃ s, judge os = .failed (deathReport s))) ∨
      (firstFailure? os = none ∧ (∀ s, .ok s ∈ os → s.verdict? = some .healthy) ∧
        judge os = .ready) := by
  rcases error_mem_or_all_ok os with ⟨before, e, later, rfl⟩ | ⟨states, rfl⟩
  · exact .inl ⟨e, firstFailure?_append_error before e later, by rw [judge, allOk_first_error]⟩
  have hnone := firstFailure?_map_ok states
  rw [judge, allOk_map_ok]
  dsimp only
  cases hfind : states.find? ContainerState.isDead with
  | some s =>
      have hdead := List.find?_some hfind
      refine .inr (.inl ⟨hnone, ⟨s, List.mem_map_of_mem (List.mem_of_find?_eq_some hfind), ?_⟩,
        .inr ⟨s, rfl⟩⟩)
      simp [ContainerState.verdict?, hdead]
  | none =>
      have halive := List.find?_eq_none.1 hfind
      cases hany : states.any ContainerState.isOngoing with
      | true =>
          obtain ⟨s, hs, hongoing⟩ := List.any_eq_true.1 hany
          refine .inr (.inl ⟨hnone, ⟨s, List.mem_map_of_mem hs, ?_⟩, .inl rfl⟩)
          simp [ContainerState.verdict?, halive s hs, hongoing]
      | false =>
          refine .inr (.inr ⟨hnone, fun s hs => ?_, rfl⟩)
          obtain ⟨s, hmem, hok⟩ := List.mem_map.1 hs
          cases hok
          simp [ContainerState.verdict?, halive s hmem, List.any_eq_false.1 hany s hmem]

/-- **The last round decides a wait**; in all rounds before it every look was answered.  Between the
rounds there is nothing but pauses. -/
theorem comes_waitRounds {ids : List String} {policy : WaitPolicy} {grace left : Nat} {again : Bool}
    {ds : List Deed} {rs : List (Except OperationError ContainerState)}
    {r : Except OperationError Unit}
    (h : (waitRounds ids policy grace again left).run.Comes ds rs r) :
    (∀ d ∈ ds, d.nap?.isSome) ∧ (left ≠ 0 →
      ∃ (earlier : List ContainerState) (last : List (Except OperationError ContainerState)),
        rs = earlier.map .ok ++ last ∧ last.length = ids.length ∧
          ((∃ e, Round.judge last = .failed e ∧ r = .error e) ∨
            (Round.judge last = .pending ∧ r = .error (exhaustion policy)) ∨
            (Round.judge last = .ready ∧ r = .ok ()))) := by
  -- induction on the rounds left: a round that is not the last decides nothing
  induction left generalizing again ds rs with
  | zero =>
      change (Ensemble.done (Except.error (exhaustion policy))).Comes _ _ _ at h
      cases h
      exact ⟨by simp, fun hzero => absurd rfl hzero⟩
  | succ left ih =>
      rw [waitRounds_succ_run] at h
      obtain ⟨ds₁, ds₂, rs₁, rs₂, results, rfl, rfl, htogether, hrest⟩ := h.of_bind
      obtain ⟨rfl, rfl, hlen⟩ := htogether.of_together
      rw [looksAt, List.length_map] at hlen
      rw [List.nil_append]
      cases hjudge : Round.judge results with
      | failed e =>
          rw [hjudge] at hrest
          cases hrest
          exact ⟨by simp, fun _ => ⟨[], results, by simp, hlen, .inl ⟨e, hjudge, rfl⟩⟩⟩
      | ready =>
          rw [hjudge] at hrest
          simp only [heedRound] at hrest
          split at hrest
          · obtain ⟨hdoes, rfl⟩ := hrest.of_ofScript
            obtain ⟨u, ds, rfl, hdone⟩ := hdoes.ends_of_act
            obtain ⟨rfl, hend⟩ := Script.does_done.1 hdone
            cases hend
            exact ⟨by simp [Deed.nap?],
              fun _ => ⟨[], results, by simp, hlen, .inr (.inr ⟨hjudge, rfl⟩)⟩⟩
          · cases hrest
            exact ⟨by simp, fun _ => ⟨[], results, by simp, hlen, .inr (.inr ⟨hjudge, rfl⟩)⟩⟩
      | pending =>
          rw [hjudge] at hrest
          simp only [heedRound] at hrest
          split at hrest
          · change (Ensemble.done (Except.error (exhaustion policy))).Comes _ _ _ at hrest
            cases hrest
            exact ⟨by simp, fun _ => ⟨[], results, by simp, hlen, .inr (.inl ⟨hjudge, rfl⟩)⟩⟩
          · rename_i hmore
            cases hrest with
            | act u hrest =>
                obtain ⟨hnaps, hlater⟩ := ih hrest
                obtain ⟨earlier, last, rfl, hlast, hcases⟩ := hlater hmore
                refine ⟨List.forall_mem_cons.2 ⟨rfl, hnaps⟩, fun _ => ?_⟩
                rcases error_mem_or_all_ok results with ⟨before, e, later, rfl⟩ | ⟨states, rfl⟩
                · rw [Round.judge, allOk_first_error] at hjudge
                  cases hjudge
                · refine ⟨states ++ earlier, last, ?_, hlast, hcases⟩
                  rw [List.map_append, List.append_assoc]

/-! ### What a command has learnt -/

/-- The log that a deed opened. -/
def Deed.stream? : Deed → Option LogStream
  | ⟨.log .., s⟩ => some s
  | _ => none

/-- What was seen of a container in an exchange. -/
def Exchange.look? : Exchange → Option ContainerState
  | ⟨.inspect _, .ok d⟩ => some (.ofDetails d)
  | _ => none

/-- What deeds have seen of containers. -/
def seen (ds : List Deed) : List ContainerState := (exchanges ds).filterMap Exchange.look?

/-- Is a deed to ask for the ledger? -/
def Deed.isLedger : Deed → Bool
  | ⟨.ledger, _⟩ => true
  | _ => false

/-- The failure with which a log breaks off. -/
def LogItem.failure? : LogItem → Option OperationError
  | .failure e => some e
  | _ => none

theorem seen_append (ds es : List Deed) : seen (ds ++ es) = seen ds ++ seen es := by
  simp [seen, exchanges]

theorem seen_look (id : String) (d : ContainerDetails) (ds : List Deed) :
    seen (⟨.call (.inspect id), .ok d⟩ :: ds) = .ofDetails d :: seen ds := rfl

theorem seen_of_no_exchanges {ds : List Deed} (h : exchanges ds = []) : seen ds = [] := by
  rw [seen, h]
  rfl

theorem verdict?_of_not_decisive {d : ContainerDetails} (h : ¬Decisive (.ok d)) :
    (ContainerState.ofDetails d).verdict? = none := by
  rcases ContainerState.verdict?_cases d with ⟨hdead, -⟩ | ⟨halive, hsettled, -⟩ | ⟨-, -, hv⟩
  · exact absurd ⟨_, .dead hdead⟩ h
  · exact absurd ⟨_, .usable halive hsettled⟩ h
  · exact hv

theorem verdict?_of_decides {d : ContainerDetails} {outcome : WaitOutcome}
    (h : Decides (.ok d) (.ok outcome)) :
    (ContainerState.ofDetails d).verdict? = some outcome := by
  rcases ContainerState.verdict?_cases d with
    ⟨hdead, hv⟩ | ⟨halive, hsettled, hv⟩ | ⟨halive, hnot, -⟩
  · cases h with
    | dead => exact hv
    | usable alive => exact absurd hdead alive
  · cases h with
    | dead hdead => exact absurd hdead halive
    | usable => exact hv
  · exact absurd ⟨_, h⟩ (not_decisive halive hnot)

/-- **A wait ends well if one of its looks finds the container usable.** -/
theorem healthy_iff_seen {id : String} {interval n : Nat} {ds : List Deed} {outcome : WaitOutcome}
    (h : (waitFrom id interval n).run.Does ds (.done (.ok outcome))) :
    outcome = .healthy ↔ ∃ s ∈ seen ds, s.verdict? = some .healthy := by
  induction n generalizing ds with
  | zero =>
      obtain ⟨hr, hnone, -⟩ := does_waitFrom_zero h
      cases hr
      simp [seen_of_no_exchanges hnone]
  | succ n ih =>
      obtain ⟨a, ds, rfl, hcases⟩ := does_waitFrom_succ h
      cases a with
      | error e =>
          rcases hcases with ⟨hdecides, -⟩ | ⟨hnot, -⟩ | ⟨hnot, -⟩
          · cases hdecides
          · exact absurd ⟨_, .failed e⟩ hnot
          · exact absurd ⟨_, .failed e⟩ hnot
      | ok d =>
          rw [seen_look]
          rcases hcases with
            ⟨hdecides, hnone, -⟩ | ⟨hnot, -, hr, hnone, -⟩ | ⟨hnot, -, later, rfl, hlater⟩
          · simp [seen_of_no_exchanges hnone, verdict?_of_decides hdecides]
          · cases hr
            simp [seen_of_no_exchanges hnone, verdict?_of_not_decisive hnot]
          · have hseen : seen (⟨.sleep interval, ()⟩ :: later) = seen later := rfl
            simp [hseen, ih hlater, verdict?_of_not_decisive hnot]

namespace Cli

/-- How the search of the log that deeds opened ended, if they opened one. -/
def searched? (pattern : String) (patience : Nat) (ds : List Deed) : Option SearchResult :=
  match readPattern pattern with
  | .ok p => (ds.findSome? Deed.stream?).map fun s =>
      (LogStream.search p.isMatch (seconds patience) s).result
  | .error _ => none

/-- The requests that a start makes; none if its arguments cannot be read. -/
def StartOptions.requests (a : StartOptions) (o : Orchestrator) : List NodeRequest :=
  match a.overlay with
  | .ok overlay => (a.chosenNodes o).map (a.request overlay)
  | .error _ => []

/-- The outcomes of the launches of a start, which asks for the ledger behind them. -/
def StartOptions.outcomes (a : StartOptions) (o : Orchestrator) (ds : List Deed)
    (rs : List (Except OperationError Bool)) : List (Except OperationError Bool) :=
  if ds.any Deed.isLedger then (o.outcomes (a.requests o) rs).flatten else []

/-- **The failure that a command has learnt of**: the first one among the outcomes of its scripts,
or the one with which a log broke off. -/
def Command.trouble? (o : Orchestrator) : (c : Command) → List Deed → List c.Worker →
    Option OperationError
  | .waitNetwork, _, rs => firstFailure? rs
  | .check _, _, rs => firstFailure? rs
  | .teardown _, _, rs => firstFailure? rs
  | .startNode a, ds, rs => firstFailure? (a.outcomes o ds rs)
  | .search _ pattern patience, ds, _ =>
    match searched? pattern patience ds with
    | some (.failed e) => some e
    | _ => none
  | .log _, ds, _ => (ds.findSome? Deed.stream?).bind fun s => s.items.findSome? LogItem.failure?
  | _, _, _ => none

/-- **What was asked for does not hold.**  In the last round of a wait for the network some
container is not usable; a container is not running or not healthy; some node was not removed, or
some clone did not become usable; none of the looks at a container, but for the one that is
reported, has found it usable; no frame of a log has matched. -/
def Command.Unmet (o : Orchestrator) : (c : Command) → List Deed → List c.Worker → Prop
  | .waitNetwork, _, rs =>
    ∃ s, .ok s ∈ rs.drop (rs.length - o.templateIds.length) ∧ s.verdict? ≠ some .healthy
  | .check _, _, rs => ∃ s, .ok s ∈ rs ∧ ¬(s.isRunning = true ∧ s.isHealthy = true)
  | .teardown _, _, rs => .ok false ∈ rs
  | .startNode a, ds, rs => .ok false ∈ a.outcomes o ds rs
  | .wait _, ds, _ => ∀ s ∈ (seen ds).dropLast, s.verdict? ≠ some .healthy
  | .search _ pattern patience, ds, _ => searched? pattern patience ds = some .notFound
  | _, _, _ => False

/-- What comes of the failure that a command has learnt of, and of what was asked for. -/
inductive Settled (trouble : Option OperationError) (unmet : Prop) (r : Except Failure Unit) : Prop
  | troubled (e : OperationError) (learnt : trouble = some e) (code : exitCode r = e.exitCode)
  | unmet (quiet : trouble = none) (asked : unmet) (code : exitCode r = 4)
  | other (quiet : trouble = none) (asked : ¬unmet) (code : r = .ok () ∨ exitCode r = 1)

/-! ### Every command -/

section

variable {v : Voice} {ds : List Deed} {r : Except Failure Unit}

/-- A report that is written out, and what it says is required. -/
theorem announced {β : Type} {report : Report} {met : Bool} {text : String} {rs : List β}
    (clean : ∀ d ∈ ds, faultOf false (decide (v.format = .json)) d = none)
    (h : ((do
      v.say report
      require met text : Job β Unit)).run.Comes ds rs r) :
    rs = [] ∧ r = (if met then .ok () else .error (.unsatisfied text)) ∧
      ∃ line a, ds = [⟨.print line, a⟩] := by
  obtain ⟨ds₁, ds₂, u, rfl, hsaid, -, hrest⟩ := Job.passes (v.heeds_say report) clean h
  obtain ⟨hdoes, hrs⟩ := hrest.of_ofScript
  obtain ⟨line, hrun⟩ := v.say_run report
  rw [hrun] at hsaid
  obtain ⟨a, ds, rfl, hdone⟩ := hsaid.ends_of_act
  obtain ⟨rfl, -⟩ := Script.does_done.1 hdone
  cases met with
  | true =>
      obtain ⟨rfl, hend⟩ := Script.does_done.1 hdoes
      cases hend
      exact ⟨hrs, rfl, line, a, rfl⟩
  | false =>
      obtain ⟨rfl, hend⟩ := Script.does_done.1 hdoes
      cases hend
      exact ⟨hrs, rfl, line, a, rfl⟩

theorem waitNetwork_settled {o : Orchestrator} {rs : List (Except OperationError ContainerState)}
    (attempts : o.settings.waiting.networkAttempts ≠ 0)
    (clean : ∀ d ∈ ds, faultOf false (decide (v.format = .json)) d = none)
    (h : (waitNetwork o v).run.Comes ds rs r) (first : Deed) :
    Settled (Command.waitNetwork.trouble? o (first :: ds) rs)
      (Command.waitNetwork.Unmet o (first :: ds) rs) r := by
  obtain ⟨ds₁, ds₂, rs₁, rs₂, outcome, rfl, rfl, hwait, hrest⟩ := Job.fansOut h
  obtain ⟨earlier, last, rfl, hlen, hcases⟩ := (comes_waitRounds hwait).2 attempts
  have hrs : rs₂ = [] := by
    cases outcome with
    | error e =>
        cases hrest
        rfl
    | ok u => exact hrest.of_ofScript.2
  subst hrs
  rw [List.append_nil]
  have htrouble : Command.waitNetwork.trouble? o (first :: (ds₁ ++ ds₂)) (earlier.map .ok ++ last) =
      firstFailure? last := by
    show firstFailure? _ = _
    rw [firstFailure?, List.findSome?_append, ← firstFailure?, firstFailure?_map_ok]
    rfl
  have hunmet : Command.waitNetwork.Unmet o (first :: (ds₁ ++ ds₂)) (earlier.map .ok ++ last) ↔
      ∃ s, .ok s ∈ last ∧ s.verdict? ≠ some .healthy := by
    show (∃ s, _ ∈ List.drop _ _ ∧ _) ↔ _
    rw [List.length_append, hlen, Nat.add_sub_cancel, List.drop_left]
  rw [htrouble, hunmet]
  rcases Round.judge_outcomes last with ⟨e, hfirst, hj⟩ | ⟨hfirst, hsome, hj⟩ | ⟨hfirst, hall, hj⟩
  · -- some look of the last round failed
    rcases hcases with ⟨e', hfailed, rfl⟩ | ⟨hpending, -⟩ | ⟨hready, -⟩
    · cases hj.symm.trans hfailed
      cases hrest
      exact .troubled e hfirst (Failure.exitCode_ofOperation e)
    · cases hj.symm.trans hpending
    · cases hj.symm.trans hready
  · -- all looks were answered, and some container is dead or has a health check still to pass
    rcases hcases with ⟨e, hfailed, rfl⟩ | ⟨hpending, rfl⟩ | ⟨hready, -⟩
    · rcases hj with hj | ⟨s, hj⟩
      · cases hj.symm.trans hfailed
      · cases hj.symm.trans hfailed
        cases hrest
        exact .unmet hfirst hsome rfl
    · cases hrest
      exact .unmet hfirst hsome rfl
    · rcases hj with hj | ⟨s, hj⟩ <;> cases hj.symm.trans hready
  · have hnot : ¬∃ s, Except.ok s ∈ last ∧ s.verdict? ≠ some .healthy :=
      fun ⟨s, hs, hne⟩ => hne (hall s hs)
    rcases hcases with ⟨e, hfailed, -⟩ | ⟨hpending, -⟩ | ⟨-, rfl⟩
    · cases hj.symm.trans hfailed
    · cases hj.symm.trans hpending
    · obtain ⟨-, u, rfl, -⟩ := Job.last_passes (v.heeds_say _)
        (List.forall_mem_append.1 clean).2 hrest
      exact .other hfirst hnot (.inl rfl)

theorem teardown_settled {o : Orchestrator} {path : String}
    {rs : List (Except OperationError Bool)}
    (clean : ∀ d ∈ ds, faultOf false (decide (v.format = .json)) d = none)
    (h : (teardown v path).run.Comes ds rs r) (first : Deed) :
    Settled ((Command.teardown path).trouble? o (first :: ds) rs)
      ((Command.teardown path).Unmet o (first :: ds) rs) r := by
  rcases Job.passes_or (LedgerFile.heeds_load path) clean h with
    ⟨x, hx, -, rfl, rfl⟩ | ⟨ds₁, ds₂, ledger, rfl, -, clean₂, h₂⟩
  · exact .other rfl (nofun : Except.ok false ∉ ([] : List (Except OperationError Bool))) (.inr hx)
  obtain ⟨ds₃, ds₄, rs₁, rs₂, outcome, rfl, rfl, hfan, hrest⟩ := Job.fansOut h₂
  obtain ⟨rfl, rfl⟩ := comes_tearDown hfan
  change Settled (firstFailure? (rs₁ ++ rs₂)) (.ok false ∈ rs₁ ++ rs₂) r
  rcases Orchestrator.conjunction_cases rs₁ with
    ⟨e, hfirst, hr⟩ | ⟨hfirst, hmem, hr⟩ | ⟨hfirst, hmem, hr⟩
  · rw [hr] at hrest
    cases hrest
    rw [List.append_nil]
    exact .troubled e hfirst (Failure.exitCode_ofOperation e)
  · rw [hr] at hrest
    obtain ⟨rfl, rfl, -⟩ := announced clean₂ hrest
    rw [List.append_nil]
    exact .unmet hfirst hmem rfl
  · rw [hr] at hrest
    obtain ⟨ds₅, ds₆, u, rfl, -, clean₆, h₆⟩ :=
      Job.passes (LedgerFile.heeds_remove path) clean₂ hrest
    obtain ⟨rfl, rfl, -⟩ := announced clean₆ h₆
    rw [List.append_nil]
    exact .other hfirst hmem (.inl rfl)

theorem check_settled {o : Orchestrator} {path : String}
    {rs : List (Except OperationError ContainerState)}
    (clean : ∀ d ∈ ds, faultOf false (decide (v.format = .json)) d = none)
    (h : (check v path).run.Comes ds rs r) (first : Deed) :
    Settled ((Command.check path).trouble? o (first :: ds) rs)
      ((Command.check path).Unmet o (first :: ds) rs) r := by
  change Settled (firstFailure? rs) (∃ s, .ok s ∈ rs ∧ ¬(s.isRunning = true ∧ s.isHealthy = true)) r
  rcases Job.passes_or (LedgerFile.heeds_load path) clean h with
    ⟨x, hx, -, rfl, rfl⟩ | ⟨ds₁, ds₂, ledger, rfl, -, clean₂, h₂⟩
  · exact .other rfl (by simp) (.inr hx)
  obtain ⟨ds₃, ds₄, rs₁, rs₂, outcome, rfl, rfl, hfan, hrest⟩ := Job.fansOut h₂
  obtain ⟨rfl, ⟨e, hfirst, rfl⟩ | ⟨status, hfirst, rfl, hstatus⟩⟩ := comes_checkNetwork hfan
  · cases hrest
    rw [List.append_nil]
    exact .troubled e hfirst (Failure.exitCode_ofOperation e)
  · obtain ⟨rfl, rfl, -⟩ := announced clean₂ hrest
    rw [List.append_nil]
    cases hgood : status.running && status.healthy with
    | true =>
        have hall := hstatus.1 hgood
        exact .other hfirst (fun ⟨s, hs, hnot⟩ => hnot (hall s hs)) (.inl rfl)
    | false =>
        refine .unmet hfirst (Classical.byContradiction fun hnone => ?_) rfl
        have hall := hstatus.2 fun s hs => Classical.byContradiction fun hnot => hnone ⟨s, hs, hnot⟩
        rw [hgood] at hall
        cases hall

/-- What an operation came to, as part of a command. -/
theorem Step.does_ofOperation {α : Type} {op : Operation α} {o : Except Failure α}
    (h : (Step.ofOperation op).run.Does ds (.done o)) :
    ∃ result, op.run.Does ds (.done result) ∧ o = result.mapError .ofOperation := by
  obtain ⟨ds₁, ds₂, result, rfl, h₁, h₂⟩ := Script.Does.ends_of_bind (s := op.run) h
  obtain ⟨rfl, hend⟩ := Script.does_done.1 h₂
  rw [List.append_nil]
  refine ⟨result, h₁, ?_⟩
  cases result <;> exact Script.done.inj hend

theorem Step.does_ofOperation_ok {α : Type} {op : Operation α} {a : α}
    (h : (Step.ofOperation op).run.Does ds (.done (.ok a))) : op.run.Does ds (.done (.ok a)) := by
  obtain ⟨result, hdoes, hresult⟩ := Step.does_ofOperation h
  cases result with
  | ok b =>
      cases hresult
      exact hdoes
  | error e => cases hresult

theorem seen_of_inspectState {id : String} {state : ContainerState}
    (h : (inspectState id).run.Does ds (.done (.ok state))) : seen ds = [state] := by
  rw [inspectState_run] at h
  obtain ⟨a, ds, rfl, hdone⟩ := h.ends_of_act
  obtain ⟨rfl, hend⟩ := Script.does_done.1 hdone
  cases a with
  | error e => cases hend
  | ok d =>
      cases hend
      rfl

theorem wait_settled {β : Type} {o : Orchestrator} {container : String} {rs : List β}
    (clean : ∀ d ∈ ds, faultOf false (decide (v.format = .json)) d = none)
    (h : (Job.ofStep (wait o v container) : Job β Unit).run.Comes ds rs r) :
    Settled none (∀ s ∈ (seen ds).dropLast, s.verdict? ≠ some .healthy) r := by
  unfold wait at h
  rw [Job.ofStep_bind] at h
  obtain ⟨ds₁, ds₂, outcome, rfl, h₁, clean₂, h₂⟩ := Job.passes
    (Operation.Forwards.waitUntilUsable container o.settings.waitPolicy).step_of_never clean h
  rw [Job.ofStep_bind] at h₂
  obtain ⟨ds₃, ds₄, state, rfl, h₃, clean₄, h₄⟩ :=
    Job.passes (Operation.Forwards.inspectState container).step_of_never clean₂ h₂
  rw [Job.ofStep_bind] at h₄
  obtain ⟨-, rfl, line, a, rfl⟩ := announced clean₄ h₄
  -- the last look is the one that is reported
  have hlooks : (seen (ds₁ ++ (ds₃ ++ [⟨.print line, a⟩]))).dropLast = seen ds₁ := by
    have hprint : seen [⟨.print line, a⟩] = [] := rfl
    rw [seen_append, seen_append, seen_of_inspectState (Step.does_ofOperation_ok h₃), hprint,
      List.append_nil, List.dropLast_concat]
  rw [hlooks]
  have hhealthy := healthy_iff_seen (Step.does_ofOperation_ok h₁)
  by_cases houtcome : outcome = .healthy
  · obtain ⟨s, hs, hv⟩ := hhealthy.1 houtcome
    exact .other rfl (fun hnone => hnone s hs hv) (.inl (by simp [houtcome]))
  · refine .unmet rfl (fun s hs hv => houtcome (hhealthy.2 ⟨s, hs, hv⟩)) ?_
    simp [houtcome, exitCode, Failure.exitCode]

/-! ### Logs -/

/-- A search opens the log and ends as the search of the stream does, unless the pattern cannot be
read. -/
theorem does_searchLog {id pattern : String} {patience : Nat} {o : Except OperationError Bool}
    (h : (searchLog id pattern patience).run.Does ds (.done o)) :
    (∃ e, readPattern pattern = .error e ∧ ds = [] ∧ o = .error e) ∨
      ∃ p stream ds', readPattern pattern = .ok p ∧ ds = ⟨.log id true, stream⟩ :: ds' ∧
        match (LogStream.search p.isMatch patience stream).result with
        | .found => o = .ok true
        | .notFound => o = .ok false
        | .failed e => o = .error e := by
  unfold searchLog at h
  rw [Operation.run_ofExcept_bind] at h
  cases hpattern : readPattern pattern with
  | error e =>
      rw [hpattern] at h
      obtain ⟨rfl, hend⟩ := Script.does_done.1 h
      exact .inl ⟨e, rfl, rfl, Script.done.inj hend⟩
  | ok p =>
      rw [hpattern, Operation.after_ok] at h
      obtain ⟨stream, rfl, rfl⟩ := does_followLog.1 h
      refine .inr ⟨p, stream, _, rfl, rfl, ?_⟩
      cases (LogStream.search p.isMatch patience stream).result <;> rfl

theorem exitCode_of_readPattern {pattern : String} {e : OperationError}
    (h : readPattern pattern = .error e) : e.exitCode = 1 := by
  unfold readPattern at h
  split at h
  · cases h
  · cases h
    rfl

theorem searched?_of_log {first : Deed} (hfirst : first.stream? = none) {pattern : String}
    {p : Pattern} (patience : Nat) (id : String) (hpattern : readPattern pattern = .ok p)
    (stream : LogStream) (ds : List Deed) :
    searched? pattern patience (first :: ⟨.log id true, stream⟩ :: ds) =
      some (LogStream.search p.isMatch (seconds patience) stream).result := by
  have hlog : (⟨.log id true, stream⟩ : Deed).stream? = some stream := rfl
  simp only [searched?, hpattern, List.findSome?_cons, hfirst, hlog]
  rfl

theorem search_settled {β : Type} {container pattern : String} {patience : Nat} {rs : List β}
    (clean : ∀ d ∈ ds, faultOf false (decide (v.format = .json)) d = none)
    (h : (Job.ofStep (search v container pattern patience) : Job β Unit).run.Comes ds rs r)
    {first : Deed} (hfirst : first.stream? = none) :
    Settled (match searched? pattern patience (first :: ds) with
        | some (.failed e) => some e
        | _ => none)
      (searched? pattern patience (first :: ds) = some .notFound) r := by
  unfold search at h
  rw [Job.ofStep_bind] at h
  have hheeds : (Step.ofOperation (searchLog container pattern (seconds patience))).run.Heeds
      (faultOf false (decide (v.format = .json))) fun _ => True :=
    (Operation.Forwards.searchLog container pattern (seconds patience)).step fun _ _ => trivial
  rcases Job.passes_or hheeds clean h with
    ⟨x, -, hdoes, -, rfl⟩ | ⟨ds₁, ds₂, found, rfl, hdoes, clean₂, h₂⟩
  · -- the pattern cannot be read, or the log breaks off
    obtain ⟨o, hdoes, ho⟩ := Step.does_ofOperation hdoes
    rcases does_searchLog hdoes with ⟨e, hpattern, rfl, rfl⟩ | ⟨p, stream, ds, hpattern, rfl, hend⟩
    · cases ho
      have hsearched : searched? pattern patience [first] = none := by simp [searched?, hpattern]
      rw [hsearched]
      refine .other rfl nofun (.inr ?_)
      rw [exitCode, Failure.exitCode_ofOperation, exitCode_of_readPattern hpattern]
    · have hsearched := searched?_of_log hfirst patience container hpattern stream ds
      rw [hsearched]
      cases hresult : (LogStream.search p.isMatch (seconds patience) stream).result with
      | failed e =>
          rw [hresult] at hend
          cases hend
          cases ho
          exact .troubled e rfl (Failure.exitCode_ofOperation e)
      | found =>
          rw [hresult] at hend
          cases hend
          cases ho
      | notFound =>
          rw [hresult] at hend
          cases hend
          cases ho
  · rcases does_searchLog (Step.does_ofOperation_ok hdoes) with
      ⟨e, -, -, hend⟩ | ⟨p, stream, ds, hpattern, rfl, hend⟩
    · cases hend
    rw [Job.ofStep_bind] at h₂
    obtain ⟨-, rfl, -⟩ := announced clean₂ h₂
    have hsearched := searched?_of_log hfirst patience container hpattern stream (ds ++ ds₂)
    rw [List.cons_append, hsearched]
    cases hresult : (LogStream.search p.isMatch (seconds patience) stream).result with
    | failed e =>
        rw [hresult] at hend
        cases hend
    | found =>
        rw [hresult] at hend
        cases hend
        exact .other rfl (by simp) (.inl rfl)
    | notFound =>
        rw [hresult] at hend
        cases hend
        exact .unmet rfl rfl rfl

/-- Items are written out up to the first that is a failure. -/
theorem does_printItems {items : List LogItem} {o : Except OperationError Nat}
    (clean : ∀ d ∈ ds, d.fileFault? false = none) (h : (printItems items).run.Does ds (.done o)) :
    match items.findSome? LogItem.failure? with
    | some e => o = .error e
    | none => ∃ n, o = .ok n := by
  induction items generalizing ds o with
  | nil => exact ⟨0, Script.done.inj (Script.does_done.1 h).2⟩
  | cons item items ih =>
      cases item with
      | wait d =>
          obtain ⟨u, ds, rfl, hrest⟩ := h.ends_of_act
          exact ih (fun d hd => clean d (List.mem_cons_of_mem _ hd)) hrest
      | failure e => exact Script.done.inj (Script.does_done.1 h).2
      | frame s =>
          rw [printItems_frame_run] at h
          obtain ⟨a, ds, rfl, hrest⟩ := h.ends_of_act
          have hclean := List.forall_mem_cons.1 clean
          cases a with
          | error f => cases hclean.1
          | ok u =>
              change ((printItems items >>= fun n => pure (n + 1)).run).Does ds (.done o) at hrest
              rw [Operation.run_bind] at hrest
              obtain ⟨ds₁, ds₂, result, rfl, h₁, h₂⟩ := hrest.ends_of_bind
              have hitems := ih (fun d hd => hclean.2 d (List.mem_append_left _ hd)) h₁
              change match items.findSome? LogItem.failure? with
                | some e => o = .error e
                | none => ∃ n, o = .ok n
              cases hfailure : items.findSome? LogItem.failure? with
              | some e =>
                  rw [hfailure] at hitems
                  cases hitems
                  exact Script.done.inj (Script.does_done.1 h₂).2
              | none =>
                  rw [hfailure] at hitems
                  obtain ⟨n, rfl⟩ := hitems
                  exact ⟨n + 1, Script.done.inj (Script.does_done.1 h₂).2⟩

theorem does_printLog {id : String} {o : Except OperationError Nat}
    (clean : ∀ d ∈ ds, d.fileFault? false = none) (h : (printLog id).run.Does ds (.done o))
    {first : Deed} (hfirst : first.stream? = none) (later : List Deed) :
    match ((first :: (ds ++ later)).findSome? Deed.stream?).bind fun s =>
        s.items.findSome? LogItem.failure? with
    | some e => o = .error e
    | none => ∃ n, o = .ok n := by
  unfold printLog at h
  rw [Operation.run_act_bind] at h
  obtain ⟨stream, ds, rfl, hrest⟩ := h.ends_of_act
  have hlog : (⟨.log id false, stream⟩ : Deed).stream? = some stream := rfl
  simp only [List.cons_append, List.findSome?_cons, hfirst, hlog, Option.bind_some]
  exact does_printItems (fun d hd => clean d (List.mem_cons_of_mem _ hd)) hrest

theorem log_settled {β : Type} {container : String} {rs : List β}
    (clean : ∀ d ∈ ds, faultOf false false d = none)
    (h : (Job.ofStep (log container) : Job β Unit).run.Comes ds rs r) {first : Deed}
    (hfirst : first.stream? = none) :
    Settled (((first :: ds).findSome? Deed.stream?).bind fun s =>
      s.items.findSome? LogItem.failure?) False r := by
  have hfiles : ∀ d ∈ ds, d.fileFault? false = none := by
    intro d hd
    have hnone := clean d hd
    unfold faultOf at hnone
    split at hnone
    · cases hnone
    · assumption
  unfold log at h
  rw [Job.ofStep_bind] at h
  rcases Job.passes_or (heeds_printLog container) clean h with
    ⟨x, -, hdoes, -, rfl⟩ | ⟨ds₁, ds₂, n, rfl, hdoes, -, h₂⟩
  · obtain ⟨o, hdoes, ho⟩ := Step.does_ofOperation hdoes
    have hlog := does_printLog hfiles hdoes hfirst []
    rw [List.append_nil] at hlog
    split at hlog
    · rename_i e hfailure
      subst hlog
      cases ho
      exact .troubled e hfailure (Failure.exitCode_ofOperation e)
    · obtain ⟨n, rfl⟩ := hlog
      cases ho
  · have hlog := does_printLog (fun d hd => hfiles d (List.mem_append_left _ hd))
      (Step.does_ofOperation_ok hdoes) hfirst ds₂
    split at hlog
    · cases hlog
    · rename_i hnone
      cases h₂
      exact .other hnone id (.inl rfl)

theorem StartOptions.outcomes_of_quiet (a : StartOptions) (o : Orchestrator)
    (rs : List (Except OperationError Bool)) (h : ds.any Deed.isLedger = false) :
    a.outcomes o ds rs = [] := by
  rw [outcomes, h]
  rfl

theorem StartOptions.exitCode_of_overlay (a : StartOptions) {f : Failure}
    (h : a.overlay = .error f) : f.exitCode = 1 := by
  unfold overlay at h
  cases hparse : Overlay.parse a.gethArgs with
  | ok overlay =>
      rw [hparse] at h
      cases h
  | error entry =>
      rw [hparse] at h
      cases h
      rfl

theorem LedgerFile.any_isLedger_of_load {path : String} {o : Except Failure Ledger}
    (h : (load path).run.Does ds (.done o)) : ds.any Deed.isLedger = false := by
  rw [load_run] at h
  obtain ⟨a, ds, rfl, hdone⟩ := h.ends_of_act
  obtain ⟨rfl, -⟩ := Script.does_done.1 hdone
  rfl

/-- What is made of the outcome of a start. -/
theorem concluded {β : Type} {os : List (Except OperationError Bool)} {report : Bool → Report}
    {text : String} {rs : List β}
    (clean : ∀ d ∈ ds, faultOf false (decide (v.format = .json)) d = none)
    (h : ((do
      let healthy ← Operation.ofExcept (Orchestrator.conjunction os)
      v.say (report healthy)
      require healthy text : Job β Unit)).run.Comes ds rs r) :
    rs = [] ∧ Settled (firstFailure? os) (.ok false ∈ os) r := by
  rcases Orchestrator.conjunction_cases os with
    ⟨e, hfailure, hr⟩ | ⟨hnone, hmem, hr⟩ | ⟨hnone, hmem, hr⟩
  · rw [hr] at h
    cases h
    exact ⟨rfl, .troubled e hfailure (Failure.exitCode_ofOperation e)⟩
  · rw [hr] at h
    obtain ⟨hrs, rfl, -⟩ := announced clean h
    exact ⟨hrs, .unmet hnone hmem rfl⟩
  · rw [hr] at h
    obtain ⟨hrs, rfl, -⟩ := announced clean h
    exact ⟨hrs, .other hnone hmem (.inl rfl)⟩

theorem startNode_settled {o : Orchestrator} {a : StartOptions}
    {rs : List (Except OperationError Bool)}
    (clean : ∀ d ∈ ds, faultOf false (decide (v.format = .json)) d = none)
    (h : (startNode o v a).run.Comes ds rs r) {first : Deed} (hfirst : first.isLedger = false) :
    Settled ((Command.startNode a).trouble? o (first :: ds) rs)
      ((Command.startNode a).Unmet o (first :: ds) rs) r := by
  change Settled (firstFailure? (a.outcomes o (first :: ds) rs))
    (.ok false ∈ a.outcomes o (first :: ds) rs) r
  -- nothing is launched where the start fails before
  have hunlaunched : ∀ {x : Failure}, ds.any Deed.isLedger = false → x.exitCode = 1 →
      r = .error x → Settled (firstFailure? (a.outcomes o (first :: ds) rs))
        (.ok false ∈ a.outcomes o (first :: ds) rs) r := by
    rintro x hds hx rfl
    rw [a.outcomes_of_quiet o rs (by simp [hfirst, hds])]
    exact .other rfl (by simp) (.inr hx)
  unfold startNode at h
  simp only at h
  split at h
  · cases h
    exact hunlaunched rfl rfl rfl
  rcases Job.passes_or (Step.heeds_ofExcept fun f => a.exitCode_of_overlay) clean h with
    ⟨x, hx, hdoes, -, hr⟩ | ⟨ds₁, ds₂, overlay, rfl, hdoes, clean₂, h₂⟩
  · obtain ⟨rfl, -⟩ := Script.does_done.1 hdoes
    exact hunlaunched rfl hx hr
  obtain ⟨rfl, hoverlay⟩ := Script.does_done.1 hdoes
  rcases Job.passes_or (LedgerFile.heeds_load a.ledger) clean₂ h₂ with
    ⟨x, hx, hdoes, -, hr⟩ | ⟨ds₃, ds₄, before, rfl, -, clean₄, h₄⟩
  · exact hunlaunched (LedgerFile.any_isLedger_of_load hdoes) hx hr
  -- the launches
  have hset : Operation.Forwards (fun _ => False) (.act (.setLedger before)) :=
    .act trivial fun _ => rfl
  obtain ⟨ds₅, ds₆, u, rfl, -, clean₆, h₆⟩ := Job.passes hset.step_of_never clean₄ h₄
  obtain ⟨ds₇, ds₈, rs₁, rs₂, outcome, rfl, rfl, hstart, h₈⟩ := Job.attempts h₆
  obtain ⟨-, rfl⟩ := comes_startNetwork hstart
  -- the ledger behind them
  have hlook : Operation.Forwards (fun _ => False) (.act .ledger) := .act trivial fun _ => rfl
  obtain ⟨ds₉, ds₁₀, after, rfl, hdoes, clean₁₀, h₁₀⟩ :=
    Job.passes hlook.step_of_never (List.forall_mem_append.1 clean₆).2 h₈
  obtain ⟨ds₁₁, ds₁₂, u', rfl, -, clean₁₂, h₁₂⟩ :=
    Job.passes (LedgerFile.heeds_save a.ledger after) clean₁₀ h₁₀
  have hasked : ds₉.any Deed.isLedger = true := by
    obtain ⟨l, ds, rfl, -⟩ := (Step.does_ofOperation_ok hdoes).ends_of_act
    · rfl
  have hrequests : a.requests o = (a.chosenNodes o).map (a.request overlay) := by
    rw [StartOptions.requests, ← Script.done.inj hoverlay]
  have houtcomes : ∀ rs, a.outcomes o
      (first :: ([] ++ (ds₃ ++ (ds₅ ++ (ds₇ ++ (ds₉ ++ (ds₁₁ ++ ds₁₂))))))) rs =
        (o.outcomes ((a.chosenNodes o).map (a.request overlay)) rs).flatten := fun rs => by
    rw [StartOptions.outcomes, if_pos (by simp [hasked]), hrequests]
  obtain ⟨rfl, hsettled⟩ := concluded clean₁₂ h₁₂
  rw [houtcomes, List.append_nil]
  exact hsettled

end

end Cli

end Testbed
