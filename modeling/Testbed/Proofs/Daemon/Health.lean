/-
**Containers without a health check.**

The daemon has several ways to report that a container has no health check: it says nothing about
the health, it leaves the status of the health empty, or it gives it as none.  Where it says nothing
or leaves the status empty, the container is usable as soon as it is not dead: the wait for it looks
once, and in the wait for a network it makes no difference.  A status of none is taken for that of
a health check still to pass, so the wait for such a container uses up all its attempts.

Main definitions:

* `Testbed.Daemon.Unchecked` — **a report that no health check is configured**;
* `Testbed.Daemon.SaysNone` — a report that does so by the status none;
* `Testbed.Daemon.Alive` — a report about a container that is neither dead nor exited;
* `Testbed.Daemon.Serves` — a world whose calls are dialogues with a server.

Main results:

* `Testbed.waitUntilUsable_usable`, `Testbed.waitFrom_pending` — a wait for a container that is
  usable at once, and for one that never is;
* `Testbed.Round.judge_insert`, `Testbed.Round.judge_pending` — the same in a round of looks;
* `Testbed.Daemon.unchecked_usable` — **what an unchecked container is taken for**.
-/

import Testbed.Proofs.Daemon.Inspection
import Testbed.Proofs.Network.Templates
import Testbed.Rehearsal.Daemon

set_option relaxedAutoImplicit false
set_option autoImplicit false

namespace Testbed

/-! ### Waits for one container -/

section

variable {W : Type} {p : Performer W} {id : String} {d : ContainerDetails}

/-- **A container that is usable at the first look is looked at once.** -/
theorem waitUntilUsable_usable {policy : WaitPolicy} (attempts : 0 < policy.attempts) {w : W}
    (look : (p (.call (.inspect id)) w).1 = .ok d) (alive : ¬ d.Dead) (settled : d.Settled) :
    Script.deedsIn p (waitUntilUsable id policy).run w = [⟨.call (.inspect id), .ok d⟩] ∧
      ((waitUntilUsable id policy).run.perform p w).1 = .ok .healthy := by
  obtain ⟨left, hleft⟩ := Nat.exists_eq_succ_of_ne_zero (Nat.pos_iff_ne_zero.1 attempts)
  have hheed : waitBehind id policy.interval left (.ok d) = .done (.ok .healthy) := by
    rcases ContainerState.verdict?_cases d with ⟨dead, -⟩ | ⟨-, -, hverdict⟩ | ⟨-, pending, -⟩
    · exact absurd dead alive
    · simp [waitBehind, hverdict, heed]
    · exact absurd settled pending
  rw [waitUntilUsable, hleft, waitFrom_succ_run, Script.deedsIn, Script.perform, look, hheed]
  exact ⟨rfl, rfl⟩

/-- **A container that is never usable is looked at until the attempts are used up.** -/
theorem waitFrom_pending {interval n : Nat} {ds : List Deed} {r : Except OperationError WaitOutcome}
    (h : (waitFrom id interval n).run.Does ds (.done r)) (alive : ¬ d.Dead) (pending : ¬ d.Settled)
    (answered : ∀ a, ⟨.inspect id, a⟩ ∈ exchanges ds → a = .ok d) :
    exchanges ds = looks id (fun _ => .ok d) n ∧ r = .ok .exhausted := by
  induction n generalizing ds with
  | zero =>
      obtain ⟨rfl, hcalls, -⟩ := does_waitFrom_zero h
      exact ⟨hcalls, rfl⟩
  | succ left ih =>
      obtain ⟨a, ds, rfl, hcases⟩ := does_waitFrom_succ h
      obtain rfl : a = .ok d := answered a (by simp)
      have hnot := not_decisive alive pending
      rw [exchanges_call, looks_succ]
      rcases hcases with ⟨hdecides, -⟩ | ⟨-, rfl, rfl, hcalls, -⟩ | ⟨-, -, ds, rfl, hlater⟩
      · exact absurd ⟨r, hdecides⟩ hnot
      · exact ⟨congrArg _ hcalls, rfl⟩
      · have hrest := ih hlater fun a ha => answered a (List.mem_cons_of_mem _ ha)
        exact ⟨congrArg _ hrest.1, hrest.2⟩

end

/-! ### Rounds of looks -/

theorem allOk_append {β : Type} (xs ys : List (Except OperationError β)) :
    allOk (xs ++ ys) = (allOk xs).bind fun as => (allOk ys).map (as ++ ·) := by
  induction xs with
  | nil => cases h : allOk ys <;> simp [h, Except.bind, Except.map]
  | cons x xs ih =>
      cases x with
      | error e => rfl
      | ok b =>
          rw [List.cons_append, allOk_ok, allOk_ok, ih]
          cases allOk xs with
          | error e => rfl
          | ok as => cases allOk ys <;> rfl

namespace Round

/-- **A container that is usable makes no difference in a round.** -/
theorem judge_insert {s : ContainerState} (alive : s.isDead = false) (settled : s.isOngoing = false)
    (before later : List (Except OperationError ContainerState)) :
    judge (before ++ .ok s :: later) = judge (before ++ later) := by
  rw [judge, judge, allOk_append, allOk_append, allOk_ok]
  cases allOk before with
  | error e => rfl
  | ok as =>
      cases allOk later with
      | error e => rfl
      | ok bs => simp [Except.bind, Except.map, List.find?_append, alive, settled]

/-- **A container with a health check still to pass keeps a round pending**, if no look fails and no
container is dead. -/
theorem judge_pending {ss : List ContainerState} (alive : ∀ s ∈ ss, s.isDead = false)
    {s : ContainerState} (hs : s ∈ ss) (ongoing : s.isOngoing = true) :
    judge (ss.map .ok) = .pending := by
  have hnone : ss.find? ContainerState.isDead = none :=
    List.find?_eq_none.2 fun t ht => by simp [alive t ht]
  have hany : ss.any ContainerState.isOngoing = true := List.any_eq_true.2 ⟨s, hs, ongoing⟩
  unfold judge
  rw [allOk_map_ok]
  simp [hnone, hany]

end Round

namespace Daemon

open Http (Request Response Dialogue)

/-! ### Reports that no health check is configured -/

/-- What a report says about the status of the health. -/
def healthStatus? (v : Json) : Option String := v.textAt? ["State", "Health", "Status"]

/-- **A report that no health check is configured**: nothing is said about the health, or its status
is empty or none. -/
def Unchecked (v : Json) : Prop :=
  healthStatus? v = none ∨ healthStatus? v = some "" ∨ healthStatus? v = some "none"

/-- A report that no health check is configured, by the status none. -/
def SaysNone (v : Json) : Prop := healthStatus? v = some "none"

/-- A report about a container that is neither dead nor exited. -/
def Alive (v : Json) : Prop :=
  v.textAt? ["State", "Status"] ≠ some "dead" ∧ v.textAt? ["State", "Status"] ≠ some "exited"

section

variable {x : Response} {v : Json} {id : String}

/-- What is made of the status of the health: an empty one counts as none. -/
theorem health_eq (v : Json) (id : String) :
    ((Inspection.ofJson v).details id).health = (healthStatus? v).filter (· ≠ "") := rfl

/-- A report that no health check is configured leaves no health, unless it says none. -/
theorem health_of_unchecked (hunchecked : Unchecked v) (id : String) :
    ((Inspection.ofJson v).details id).health = none ↔ ¬ SaysNone v := by
  rw [health_eq, SaysNone]
  rcases hunchecked with h | h | h
  · simp [h]
  · simp [h]
  · simp [h]

/-- The word none is not taken for healthy. -/
theorem settled_of_unchecked (hunchecked : Unchecked v) (id : String) :
    ((Inspection.ofJson v).details id).Settled ↔ ¬ SaysNone v := by
  have hword : Text.sameWord "none" "healthy" = false := by decide +kernel
  rw [ContainerDetails.Settled, health_eq, SaysNone]
  rcases hunchecked with h | h | h
  · simp [h]
  · simp [h]
  · simp [h, hword]

/-- A container of which no death is reported is not dead. -/
theorem Reports.not_dead (hx : Reports x v) (halive : Alive v) (id : String) :
    ¬ ((Inspection.ofJson v).details id).Dead := by
  have hwords : ∀ t ∈ Inspection.unknownStatus :: Inspection.statuses, t ≠ "dead" → t ≠ "exited" →
      ¬ (Text.sameWord t "dead" = true ∨ Text.sameWord t "exited" = true) := by
    decide +kernel
  have hdetails : ((Inspection.ofJson v).details id).status =
      (v.textAt? ["State", "Status"]).getD Inspection.unknownStatus := rfl
  rw [ContainerDetails.Dead, hdetails]
  cases hstatus : v.textAt? ["State", "Status"] with
  | none => exact hwords Inspection.unknownStatus List.mem_cons_self (by decide) (by decide)
  | some t =>
      refine hwords t (List.mem_cons_of_mem _ (hx.status_mem hstatus)) ?_ ?_
      · rintro rfl
        exact halive.1 hstatus
      · rintro rfl
        exact halive.2 hstatus

end

/-! ### What is made of them -/

/-- **A world whose calls are dialogues with a server**, which is seen in the world in some way. -/
def Serves {W S : Type} (serve : Request → S → Option Response × S) (view : W → S)
    (p : Performer W) : Prop :=
  ∀ c w, (p (.call c) w).1 = ((call c).run.hold serve (view w)).1

/-- A look in such a world shows what is reported. -/
theorem Serves.look {W S : Type} {serve : Request → S → Option Response × S} {view : W → S}
    {p : Performer W} (hp : Serves serve view p) {x : Response} {v : Json} (hx : Reports x v)
    {id : String} (hid : Reference.check id = .ok ()) {w : W}
    (answer : (serve (inspectRequest id) (view w)).1 = some x) :
    (p (.call (.inspect id)) w).1 = .ok ((Inspection.ofJson v).details id) := by
  obtain ⟨next, hrun, hnext⟩ := hx.inspect hid
  rw [hp, hrun, Dialogue.hold, answer, hnext]
  rfl

/-- **A container is usable at once**, which is reported by a response and flattened to these
details. -/
structure UsableAtOnce (id : String) (x : Response) (d : ContainerDetails) : Prop where
  /-- A wait whose first look is answered by the response makes no other look. -/
  wait {W S : Type} (serve : Request → S → Option Response × S) (view : W → S) (p : Performer W)
    (w : W) (policy : WaitPolicy) : Serves serve view p →
      (serve (inspectRequest id) (view w)).1 = some x → 0 < policy.attempts →
        Script.deedsIn p (waitUntilUsable id policy).run w = [⟨.call (.inspect id), .ok d⟩] ∧
          ((waitUntilUsable id policy).run.perform p w).1 = .ok .healthy
  /-- In the wait for a network the container makes no difference. -/
  round (before later : List (Except OperationError ContainerState)) :
    Round.judge (before ++ .ok (.ofDetails d) :: later) = Round.judge (before ++ later)

/-- **A container is never usable**, for the same details. -/
structure NeverUsable (id : String) (d : ContainerDetails) : Prop where
  /-- A wait in which every look shows the details uses up its attempts. -/
  wait (policy : WaitPolicy) (ds : List Deed) (r : Except OperationError WaitOutcome) :
    (waitUntilUsable id policy).run.Does ds (.done r) →
      (∀ a, ⟨.inspect id, a⟩ ∈ exchanges ds → a = .ok d) →
        exchanges ds = looks id (fun _ => .ok d) policy.attempts ∧ r = .ok .exhausted
  /-- In the wait for a network the container keeps every round pending, if no container is dead. -/
  round (states : List ContainerState) : (∀ s ∈ states, s.isDead = false) →
    ContainerState.ofDetails d ∈ states → Round.judge (states.map .ok) = .pending

/-- **What a container without a health check is taken for.**  If nothing is said about its health
or the status of its health is empty, the container carries no health and is usable at once, as long
as it is not dead.  If the status of its health is none, it is taken for one whose health check is
still to pass, and is never usable. -/
theorem unchecked_usable {x : Response} {v : Json} (hx : Reports x v) (hunchecked : Unchecked v)
    {id : String} (hid : Reference.check id = .ok ()) :
    (((Inspection.ofJson v).details id).health = none ↔ ¬ SaysNone v) ∧
      ((ContainerState.ofDetails ((Inspection.ofJson v).details id)).isOngoing = true ↔
        SaysNone v) ∧
      (Alive v → ¬ SaysNone v → UsableAtOnce id x ((Inspection.ofJson v).details id)) ∧
      (Alive v → SaysNone v → NeverUsable id ((Inspection.ofJson v).details id)) := by
  have hsettled := settled_of_unchecked hunchecked id
  have hongoing : (ContainerState.ofDetails ((Inspection.ofJson v).details id)).isOngoing = true ↔
      SaysNone v := by
    rw [ContainerState.isOngoing_iff, hsettled, not_not]
  refine ⟨health_of_unchecked hunchecked id, hongoing, fun halive hsays => ⟨?_, ?_⟩,
    fun halive hsays => ⟨?_, ?_⟩⟩
  · intro W S serve view p w policy hp answer attempts
    exact waitUntilUsable_usable attempts (hp.look hx hid answer) (hx.not_dead halive id)
      (hsettled.2 hsays)
  · have hdead := mt ContainerState.isDead_iff.1 (hx.not_dead halive id)
    exact Round.judge_insert (Bool.eq_false_iff.2 hdead) (Bool.eq_false_iff.2 (mt hongoing.1 hsays))
  · intro policy ds r hdoes answered
    exact waitFrom_pending hdoes (hx.not_dead halive id) (mt hsettled.1 (not_not.2 hsays)) answered
  · intro states alive hmem
    exact Round.judge_pending alive hmem (hongoing.2 hsays)

/-- A report about a running container with some status of the health. -/
def running (health : String) : Json :=
  .obj [("Id", .str "0a"), ("State",
    .obj [("Health", .obj [("Status", .str health)]), ("Status", .str "running")])]

theorem canonical_running (health : String) : (running health).canonical = running health := by
  cbv

theorem reports_running {health : String} (hword : health ∈ Inspection.healths) :
    Reports (carrying (running health)) (running health) := by
  have hfits : ∀ h ∈ Inspection.healths, Inspection.schema.fits (running h) = true := by decide
  have hreports : Reports (carrying (running health)) (running health).canonical := by
    refine reports_carrying ?_ ?_ (hfits health hword)
    · simp [running, Json.Legible, Json.LegibleMembers]
    · simp [running, Json.height, Json.heightMembers, Json.depthLimit]
  rwa [canonical_running] at hreports

theorem alive_running (health : String) : Alive (running health) := by
  have hstatus : (running health).textAt? ["State", "Status"] = some "running" := rfl
  rw [Alive, hstatus]
  decide

/-- A world with a daemon that answers every request for a report with one response. -/
def reporting (x : Response) : Rehearsal.World Rehearsal.Daemon where
  runtime :=
    { routes := Dict.empty.insert "GET /containers/0a/json" [.response x], reached := true }

/-- The calls of a rehearsed world are dialogues with its daemon. -/
theorem serves_rehearsal : Serves Rehearsal.Daemon.serve Rehearsal.World.runtime
    (Rehearsal.perform Rehearsal.Daemon.host) := fun _ _ => rfl

/-- A container whose health has an empty status is usable at the first look. -/
theorem unchecked_usable_of_empty :
    Reports (carrying (running "")) (running "") ∧ Unchecked (running "") ∧
      Reference.check "0a" = .ok () ∧ Alive (running "") ∧ ¬ SaysNone (running "") ∧
      ((waitUntilUsable "0a" {}).run.perform (Rehearsal.perform Rehearsal.Daemon.host)
        (reporting (carrying (running "")))).1 = .ok .healthy := by
  have hx : Reports (carrying (running "")) (running "") := reports_running (by decide)
  have hid : Reference.check "0a" = .ok () := rfl
  have hunchecked : Unchecked (running "") := .inr (.inl rfl)
  have hsays : ¬ SaysNone (running "") := by
    have hstatus : healthStatus? (running "") = some "" := rfl
    rw [SaysNone, hstatus]
    decide
  obtain ⟨-, -, husable, -⟩ := unchecked_usable hx hunchecked hid
  exact ⟨hx, hunchecked, hid, alive_running "", hsays, ((husable (alive_running "") hsays).wait
    Rehearsal.Daemon.serve Rehearsal.World.runtime _ _ {} serves_rehearsal (by rfl) (by decide)).2⟩

/-- A container whose health has the status none is reported to have no health check.  It carries a
health all the same: a wait with one attempt is exhausted, and a round of looks is pending. -/
theorem none_never_usable :
    Reports (carrying (running "none")) (running "none") ∧ Unchecked (running "none") ∧
      Alive (running "none") ∧
      ((Inspection.ofJson (running "none")).details "0a").health = some "none" ∧
      ((waitUntilUsable "0a" { attempts := 1 }).run.perform
        (Rehearsal.perform Rehearsal.Daemon.host) (reporting (carrying (running "none")))).1 =
          .ok .exhausted ∧
      Round.judge [.ok (.ofDetails ((Inspection.ofJson (running "none")).details "0a"))] =
        .pending := by
  have hx : Reports (carrying (running "none")) (running "none") := reports_running (by decide)
  have hunchecked : Unchecked (running "none") := .inr (.inr rfl)
  have hlook : (Rehearsal.perform Rehearsal.Daemon.host (.call (.inspect "0a"))
      (reporting (carrying (running "none")))).1 =
        .ok ((Inspection.ofJson (running "none")).details "0a") :=
    serves_rehearsal.look hx rfl (by rfl)
  have hverdict : (ContainerState.ofDetails
      ((Inspection.ofJson (running "none")).details "0a")).verdict? = none := by decide +kernel
  have hwait : ((waitFrom "0a" 3000 1).run.perform (Rehearsal.perform Rehearsal.Daemon.host)
      (reporting (carrying (running "none")))).1 = .ok .exhausted := by
    rw [waitFrom_succ_run, Script.perform, hlook, waitBehind, hverdict]
    rfl
  exact ⟨hx, hunchecked, alive_running "none", rfl, hwait, by decide +kernel⟩

end Daemon

end Testbed
