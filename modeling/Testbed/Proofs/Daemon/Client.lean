/-
**Where the requests about a container go.**

Every call that takes a reference to a container first sends one request, to a path with the
reference in it, and sends nothing at all if there is a fault in the reference.  Only the call that
runs a command sends another request, to the command that the daemon has prepared.

A reference without fault holds no slash, so it stays one segment of the path, directly below the
containers.  There are two exceptions: a reference of one dot or of two has no fault either, and
these are taken away when the path is resolved.  With one dot the request goes to all containers
instead of to one, and with two dots it goes above them.

Main definitions:

* `Testbed.Call.target?` — the container that a call is about, and what of it;
* `Testbed.Daemon.Intact` — a path with a reference in it as one segment below the containers;
* `Testbed.Daemon.landing` — where a request about a container comes to;
* `Testbed.Daemon.Lands` — a request about a container that comes there.

Main results:

* `Testbed.Daemon.exchange_run` — a request and its response;
* `Testbed.Daemon.resolve_containerPath` — the path of a container, resolved;
* `Testbed.Daemon.reference_lands` — **what is sent for a reference**.
-/

import Testbed.Daemon.Client
import Testbed.Proofs.Http.Message

set_option relaxedAutoImplicit false
set_option autoImplicit false

namespace Testbed

/-- The container that a call is about, and what of it: the last word of the path to which the
request goes. -/
def Call.target? : Call → Option (String × String)
  | .inspect id => some (id, "json")
  | .start id => some (id, "start")
  | .stop id => some (id, "stop")
  | .restart id => some (id, "restart")
  | .remove id => some (id, "")
  | .exec id _ => some (id, "exec")
  | .download id _ => some (id, "archive")
  | .upload id _ _ => some (id, "archive")
  | .create _ | .info | .ping => none

namespace Daemon

open Http (Request Response Dialogue pathSegments resolve resolveFrom IsDots)

/-! ### Talks -/

section

variable {α β : Type} {report : Fault → OperationError} {r : Request}
  {read : Response → Except Fault α} {id : String} {talk : Talk α}

/-- What is made of a response: it is judged and read, and what goes wrong is reported. -/
def heard (report : Fault → OperationError) (read : Response → Except Fault α)
    (x : Option Response) : Except OperationError α :=
  ((judge x).bind read).mapError report

/-- A request is sent, and its response is heard. -/
theorem exchange_run :
    (exchange report r read).run = .ask r fun x => .done (heard report read x) := by
  change Dialogue.ask r _ = _
  congr 1
  funext x
  cases h : judge x with
  | error f => simp [heard, h]; rfl
  | ok y => simp [heard, h]; rfl

/-- What comes after a request. -/
theorem exchange_bind_run {f : α → Talk β} :
    (exchange report r read >>= f).run = .ask r fun x =>
      match heard report read x with
      | .ok a => (f a).run
      | .error e => .done (.error e) := by
  rw [ExceptT.run_bind, exchange_run]
  change Dialogue.ask r _ = _
  congr 1
  funext x
  simp only [Dialogue.bind]
  cases heard report read x with
  | error e => rfl
  | ok a => rfl

/-- A request and its response begin with the request. -/
theorem begins_exchange {First After : Request → Prop} (h : First r) :
    (exchange report r read).run.Begins First After := by
  refine ⟨r, _, exchange_run, h, fun x q hq => ?_⟩
  exact absurd hq (Dialogue.not_sends_done _ _)

/-- What comes after a request begins with the request. -/
theorem begins_exchange_bind {First After : Request → Prop} {f : α → Talk β} (h : First r)
    (hf : ∀ a q, (f a).run.Sends q → After q) :
    (exchange report r read >>= f).run.Begins First After := by
  refine ⟨r, _, exchange_bind_run, h, fun x q hq => ?_⟩
  cases hx : heard report read x with
  | error e => simp [hx] at hq
  | ok a => exact hf a q (by simpa [hx] using hq)

/-- A response is heard if it reports no failure and can be read. -/
theorem heard_of_ok {x : Response} {a : α} (hstatus : isSuccess x.status = true)
    (hread : read x = .ok a) : heard report read (some x) = .ok a := by
  rw [heard, judge, if_pos hstatus]
  change (read x).mapError report = _
  rw [hread]
  rfl

theorem withReference_of_ok (h : Reference.check id = .ok ()) :
    (withReference id talk).run = talk.run := by
  rw [withReference, h]
  rfl

/-- Nothing is sent for a reference with a fault. -/
theorem withReference_of_error {e : OperationError} (h : Reference.check id = .error e) :
    (withReference id talk).run = .done (.error e) := by
  rw [withReference, h]
  rfl

end

/-- **What it takes to read a value** from a response: the body is whole, it is the text of a value,
and the value is of the form. -/
theorem readJson_eq_ok_iff {s : Json.Schema} {x : Response} {v : Json} : readJson s x = .ok v ↔
    x.complete = true ∧ ∃ text w, Utf8.decode? x.body = some text ∧ Json.parse? text = some w ∧
      s.fits w = true ∧ v = w.canonical := by
  unfold readJson readBody
  cases x.complete with
  | false => simp [bind, Except.bind]
  | true =>
      simp only [if_true, bind, Except.bind, true_and]
      cases Utf8.decode? x.body with
      | none => simp [throw, throwThe, MonadExceptOf.throw]
      | some text =>
          simp only [Option.some.injEq, exists_and_left, exists_eq_left']
          cases Json.parse? text with
          | none => simp [throw, throwThe, MonadExceptOf.throw]
          | some w =>
              simp only [Option.some.injEq, exists_eq_left']
              cases s.fits w <;>
                simp [throw, throwThe, MonadExceptOf.throw, pure, Except.pure, eq_comm]

/-! ### Paths to a container -/

/-- The part of a container to which a word leads; the empty word leads to the container. -/
def below (word : String) : String := if word = "" then "" else "/" ++ word

/-- **A reference stays intact** if it is one segment of the resolved path, directly below the
containers. -/
def Intact (id path : String) : Prop :=
  ∃ rest, pathSegments (resolve path) = "" :: "containers" :: id :: rest

/-- **Where a request about a container comes to**: one dot leads to all containers, and two dots
lead above them. -/
def landing (id word : String) : String :=
  if id = "." then "/containers/" ++ word
  else if id = ".." then "/" ++ word
  else containerPath id (below word)

/-- The steps of the path of a container. -/
def steps (id word : String) : List String :=
  if word = "" then ["containers", id] else ["containers", id, word]

theorem steps_ne_nil (id word : String) : steps id word ≠ [] := by
  unfold steps
  split <;> simp

theorem mem_steps {id word s : String} (h : s ∈ steps id word) :
    s = "containers" ∨ s = id ∨ s = word := by
  unfold steps at h
  split at h
  · have hs : s = "containers" ∨ s = id := by simpa using h
    exact hs.imp_right .inl
  · simpa using h

theorem containerPath_eq (id word : String) :
    containerPath id (below word) = "/" ++ "/".intercalate (steps id word) := by
  rw [← String.toList_inj]
  by_cases h : word = ""
  · simp [containerPath, below, steps, h]
  · simp [containerPath, below, steps, h]

/-- One dot is taken away. -/
theorem resolveFrom_steps_dot {word : String} (h : ¬ IsDots word) :
    resolveFrom [] (steps "." word) = ["containers", word] := by
  obtain ⟨hone, htwo⟩ := not_or.1 h
  by_cases hword : word = ""
  · simp [steps, hword, resolveFrom]
  · simp [steps, hword, resolveFrom, hone, htwo]

/-- Two dots are taken away, and the containers with them. -/
theorem resolveFrom_steps_dots {word : String} (h : ¬ IsDots word) :
    resolveFrom [] (steps ".." word) = [word] := by
  obtain ⟨hone, htwo⟩ := not_or.1 h
  by_cases hword : word = ""
  · simp [steps, hword, resolveFrom]
  · simp [steps, hword, resolveFrom, hone, htwo]

section

variable {id word : String} (hid : '/' ∉ id.toList) (hword : '/' ∉ word.toList)
  (hdots : ¬ IsDots word)
include hid hword

theorem slash_not_mem_steps : ∀ s ∈ steps id word, '/' ∉ s.toList := by
  intro s hs
  rcases mem_steps hs with rfl | rfl | rfl
  · simp
  · exact hid
  · exact hword

theorem pathSegments_containerPath :
    pathSegments (containerPath id (below word)) = "" :: steps id word := by
  rw [containerPath_eq, Http.pathSegments_slash (steps_ne_nil id word)
    (slash_not_mem_steps hid hword)]

include hdots

theorem resolve_containerPath_of_no_dots (h : ¬ IsDots id) :
    resolve (containerPath id (below word)) = containerPath id (below word) := by
  rw [containerPath_eq]
  refine Http.resolve_of_no_dots (steps_ne_nil id word) (slash_not_mem_steps hid hword) ?_
  intro s hs
  rcases mem_steps hs with rfl | rfl | rfl
  · decide
  · exact h
  · exact hdots

/-- **The path of a container, resolved.** -/
theorem resolve_containerPath :
    resolve (containerPath id (below word)) = landing id word := by
  have hsteps := pathSegments_containerPath hid hword
  unfold landing
  split
  · next hone =>
    rw [resolve, hsteps, hone, List.drop_one, List.tail_cons, resolveFrom_steps_dot hdots,
      ← String.toList_inj]
    simp
  · next hone =>
    split
    · next htwo =>
      rw [resolve, hsteps, htwo, List.drop_one, List.tail_cons, resolveFrom_steps_dots hdots]
      simp
    · next htwo => exact resolve_containerPath_of_no_dots hid hword hdots (not_or.2 ⟨hone, htwo⟩)

/-- A reference stays intact except for dots. -/
theorem intact_containerPath_iff : Intact id (containerPath id (below word)) ↔ ¬ IsDots id := by
  have hsteps := pathSegments_containerPath hid hword
  constructor
  · rintro ⟨rest, hrest⟩
    exact Http.not_isDots_of_mem_resolve hsteps (steps_ne_nil id word) (by simp [hrest])
  · intro h
    rw [Intact, resolve_containerPath_of_no_dots hid hword hdots h, hsteps]
    by_cases hempty : word = ""
    · exact ⟨[], by simp [steps, hempty]⟩
    · exact ⟨[word], by simp [steps, hempty]⟩

end

/-! ### Requests about a container -/

/-- **A request about a container that comes to where it leads.** -/
structure Lands (id word : String) (r : Request) : Prop where
  /-- The reference is put into the path as it is. -/
  path : r.path = containerPath id (below word)
  /-- The path is resolved on the way. -/
  resolved : resolve r.path = landing id word
  /-- The reference stays one segment below the containers, unless it consists of dots. -/
  intact : Intact id r.path ↔ ¬ IsDots id

/-- A reference without fault. -/
theorem check_eq_ok_iff {id : String} : Reference.check id = .ok () ↔
    id ≠ "" ∧ id.utf8ByteSize ≤ Reference.lengthLimit ∧ id.toList.head? ≠ some '-' ∧
      id.toList.all Reference.isAllowed = true := by
  have hfault : Reference.check id = .ok () ↔ Reference.fault? id = none := by
    unfold Reference.check
    cases Reference.fault? id <;> simp
  rw [hfault, Reference.fault?]
  split
  · next h =>
    simp only [reduceCtorEq, false_iff]
    rintro ⟨hne, hle, -⟩
    simp [hne, Nat.not_lt.2 hle] at h
  · next h =>
    simp only [Bool.or_eq_true, decide_eq_true_eq, not_or, Nat.not_lt] at h
    split
    · next hdash => simp [hdash]
    · next hdash =>
      split
      · next hall => simp_all
      · next hall => simpa [h, hdash] using hall

/-- A reference without fault holds no slash. -/
theorem slash_not_mem_of_check {id : String} (h : Reference.check id = .ok ()) :
    '/' ∉ id.toList := by
  intro hslash
  have hall := (check_eq_ok_iff.1 h).2.2.2
  exact absurd (List.all_eq_true.1 hall '/' hslash) (by decide)

/-- The words to which the requests about a container lead are plain. -/
theorem word_of_target? {c : Call} {id word : String} (h : c.target? = some (id, word)) :
    '/' ∉ word.toList ∧ ¬ IsDots word := by
  cases c <;> simp only [Call.target?, reduceCtorEq, Option.some.injEq, Prod.mk.injEq] at h <;>
    obtain ⟨-, rfl⟩ := h <;> decide

/-- What a call may send after the request about its container: the request that runs the command
which has been prepared. -/
def FollowsUp (c : Call) (q : Request) : Prop :=
  ∃ id command prepared, c = .exec id command ∧ q = runRequest prepared

/-- A call begins with the request about its container. -/
theorem call_begins {c : Call} {id word : String} (hid : Reference.check id = .ok ())
    (hc : c.target? = some (id, word)) :
    (call c).run.Begins (fun r => r.path = containerPath id (below word)) (FollowsUp c) := by
  cases c with
  | create s => cases hc
  | info => cases hc
  | ping => cases hc
  | inspect i =>
      cases hc
      rw [call, withReference_of_ok hid]
      exact begins_exchange_bind rfl fun v q hq => absurd hq (Dialogue.not_sends_done _ _)
  | exec i command =>
      cases hc
      rw [call, withReference_of_ok hid]
      refine begins_exchange_bind rfl fun v q hq => ?_
      refine or_self_iff.1 (Dialogue.Begins.first (begins_exchange ?_) hq)
      exact ⟨id, command, _, rfl, rfl⟩
  | _ =>
      -- The remaining calls about a container are one exchange.
      cases hc
      rw [call, withReference_of_ok hid]
      exact begins_exchange rfl

/-- The log of a container begins with the request about it, and nothing is sent afterwards. -/
theorem openLog_begins {id : String} (hid : Reference.check id = .ok ()) (follow : Bool) :
    (openLog id follow).Begins (fun r => r.path = containerPath id (below "logs"))
      fun _ => False := by
  simp only [openLog, withReference_of_ok hid]
  refine Dialogue.Begins.bind (begins_exchange rfl) fun a q hq => ?_
  cases a with
  | error e => exact Dialogue.not_sends_done _ _ hq
  | ok items => exact Dialogue.not_sends_done _ _ hq

/-- A call sends nothing if there is a fault in the reference. -/
theorem call_of_error {c : Call} {id word : String} {e : OperationError}
    (hid : Reference.check id = .error e) (hc : c.target? = some (id, word)) :
    (call c).run = .done (.error e) := by
  cases c with
  | create s => cases hc
  | info => cases hc
  | ping => cases hc
  | _ =>
      cases hc
      exact withReference_of_error hid

/-- Nothing is sent for the log of a container if there is a fault in the reference. -/
theorem openLog_of_error {id : String} {e : OperationError} (hid : Reference.check id = .error e)
    (follow : Bool) : openLog id follow = .done (.ofFailure e) := by
  simp only [openLog, withReference_of_error hid]
  rfl

theorem lands {id word : String} {r : Request} (hid : Reference.check id = .ok ())
    (hword : '/' ∉ word.toList ∧ ¬ IsDots word) (hr : r.path = containerPath id (below word)) :
    Lands id word r where
  path := hr
  resolved := by rw [hr, resolve_containerPath (slash_not_mem_of_check hid) hword.1 hword.2]
  intact := by rw [hr, intact_containerPath_iff (slash_not_mem_of_check hid) hword.1 hword.2]

/-- **What is sent for a reference.**  Without fault in the reference, every call about a container
begins with a request that stays with this container, unless the reference consists of dots, and so
does its log; afterwards only a prepared command is run.  With a fault nothing is sent at all. -/
theorem reference_lands (id : String) :
    (Reference.check id = .ok () →
      (∀ c word, c.target? = some (id, word) →
        (call c).run.Begins (Lands id word) (FollowsUp c)) ∧
      ∀ follow, (openLog id follow).Begins (Lands id "logs") fun _ => False) ∧
    ∀ e, Reference.check id = .error e →
      (∀ c word, c.target? = some (id, word) → (call c).run = .done (.error e)) ∧
      ∀ follow, openLog id follow = .done (.ofFailure e) := by
  refine ⟨fun hid => ⟨fun c word hc => ?_, fun follow => ?_⟩,
    fun e hid => ⟨fun c word hc => ?_, ?_⟩⟩
  · exact (call_begins hid hc).mono fun r hr => lands hid (word_of_target? hc) hr
  · exact (openLog_begins hid follow).mono fun r hr => lands hid (by decide) hr
  · exact call_of_error hid hc
  · exact openLog_of_error hid

/-- A name is asked for as it is, and what holds a slash is not asked for. -/
theorem reference_lands_of_name :
    Reference.check "node.1" = .ok () ∧
      (call (.inspect "node.1")).run.Begins (Lands "node.1" "json")
        (FollowsUp (.inspect "node.1")) ∧
      Reference.check "a/b" = .error (.api Reference.Fault.forbiddenCharacter.message) ∧
      openLog "a/b" true =
        .done (.ofFailure (.api Reference.Fault.forbiddenCharacter.message)) :=
  ⟨rfl, ((reference_lands "node.1").1 rfl).1 (.inspect "node.1") "json" rfl, rfl,
    ((reference_lands "a/b").2 _ rfl).2 true⟩

/-- Two dots are a reference without fault, and the request for a report about the container goes to
a path that is not below the containers. -/
theorem two_dots_leave_containers :
    Reference.check ".." = .ok () ∧
      (call (.inspect "..")).run.Begins
        (fun r => r.path = "/containers/../json" ∧ resolve r.path = "/json" ∧ ¬ Intact ".." r.path)
        (FollowsUp (.inspect "..")) := by
  have hid : Reference.check ".." = .ok () := rfl
  have hbegins : (call (.inspect "..")).run.Begins
      (fun r => r.path = containerPath ".." (below "json")) (FollowsUp (.inspect "..")) :=
    call_begins hid rfl
  refine ⟨hid, hbegins.mono fun r hr => ?_⟩
  have hlands : Lands ".." "json" r := lands hid (by decide) hr
  refine ⟨hr, hlands.resolved, fun h => ?_⟩
  exact hlands.intact.1 h (by decide)

end Daemon

end Testbed
