/-
**The first event that decides a search.**

A log is searched frame by frame.  A frame that is accepted, an error, the end of the stream and the
end of the patience race with each other, and the first of them decides.  What stands behind a frame
or an error that decides is not even read; a stream that ends or stays silent decides nothing but
that nothing was found.  Nothing is promised of an item that comes at the very moment at which the
patience ends.

Main definitions:

* `Testbed.LogStream.timeOf` — the time that passes in front of an item;
* `Testbed.LogStream.FirstDecisive` — **the first frame or error that decides a search**;
* `Testbed.LogStream.Decided` — what a search comes to;
* `Testbed.Search.deeds`, `Testbed.Search.outcome` — what is done behind a search, and its result.

Main results:

* `Testbed.LogStream.search_decided` — a search comes to what its first decisive item says;
* `Testbed.LogStream.search_congr` — **frames are judged one at a time**;
* `Testbed.does_followLog` — following a log is searching its stream;
* `Testbed.searchLog_first_decisive` — a pattern searched in a log.
-/

import Mathlib.Tactic.ByContra
import Testbed.Log.Search
import Testbed.Proofs.Script.Faults

set_option relaxedAutoImplicit false
set_option autoImplicit false

namespace Testbed

/-! ### Items and their moments -/

/-- How long an item of a stream takes. -/
def LogItem.duration : LogItem → Nat
  | .wait d => d
  | .frame _ | .failure _ => 0

/-- Does an item leave a search undecided? -/
def LogItem.Passes (accept : String → Bool) : LogItem → Prop
  | .wait _ => True
  | .frame text => accept text = false
  | .failure _ => False

namespace LogStream

variable {accept : String → Bool} {items before later : List LogItem} {r : SearchResult}

/-- The time that passes in items: what stands behind them comes at this moment. -/
def timeOf : List LogItem → Nat
  | [] => 0
  | i :: items => i.duration + timeOf items

@[simp] theorem timeOf_nil : timeOf [] = 0 := rfl

@[simp] theorem timeOf_cons (i : LogItem) (items : List LogItem) :
    timeOf (i :: items) = i.duration + timeOf items := rfl

/-- **The first item that decides a search**: a frame that is accepted, or an error, with nothing in
front of it but time and frames that are not accepted. -/
inductive FirstDecisive (accept : String → Bool) (items before : List LogItem) :
    SearchResult → List LogItem → Prop
  | accepted (text : String) (later : List LogItem) (split : items = before ++ .frame text :: later)
      (passed : ∀ i ∈ before, i.Passes accept) (accepted : accept text = true) :
      FirstDecisive accept items before .found later
  | failure (e : OperationError) (later : List LogItem)
      (split : items = before ++ .failure e :: later) (passed : ∀ i ∈ before, i.Passes accept) :
      FirstDecisive accept items before (.failed e) later

namespace FirstDecisive

/-- An item that passes can be put in front. -/
theorem cons {i : LogItem} (hi : i.Passes accept) (h : FirstDecisive accept items before r later) :
    FirstDecisive accept (i :: items) (i :: before) r later := by
  cases h with
  | accepted text later split passed accepted =>
      exact .accepted text later (by rw [split, List.cons_append])
        (List.forall_mem_cons.2 ⟨hi, passed⟩) accepted
  | failure e later split passed =>
      exact .failure e later (by rw [split, List.cons_append]) (List.forall_mem_cons.2 ⟨hi, passed⟩)

/-- What the first decisive item is preceded by can be taken away, item by item. -/
theorem of_cons {i : LogItem}
    (h : FirstDecisive accept items (i :: before) r later) :
    ∃ rest, items = i :: rest ∧ i.Passes accept ∧ FirstDecisive accept rest before r later := by
  cases h with
  | accepted text later split passed accepted =>
      obtain ⟨hi, hbefore⟩ := List.forall_mem_cons.1 passed
      exact ⟨_, split, hi, .accepted text later rfl hbefore accepted⟩
  | failure e later split passed =>
      obtain ⟨hi, hbefore⟩ := List.forall_mem_cons.1 passed
      exact ⟨_, split, hi, .failure e later rfl hbefore⟩

end FirstDecisive

/-! ### The race -/

/-- An item that decides in time ends the search, and what stands behind it is not read. -/
theorem searchItems_inTime {staysOpen : Bool} {left past : Nat}
    (h : FirstDecisive accept items before r later) (hin : timeOf before < left) :
    searchItems accept staysOpen left past items = ⟨r, past + timeOf before, later⟩ := by
  -- induction on what is in front of the item: the moment of the deadline is `past + left`
  induction before generalizing left past items with
  | nil =>
      cases h with
      | accepted text later split passed accepted =>
          rw [split, List.nil_append, searchItems, if_pos accepted, timeOf_nil, Nat.add_zero]
      | failure e later split passed =>
          rw [split, List.nil_append, searchItems, timeOf_nil, Nat.add_zero]
  | cons i before ih =>
      obtain ⟨rest, rfl, hi, hrest⟩ := h.of_cons
      rw [timeOf_cons] at hin ⊢
      cases i with
      | frame text =>
          have hrejected : accept text = false := hi
          rw [searchItems, hrejected, if_neg Bool.false_ne_true, ih hrest (by omega)]
          simp [LogItem.duration]
      | failure e => exact hi.elim
      | wait d =>
          simp only [LogItem.duration] at hin ⊢
          rw [searchItems]
          split
          · next hd => rw [ih hrest (by omega), hd, Nat.zero_add]
          · rw [if_neg (by omega), ih hrest (by omega), Nat.add_assoc]

/-- Where nothing decides before the patience is used up, nothing is found. -/
theorem searchItems_silent {staysOpen : Bool} {left past : Nat}
    (h : ∀ before r later, FirstDecisive accept items before r later → left < timeOf before) :
    (searchItems accept staysOpen left past items).result = .notFound ∧
      (searchItems accept staysOpen left past items).elapsed =
        past + if staysOpen then left else min left (timeOf items) := by
  induction items generalizing left past with
  | nil => cases staysOpen <;> simp [searchItems]
  | cons i items ih =>
      cases i with
      | frame text =>
          cases haccept : accept text with
          | true =>
              have hnow := h [] .found items (.accepted text items rfl (by simp) haccept)
              exact absurd hnow (Nat.not_lt_zero _)
          | false =>
              have hrest := @ih left past fun before r later hfirst => by
                simpa [LogItem.duration] using h _ r later (hfirst.cons (i := .frame text) haccept)
              rw [searchItems, haccept, if_neg Bool.false_ne_true]
              simpa [LogItem.duration] using hrest
      | failure e =>
          have hnow := h [] (.failed e) items (.failure e items rfl (by simp))
          exact absurd hnow (Nat.not_lt_zero _)
      | wait d =>
          have hlater : ∀ before r later, FirstDecisive accept items before r later →
              left < d + timeOf before := fun before r later hfirst =>
            h _ r later (hfirst.cons (i := .wait d) trivial)
          simp only [timeOf_cons, LogItem.duration]
          rw [searchItems]
          split
          · next hd =>
              subst hd
              simpa using @ih left past fun before r later hfirst => by
                simpa using hlater before r later hfirst
          split
          · next hd =>
              -- the patience ends in this wait
              refine ⟨rfl, ?_⟩
              rw [Nat.min_eq_left (Nat.le_add_right_of_le hd), ite_self]
          · next hd =>
              obtain ⟨hresult, helapsed⟩ := @ih (left - d) (past + d)
                fun before r later hfirst => by
                  have := hlater before r later hfirst
                  omega
              refine ⟨hresult, ?_⟩
              rw [helapsed]
              split <;> omega

/-- Predicates that agree on the frames of a stream search it alike. -/
theorem searchItems_congr {accept' : String → Bool} {staysOpen : Bool} {left past : Nat}
    (h : ∀ text, .frame text ∈ items → accept text = accept' text) :
    searchItems accept staysOpen left past items = searchItems accept' staysOpen left past items := by
  induction items generalizing left past with
  | nil => rfl
  | cons i items ih =>
      have hrest : ∀ text, .frame text ∈ items → accept text = accept' text :=
        fun text hmem => h text (List.mem_cons_of_mem i hmem)
      cases i with
      | wait d => simp only [searchItems, ih hrest]
      | frame text => simp only [searchItems, ih hrest, h text List.mem_cons_self]
      | failure e => rfl

/-- **What a search comes to.** -/
structure Decided (accept : String → Bool) (patience : Nat) (s : LogStream) (v : Search) : Prop where
  /-- An item that decides in time ends the search at its moment, and what stands behind it is not
  read. -/
  inTime : ∀ before r later, FirstDecisive accept s.items before r later →
    timeOf before < patience → v = ⟨r, timeOf before, later⟩
  /-- Where nothing decides in time, nothing is found; the search ends with the stream, if this ends
  in time, and else with the patience. -/
  silent : (∀ before r later, FirstDecisive accept s.items before r later →
      patience < timeOf before) →
    v.result = .notFound ∧
      v.elapsed = if s.staysOpen then patience else min patience (timeOf s.items)
  /-- Only an item that decides, and does not come too late, makes a search find or fail. -/
  heard : v.result ≠ .notFound →
    ∃ before r later, FirstDecisive accept s.items before r later ∧ timeOf before ≤ patience

theorem search_decided (accept : String → Bool) (patience : Nat) (s : LogStream) :
    s.Decided accept patience (s.search accept patience) where
  inTime before r later hfirst hin := by
    rw [search, searchItems_inTime hfirst hin, Nat.zero_add]
  silent h := by
    obtain ⟨hresult, helapsed⟩ := @searchItems_silent accept s.items s.staysOpen patience 0 h
    exact ⟨hresult, helapsed.trans (Nat.zero_add _)⟩
  heard hresult := by
    by_contra hnone
    refine hresult (searchItems_silent fun before r later hfirst => ?_).1
    exact Nat.lt_of_not_le fun hle => hnone ⟨before, r, later, hfirst, hle⟩

/-- **Frames are judged one at a time**: predicates that agree on the frames of a stream search it
alike, whatever they say of frames put together. -/
theorem search_congr {accept' : String → Bool} {s : LogStream}
    (h : ∀ text, .frame text ∈ s.items → accept text = accept' text) (patience : Nat) :
    s.search accept patience = s.search accept' patience := searchItems_congr h

end LogStream

/-! ### Following a log -/

/-- What the result of a search is as the result of an operation. -/
def SearchResult.outcome : SearchResult → Except OperationError Bool
  | .found => .ok true
  | .notFound => .ok false
  | .failed e => .error e

/-- What is done behind a search: its time passes, and a match is counted. -/
def Search.deeds (v : Search) : List Deed :=
  ⟨.sleep v.elapsed, ()⟩ :: if v.result = .found then [⟨.count .logMatch, ()⟩] else []

variable {id text : String} {accept : String → Bool} {patience : Nat} {ds : List Deed}
  {o : Except OperationError Bool}

/-- **Following a log is searching its stream**, whatever stream the log is. -/
theorem does_followLog :
    (followLog id accept patience).run.Does ds (.done o) ↔
      ∃ stream : LogStream, ds = ⟨.log id true, stream⟩ :: (stream.search accept patience).deeds ∧
        o = (stream.search accept patience).result.outcome := by
  unfold followLog
  rw [Operation.run_act_bind]
  constructor
  · intro h
    obtain ⟨stream, ds₁, rfl, hslept⟩ := h.ends_of_act
    obtain ⟨u, ds₂, rfl, hrest⟩ := hslept.ends_of_act
    refine ⟨stream, ?_⟩
    unfold Search.deeds
    cases hresult : (stream.search accept patience).result with
    | found =>
        rw [hresult] at hrest
        obtain ⟨u, ds₃, rfl, hdone⟩ := hrest.ends_of_act
        obtain ⟨rfl, hend⟩ := Script.does_done.1 hdone
        exact ⟨rfl, Script.done.inj hend⟩
    | notFound =>
        rw [hresult] at hrest
        obtain ⟨rfl, hend⟩ := Script.does_done.1 hrest
        exact ⟨rfl, Script.done.inj hend⟩
    | failed e =>
        rw [hresult] at hrest
        obtain ⟨rfl, hend⟩ := Script.does_done.1 hrest
        exact ⟨rfl, Script.done.inj hend⟩
  · rintro ⟨stream, rfl, rfl⟩
    refine Script.Does.cons (x := .log id true) stream ?_
    refine Script.Does.cons (x := .sleep _) () ?_
    cases (stream.search accept patience).result with
    | found => exact Script.Does.cons (x := .count .logMatch) () (.nil _)
    | notFound => exact .nil _
    | failed e => exact .nil _

/-- A text that is no pattern is reported before anything is done. -/
theorem run_searchLog_of_none (h : Pattern.parse? text = none) :
    (searchLog id text patience).run =
      .done (.error (.invalidPattern text "the text is no pattern")) := by
  unfold searchLog readPattern
  rw [h, Operation.run_ofExcept_bind]
  rfl

/-- **A search of a log finds something exactly when a match comes first.**  A text that is no
pattern is reported, and no log is opened.  A text that is one has the log followed with it, and
following a log opens it once and searches its stream, whatever predicate the frames have to meet:
the first frame that is accepted, or the first error, ends the search if it comes in time, and what
stands behind it is not read; where nothing decides in time, nothing is found.  No two frames are
put together. -/
theorem searchLog_first_decisive (id text : String) (patience : Nat) :
    (Pattern.parse? text = none → ∃ reason,
      (searchLog id text patience).run = .done (.error (.invalidPattern text reason))) ∧
    (∀ p, Pattern.parse? text = some p →
      searchLog id text patience = followLog id p.isMatch patience) ∧
    ∀ accept : String → Bool,
      (∀ ds o, (followLog id accept patience).run.Does ds (.done o) ↔ ∃ stream : LogStream,
        ds = ⟨.log id true, stream⟩ :: (stream.search accept patience).deeds ∧
        o = (stream.search accept patience).result.outcome) ∧
      ∀ stream : LogStream, stream.Decided accept patience (stream.search accept patience) ∧
        ∀ accept', (∀ frame, .frame frame ∈ stream.items → accept frame = accept' frame) →
          stream.search accept patience = stream.search accept' patience := by
  refine ⟨fun hnone => ⟨_, run_searchLog_of_none hnone⟩, fun p hp => ?_,
    fun accept => ⟨fun ds o => does_followLog, ?_⟩⟩
  · unfold searchLog readPattern
    rw [hp]
    rfl
  · exact fun stream => ⟨stream.search_decided accept patience,
      fun accept' h => stream.search_congr h patience⟩

/-- A log in which a block is sealed before the connection breaks. -/
def sealingLog : LogStream where
  items := [.frame "starting", .wait 3, .frame "sealed 5", .failure (.connection "reset")]
  staysOpen := true

theorem searchLog_first_decisive_of_sealed :
    (Pattern.parse? "sealed").isSome = true ∧
    (searchLog "c" "sealed" 10).run.Does
      [⟨.log "c" true, sealingLog⟩, ⟨.sleep 3, ()⟩, ⟨.count .logMatch, ()⟩] (.done (.ok true)) := by
  have hsome : (Pattern.parse? "sealed").isSome = true := by decide +kernel
  refine ⟨hsome, ?_⟩
  obtain ⟨p, hp⟩ := Option.isSome_iff_exists.1 hsome
  have hmatch : ((Pattern.parse? "sealed").map fun p =>
      (p.isMatch "starting", p.isMatch "sealed 5")) = some (false, true) := by decide +kernel
  rw [hp] at hmatch
  obtain ⟨hstarting, hsealed⟩ := Prod.mk.inj (Option.some.inj hmatch)
  obtain ⟨-, hfollow, hall⟩ := searchLog_first_decisive "c" "sealed" 10
  obtain ⟨hdoes, hstream⟩ := hall p.isMatch
  have hsearch := (hstream sealingLog).1.inTime [.frame "starting", .wait 3] .found _
    (.accepted "sealed 5" _ rfl (by simpa [LogItem.Passes] using hstarting) hsealed) (by decide)
  rw [hfollow p hp, hdoes]
  refine ⟨sealingLog, ?_, ?_⟩
  · rw [hsearch]
    rfl
  · rw [hsearch]
    rfl

end Testbed
