/-
**Histories of runs.**

A history interleaves what the threads did.  Taken apart by threads it shows that each of them goes
its own way: what is left of a thread is what its own deeds lead to, whatever stands between them.
An ensemble that waits for every script that it starts has ended only when all of them have.

Main definitions:

* `Testbed.Ensemble.Does` — the moves that lead from an ensemble to what is left of it;
* `Testbed.History.of`, `Testbed.History.deedsOf` — what one thread did;
* `Testbed.History.collect`, `Testbed.History.exchanges` — what the deeds of a history yield, and
  its exchanges with the runtime;
* `Testbed.Threads.Explained` — **threads that are what their own deeds lead to**;
* `Testbed.Ensemble.Settles`, `Testbed.Ensemble.Affords` — an ensemble that waits for all scripts,
  and one that waits only for scripts that it has started.

Main results:

* `Testbed.History.collect_perm` — histories in which each thread yields the same yield the same;
* `Testbed.Threads.Run.explained` — every run explains its threads;
* `Testbed.Threads.Explained.ended` — **at the end of an ensemble all its scripts have ended**;
* `Testbed.Threads.Run.goesOn`, `Testbed.Threads.Run.completes` — every run can go on to the end.
-/

import Testbed.Proofs.Script.Runs

set_option relaxedAutoImplicit false
set_option autoImplicit false

namespace Testbed

/-! ### Moves of one thread -/

namespace Move

variable {τ : Type}

/-- The deed of a move, if it is one. -/
@[simp] def deed? : Move τ → Option Deed
  | .deed d => some d
  | .fork _ => none
  | .join _ => none

/-- The script that a move starts. -/
@[simp] def fork? : Move τ → Option (Script τ)
  | .deed _ => none
  | .fork s => some s
  | .join _ => none

/-- The result that a move learns. -/
@[simp] def join? : Move τ → Option τ
  | .deed _ => none
  | .fork _ => none
  | .join r => some r

end Move

namespace Ensemble

variable {τ α β : Type}

/-- `e.Does ms e'` says that the moves `ms` lead from the ensemble `e` to the ensemble `e'`. -/
inductive Does : Ensemble τ α → List (Move τ) → Ensemble τ α → Prop
  | nil (e : Ensemble τ α) : Does e [] e
  | act {x : Action} {next : x.Answer → Ensemble τ α} (a : x.Answer) {ms : List (Move τ)}
      {e : Ensemble τ α} : Does (next a) ms e → Does (.act x next) (.deed ⟨x, a⟩ :: ms) e
  | fork {s : Script τ} {next : Ensemble τ α} {ms : List (Move τ)} {e : Ensemble τ α} :
      Does next ms e → Does (.fork s next) (.fork s :: ms) e
  | join {next : τ → Ensemble τ α} (r : τ) {ms : List (Move τ)} {e : Ensemble τ α} :
      Does (next r) ms e → Does (.join next) (.join r :: ms) e

theorem Does.trans {e e' e'' : Ensemble τ α} {ms ns : List (Move τ)} (h : Does e ms e')
    (h' : Does e' ns e'') : Does e (ms ++ ns) e'' := by
  induction h with
  | nil e => exact h'
  | act a _ ih => exact .act a (ih h')
  | fork _ ih => exact .fork (ih h')
  | join r _ ih => exact .join r (ih h')

@[simp] theorem does_done {a : α} {ms : List (Move τ)} {e : Ensemble τ α} :
    Does (.done a) ms e ↔ ms = [] ∧ e = .done a := by
  constructor
  · intro h
    cases h
    exact ⟨rfl, rfl⟩
  · rintro ⟨rfl, rfl⟩
    exact .nil _

theorem does_act {x : Action} {next : x.Answer → Ensemble τ α} {ms : List (Move τ)}
    {e : Ensemble τ α} :
    Does (.act x next) ms e ↔
      (ms = [] ∧ e = .act x next) ∨ ∃ a ms', ms = .deed ⟨x, a⟩ :: ms' ∧ Does (next a) ms' e := by
  constructor
  · intro h
    cases h with
    | nil => exact .inl ⟨rfl, rfl⟩
    | act a h => exact .inr ⟨a, _, rfl, h⟩
  · rintro (⟨rfl, rfl⟩ | ⟨a, ms', rfl, h⟩)
    · exact .nil _
    · exact .act a h

/-- Is every action that an ensemble or a script of it may come to of some kind? -/
def Within (P : Action → Prop) : Ensemble τ α → Prop
  | .done _ => True
  | .act x next => P x ∧ ∀ a, (next a).Within P
  | .fork s next => s.Within P ∧ next.Within P
  | .join next => ∀ r, (next r).Within P

theorem Within.mono {P Q : Action → Prop} (hPQ : ∀ x, P x → Q x) {e : Ensemble τ α}
    (h : e.Within P) : e.Within Q := by
  induction e with
  | done a => trivial
  | act x next ih => exact ⟨hPQ x h.1, fun a => ih a (h.2 a)⟩
  | fork s next ih => exact ⟨h.1.mono hPQ, ih h.2⟩
  | join next ih => exact fun r => ih r (h r)

theorem Within.bind {P : Action → Prop} {e : Ensemble τ α} {f : α → Ensemble τ β}
    (he : e.Within P) (hf : ∀ a, (f a).Within P) : (e.bind f).Within P := by
  induction e with
  | done a => exact hf a
  | act x next ih => exact ⟨he.1, fun a => ih a (he.2 a)⟩
  | fork s next ih => exact ⟨he.1, ih he.2⟩
  | join next ih => exact fun r => ih r (he r)

theorem Within.ofScript {P : Action → Prop} {s : Script α} (hs : s.Within P) :
    (Ensemble.ofScript s : Ensemble τ α).Within P := by
  induction s with
  | done a => trivial
  | act x next ih => exact ⟨hs.1, fun a => ih a (hs.2 a)⟩

/-- What an ensemble starts and what it does itself is of the same kind. -/
theorem Within.of_does {P : Action → Prop} {e e' : Ensemble τ α} {ms : List (Move τ)}
    (he : e.Within P) (h : Does e ms e') :
    (∀ d ∈ ms.filterMap Move.deed?, P d.action) ∧ ∀ s ∈ ms.filterMap Move.fork?, s.Within P := by
  induction h with
  | nil e => exact ⟨by simp, by simp⟩
  | act a _ ih =>
      obtain ⟨hd, hs⟩ := ih (he.2 a)
      exact ⟨List.forall_mem_cons.2 ⟨he.1, hd⟩, hs⟩
  | fork _ ih =>
      obtain ⟨hd, hs⟩ := ih he.2
      exact ⟨hd, List.forall_mem_cons.2 ⟨he.1, hs⟩⟩
  | join r _ ih =>
      obtain ⟨hd, hs⟩ := ih (he r)
      exact ⟨hd, hs⟩

/-! ### Waiting for everything -/

/-- Does an ensemble, with so many scripts not waited for, wait for these and all that it starts? -/
def Settles : Nat → Ensemble τ α → Prop
  | n, .done _ => n = 0
  | n, .act _ next => ∀ a, Settles n (next a)
  | n, .fork _ next => Settles (n + 1) next
  | 0, .join _ => False
  | n + 1, .join next => ∀ r, Settles n (next r)

/-- Does an ensemble, with so many scripts not waited for, wait only for scripts that it has
started, and leave so many of them behind at its end as `P` allows? -/
def Leaves (P : Nat → Prop) : Nat → Ensemble τ α → Prop
  | n, .done _ => P n
  | n, .act _ next => ∀ a, Leaves P n (next a)
  | n, .fork _ next => Leaves P (n + 1) next
  | 0, .join _ => False
  | n + 1, .join next => ∀ r, Leaves P n (next r)

/-- Does an ensemble wait only for scripts that it has started?  It need not wait for all of
them. -/
abbrev Affords (n : Nat) (e : Ensemble τ α) : Prop := Leaves (fun _ => True) n e

theorem settles_iff_leaves {n : Nat} {e : Ensemble τ α} :
    Settles n e ↔ Leaves (· = 0) n e := by
  induction e generalizing n with
  | done a => exact .rfl
  | act x next ih => exact forall_congr' fun a => ih a
  | fork s next ih => exact ih (n := n + 1)
  | join next ih =>
      cases n with
      | zero => exact .rfl
      | succ n => exact forall_congr' fun r => ih r

theorem Leaves.mono {P Q : Nat → Prop} (hPQ : ∀ n, P n → Q n) {n : Nat} {e : Ensemble τ α}
    (he : Leaves P n e) : Leaves Q n e := by
  induction e generalizing n with
  | done a => exact hPQ n he
  | act x next ih => exact fun a => ih a (he a)
  | fork s next ih => exact ih (n := n + 1) he
  | join next ih =>
      cases n with
      | zero => exact he.elim
      | succ n => exact fun r => ih r (he r)

theorem Leaves.bind {P Q : Nat → Prop} {n : Nat} {e : Ensemble τ α} {f : α → Ensemble τ β}
    (he : Leaves P n e) (hf : ∀ k a, P k → Leaves Q k (f a)) : Leaves Q n (e.bind f) := by
  induction e generalizing n with
  | done a => exact hf n a he
  | act x next ih => exact fun a => ih a (he a)
  | fork s next ih => exact ih (n := n + 1) he
  | join next ih =>
      cases n with
      | zero => exact he.elim
      | succ n => exact fun r => ih r (he r)

/-- A script waits for nothing. -/
theorem leaves_ofScript {P : Nat → Prop} {n : Nat} (hn : P n) (s : Script α) :
    Leaves P n (ofScript s : Ensemble τ α) := by
  induction s with
  | done a => exact hn
  | act x next ih => exact fun a => ih a

/-- Moves of an ensemble keep the balance of scripts started and scripts waited for. -/
theorem Leaves.of_does {P : Nat → Prop} {n : Nat} {e e' : Ensemble τ α} {ms : List (Move τ)}
    (he : Leaves P n e) (h : Does e ms e') :
    ∃ k, Leaves P k e' ∧
      n + (ms.filterMap Move.fork?).length = k + (ms.filterMap Move.join?).length := by
  induction h generalizing n with
  | nil e => exact ⟨n, he, by simp⟩
  | act a _ ih => exact ih (he a)
  | @fork s next ms e _ ih =>
      obtain ⟨k, hk, hn⟩ := ih (n := n + 1) he
      refine ⟨k, hk, ?_⟩
      simp only [List.filterMap_cons, Move.fork?, Move.join?, List.length_cons]
      omega
  | @join next r ms e _ ih =>
      cases n with
      | zero => exact he.elim
      | succ n =>
          obtain ⟨k, hk, hn⟩ := ih (he r)
          refine ⟨k, hk, ?_⟩
          simp only [List.filterMap_cons, Move.fork?, Move.join?, List.length_cons]
          omega

theorem Settles.bind {n : Nat} {e : Ensemble τ α} {f : α → Ensemble τ β} (he : Settles n e)
    (hf : ∀ a, Settles 0 (f a)) : Settles n (e.bind f) := by
  refine settles_iff_leaves.2 ((settles_iff_leaves.1 he).bind fun k a hk => ?_)
  subst hk
  exact settles_iff_leaves.1 (hf a)

theorem settles_ofScript (s : Script α) : Settles 0 (ofScript s : Ensemble τ α) :=
  settles_iff_leaves.2 (leaves_ofScript (P := (· = 0)) rfl s)

theorem Settles.affords {n : Nat} {e : Ensemble τ α} (he : Settles n e) : Affords n e :=
  (settles_iff_leaves.1 he).mono fun _ _ => trivial

end Ensemble

/-! ### Histories taken apart -/

namespace History

variable {τ : Type}

/-- The moves of one thread. -/
def of (who : Thread) (ms : History τ) : List (Move τ) :=
  ms.filterMap fun m => if m.1 = who then some m.2 else none

/-- The deeds of one thread. -/
def deedsOf (who : Thread) (ms : History τ) : List Deed := (ms.of who).filterMap Move.deed?

/-- The scripts that were started, in order. -/
def started (ms : History τ) : List (Script τ) := (ms.of .lead).filterMap Move.fork?

/-- The results that were waited for, in order. -/
def results (ms : History τ) : List τ := (ms.of .lead).filterMap Move.join?

@[simp] theorem of_nil (who : Thread) : of who ([] : History τ) = [] := rfl

@[simp] theorem of_append (who : Thread) (ms ns : History τ) :
    of who (ms ++ ns) = of who ms ++ of who ns := List.filterMap_append

@[simp] theorem of_single (who : Thread) (m : Thread × Move τ) :
    of who [m] = if m.1 = who then [m.2] else [] := by
  by_cases h : m.1 = who <;> simp [of, h]

@[simp] theorem deedsOf_append (who : Thread) (ms ns : History τ) :
    deedsOf who (ms ++ ns) = deedsOf who ms ++ deedsOf who ns := by simp [deedsOf]

@[simp] theorem deedsOf_single (who : Thread) (m : Thread × Move τ) :
    deedsOf who [m] = if m.1 = who then m.2.deed?.toList else [] := by
  obtain ⟨who', m⟩ := m
  by_cases h : who' = who <;> cases m <;> simp [deedsOf, h]

@[simp] theorem started_append (ms ns : History τ) :
    started (ms ++ ns) = started ms ++ started ns := by simp [started]

@[simp] theorem started_single (m : Thread × Move τ) :
    started [m] = if m.1 = .lead then m.2.fork?.toList else [] := by
  obtain ⟨who, m⟩ := m
  by_cases h : who = .lead <;> cases m <;> simp [started, h]

@[simp] theorem results_append (ms ns : History τ) :
    results (ms ++ ns) = results ms ++ results ns := by simp [results]

@[simp] theorem results_single (m : Thread × Move τ) :
    results [m] = if m.1 = .lead then m.2.join?.toList else [] := by
  obtain ⟨who, m⟩ := m
  by_cases h : who = .lead <;> cases m <;> simp [results, h]

theorem mem_deedsOf {who : Thread} {ms : History τ} {d : Deed} :
    d ∈ ms.deedsOf who ↔ (who, .deed d) ∈ ms := by
  constructor
  · intro h
    obtain ⟨m, hm, hd⟩ := List.mem_filterMap.1 h
    obtain ⟨⟨who', m'⟩, hmem, hm'⟩ := List.mem_filterMap.1 hm
    cases m with
    | deed d' =>
        simp only [Move.deed?, Option.some.injEq] at hd
        split at hm'
        · rename_i hw
          simp only [Option.some.injEq] at hm'
          rwa [← hd, ← hm', ← hw]
        · simp at hm'
    | fork s => simp [Move.deed?] at hd
    | join r => simp [Move.deed?] at hd
  · intro h
    exact List.mem_filterMap.2 ⟨.deed d, List.mem_filterMap.2 ⟨_, h, by simp⟩, rfl⟩

end History

/-! ### Collecting from histories -/

namespace History

variable {τ σ β : Type}

/-- What the deeds of a history yield, in order. -/
def collect (f : Thread → Deed → Option β) (ms : History τ) : List β :=
  ms.filterMap fun m => m.2.deed?.bind (f m.1)

@[simp] theorem collect_nil (f : Thread → Deed → Option β) : collect f ([] : History τ) = [] := rfl

@[simp] theorem collect_append (f : Thread → Deed → Option β) (ms ns : History τ) :
    collect f (ms ++ ns) = collect f ms ++ collect f ns := List.filterMap_append

theorem collect_cons (f : Thread → Deed → Option β) (m : Thread × Move τ) (ms : History τ) :
    collect f (m :: ms) = (m.2.deed?.bind (f m.1)).toList ++ collect f ms := by
  unfold collect
  rw [List.filterMap_cons]
  cases m.2.deed?.bind (f m.1) <;> rfl

theorem mem_collect {f : Thread → Deed → Option β} {ms : History τ} {b : β} :
    b ∈ ms.collect f ↔ ∃ who d, (who, .deed d) ∈ ms ∧ f who d = some b := by
  constructor
  · intro h
    obtain ⟨⟨who, m⟩, hm, hb⟩ := List.mem_filterMap.1 h
    obtain ⟨d, hd, hfd⟩ := Option.bind_eq_some_iff.1 hb
    cases m with
    | deed d' =>
        obtain rfl : d' = d := Option.some.inj hd
        exact ⟨who, d', hm, hfd⟩
    | fork s => cases hd
    | join r => cases hd
  · rintro ⟨who, d, hm, hfd⟩
    exact List.mem_filterMap.2 ⟨_, hm, hfd⟩

/-- A history without what one thread did. -/
def without (who : Thread) (ms : History τ) : History τ := ms.filter fun m => decide (m.1 ≠ who)

theorem deedsOf_cons (who : Thread) (m : Thread × Move τ) (ms : History τ) :
    deedsOf who (m :: ms) = deedsOf who [m] ++ deedsOf who ms := deedsOf_append who [m] ms

theorem without_cons_of_eq {who : Thread} {m : Thread × Move τ} (h : m.1 = who) (ms : History τ) :
    without who (m :: ms) = without who ms := List.filter_cons_of_neg (by simp [h])

theorem without_cons_of_ne {who : Thread} {m : Thread × Move τ} (h : m.1 ≠ who) (ms : History τ) :
    without who (m :: ms) = m :: without who ms := List.filter_cons_of_pos (by simp [h])

theorem deedsOf_without (who v : Thread) (ms : History τ) :
    deedsOf v (ms.without who) = if v = who then [] else deedsOf v ms := by
  induction ms with
  | nil => simp [without, deedsOf]
  | cons m ms ih =>
      by_cases hm : m.1 = who
      · rw [without_cons_of_eq hm, ih, deedsOf_cons]
        by_cases hv : v = who
        · simp [hv]
        · have hmv : m.1 ≠ v := fun h => hv (h.symm.trans hm)
          simp [hv, hmv]
      · rw [without_cons_of_ne hm, deedsOf_cons, ih, deedsOf_cons v m ms]
        by_cases hv : v = who
        · simp [hv, hm]
        · simp [hv]

/-- What a history yields is what one thread yields and what all others yield, in some order. -/
theorem collect_split (f : Thread → Deed → Option β) (who : Thread) (ms : History τ) :
    ((ms.deedsOf who).filterMap (f who) ++ (ms.without who).collect f).Perm (ms.collect f) := by
  induction ms with
  | nil => exact .nil
  | cons m ms ih =>
      have hcollect : collect f (m :: ms) = collect f [m] ++ collect f ms :=
        collect_append f [m] ms
      by_cases hm : m.1 = who
      · have hone : (deedsOf who [m]).filterMap (f who) = collect f [m] := by
          obtain ⟨who', m⟩ := m
          obtain rfl : who' = who := hm
          cases m <;> simp [collect, List.filterMap_cons]
        rw [without_cons_of_eq hm, hcollect, deedsOf_cons, List.filterMap_append, hone,
          List.append_assoc]
        exact ih.append_left _
      · have hrest : collect f (m :: without who ms) =
            collect f [m] ++ collect f (without who ms) := collect_append f [m] _
        rw [without_cons_of_ne hm, hcollect, hrest, deedsOf_cons]
        simp only [deedsOf_single, hm, if_false, List.nil_append]
        refine .trans ?_ (ih.append_left _)
        rw [← List.append_assoc, ← List.append_assoc]
        exact List.perm_append_comm.append_right _

theorem length_without_lt {m : Thread × Move τ} {ms : History τ} (h : m ∈ ms) :
    (without m.1 ms).length < ms.length :=
  List.length_filter_lt_length_iff_exists.2 ⟨m, h, by simp⟩

/-- **Histories in which each thread yields the same yield the same**, in some order. -/
theorem collect_perm {f g : Thread → Deed → Option β} {ms : History τ} {ns : History σ}
    (h : ∀ who, ((ms.deedsOf who).filterMap (f who)).Perm ((ns.deedsOf who).filterMap (g who))) :
    (ms.collect f).Perm (ns.collect g) := by
  -- induction on the length of both histories: one thread is taken out of both
  generalize hn : ms.length + ns.length = n
  induction n using Nat.strongRecOn generalizing ms ns with
  | _ n ih =>
      have step : ∀ who, (ms.without who).length + (ns.without who).length < n →
          (ms.collect f).Perm (ns.collect g) := by
        intro who hlt
        have hrest : ((ms.without who).collect f).Perm ((ns.without who).collect g) := by
          refine ih _ hlt (fun v => ?_) rfl
          rw [deedsOf_without, deedsOf_without]
          by_cases hv : v = who
          · simp [hv]
          · simpa [hv] using h v
        exact (collect_split f who ms).symm.trans
          (((h who).append hrest).trans (collect_split g who ns))
      have hms : ∀ who, (ms.without who).length ≤ ms.length := fun who => List.length_filter_le ..
      have hns : ∀ who, (ns.without who).length ≤ ns.length := fun who => List.length_filter_le ..
      cases ms with
      | cons m ms =>
          have := length_without_lt (List.mem_cons_self : m ∈ m :: ms)
          have := hns m.1
          exact step m.1 (by omega)
      | nil =>
          cases ns with
          | nil => exact .nil
          | cons m ns =>
              have := length_without_lt (List.mem_cons_self : m ∈ m :: ns)
              have := hms m.1
              exact step m.1 (by omega)

/-- **What a history yields is what its scripts yield**, one after the other, in some order. -/
theorem collect_perm_scripts (f : Thread → Deed → Option β) {n : Nat} {ms : History τ}
    (h : ∀ who d, (who, .deed d) ∈ ms → ∃ i, who = .script i ∧ i < n) :
    (ms.collect f).Perm
      ((List.range n).flatMap fun i => (ms.deedsOf (.script i)).filterMap (f (.script i))) := by
  -- induction on the number of scripts: the last one is taken out of the history
  induction n generalizing ms with
  | zero =>
      have hnone : ms.collect f = [] := List.eq_nil_iff_forall_not_mem.2 fun b hb => by
        obtain ⟨who, d, hd, -⟩ := mem_collect.1 hb
        obtain ⟨i, -, hi⟩ := h who d hd
        omega
      rw [hnone]
      exact .nil
  | succ n ih =>
      have hrest : ∀ who d, (who, .deed d) ∈ ms.without (.script n) →
          ∃ i, who = .script i ∧ i < n := by
        intro who d hd
        obtain ⟨hd, hne⟩ := List.mem_filter.1 hd
        obtain ⟨i, rfl, hi⟩ := h who d hd
        have hin : i ≠ n := fun hin => by simp [hin] at hne
        exact ⟨i, rfl, by omega⟩
      have hothers : ((List.range n).flatMap fun i =>
            ((ms.without (.script n)).deedsOf (.script i)).filterMap (f (.script i))) =
          (List.range n).flatMap fun i => (ms.deedsOf (.script i)).filterMap (f (.script i)) := by
        rw [List.flatMap_def, List.flatMap_def]
        refine congrArg List.flatten (List.map_congr_left fun i hi => ?_)
        have hin : i ≠ n := Nat.ne_of_lt (List.mem_range.1 hi)
        rw [deedsOf_without, if_neg (by simpa using hin)]
      have hperm := ih hrest
      rw [hothers] at hperm
      rw [List.range_succ, List.flatMap_append]
      refine (collect_split f (.script n) ms).symm.trans ?_
      refine List.perm_append_comm.trans (hperm.append ?_)
      simp

/-! ### Exchanges of all threads -/

/-- The exchanges with the runtime in a history, whatever thread made them. -/
def exchanges (ms : History τ) : List Exchange := ms.collect fun _ d => d.exchange?

theorem mem_exchanges {ms : History τ} {x : Exchange} :
    x ∈ ms.exchanges ↔ ∃ who, (who, .deed ⟨.call x.call, x.answer⟩) ∈ ms := by
  simp only [exchanges, mem_collect, Deed.exchange?_eq_some_iff, exists_eq_right]

theorem mem_exchanges_deedsOf {ms : History τ} {who : Thread} {x : Exchange} :
    x ∈ Testbed.exchanges (ms.deedsOf who) ↔ (who, .deed ⟨.call x.call, x.answer⟩) ∈ ms :=
  Testbed.mem_exchanges.trans mem_deedsOf

end History

/-! ### Threads explained -/

namespace Threads

variable {τ α W : Type} {p : Performer W}

/-- **Threads that are what their own deeds lead to**, after a history of the ensemble `e`. -/
structure Explained (e : Ensemble τ α) (ms : History τ) (t : Threads τ α) : Prop where
  /-- The leading thread is where its moves lead. -/
  lead : e.Does (ms.of .lead) t.lead
  /-- There is a script for each that was started. -/
  length_scripts : t.scripts.length = ms.started.length
  /-- Each script is where its deeds lead. -/
  scripts : ∀ (i : Nat) (s : Script τ), ms.started[i]? = some s →
    ∃ s', t.scripts[i]? = some s' ∧ s.Does (ms.deedsOf (.script i)) s'
  /-- A script that was not started has done nothing. -/
  idle : ∀ i, ms.started.length ≤ i → ms.deedsOf (.script i) = []
  joined : t.joined = ms.results.length
  /-- What was waited for has ended with the result that was learnt. -/
  results : ∀ (i : Nat) (r : τ), ms.results[i]? = some r → t.scripts[i]? = some (.done r)

theorem Explained.begin (e : Ensemble τ α) : Explained e [] (.ofEnsemble e) where
  lead := .nil _
  length_scripts := rfl
  scripts := by simp [History.started]
  idle := by simp [History.deedsOf]
  joined := rfl
  results := by simp [History.results]

theorem Explained.step {e : Ensemble τ α} {ms : History τ} {t t' : Threads τ α} {w w' : W}
    {m : Thread × Move τ} (h : Explained e ms t) (hs : Step p t w m t' w') :
    Explained e (ms ++ [m]) t' := by
  cases hs with
  | leadAct x next ss k =>
      refine ⟨?_, ?_, ?_, ?_, ?_, ?_⟩
      · simpa using h.lead.trans (.act _ (.nil _))
      · simpa using h.length_scripts
      · simpa using h.scripts
      · simpa using h.idle
      · simpa using h.joined
      · simpa using h.results
  | leadFork s next ss k =>
      have hlen : ss.length = ms.started.length := h.length_scripts
      refine ⟨?_, ?_, ?_, ?_, ?_, ?_⟩
      · simpa using h.lead.trans (.fork (.nil _))
      · simp [hlen]
      · -- of the scripts only the new one is not covered by the history before
        intro i s' hi
        simp only [History.started_append, History.started_single, if_true, Move.fork?,
          Option.toList_some] at hi
        rcases Nat.lt_trichotomy i ms.started.length with hlt | rfl | hgt
        · rw [List.getElem?_append_left hlt] at hi
          obtain ⟨s'', hs'', hd⟩ := h.scripts i s' hi
          refine ⟨s'', ?_, by simpa using hd⟩
          rw [List.getElem?_append_left (by omega)]
          exact hs''
        · -- the script that was just started
          obtain rfl : s = s' := by simpa using hi
          refine ⟨s, by simp [← hlen], ?_⟩
          simp [h.idle _ (Nat.le_refl _)]
        · rw [List.getElem?_eq_none (by simp; omega)] at hi
          cases hi
      · intro i hi
        simp only [History.started_append, List.length_append] at hi
        simpa using h.idle i (by omega)
      · simpa using h.joined
      · intro i r hi
        have hr := h.results i r (by simpa using hi)
        have hlt := (List.getElem?_eq_some_iff.1 hr).1
        rw [List.getElem?_append_left hlt]
        exact hr
  | leadJoin next ss k r _ ended =>
      have hk : k = ms.results.length := h.joined
      refine ⟨?_, ?_, ?_, ?_, ?_, ?_⟩
      · simpa using h.lead.trans (.join _ (.nil _))
      · simpa using h.length_scripts
      · simpa using h.scripts
      · simpa using h.idle
      · simp [hk]
      · intro i r' hi
        simp only [History.results_append, History.results_single, if_true, Move.join?,
          Option.toList_some] at hi
        rcases Nat.lt_trichotomy i ms.results.length with hlt | rfl | hgt
        · rw [List.getElem?_append_left hlt] at hi
          exact h.results i r' hi
        · obtain rfl : r = r' := by simpa using hi
          rw [← hk]
          exact ended
        · rw [List.getElem?_eq_none (by simp; omega)] at hi
          cases hi
  | scriptAct e' ss k i x next _ turn =>
      have hi : i < ss.length := (List.getElem?_eq_some_iff.1 turn).1
      refine ⟨?_, ?_, ?_, ?_, ?_, ?_⟩
      · simpa using h.lead
      · simpa using h.length_scripts
      · -- the script that acts is one deed further, the others stand where they stood
        intro j s hj
        obtain ⟨s', hs', hd⟩ := h.scripts j s (by simpa using hj)
        by_cases hji : j = i
        · subst hji
          obtain rfl : s' = .act x next := Option.some.inj (hs'.symm.trans turn)
          exact ⟨_, List.getElem?_set_self hi, by simpa using hd.snoc _⟩
        · have hij : i ≠ j := fun hij => hji hij.symm
          refine ⟨s', ?_, by simpa [hij] using hd⟩
          rw [List.getElem?_set_ne hij]
          exact hs'
      · intro j hj
        have hj' : ms.started.length ≤ j := by simpa using hj
        have hlen : ss.length = ms.started.length := h.length_scripts
        have hij : i ≠ j := by omega
        simpa [hij] using h.idle j hj'
      · simpa using h.joined
      · -- what was waited for has ended, so it is not the script that acts
        intro j r hj
        have hr := h.results j r (by simpa using hj)
        have hij : i ≠ j := by
          rintro rfl
          cases hr.symm.trans turn
        rw [List.getElem?_set_ne hij]
        exact hr

/-- Every run explains its threads. -/
theorem Run.explained {e : Ensemble τ α} {ms : History τ} {t : Threads τ α} {w w' : W}
    (h : Run p (.ofEnsemble e) w ms t w') : Explained e ms t :=
  h.keeps (I := fun ms t _ => Explained e ms t) (fun hI hs => hI.step hs) (Explained.begin e)

namespace Explained

variable {e : Ensemble τ α} {ms : History τ} {t : Threads τ α}

/-- The script under an index comes from the one that was started there. -/
theorem of_script (h : Explained e ms t) {i : Nat} {s' : Script τ}
    (hi : t.scripts[i]? = some s') :
    ∃ s, ms.started[i]? = some s ∧ s.Does (ms.deedsOf (.script i)) s' := by
  have hlt : i < ms.started.length := by
    rw [← h.length_scripts]
    exact (List.getElem?_eq_some_iff.1 hi).1
  obtain ⟨s'', hs'', hd⟩ := h.scripts i _ (List.getElem?_eq_getElem hlt)
  obtain rfl : s'' = s' := Option.some.inj (hs''.symm.trans hi)
  exact ⟨_, List.getElem?_eq_getElem hlt, hd⟩

/-- **At the end of an ensemble all its scripts have ended**, with the results it has learnt. -/
theorem ended (h : Explained e ms t) (he : e.Settles 0) {a : α} (ht : t.lead = .done a) :
    t.scripts = ms.results.map .done := by
  obtain ⟨k, hk, hn⟩ := (Ensemble.settles_iff_leaves.1 he).of_does h.lead
  rw [ht] at hk
  obtain rfl : k = 0 := hk
  have hlen : t.scripts.length = ms.results.length := by
    have := h.length_scripts
    simp only [History.started, History.results] at *
    omega
  refine List.ext_getElem? fun i => ?_
  rcases Nat.lt_or_ge i ms.results.length with hi | hi
  · rw [h.results i _ (List.getElem?_eq_getElem hi)]
    simp [List.getElem?_eq_getElem hi]
  · rw [List.getElem?_eq_none (by omega), List.getElem?_eq_none (by simpa using hi)]

/-- Every deed of an explained history is of the kind of the ensemble. -/
theorem within (h : Explained e ms t) {P : Action → Prop} (he : e.Within P) {who : Thread}
    {d : Deed} (hd : (who, .deed d) ∈ ms) : P d.action := by
  obtain ⟨hlead, hscripts⟩ := he.of_does h.lead
  cases who with
  | lead => exact hlead d (History.mem_deedsOf.2 hd)
  | script i =>
      have hmem : d ∈ ms.deedsOf (.script i) := History.mem_deedsOf.2 hd
      rcases Nat.lt_or_ge i ms.started.length with hi | hi
      · obtain ⟨s', -, hdoes⟩ := h.scripts i _ (List.getElem?_eq_getElem hi)
        exact ((hscripts _ (List.getElem_mem hi)).of_does hdoes).2 d hmem
      · rw [h.idle i hi] at hmem
        simp at hmem

end Explained

/-! ### Going on to the end -/

/-- A script can be taken to its end while the other threads stand still. -/
theorem exists_run_script (e : Ensemble τ α) (k i : Nat) (s : Script τ) (ss : List (Script τ))
    (w : W) (hi : ss[i]? = some s) :
    ∃ ms r w', Run p ⟨e, ss, k⟩ w ms ⟨e, ss.set i (.done r), k⟩ w' := by
  induction s generalizing ss w with
  | done r =>
      obtain ⟨hlt, hget⟩ := List.getElem?_eq_some_iff.1 hi
      refine ⟨[], r, w, ?_⟩
      rw [← hget, List.set_getElem_self]
      exact .nil _ _
  | act x next ih =>
      have hlt : i < ss.length := (List.getElem?_eq_some_iff.1 hi).1
      obtain ⟨ms, r, w', h⟩ := ih (p x w).1 (ss.set i (next (p x w).1)) (p x w).2
        (List.getElem?_set_self hlt)
      rw [List.set_set] at h
      exact ⟨_, r, w', .cons (.scriptAct e ss k i x next w hi) h⟩

/-- Scripts behind some that have ended can all be taken to their ends while the leading thread
stands still. -/
theorem exists_run_scripts (e : Ensemble τ α) (rs : List τ) (ss : List (Script τ)) (k : Nat) (w : W) :
    ∃ (ms : History τ) (rs' : List τ) (w' : W),
      Run p ⟨e, rs.map .done ++ ss, k⟩ w ms ⟨e, rs'.map .done, k⟩ w' := by
  induction ss generalizing rs w with
  | nil =>
      refine ⟨[], rs, w, ?_⟩
      rw [List.append_nil]
      exact .nil _ _
  | cons s ss ih =>
      have hat : (rs.map .done ++ s :: ss)[rs.length]? = some s := by
        rw [List.getElem?_append_right (by simp), List.length_map, Nat.sub_self]
        rfl
      obtain ⟨ms, r, x, hone⟩ := exists_run_script (p := p) e k rs.length s _ w hat
      obtain ⟨ns, rs', w', hrest⟩ := ih (rs ++ [r]) x
      refine ⟨ms ++ ns, rs', w', hone.trans ?_⟩
      rw [List.set_append_right _ _ (by simp), List.length_map, Nat.sub_self]
      simpa using hrest

/-- Threads whose leader waits only for scripts that it has started can go on to the end. -/
theorem exists_run_done (e : Ensemble τ α) (ss : List (Script τ)) (k : Nat) (w : W)
    (hk : k ≤ ss.length) (he : e.Affords (ss.length - k)) :
    ∃ ms t w' a, Run p ⟨e, ss, k⟩ w ms t w' ∧ t.lead = .done a := by
  induction e generalizing ss k w with
  | done a => exact ⟨[], _, w, a, .nil _ _, rfl⟩
  | act x next ih =>
      obtain ⟨ms, t, w', a, h, ht⟩ := ih _ ss k (p x w).2 hk (he _)
      exact ⟨_, t, w', a, .cons (.leadAct x next ss k w) h, ht⟩
  | fork s next ih =>
      have hn : (ss ++ [s]).length - k = ss.length - k + 1 := by
        simp
        omega
      obtain ⟨ms, t, w', a, h, ht⟩ := ih (ss ++ [s]) k w (by simp; omega) (by rw [hn]; exact he)
      exact ⟨_, t, w', a, .cons (.leadFork s next ss k w) h, ht⟩
  | join next ih =>
      -- the script that is waited for goes first
      cases hn : ss.length - k with
      | zero =>
          rw [hn] at he
          exact he.elim
      | succ n =>
          rw [hn] at he
          have hlt : k < ss.length := by omega
          obtain ⟨ms, r, w₁, h₁⟩ := exists_run_script (p := p) (.join next) k k _ ss w
            (List.getElem?_eq_getElem hlt)
          have hn' : (ss.set k (.done r)).length - (k + 1) = n := by
            simp
            omega
          obtain ⟨ns, t, w₂, a, h₂, ht⟩ := ih r (ss.set k (.done r)) (k + 1) w₁ (by simp; omega)
            (by rw [hn']; exact he r)
          exact ⟨_, t, w₂, a, h₁.trans (.cons (.leadJoin next _ k r w₁
            (List.getElem?_set_self hlt)) h₂), ht⟩

/-- **Every run can go on to the end** of an ensemble that waits only for what it has started. -/
theorem Run.goesOn {e : Ensemble τ α} {ms : History τ} {t : Threads τ α} {w w' : W}
    (h : Run p (.ofEnsemble e) w ms t w') (he : e.Affords 0) :
    ∃ ns u v a, Run p t w' ns u v ∧ u.lead = .done a := by
  have hx := h.explained
  obtain ⟨k, hk, hn⟩ := he.of_does hx.lead
  have hs := hx.length_scripts
  have hj := hx.joined
  simp only [History.started, History.results] at hs hj
  have hkeq : t.scripts.length - t.joined = k := by omega
  exact exists_run_done t.lead t.scripts t.joined w' (by omega) (by rw [hkeq]; exact hk)

/-- Every run can go on to the end of an ensemble that waits for all its scripts. -/
theorem Run.completes {e : Ensemble τ α} {ms : History τ} {t : Threads τ α} {w w' : W}
    (h : Run p (.ofEnsemble e) w ms t w') (he : e.Settles 0) :
    ∃ ns u v a, Run p t w' ns u v ∧ u.lead = .done a := h.goesOn he.affords

end Threads

end Testbed
