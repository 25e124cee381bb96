/-
**What a script does.**

A script under way has performed some actions and been answered; these deeds lead from the script
to what is left of it.  Most statements about operations are statements about their deeds: which
calls they make, in which order, and what they make of the answers.

Main definitions:

* `Testbed.Deed` — an action that was performed, with its answer;
* `Testbed.Script.Does` — **the deeds that lead from a script to what is left of it**;
* `Testbed.Script.Within` — a script all of whose actions are of some kind;
* `Testbed.Exchange`, `Testbed.Exchange.Follows` — a call with its answer, and answers that are
  determined by the exchanges before them.

Main results:

* `Testbed.Script.Does.of_bind` — the deeds of a composed script, part after part;
* `Testbed.Script.Does.unique` — **a script that is answered alike does the same**;
* `Testbed.Script.Does.perform` — a script performed in a world does what the world answers;
* `Testbed.Operation.run_bind` — a composed operation as a composed script.
-/

import Testbed.Script.Basic

set_option relaxedAutoImplicit false
set_option autoImplicit false

namespace Testbed

/-! ### Laws of composition -/

instance : LawfulMonad Script :=
  LawfulMonad.mk' _ (fun s => Script.bind_done s) (fun _ _ => rfl)
    (fun s f g => Script.bind_assoc s f g)

instance {τ : Type} : LawfulMonad (Ensemble τ) :=
  LawfulMonad.mk' _
    (fun e => by
      show Ensemble.bind e Ensemble.done = e
      induction e with
      | done a => rfl
      | act x next ih => simp only [Ensemble.bind, ih]
      | fork s next ih => simp only [Ensemble.bind, ih]
      | join next ih => simp only [Ensemble.bind, ih])
    (fun _ _ => rfl) (fun e f g => Ensemble.bind_assoc e f g)

/-! ### Deeds -/

/-- An action that was performed, with what it answered. -/
structure Deed where
  action : Action
  answer : action.Answer

namespace Script

variable {α β : Type}

/-- `s.Does ds t` says that the deeds `ds` lead from the script `s` to the script `t`. -/
inductive Does : Script α → List Deed → Script α → Prop
  | nil (s : Script α) : Does s [] s
  | cons {x : Action} {next : x.Answer → Script α} (a : x.Answer) {ds : List Deed} {t : Script α} :
      Does (next a) ds t → Does (.act x next) (⟨x, a⟩ :: ds) t

@[simp] theorem does_nil {s t : Script α} : Does s [] t ↔ t = s := by
  constructor
  · intro h
    cases h
    rfl
  · rintro rfl
    exact .nil _

@[simp] theorem does_done {a : α} {ds : List Deed} {t : Script α} :
    Does (.done a) ds t ↔ ds = [] ∧ t = .done a := by
  constructor
  · intro h
    cases h
    exact ⟨rfl, rfl⟩
  · rintro ⟨rfl, rfl⟩
    exact .nil _

theorem does_act {x : Action} {next : x.Answer → Script α} {ds : List Deed} {t : Script α} :
    Does (.act x next) ds t ↔
      (ds = [] ∧ t = .act x next) ∨ ∃ a ds', ds = ⟨x, a⟩ :: ds' ∧ Does (next a) ds' t := by
  constructor
  · intro h
    cases h with
    | nil => exact .inl ⟨rfl, rfl⟩
    | cons a h => exact .inr ⟨a, _, rfl, h⟩
  · rintro (⟨rfl, rfl⟩ | ⟨a, ds', rfl, h⟩)
    · exact .nil _
    · exact .cons a h

namespace Does

theorem trans {s t u : Script α} {ds es : List Deed} (h : Does s ds t) (h' : Does t es u) :
    Does s (ds ++ es) u := by
  induction h with
  | nil s => exact h'
  | cons a _ ih => exact .cons a (ih h')

/-- One more deed. -/
theorem snoc {s : Script α} {x : Action} {next : x.Answer → Script α} {ds : List Deed}
    (h : Does s ds (.act x next)) (a : x.Answer) : Does s (ds ++ [⟨x, a⟩]) (next a) :=
  h.trans (.cons a (.nil _))

/-- The deeds of a composed script end in its first part or go on with the second. -/
theorem of_bind {s : Script α} {f : α → Script β} {ds : List Deed} {t : Script β}
    (h : Does (s.bind f) ds t) :
    (∃ s', Does s ds s' ∧ t = s'.bind f) ∨
      ∃ ds₁ ds₂ a, ds = ds₁ ++ ds₂ ∧ Does s ds₁ (.done a) ∧ Does (f a) ds₂ t := by
  induction s generalizing ds with
  | done a => exact .inr ⟨[], ds, a, rfl, .nil _, h⟩
  | act x next ih =>
      rcases does_act.1 h with ⟨rfl, rfl⟩ | ⟨a, ds', rfl, h'⟩
      · exact .inl ⟨_, .nil _, rfl⟩
      · rcases ih a h' with ⟨s', hs, rfl⟩ | ⟨ds₁, ds₂, b, rfl, h₁, h₂⟩
        · exact .inl ⟨s', .cons a hs, rfl⟩
        · exact .inr ⟨⟨x, a⟩ :: ds₁, ds₂, b, rfl, .cons a h₁, h₂⟩

end Does

/-! ### Kinds of actions -/

/-- Is every action that a script may come to of some kind? -/
def Within (P : Action → Prop) : Script α → Prop
  | .done _ => True
  | .act x next => P x ∧ ∀ a, (next a).Within P

theorem Within.mono {P Q : Action → Prop} (hPQ : ∀ x, P x → Q x) {s : Script α}
    (h : s.Within P) : s.Within Q := by
  induction s with
  | done a => trivial
  | act x next ih => exact ⟨hPQ x h.1, fun a => ih a (h.2 a)⟩

theorem Within.bind {P : Action → Prop} {s : Script α} {f : α → Script β} (hs : s.Within P)
    (hf : ∀ a, (f a).Within P) : (s.bind f).Within P := by
  induction s with
  | done a => exact hf a
  | act x next ih => exact ⟨hs.1, fun a => ih a (hs.2 a)⟩

/-- What is left of a script is of the same kind, and so is every deed. -/
theorem Within.of_does {P : Action → Prop} {s t : Script α} {ds : List Deed} (hs : s.Within P)
    (h : Does s ds t) : t.Within P ∧ ∀ d ∈ ds, P d.action := by
  induction h with
  | nil s => exact ⟨hs, by simp⟩
  | cons a _ ih =>
      obtain ⟨ht, hds⟩ := ih (hs.2 a)
      exact ⟨ht, by simpa using ⟨hs.1, hds⟩⟩

theorem within_bind {ε : Type} {P : Action → Prop} {s : ExceptT ε Script α}
    {f : α → ExceptT ε Script β} (hs : s.run.Within P) (hf : ∀ a, (f a).run.Within P) :
    (s >>= f).run.Within P := by
  refine Within.bind hs fun r => ?_
  cases r with
  | ok a => exact hf a
  | error e => trivial

theorem within_adapt {ε δ : Type} {P : Action → Prop} {s : ExceptT ε Script α} (g : ε → δ)
    (hs : s.run.Within P) : (s.adapt g).run.Within P :=
  Within.bind hs fun _ => trivial

/-! ### Deeds in a world -/

/-- What a script does in a world until it ends. -/
def deedsIn {W : Type} (p : Performer W) : Script α → W → List Deed
  | .done _, _ => []
  | .act x next, w => ⟨x, (p x w).1⟩ :: (next (p x w).1).deedsIn p (p x w).2

/-- **A script performed in a world** comes to its end by what the world answers. -/
theorem Does.perform {W : Type} (p : Performer W) (s : Script α) (w : W) :
    Does s (s.deedsIn p w) (.done (s.perform p w).1) := by
  induction s generalizing w with
  | done a => exact .nil _
  | act x next ih => exact .cons _ (ih _ _)

end Script

/-! ### Operations -/

namespace Operation

variable {α β : Type}

/-- How an operation goes on behind an outcome: with what was asked for, or with the failure. -/
def after (f : α → Operation β) : Except OperationError α → Script (Except OperationError β)
  | .ok a => (f a).run
  | .error e => .done (.error e)

@[simp] theorem after_ok (f : α → Operation β) (a : α) : after f (.ok a) = (f a).run := rfl

@[simp] theorem after_error (f : α → Operation β) (e : OperationError) :
    after f (.error e) = .done (.error e) := rfl

theorem run_bind (op : Operation α) (f : α → Operation β) :
    (op >>= f).run = op.run.bind (after f) := by
  show Script.bind op _ = Script.bind op _
  congr 1
  funext r
  cases r <;> rfl

theorem run_call_bind (c : Call) (f : c.Answer → Operation β) :
    (call c >>= f).run = .act (.call c) (after f) := by
  rw [run_bind]
  rfl

theorem run_act_bind (x : Action) (f : x.Answer → Operation β) :
    (act x >>= f).run = .act x fun a => (f a).run := by
  rw [run_bind]
  rfl

theorem run_ofExcept_bind (r : Except OperationError α) (f : α → Operation β) :
    (ofExcept r >>= f).run = after f r := by
  rw [run_bind]
  rfl

end Operation

/-! ### Exchanges with the runtime -/

/-- A call and its answer. -/
structure Exchange where
  call : Call
  answer : Except OperationError call.Answer

/-- The exchange that a deed is, if it is one. -/
def Deed.exchange? : Deed → Option Exchange
  | ⟨.call c, a⟩ => some ⟨c, a⟩
  | _ => none

/-- The exchanges among deeds. -/
def exchanges (ds : List Deed) : List Exchange := ds.filterMap Deed.exchange?

@[simp] theorem exchanges_call (c : Call) (a : Except OperationError c.Answer) (ds : List Deed) :
    exchanges (⟨.call c, a⟩ :: ds) = ⟨c, a⟩ :: exchanges ds := rfl

theorem Deed.exchange?_eq_some_iff {d : Deed} {x : Exchange} :
    d.exchange? = some x ↔ d = ⟨.call x.call, x.answer⟩ := by
  constructor
  · intro h
    obtain ⟨y, a⟩ := d
    cases y with
    | call c =>
        cases h
        rfl
    | _ => cases h
  · rintro rfl
    rfl

theorem mem_exchanges {ds : List Deed} {x : Exchange} :
    x ∈ exchanges ds ↔ ⟨.call x.call, x.answer⟩ ∈ ds := by
  simp only [exchanges, List.mem_filterMap, Deed.exchange?_eq_some_iff, exists_eq_right]

namespace Exchange

variable {reply : List Exchange → (c : Call) → Except OperationError c.Answer}

/-- Is every answer what `reply` gives for the call and the exchanges before it? -/
def Follows (reply : List Exchange → (c : Call) → Except OperationError c.Answer)
    (xs : List Exchange) : Prop :=
  ∀ before x behind, xs = before ++ x :: behind → x.answer = reply before x.call

theorem follows_cons {x : Exchange} {xs : List Exchange} :
    Follows reply (x :: xs) ↔
      x.answer = reply [] x.call ∧ Follows (fun before => reply (x :: before)) xs := by
  constructor
  · intro h
    refine ⟨h [] x xs rfl, fun before y behind hy => ?_⟩
    exact h (x :: before) y behind (by rw [hy, List.cons_append])
  · rintro ⟨hx, hxs⟩ before y behind h
    cases before with
    | nil =>
        obtain ⟨rfl, -⟩ := List.cons.inj h
        exact hx
    | cons z before =>
        obtain ⟨rfl, h'⟩ := List.cons.inj h
        exact hxs before y behind h'

end Exchange

/-- Actions whose answer is known before they are performed, calls apart. -/
def Action.IsPlain : Action → Prop
  | .call _ | .sleep _ | .count _ | .record .. => True
  | _ => False

namespace Script

variable {α : Type}

/-- **A script that is answered alike does the same** and ends with the same result. -/
theorem Does.unique {reply : List Exchange → (c : Call) → Except OperationError c.Answer}
    {s : Script α} (hs : s.Within Action.IsPlain) {ds es : List Deed} {a b : α}
    (hd : Does s ds (.done a)) (he : Does s es (.done b))
    (hrd : Exchange.Follows reply (exchanges ds)) (hre : Exchange.Follows reply (exchanges es)) :
    ds = es ∧ a = b := by
  induction s generalizing ds es reply with
  | done c =>
      obtain ⟨rfl, ha⟩ := does_done.1 hd
      obtain ⟨rfl, hb⟩ := does_done.1 he
      cases ha
      cases hb
      exact ⟨rfl, rfl⟩
  | act x next ih =>
      rcases does_act.1 hd with ⟨-, h⟩ | ⟨u, ds', rfl, hd'⟩
      · cases h
      rcases does_act.1 he with ⟨-, h⟩ | ⟨v, es', rfl, he'⟩
      · cases h
      -- the answers are equal: of a call by `reply`, of any other plain action as it has only one
      have key : u = v ∧ ds' = es' ∧ a = b := by
        cases x with
        | call c =>
            rw [exchanges_call, Exchange.follows_cons] at hrd hre
            obtain rfl : u = v := hrd.1.trans hre.1.symm
            exact ⟨rfl, ih u (hs.2 u) hd' he' hrd.2 hre.2⟩
        | sleep d => exact ⟨rfl, ih u (hs.2 u) hd' he' hrd hre⟩
        | count e => exact ⟨rfl, ih u (hs.2 u) hd' he' hrd hre⟩
        | record n i => exact ⟨rfl, ih u (hs.2 u) hd' he' hrd hre⟩
        | _ => exact hs.1.elim
      obtain ⟨rfl, rfl, hab⟩ := key
      exact ⟨rfl, hab⟩

/-- A script has an end, whatever its calls are answered. -/
theorem Does.exists_follows (reply : List Exchange → (c : Call) → Except OperationError c.Answer)
    {s : Script α} (hs : s.Within Action.IsPlain) :
    ∃ ds a, Does s ds (.done a) ∧ Exchange.Follows reply (exchanges ds) := by
  induction s generalizing reply with
  | done a => exact ⟨[], a, .nil _, by simp [Exchange.Follows, exchanges]⟩
  | act x next ih =>
      cases x with
      | call c =>
          obtain ⟨ds, a, hd, hf⟩ :=
            ih (reply [] c) (fun before => reply (⟨c, reply [] c⟩ :: before)) (hs.2 _)
          exact ⟨_, a, .cons _ hd, Exchange.follows_cons.2 ⟨rfl, hf⟩⟩
      | sleep d =>
          obtain ⟨ds, a, hd, hf⟩ := ih () reply (hs.2 _)
          exact ⟨_, a, .cons _ hd, hf⟩
      | count e =>
          obtain ⟨ds, a, hd, hf⟩ := ih () reply (hs.2 _)
          exact ⟨_, a, .cons _ hd, hf⟩
      | record n i =>
          obtain ⟨ds, a, hd, hf⟩ := ih () reply (hs.2 _)
          exact ⟨_, a, .cons _ hd, hf⟩
      | _ => exact hs.1.elim

end Script

end Testbed
