/-
**What a run leaves in the world.**

Only a few actions touch the ledger, and only a few the files.  As long as scripts make calls,
sleep, count and list containers, the files stay as they are, and the ledger grows by what was
listed, in the order in which it was listed.

Main definitions:

* `Testbed.History.recorded` — the ids that a history lists under a node;
* `Testbed.Rehearsal.Host.ofAnswers` — a runtime whose answers depend on the call alone.

Main results:

* `Testbed.Threads.Step.answered`, `Testbed.Threads.Run.exists_world` — a step does in the world
  what its deed says, and every deed of a run was answered by a world on the way;
* `Testbed.Threads.Run.plain` — **the ledger grows by what was listed**, and the files stay as they
  are.
-/

import Testbed.Proofs.Container.Launch
import Testbed.Proofs.Network.Ledger
import Testbed.Proofs.Script.Histories
import Testbed.Rehearsal.World

set_option relaxedAutoImplicit false
set_option autoImplicit false

namespace Testbed

/-! ### Deeds in a world -/

namespace Threads

variable {τ α W : Type} {p : Performer W}

/-- A step does in the world what its deed says, and nothing else. -/
theorem Step.answered {t t' : Threads τ α} {w w' : W} {m : Thread × Move τ}
    (h : Step p t w m t' w') :
    (∃ d, m.2 = .deed d ∧ d.answer = (p d.action w).1 ∧ w' = (p d.action w).2) ∨
      m.2.deed? = none ∧ w' = w := by
  cases h with
  | leadAct x next ss k => exact .inl ⟨⟨x, (p x w).1⟩, rfl, rfl, rfl⟩
  | leadFork s next ss k => exact .inr ⟨rfl, rfl⟩
  | leadJoin next ss k r _ ended => exact .inr ⟨rfl, rfl⟩
  | scriptAct e ss k i x next _ turn => exact .inl ⟨⟨x, (p x w).1⟩, rfl, rfl, rfl⟩

/-- Each deed of a run was answered by a world that the run had come to. -/
theorem Run.exists_world {t t' : Threads τ α} {w w' : W} {ms : History τ}
    (run : Run p t w ms t' w') {who : Thread} {d : Deed} (hd : (who, .deed d) ∈ ms) :
    ∃ before u x, Run p t w before u x ∧ d.answer = (p d.action x).1 := by
  obtain ⟨before, behind, rfl⟩ := List.append_of_mem hd
  obtain ⟨u, x, hbefore, hrest⟩ := run.of_append
  cases hrest with
  | cons step _ =>
      rcases step.answered with ⟨d', hd', ha, -⟩ | ⟨hnone, -⟩
      · cases hd'
        exact ⟨before, u, x, hbefore, ha⟩
      · cases hnone

end Threads

/-- The ids that a history lists under a node, in order. -/
def History.recorded {τ : Type} (node : String) (ms : History τ) : List String :=
  ms.collect fun _ d => d.recorded?.bind fun e => if e.1 = node then some e.2 else none

namespace Rehearsal

variable {R : Type} (h : Host R)

/-- What is noted down of a call touches nothing but the notes. -/
theorem noteAnswer_kept (w : World R) (c : Call) (a : Except OperationError c.Answer) :
    (noteAnswer w c a).ledger = w.ledger ∧ (noteAnswer w c a).disk = w.disk ∧
      (noteAnswer w c a).runtime = w.runtime ∧
      (noteAnswer w c a).outputOpen = w.outputOpen := by
  unfold noteAnswer
  split <;> exact ⟨rfl, rfl, rfl, rfl⟩

/-- The runtime behind a call is what the call leaves behind. -/
theorem perform_call_runtime (c : Call) (w : World R) :
    (perform h (.call c) w).2.runtime = (h.answer w.runtime c).2 :=
  (noteAnswer_kept _ c _).2.2.1

/-- Nothing that is done closes the output. -/
theorem perform_outputOpen (x : Action) (w : World R) :
    (perform h x w).2.outputOpen = w.outputOpen := by
  cases x with
  | call c => exact (noteAnswer_kept _ c _).2.2.2
  | print text =>
      simp only [perform]
      split <;> rfl
  | writeFile path content =>
      simp only [perform]
      split <;> rfl
  | removeFile path =>
      simp only [perform]
      split <;> rfl
  | _ => rfl

/-- A plain action lists what it says in the ledger and leaves the files alone. -/
theorem perform_plain (w : World R) {x : Action} (hx : x.IsPlain) (a : x.Answer) (node : String) :
    (perform h x w).2.ledger.ids node = w.ledger.ids node ++
      ((Deed.recorded? ⟨x, a⟩).bind fun e => if e.1 = node then some e.2 else none).toList ∧
    (perform h x w).2.disk = w.disk := by
  cases x with
  | call c =>
      obtain ⟨hl, hd, -⟩ := noteAnswer_kept
        { w.noteCall c.subject (callLine c) with
          runtime := (h.answer (w.noteCall c.subject (callLine c)).runtime c).2 } c
        (h.answer (w.noteCall c.subject (callLine c)).runtime c).1
      refine ⟨?_, hd⟩
      have hn : Deed.recorded? ⟨.call c, a⟩ = none := rfl
      rw [hn]
      simp only [Option.bind_none, Option.toList_none, List.append_nil]
      exact congrArg (fun l => Ledger.ids l node) hl
  | sleep d => exact ⟨(List.append_nil _).symm, rfl⟩
  | count e => exact ⟨(List.append_nil _).symm, rfl⟩
  | record n id =>
      refine ⟨?_, rfl⟩
      show (w.ledger.add n id).ids node = _
      rw [Ledger.ids_add]
      by_cases hn : node = n
      · simp [Deed.recorded?, hn]
      · have hn' : n ≠ node := fun hne => hn hne.symm
        simp [Deed.recorded?, hn, hn']
  | _ => exact hx.elim

end Rehearsal

namespace Threads

open Rehearsal

variable {τ α R : Type} {h : Host R} {t t' : Threads τ α} {w w' : World R} {ms : History τ}

/-- **A run of plain actions** adds to the ledger what it lists and leaves the files alone. -/
theorem Run.plain (run : Run (perform h) t w ms t' w')
    (plain : ∀ who d, (who, .deed d) ∈ ms → d.action.IsPlain) (node : String) :
    w'.ledger.ids node = w.ledger.ids node ++ ms.recorded node ∧ w'.disk = w.disk := by
  induction run with
  | nil t w => exact ⟨(List.append_nil _).symm, rfl⟩
  | @cons t t₁ u w w₁ v m ms step run ih =>
      obtain ⟨hl, hd⟩ := ih fun who d hm => plain who d (List.mem_cons_of_mem m hm)
      obtain ⟨who, m⟩ := m
      rw [History.recorded, History.collect_cons, ← List.append_assoc]
      rcases step.answered with ⟨d, hm, -, rfl⟩ | ⟨hm, rfl⟩
      · obtain rfl : m = .deed d := hm
        obtain ⟨hl₁, hd₁⟩ := perform_plain h w (plain who d List.mem_cons_self) d.answer node
        refine ⟨?_, hd.trans hd₁⟩
        rw [hl, hl₁]
        rfl
      · refine ⟨?_, hd⟩
        rw [hl, hm]
        simp [History.recorded]

/-- No run closes the output. -/
theorem Run.outputOpen (run : Run (perform h) t w ms t' w') : w'.outputOpen = w.outputOpen := by
  induction run with
  | nil t w => rfl
  | cons step run ih =>
      rcases step.answered with ⟨d, -, -, rfl⟩ | ⟨-, rfl⟩
      · exact ih.trans (perform_outputOpen h d.action _)
      · exact ih

end Threads

/-! ### Runtimes without memory -/

namespace Rehearsal

/-- A runtime that answers every call by the call alone. -/
def Host.ofAnswers (f : (c : Call) → Except OperationError c.Answer) : Host Unit where
  connect _ _ _ := (.ok (), ())
  answer _ c := (f c, ())
  openLog _ _ _ := (⟨[], false⟩, ())

end Rehearsal

namespace Threads

variable {τ α : Type} {f : (c : Call) → Except OperationError c.Answer} {t t' : Threads τ α}
  {w w' : Rehearsal.World Unit} {ms : History τ}

/-- With such a runtime a call has one answer only. -/
theorem Run.answer_ofAnswers (run : Run (Rehearsal.perform (.ofAnswers f)) t w ms t' w')
    {who : Thread} {c : Call} {a : Except OperationError c.Answer}
    (hd : (who, .deed ⟨.call c, a⟩) ∈ ms) : a = f c := by
  obtain ⟨_, _, _, _, ha⟩ := run.exists_world hd
  exact ha

/-- Each thread is answered alike in all runs with such a runtime. -/
theorem Run.follows_ofAnswers (run : Run (Rehearsal.perform (.ofAnswers f)) t w ms t' w')
    (who : Thread) : Exchange.Follows (fun _ => f) (exchanges (ms.deedsOf who)) := by
  intro before x behind hx
  have hmem : x ∈ exchanges (ms.deedsOf who) := by
    rw [hx]
    simp
  exact run.answer_ofAnswers (History.mem_deedsOf.1 (mem_exchanges.1 hmem))

end Threads

end Testbed
