/-
**Adding to the ledger from several threads.**

Threads that run beside each other may all list containers in the ledger.  Every single addition
excludes the others, so the additions of a run come one after the other, in an order that shuffles
those of the threads.  This order is one for all nodes; what is listed under a node is picked out of
it, and shuffles what the threads have added under that node.

Main definitions:

* `Testbed.addAll`, `Testbed.addBeside` — the additions of a thread, and of several threads beside
  each other;
* `Testbed.idsFor` — the ids that additions list under a node.

Main results:

* `Testbed.does_addAll` — a thread that has ended has made its additions in its order;
* `Testbed.addBeside_order` — the additions of a run shuffle those of the threads;
* `Testbed.addBeside_shuffles` — **under every node the ids of the threads are shuffled behind those
  that were there**.
-/

import Testbed.Proofs.Rehearsal.World
import Testbed.Proofs.Script.Shuffle
import Testbed.Proofs.Script.Together

set_option relaxedAutoImplicit false
set_option autoImplicit false

namespace Testbed

open Rehearsal

/-- The additions of one thread: ids under nodes, one after the other. -/
def addAll : List (String × String) → Script Unit
  | [] => .done ()
  | e :: es => .act (.record e.1 e.2) fun _ => addAll es

/-- The additions of several threads beside each other. -/
def addBeside (adds : List (List (String × String))) : Ensemble Unit Unit :=
  Ensemble.fanOut (adds.map addAll) fun _ => .done ()

/-- The ids that additions list under a node. -/
def idsFor (node : String) (adds : List (String × String)) : List String :=
  adds.filterMap fun e => if e.1 = node then some e.2 else none

theorem recorded_eq_idsFor {τ : Type} (node : String) (ms : History τ) :
    ms.recorded node = idsFor node (ms.collect fun _ d => d.recorded?) := by
  unfold History.recorded History.collect idsFor
  rw [List.filterMap_filterMap]
  simp only [Option.bind_assoc]

theorem addAll_within (es : List (String × String)) : (addAll es).Within Action.IsPlain := by
  induction es with
  | nil => trivial
  | cons e es ih => exact ⟨trivial, fun _ => ih⟩

/-- A thread that has ended has made its additions in its order. -/
theorem does_addAll {es : List (String × String)} {ds : List Deed} {u : Unit}
    (h : (addAll es).Does ds (.done u)) : ds.filterMap Deed.recorded? = es := by
  induction es generalizing ds with
  | nil =>
      obtain ⟨rfl, -⟩ := Script.does_done.1 h
      rfl
  | cons e es ih =>
      rcases Script.does_act.1 h with ⟨-, hend⟩ | ⟨a, ds, rfl, hrest⟩
      · cases hend
      · have hfirst : Deed.recorded? ⟨.record e.1 e.2, a⟩ = some e := rfl
        rw [List.filterMap_cons_some hfirst, ih hrest]

section

variable {R : Type} {h : Host R} {adds : List (List (String × String))} {w v : World R}
  {ms : History Unit}

/-- **The additions of a run shuffle those of the threads.** -/
theorem addBeside_order (ends : (addBeside adds).Ends (perform h) w ms () v) :
    Shuffle adds (ms.collect fun _ d => d.recorded?) := by
  obtain ⟨t, run, ht⟩ := ends
  have hx := run.explained
  obtain ⟨rs, hlen, hscripts, hlead, hdoes⟩ := hx.end_of_fanOut ht
  rw [List.length_map] at hlen
  -- the leading thread does nothing itself
  have hthreads : ∀ who d, (who, .deed d) ∈ ms → ∃ i, who = .script i ∧ i < adds.length := by
    intro who d hd
    have hmem := History.mem_deedsOf.2 hd
    cases who with
    | lead =>
        rw [(Script.does_done.1 hlead).1] at hmem
        cases hmem
    | script i =>
        refine ⟨i, rfl, ?_⟩
        by_contra hge
        have hstarted := hx.length_scripts
        rw [hscripts, List.length_map] at hstarted
        rw [hx.idle i (by omega)] at hmem
        cases hmem
  have hrows : (List.range adds.length).map
      (fun i => (ms.deedsOf (.script i)).filterMap Deed.recorded?) = adds := by
    refine List.ext_getElem (by simp) fun i hi hi' => ?_
    rw [List.getElem_map, List.getElem_range]
    refine does_addAll (u := ()) (hdoes i _ () ?_ ?_)
    · rw [List.getElem?_map, List.getElem?_eq_getElem hi']
      rfl
    · exact List.getElem?_eq_getElem (by omega)
  have hshuffle := History.collect_shuffle (fun _ d => d.recorded?) hthreads
  rwa [hrows] at hshuffle

/-- **Under every node the ids of the threads are shuffled behind those that were there**: none is
lost, none is there twice, and each thread's ids keep their order.  One order of all additions
accounts for the lists of all nodes. -/
theorem addBeside_shuffles (ends : (addBeside adds).Ends (perform h) w ms () v) :
    ∃ order, Shuffle adds order ∧ ∀ node,
      v.ledger.ids node = w.ledger.ids node ++ idsFor node order ∧
      Shuffle (adds.map (idsFor node)) (idsFor node order) ∧
      (v.ledger.ids node).length =
        (w.ledger.ids node).length + (adds.map fun es => (idsFor node es).length).sum ∧
      ∀ es ∈ adds, (idsFor node es).Sublist (idsFor node order) := by
  have horder := addBeside_order ends
  obtain ⟨t, run, -⟩ := ends
  have hplain : (addBeside adds).Within Action.IsPlain := by
    refine Ensemble.Within.fanOut (fun s hs => ?_) fun _ => trivial
    obtain ⟨es, -, rfl⟩ := List.mem_map.1 hs
    exact addAll_within es
  refine ⟨_, horder, fun node => ?_⟩
  have hids := (run.plain (fun _ _ hd => run.explained.within hplain hd) node).1
  rw [recorded_eq_idsFor] at hids
  have hshuffle := horder.filterMap fun e => if e.1 = node then some e.2 else none
  refine ⟨hids, hshuffle, ?_, fun es hes => hshuffle.sublist (List.mem_map_of_mem hes)⟩
  have hlength := hshuffle.length_eq
  rw [List.map_map] at hlength
  rw [hids, List.length_append]
  exact congrArg _ hlength

end

/-- Three threads that add under two nodes. -/
def threeRows : List (List (String × String)) :=
  [[("n", "a"), ("m", "b"), ("n", "c")], [("n", "d")], [("m", "a"), ("n", "a")]]

/-- A run in which the threads take turns. -/
theorem threeRows_shuffled :
    ∃ (ms : History Unit) (v : World Runtime) (order : List (String × String)),
      (addBeside threeRows).Ends (perform Runtime.host)
        { runtime := {}, ledger := Ledger.empty.add "n" "x" } ms () v ∧
      v.ledger.ids "n" = ["x", "a", "d", "a", "c"] ∧ Shuffle threeRows order ∧
      idsFor "n" order = ["a", "d", "a", "c"] := by
  have hend : ((addBeside threeRows).endIn? (perform Runtime.host)
      [.lead, .script 0, .lead, .lead, .script 2, .script 1, .script 0, .script 2, .script 0, .lead,
        .lead, .lead] { runtime := {}, ledger := Ledger.empty.add "n" "x" }).map
        (fun x => x.2.ledger.ids "n") = some ["x", "a", "d", "a", "c"] := by decide +kernel
  obtain ⟨⟨u, v⟩, hx, hids⟩ := Option.map_eq_some_iff.1 hend
  obtain ⟨ms, ends⟩ := Ensemble.ends_of_endIn? hx
  obtain ⟨order, horder, hlists⟩ := addBeside_shuffles ends
  have hlist := (hlists "n").1
  rw [hids] at hlist
  exact ⟨ms, v, order, ends, hids, horder, (List.cons.inj hlist).2.symm⟩

end Testbed
