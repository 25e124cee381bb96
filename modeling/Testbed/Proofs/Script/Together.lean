/-
**Scripts run beside each other.**

Most ensembles of the library have one form: they start some scripts, wait for all of them, and go
on with a script that the results select.  A run of such an ensemble consists of the runs of its
scripts, in any interleaving, and what follows only begins when all of them have ended.

Main definitions:

* `Testbed.Ensemble.Waits` — the next move starts a script or waits for one;
* `Testbed.Ensemble.fanOut` — **scripts beside each other, and what is made of their results**.

Main results:

* `Testbed.Ensemble.Does.of_fanOut` — the moves of the leading thread;
* `Testbed.Threads.Explained.script_of_fanOut` — each script goes its own way;
* `Testbed.Threads.Explained.lead_of_fanOut` — **the leading thread acts only behind all
  scripts**;
* `Testbed.Threads.Explained.end_of_fanOut` — the result is made of the results of the scripts.
-/

import Testbed.Proofs.Script.Histories

set_option relaxedAutoImplicit false
set_option autoImplicit false

namespace Testbed

namespace Ensemble

variable {τ α β : Type}

/-- Is the next move of an ensemble to start a script or to wait for one? -/
def Waits : Ensemble τ α → Prop
  | .fork .. | .join _ => True
  | _ => False

/-! ### Starting and waiting -/

/-- Moves that start scripts, then wait, then act, taken apart again. -/
theorem moves_apart (ss : List (Script τ)) (rs : List τ) (ds : List Deed) :
    (ss.map Move.fork ++ rs.map Move.join ++ ds.map Move.deed).filterMap Move.deed? = ds ∧
    (ss.map Move.fork ++ rs.map Move.join ++ ds.map Move.deed).filterMap Move.fork? = ss ∧
    (ss.map Move.fork ++ rs.map Move.join ++ ds.map Move.deed).filterMap Move.join? = rs := by
  induction ss with
  | cons s ss ih => exact ⟨ih.1, congrArg (s :: ·) ih.2.1, ih.2.2⟩
  | nil =>
      induction rs with
      | cons r rs ih => exact ⟨ih.1, ih.2.1, congrArg (r :: ·) ih.2.2⟩
      | nil =>
          induction ds with
          | nil => exact ⟨rfl, rfl, rfl⟩
          | cons d ds ih => exact ⟨congrArg (d :: ·) ih.1, ih.2.1, ih.2.2⟩

theorem Does.of_forkAll {ss : List (Script τ)} {f : Unit → Ensemble τ α} {ms : List (Move τ)}
    {e : Ensemble τ α} (h : Does ((forkAll ss).bind f) ms e) :
    (∃ ss', ss' <+: ss ∧ ms = ss'.map .fork ∧ e.Waits) ∨
      ∃ ms', ms = ss.map .fork ++ ms' ∧ Does (f ()) ms' e := by
  induction ss generalizing ms with
  | nil => exact .inr ⟨ms, rfl, h⟩
  | cons s ss ih =>
      cases h with
      | nil => exact .inl ⟨[], List.nil_prefix, rfl, trivial⟩
      | fork h =>
          rcases ih h with ⟨ss', hss, rfl, he⟩ | ⟨ms', rfl, h'⟩
          · exact .inl ⟨s :: ss', List.cons_prefix_cons.2 ⟨rfl, hss⟩, rfl, he⟩
          · exact .inr ⟨ms', rfl, h'⟩

theorem joinAll_succ_bind (n : Nat) (f : List τ → Ensemble τ α) :
    (joinAll (n + 1)).bind f = .join fun r => (joinAll n).bind fun rs => f (r :: rs) := by
  simp only [joinAll, bind, bind_assoc]

theorem Does.of_joinAll {n : Nat} {f : List τ → Ensemble τ α} {ms : List (Move τ)}
    {e : Ensemble τ α} (h : Does ((joinAll n).bind f) ms e) :
    (∃ rs : List τ, ms = rs.map .join ∧ e.Waits) ∨
      ∃ (rs : List τ) (ms' : List (Move τ)),
        rs.length = n ∧ ms = rs.map .join ++ ms' ∧ Does (f rs) ms' e := by
  induction n generalizing ms f with
  | zero => exact .inr ⟨[], ms, rfl, rfl, h⟩
  | succ n ih =>
      rw [joinAll_succ_bind] at h
      cases h with
      | nil => exact .inl ⟨[], rfl, trivial⟩
      | join r h =>
          rcases ih h with ⟨rs, rfl, he⟩ | ⟨rs, ms', hrs, rfl, h'⟩
          · exact .inl ⟨r :: rs, rfl, he⟩
          · exact .inr ⟨r :: rs, ms', by simp [hrs], rfl, h'⟩

theorem does_ofScript {s : Script α} {ms : List (Move τ)} {e : Ensemble τ α}
    (h : Does (ofScript s) ms e) :
    ∃ ds s', ms = ds.map .deed ∧ s.Does ds s' ∧ e = ofScript s' := by
  induction s generalizing ms with
  | done a =>
      obtain ⟨rfl, rfl⟩ := does_done.1 h
      exact ⟨[], .done a, rfl, .nil _, rfl⟩
  | act x next ih =>
      rcases does_act.1 h with ⟨rfl, rfl⟩ | ⟨a, ms', rfl, h'⟩
      · exact ⟨[], .act x next, rfl, .nil _, rfl⟩
      · obtain ⟨ds, s', rfl, hs, rfl⟩ := ih a h'
        exact ⟨⟨x, a⟩ :: ds, s', rfl, .cons a hs, rfl⟩

theorem Leaves.forkAll {P : Nat → Prop} {n : Nat} {ss : List (Script τ)} {f : Unit → Ensemble τ α}
    (h : Leaves P (n + ss.length) (f ())) : Leaves P n ((forkAll ss).bind f) := by
  induction ss generalizing n with
  | nil => exact h
  | cons s ss ih =>
      refine ih (n := n + 1) ?_
      rwa [show n + 1 + ss.length = n + (s :: ss).length by simp; omega]

theorem Settles.forkAll {n : Nat} {ss : List (Script τ)} {f : Unit → Ensemble τ α}
    (h : Settles (n + ss.length) (f ())) : Settles n ((forkAll ss).bind f) :=
  settles_iff_leaves.2 (Leaves.forkAll (settles_iff_leaves.1 h))

theorem Settles.joinAll {n : Nat} {f : List τ → Ensemble τ α} (h : ∀ rs, Settles 0 (f rs)) :
    Settles n ((joinAll n).bind f) := by
  induction n generalizing f with
  | zero => exact h []
  | succ n ih =>
      rw [joinAll_succ_bind]
      exact fun r => ih fun rs => h (r :: rs)

/-! ### Fan-outs -/

/-- **Scripts beside each other**, and the script that their results select. -/
def fanOut (ss : List (Script τ)) (g : List τ → Script α) : Ensemble τ α :=
  (together ss).bind fun rs => ofScript (g rs)

variable {ss : List (Script τ)} {g : List τ → Script α}

theorem fanOut_eq : fanOut ss g =
    (forkAll ss).bind fun _ => (joinAll ss.length).bind fun rs => ofScript (g rs) := by
  simp only [fanOut, together, bind_assoc]

theorem settles_fanOut (ss : List (Script τ)) (g : List τ → Script α) :
    Settles 0 (fanOut ss g) := by
  rw [fanOut_eq]
  refine Settles.forkAll ?_
  rw [Nat.zero_add]
  exact Settles.joinAll fun rs => settles_ofScript (g rs)

theorem Within.fanOut {P : Action → Prop} (hs : ∀ s ∈ ss, s.Within P)
    (hg : ∀ rs, (g rs).Within P) : (fanOut ss g).Within P := by
  rw [fanOut_eq]
  have hforks : (Ensemble.forkAll ss).Within P := by
    clear hg
    induction ss with
    | nil => trivial
    | cons s ss ih => exact ⟨hs s (by simp), ih fun s' h => hs s' (by simp [h])⟩
  have hjoins : ∀ n, (Ensemble.joinAll n : Ensemble τ (List τ)).Within P := by
    intro n
    induction n with
    | zero => trivial
    | succ n ih => exact fun r => Within.bind ih fun rs => trivial
  exact hforks.bind fun _ => (hjoins _).bind fun rs => Within.ofScript (hg rs)

/-- The leading thread of a fan-out starts scripts, then waits for them, then acts. -/
theorem Does.of_fanOut {ms : List (Move τ)} {e : Ensemble τ α} (h : Does (fanOut ss g) ms e) :
    (e.Waits ∧ ms.filterMap Move.deed? = [] ∧ ms.filterMap Move.fork? <+: ss) ∨
      ∃ (rs : List τ) (ds : List Deed) (s : Script α), rs.length = ss.length ∧
        ms = ss.map .fork ++ rs.map .join ++ ds.map .deed ∧ (g rs).Does ds s ∧ e = ofScript s := by
  rw [fanOut_eq] at h
  rcases h.of_forkAll with ⟨ss', hss, rfl, he⟩ | ⟨ms', rfl, h'⟩
  · obtain ⟨hd, hf, -⟩ := moves_apart ss' [] []
    simp only [List.map_nil, List.append_nil] at hd hf
    exact .inl ⟨he, hd, by rwa [hf]⟩
  · rcases h'.of_joinAll with ⟨rs, rfl, he⟩ | ⟨rs, ms'', hrs, rfl, h''⟩
    · obtain ⟨hd, hf, -⟩ := moves_apart ss rs []
      simp only [List.map_nil, List.append_nil] at hd hf
      exact .inl ⟨he, hd, ⟨[], by rw [hf, List.append_nil]⟩⟩
    · obtain ⟨ds, s, rfl, hs, rfl⟩ := does_ofScript h''
      exact .inr ⟨rs, ds, s, hrs, by rw [List.append_assoc], hs, rfl⟩

end Ensemble

/-! ### Runs of fan-outs -/

namespace Threads

variable {τ α : Type} {ss : List (Script τ)} {g : List τ → Script α} {ms : History τ}
  {t : Threads τ α}

namespace Explained

/-- The leading thread of a fan-out waits, or all scripts have ended and it acts on their
results. -/
theorem lead_of_fanOut (h : Explained (Ensemble.fanOut ss g) ms t) :
    (t.lead.Waits ∧ ms.deedsOf .lead = [] ∧ ms.started <+: ss) ∨
      ∃ (rs : List τ) (s : Script α), ms.started = ss ∧ t.scripts = rs.map .done ∧
        t.lead = .ofScript s ∧ (g rs).Does (ms.deedsOf .lead) s := by
  rcases h.lead.of_fanOut with hwait | ⟨rs, ds, s, hrs, hms, hs, hl⟩
  · exact .inl hwait
  · obtain ⟨hdeeds, hstarted, hresults⟩ := Ensemble.moves_apart ss rs ds
    rw [← hms] at hdeeds hstarted hresults
    change ms.deedsOf .lead = ds at hdeeds
    change ms.started = ss at hstarted
    change ms.results = rs at hresults
    refine .inr ⟨rs, s, hstarted, ?_, hl, by rwa [hdeeds]⟩
    refine List.ext_getElem? fun i => ?_
    rcases Nat.lt_or_ge i rs.length with hi | hi
    · rw [h.results i rs[i] (by rw [hresults]; exact List.getElem?_eq_getElem hi)]
      simp [List.getElem?_eq_getElem hi]
    · have hlen := h.length_scripts
      rw [hstarted] at hlen
      rw [List.getElem?_eq_none (by omega), List.getElem?_eq_none (by simpa using hi)]

/-- Each script of a fan-out goes its own way. -/
theorem script_of_fanOut (h : Explained (Ensemble.fanOut ss g) ms t) {i : Nat} {s' : Script τ}
    (hi : t.scripts[i]? = some s') :
    ∃ s, ss[i]? = some s ∧ s.Does (ms.deedsOf (.script i)) s' := by
  obtain ⟨s, hs, hdoes⟩ := h.of_script hi
  have hpre : ms.started <+: ss := by
    rcases h.lead_of_fanOut with ⟨-, -, hpre⟩ | ⟨rs, s, hst, -⟩
    · exact hpre
    · exact hst ▸ List.prefix_rfl
  refine ⟨s, ?_, hdoes⟩
  obtain ⟨rest, rfl⟩ := hpre
  rw [List.getElem?_append_left (List.getElem?_eq_some_iff.1 hs).1]
  exact hs

/-- **The end of a fan-out**: every script has ended, and the result is made of their results. -/
theorem end_of_fanOut (h : Explained (Ensemble.fanOut ss g) ms t) {a : α}
    (ht : t.lead = .done a) :
    ∃ rs : List τ, rs.length = ss.length ∧ t.scripts = rs.map .done ∧
      (g rs).Does (ms.deedsOf .lead) (.done a) ∧
      ∀ (i : Nat) (s : Script τ) (r : τ), ss[i]? = some s → rs[i]? = some r →
        s.Does (ms.deedsOf (.script i)) (.done r) := by
  rcases h.lead_of_fanOut with ⟨hw, -, -⟩ | ⟨rs, s, hst, hsc, hl, hs⟩
  · rw [ht] at hw
    exact hw.elim
  · have hs' : s = .done a := by
      cases s with
      | done b =>
          have : (Ensemble.done b : Ensemble τ α) = .done a := hl.symm.trans ht
          cases this
          rfl
      | act x next => cases hl.symm.trans ht
    subst hs'
    have hlen : rs.length = ss.length := by
      have := h.length_scripts
      rw [hst, hsc, List.length_map] at this
      exact this
    refine ⟨rs, hlen, hsc, hs, fun i s r hi hr => ?_⟩
    have hscript : t.scripts[i]? = some (.done r) := by
      rw [hsc, List.getElem?_map, hr]
      rfl
    obtain ⟨s₁, hs₁, hdoes⟩ := h.script_of_fanOut hscript
    obtain rfl : s₁ = s := Option.some.inj (hs₁.symm.trans hi)
    exact hdoes

/-- **A script of a fan-out that is answered alike** in two runs does the same in both. -/
theorem script_unique {β : Type} {g' : List τ → Script β} {ms' : History τ} {t' : Threads τ β}
    {reply : List Exchange → (c : Call) → Except OperationError c.Answer} {a : α} {b : β} {i : Nat}
    (hs : ∀ s ∈ ss, s.Within Action.IsPlain)
    (h : Explained (Ensemble.fanOut ss g) ms t) (ht : t.lead = .done a)
    (h' : Explained (Ensemble.fanOut ss g') ms' t') (ht' : t'.lead = .done b)
    (hr : Exchange.Follows reply (exchanges (ms.deedsOf (.script i))))
    (hr' : Exchange.Follows reply (exchanges (ms'.deedsOf (.script i)))) :
    t.scripts[i]? = t'.scripts[i]? ∧ ms.deedsOf (.script i) = ms'.deedsOf (.script i) := by
  obtain ⟨rs, hlen, hsc, -, hdoes⟩ := h.end_of_fanOut ht
  obtain ⟨rs', hlen', hsc', -, hdoes'⟩ := h'.end_of_fanOut ht'
  rw [hsc, hsc', List.getElem?_map, List.getElem?_map]
  rcases Nat.lt_or_ge i ss.length with hi | hi
  · have hrs : rs[i]? = some rs[i] := List.getElem?_eq_getElem (by omega)
    have hrs' : rs'[i]? = some rs'[i] := List.getElem?_eq_getElem (by omega)
    obtain ⟨hds, hres⟩ := Script.Does.unique (hs _ (List.getElem_mem hi))
      (hdoes i _ _ (List.getElem?_eq_getElem hi) hrs)
      (hdoes' i _ _ (List.getElem?_eq_getElem hi) hrs') hr hr'
    rw [hrs, hrs', hres]
    exact ⟨rfl, hds⟩
  · rw [List.getElem?_eq_none (by omega), List.getElem?_eq_none (by omega)]
    refine ⟨rfl, ?_⟩
    have hstarted := h.length_scripts
    have hstarted' := h'.length_scripts
    rw [hsc, List.length_map] at hstarted
    rw [hsc', List.length_map] at hstarted'
    rw [h.idle i (by omega), h'.idle i (by omega)]

end Explained

/-- **Behind a deed of the leading thread** of a fan-out no script does anything. -/
theorem Run.scripts_before_lead {W : Type} {p : Performer W} {w v : W} {before behind : History τ}
    {d : Deed} (run : Run p (.ofEnsemble (Ensemble.fanOut ss g)) w
      (before ++ (.lead, .deed d) :: behind) t v) (i : Nat) (m : Move τ) :
    (.script i, m) ∉ behind := by
  intro hm
  obtain ⟨mid, later, rfl⟩ := List.append_of_mem hm
  have hsplit : before ++ (.lead, .deed d) :: (mid ++ (.script i, m) :: later) =
      (before ++ (.lead, .deed d) :: mid) ++ (.script i, m) :: later := by simp
  rw [hsplit] at run
  obtain ⟨u, x, run₁, run₂⟩ := run.of_append
  rcases run₁.explained.lead_of_fanOut with ⟨-, hnone, -⟩ | ⟨rs, s, -, hsc, -, -⟩
  · have hmem : d ∈ (before ++ (.lead, .deed d) :: mid : History τ).deedsOf .lead :=
      History.mem_deedsOf.2 (by simp)
    rw [hnone] at hmem
    simp at hmem
  · cases run₂ with
    | cons step _ =>
        cases step with
        | scriptAct e ss' k j y next _ turn =>
            obtain rfl : ss' = rs.map .done := hsc
            rw [List.getElem?_map] at turn
            obtain ⟨r, -, hr⟩ := Option.map_eq_some_iff.1 turn
            cases hr

end Threads

/-! ### Fan-outs of operations -/

namespace FanOut

variable {α β γ : Type}

/-- How a fan-out goes on behind an outcome: with what was asked for, or with the failure. -/
def after (f : α → FanOut γ β) :
    Except OperationError α → Ensemble (Except OperationError γ) (Except OperationError β)
  | .ok a => (f a).run
  | .error e => .done (.error e)

theorem run_bind (op : FanOut γ α) (f : α → FanOut γ β) :
    (op >>= f).run = op.run.bind (after f) := by
  show Ensemble.bind op _ = Ensemble.bind op _
  congr 1
  funext r
  cases r <;> rfl

theorem run_together_bind (ops : List (Operation γ))
    (f : List (Except OperationError γ) → FanOut γ β) :
    (Operation.together ops >>= f).run =
      (Ensemble.together (ops.map ExceptT.run)).bind fun rs => (f rs).run := by
  rw [run_bind]
  show Ensemble.bind (Ensemble.bind _ _) _ = _
  rw [Ensemble.bind_assoc]
  rfl

end FanOut

end Testbed
