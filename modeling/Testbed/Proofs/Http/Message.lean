/-
**Resolved paths, and what a client sends.**

A path is a row of segments, and to resolve it takes the segments of dots away: what is left of them
is at most an empty segment at the end.  A path that holds no segment of dots stays as it is, so a
path is resolved once and for all.

A client goes on with what comes back, so what it sends depends on the responses.  A request is sent
if there are responses under which the client comes to it.

Main definitions:

* `Testbed.Http.IsDots` — a segment of dots;
* `Testbed.Http.Dialogue.Sends` — **a request that a dialogue sends** under some responses;
* `Testbed.Http.Dialogue.Begins` — a dialogue that begins with a request of a kind.

Main results:

* `Testbed.Http.pathSegments_slash` — the segments of a path that was put together from them;
* `Testbed.Http.not_isDots_of_mem_resolve` — no segment of dots is left;
* `Testbed.Http.resolve_of_no_dots` — a path without segments of dots stays as it is.
-/

import Testbed.Http.Message

set_option relaxedAutoImplicit false
set_option autoImplicit false

namespace Testbed.Http

/-! ### Segments -/

/-- What stands between the occurrences of a mark does not hold the mark. -/
theorem not_mem_of_mem_splitOn {c : Char} {cs word : List Char} (h : word ∈ cs.splitOn c) :
    c ∉ word := by
  induction cs generalizing word with
  | nil =>
      have hword : word = [] := by simpa using h
      simp [hword]
  | cons d cs ih =>
      rw [List.splitOn_cons_eq_if_modifyHead] at h
      split at h
      · rcases List.mem_cons.1 h with rfl | h
        · simp
        · exact ih h
      · next hd =>
        cases hcs : cs.splitOn c with
        | nil => simp [hcs] at h
        | cons first rest =>
            rw [hcs, List.modifyHead_cons, List.mem_cons] at h
            rcases h with rfl | h
            · have hfirst : c ∉ first := ih (by simp [hcs])
              have hcd : c ≠ d := by rintro rfl; simp at hd
              simp [hcd, hfirst]
            · exact ih (by simp [hcs, h])

theorem slash_not_mem_of_mem_pathSegments {path s : String} (h : s ∈ pathSegments path) :
    '/' ∉ s.toList := by
  obtain ⟨cs, hcs, rfl⟩ := List.mem_map.1 h
  simpa using not_mem_of_mem_splitOn hcs

/-- Segments are put together to a path and taken apart again. -/
theorem pathSegments_intercalate {ss : List String} (hne : ss ≠ [])
    (hslash : ∀ s ∈ ss, '/' ∉ s.toList) : pathSegments ("/".intercalate ss) = ss := by
  have hsplit : ("/".intercalate ss).toList.splitOn '/' = ss.map String.toList := by
    rw [String.toList_intercalate]
    refine List.splitOn_intercalate '/' ?_ (by simpa using hne)
    simpa using hslash
  rw [pathSegments, hsplit, List.map_map]
  simp [Function.comp_def]

theorem root_intercalate {ss : List String} (hne : ss ≠ []) :
    "/" ++ "/".intercalate ss = "/".intercalate ("" :: ss) := by
  rw [String.intercalate_cons_of_ne_nil hne, String.empty_append]

/-- The segments of a path below the root. -/
theorem pathSegments_slash {ss : List String} (hne : ss ≠ [])
    (hslash : ∀ s ∈ ss, '/' ∉ s.toList) : pathSegments ("/" ++ "/".intercalate ss) = "" :: ss := by
  rw [root_intercalate hne]
  refine pathSegments_intercalate (by simp) fun s hs => ?_
  rcases List.mem_cons.1 hs with rfl | hs
  · simp
  · exact hslash s hs

/-! ### Segments of dots -/

/-- A segment of dots: one stays where it is, and two go up. -/
def IsDots (s : String) : Prop := s = "." ∨ s = ".."

instance (s : String) : Decidable (IsDots s) := inferInstanceAs (Decidable (_ ∨ _))

/-- What holds of the segments walked, of every segment but those of dots, and of the empty one,
holds of the resolved segments. -/
theorem forall_mem_resolveFrom {P : String → Prop} {walked ss : List String} (hempty : P "")
    (hwalked : ∀ s ∈ walked, P s) (hss : ∀ s ∈ ss, ¬ IsDots s → P s) :
    ∀ s ∈ resolveFrom walked ss, P s := by
  have hcons {l : List String} {t : String} (ht : P t) (hl : ∀ s ∈ l, P s) :
      ∀ s ∈ t :: l, P s := by
    intro s hs
    rcases List.mem_cons.1 hs with rfl | hs
    · exact ht
    · exact hl s hs
  have htail {l : List String} (hl : ∀ s ∈ l, P s) : ∀ s ∈ l.tail, P s :=
    fun s hs => hl s (List.mem_of_mem_tail hs)
  fun_induction resolveFrom walked ss with
  | case1 => simpa using hwalked
  | case2 walked => simpa only [List.mem_reverse] using hcons hempty hwalked
  | case3 walked => simpa only [List.mem_reverse] using hcons hempty (htail hwalked)
  | case4 walked s hone htwo =>
      have hs : P s := hss s (by simp) (by simp [IsDots, hone, htwo])
      simpa only [List.mem_reverse] using hcons hs hwalked
  | case5 walked r _ ih => exact ih hwalked fun s hs => hss s (List.mem_cons_of_mem _ hs)
  | case6 walked r _ _ ih =>
      exact ih (htail hwalked) fun s hs => hss s (List.mem_cons_of_mem _ hs)
  | case7 walked s r _ hone htwo ih =>
      have hs : P s := hss s (by simp) (by simp [IsDots, hone, htwo])
      exact ih (hcons hs hwalked) fun t ht => hss t (List.mem_cons_of_mem _ ht)

/-- Segments without those of dots are walked one after the other. -/
theorem resolveFrom_of_no_dots {ss : List String} (hss : ∀ s ∈ ss, ¬ IsDots s)
    (walked : List String) : resolveFrom walked ss = walked.reverse ++ ss := by
  fun_induction resolveFrom walked ss with
  | case1 => simp
  | case2 => simp [IsDots] at hss
  | case3 => simp [IsDots] at hss
  | case4 => simp
  | case5 => simp [IsDots] at hss
  | case6 => simp [IsDots] at hss
  | case7 walked s r _ _ _ ih => simp [ih fun t ht => hss t (List.mem_cons_of_mem _ ht)]

theorem resolveFrom_ne_nil {ss : List String} (hne : ss ≠ []) (walked : List String) :
    resolveFrom walked ss ≠ [] := by
  fun_induction resolveFrom walked ss with
  | case1 => exact absurd rfl hne
  | case2 => simp
  | case3 => simp
  | case4 => simp
  | case5 _ r hr ih => exact ih fun h => hr h
  | case6 _ r hr _ ih => exact ih fun h => hr h
  | case7 _ _ r hr _ _ ih => exact ih fun h => hr h

/-! ### Resolved paths -/

section

variable {path : String} {ss : List String} (hpath : pathSegments path = "" :: ss) (hne : ss ≠ [])
include hpath hne

/-- The segments of a resolved path. -/
theorem pathSegments_resolve : pathSegments (resolve path) = "" :: resolveFrom [] ss := by
  have hslash : ∀ s ∈ resolveFrom [] ss, '/' ∉ s.toList := by
    refine forall_mem_resolveFrom (by simp) (by simp) fun s hs _ => ?_
    have hmem : s ∈ pathSegments path := hpath ▸ List.mem_cons_of_mem _ hs
    exact slash_not_mem_of_mem_pathSegments hmem
  rw [resolve, hpath, List.drop_one, List.tail_cons,
    pathSegments_slash (resolveFrom_ne_nil hne []) hslash]

/-- **No segment of dots is left** in a resolved path. -/
theorem not_isDots_of_mem_resolve {s : String} (hs : s ∈ pathSegments (resolve path)) :
    ¬ IsDots s := by
  rw [pathSegments_resolve hpath hne] at hs
  rcases List.mem_cons.1 hs with rfl | hs
  · decide
  · exact forall_mem_resolveFrom (by decide) (by simp) (fun _ _ h => h) s hs

end

/-- **A path without segments of dots stays as it is.** -/
theorem resolve_of_no_dots {ss : List String} (hne : ss ≠ []) (hslash : ∀ s ∈ ss, '/' ∉ s.toList)
    (hdots : ∀ s ∈ ss, ¬ IsDots s) :
    resolve ("/" ++ "/".intercalate ss) = "/" ++ "/".intercalate ss := by
  rw [resolve, pathSegments_slash hne hslash, List.drop_one, List.tail_cons,
    resolveFrom_of_no_dots hdots, List.reverse_nil, List.nil_append]

/-! ### What a dialogue sends -/

namespace Dialogue

variable {α β : Type}

/-- **A request that a dialogue sends** under some responses. -/
inductive Sends : Dialogue α → Request → Prop where
  /-- It has the request to send now. -/
  | now (r : Request) (next : Option Response → Dialogue α) : Sends (.ask r next) r
  /-- It sends the request after some response to the one that it has to send now. -/
  | later {r q : Request} {next : Option Response → Dialogue α} (x : Option Response)
      (h : Sends (next x) q) : Sends (.ask r next) q

@[simp]
theorem not_sends_done (a : α) (q : Request) : ¬ (Dialogue.done a).Sends q := by
  intro h
  cases h

theorem sends_ask_iff {r q : Request} {next : Option Response → Dialogue α} :
    (Dialogue.ask r next).Sends q ↔ q = r ∨ ∃ x, (next x).Sends q := by
  constructor
  · intro h
    cases h with
    | now => exact .inl rfl
    | later x h => exact .inr ⟨x, h⟩
  · rintro (rfl | ⟨x, h⟩)
    · exact .now q next
    · exact .later x h

/-- **A dialogue begins with a request of a kind**, and all that it sends afterwards is of another
kind. -/
def Begins (d : Dialogue α) (First After : Request → Prop) : Prop :=
  ∃ r next, d = .ask r next ∧ First r ∧ ∀ x q, (next x).Sends q → After q

theorem Begins.mono {d : Dialogue α} {First First' After : Request → Prop}
    (h : d.Begins First After) (hfirst : ∀ r, First r → First' r) : d.Begins First' After := by
  obtain ⟨r, next, hd, hr, hnext⟩ := h
  exact ⟨r, next, hd, hfirst r hr, hnext⟩

/-- What a dialogue sends is its first request or comes afterwards. -/
theorem Begins.first {d : Dialogue α} {First After : Request → Prop} {q : Request}
    (h : d.Begins First After) (hq : d.Sends q) : First q ∨ After q := by
  obtain ⟨r, next, rfl, hr, hnext⟩ := h
  rcases sends_ask_iff.1 hq with rfl | ⟨x, hx⟩
  · exact .inl hr
  · exact .inr (hnext x q hx)

/-- Two dialogues one after the other send what one of them sends. -/
theorem Sends.of_bind {d : Dialogue α} {f : α → Dialogue β} {q : Request}
    (h : (d.bind f).Sends q) : d.Sends q ∨ ∃ a, (f a).Sends q := by
  induction d with
  | done a => exact .inr ⟨a, h⟩
  | ask r next ih =>
      rcases sends_ask_iff.1 h with rfl | ⟨x, hx⟩
      · exact .inl (.now q next)
      · exact (ih x hx).imp_left (.later x)

theorem Begins.bind {d : Dialogue α} {f : α → Dialogue β} {First After : Request → Prop}
    (h : d.Begins First After) (hf : ∀ a q, (f a).Sends q → After q) :
    (d.bind f).Begins First After := by
  obtain ⟨r, next, rfl, hr, hnext⟩ := h
  refine ⟨r, _, rfl, hr, fun x q hq => ?_⟩
  rcases hq.of_bind with hq | ⟨a, ha⟩
  · exact hnext x q hq
  · exact hf a q ha

end Dialogue

end Testbed.Http
