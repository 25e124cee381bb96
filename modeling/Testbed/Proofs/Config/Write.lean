/-
**A configuration that is shown reads back as itself.**

A configuration is written as a document of three sections, with tables in them for the images and
the nodes.  Whatever its texts and keys contain, the document is read back from its text, up to the
order of its entries; and neither the order nor how a table came to be matters to a configuration.

Main definitions:

* `Testbed.Toml.Comparison.Stable` — a comparison to which a rebuilt tree is like the tree.

Main results:

* `Testbed.Config.describes_toToml` — a configuration is what its document describes;
* `Testbed.Config.saysTheSame_stable` — a rebuilt document says the same;
* `Testbed.Config.parse_print` — **a valid configuration is read back from its text**;
* `Testbed.Cli.shown_configuration_reads_back` — and its text is what is shown.
-/

import Testbed.Cli.Run
import Testbed.Proofs.Config.Load
import Testbed.Proofs.Config.Read
import Testbed.Proofs.Toml.Sections

set_option relaxedAutoImplicit false
set_option autoImplicit false

namespace Testbed

namespace Toml

/-! ### Rebuilt trees -/

/-- A rebuilt tree holds nothing that the tree does not hold. -/
theorem Simple.isReadable_rebuilt {v : Toml} (h : v.Simple) (hreadable : v.isReadable = true) :
    (rebuilt v).isReadable = true := by
  induction h with
  | plain h => rwa [rebuilt_of_not_isSection h.isSection]
  | table outside keys entries ih =>
      rename_i es
      rw [rebuilt_table outside]
      refine entriesReadable_iff.2 fun e he => ?_
      obtain ⟨f, hf, rfl⟩ := List.mem_map.1 ((perm_rebuilt es).mem_iff.1 he)
      exact ih f hf (entriesReadable_iff.1 hreadable f hf)

theorem Simple.under? {v w : Toml} (h : v.Simple) {k : String} (hw : v.under? k = some w) :
    w.Simple := by
  cases h with
  | plain h => cases h <;> cases hw
  | table _ _ entries => exact entries _ (mem_of_lookup hw)

theorem Simple.isTable_rebuilt_iff {v : Toml} (h : v.Simple) :
    v.IsTable ↔ (rebuilt v).IsTable := by
  cases h with
  | plain h => rw [rebuilt_of_not_isSection h.isSection]
  | table outside _ _ =>
      rw [rebuilt_table outside]
      exact ⟨fun _ => ⟨_, _, rfl⟩, fun _ => ⟨_, _, rfl⟩⟩

/-- **A comparison to which a rebuilt tree is like the tree.** -/
def Comparison.Stable (c : Comparison) : Prop := ∀ v, v.Simple → c v (rebuilt v)

namespace Comparison

theorem stable_under? {c : Comparison} (hc : c.Stable) {v : Toml} (hv : v.Simple) (k : String) :
    Option.Rel c (v.under? k) ((rebuilt v).under? k) := by
  rw [hv.under?_rebuilt]
  cases hw : v.under? k with
  | none => exact .none
  | some w => exact .some (hc w (hv.under? hw))

theorem stable_scalar : scalar.Stable := by
  intro v hv
  cases hv with
  | plain h =>
      rw [rebuilt_of_not_isSection h.isSection]
      exact scalar_refl v
  | table outside _ _ =>
      rw [rebuilt_table outside]
      exact ⟨fun s => by simp, fun n => by simp⟩

theorem stable_fields {known : List (String × Comparison)} (h : ∀ e ∈ known, e.2.Stable) :
    (fields known).Stable :=
  fun _ hv => ⟨hv.isTable_rebuilt_iff, fun e he => stable_under? (h e he) hv e.1⟩

theorem stable_each {c : Comparison} (h : c.Stable) : (each c).Stable := by
  intro v hv
  refine ⟨hv.isTable_rebuilt_iff, fun s => ?_, stable_under? h hv⟩
  cases hv with
  | plain h => rw [rebuilt_of_not_isSection h.isSection]
  | table outside _ _ =>
      rw [rebuilt_table outside]
      simp

end Comparison

end Toml

open Toml

namespace Config

theorem saysTheSame_stable : SaysTheSame.Stable := by
  have hscalar := Comparison.stable_scalar
  have hnode : NodeSaysTheSame.Stable := Comparison.stable_fields (by simpa using hscalar)
  refine Comparison.stable_fields ?_
  simp only [List.forall_mem_cons]
  exact ⟨Comparison.stable_fields (by simpa using hscalar),
    Comparison.stable_fields
      (by simpa using ⟨hscalar, Comparison.stable_each hscalar, Comparison.stable_each hnode⟩),
    Comparison.stable_fields (by simpa using hscalar), fun e he => absurd he List.not_mem_nil⟩

/-! ### The document of a configuration -/

/-- The entries of a dictionary as a table. -/
theorem simple_sheet {β : Type} (f : β → Toml) (hf : ∀ b, (f b).Simple) (d : Dict β) :
    (sheet (d.entries.map fun e => (e.1, f e.2))).Simple := by
  refine .table (by decide) ?_ fun e he => ?_
  · rw [List.map_map]
    exact d.nodup_keys
  · obtain ⟨x, -, rfl⟩ := List.mem_map.1 he
    exact hf x.2

theorem simple_text (s : String) : (Toml.text s).Simple := .plain (.text s)

theorem simple_ofNat (n : Nat) : (Toml.ofNat n).Simple := .plain (.integer n)

/-- A table with fixed keys. -/
theorem simple_table {es : List (String × Toml)} (keys : (es.map Prod.fst).Nodup)
    (h : ∀ e ∈ es, e.2.Simple) : (sheet es).Simple := .table (by decide) keys h

theorem simple_optionalEntry (k : String) (s : Option String) :
    ∀ e ∈ optionalEntry k s, e.2.Simple := by
  cases s with
  | none => simp [optionalEntry]
  | some s => simpa [optionalEntry] using simple_text s

theorem simple_pair (p : TemplatePair) : p.toToml.Simple :=
  simple_table (by simp) (by simp [simple_text])

theorem simple_docker (d : Docker) : d.toToml.Simple := by
  refine simple_table ?_ fun e he => ?_
  · cases d.targetQuorumImage <;> cases d.targetTesseraImage <;> simp [optionalEntry]
  · simp only [List.append_assoc, List.mem_append, List.mem_cons, List.not_mem_nil, or_false] at he
    rcases he with rfl | he | he | rfl | rfl | rfl
    · exact simple_text _
    · exact simple_optionalEntry _ _ e he
    · exact simple_optionalEntry _ _ e he
    · exact simple_sheet .text simple_text d.quorumImages
    · exact simple_sheet .text simple_text d.tesseraImages
    · exact simple_sheet TemplatePair.toToml simple_pair d.nodes

theorem simple_toToml (c : Config) : c.toToml.Simple := by
  have hgeneral : c.general.toToml.Simple := simple_table (by simp) (by simp [simple_text])
  have hnetwork : c.network.toToml.Simple := simple_table (by simp) (by simp [simple_ofNat])
  exact simple_table (by simp) (by simp [hgeneral, simple_docker, hnetwork])

theorem isReadable_sheet {β : Type} (f : β → Toml) (hf : ∀ b, (f b).isReadable = true)
    (d : Dict β) : (sheet (d.entries.map fun e => (e.1, f e.2))).isReadable = true := by
  refine entriesReadable_iff.2 fun e he => ?_
  obtain ⟨x, -, rfl⟩ := List.mem_map.1 he
  exact hf x.2

theorem isReadable_ofNat {n : Nat} (h : n ≤ 1000) : (Toml.ofNat n).isReadable = true := by
  have hmin : -Int.pow 2 127 ≤ 0 := by decide
  have hmax : (1000 : Int) < Int.pow 2 128 := by decide
  simp only [Toml.ofNat, isReadable, isReadableInteger, Bool.and_eq_true, decide_eq_true_eq]
  omega

theorem isReadable_docker (d : Docker) : d.toToml.isReadable = true := by
  have htext (s : String) : (Toml.text s).isReadable = true := rfl
  have hpair (p : TemplatePair) : p.toToml.isReadable = true := rfl
  refine entriesReadable_iff.2 fun e he => ?_
  simp only [List.append_assoc, List.mem_append, List.mem_cons, List.not_mem_nil, or_false] at he
  rcases he with rfl | he | he | rfl | rfl | rfl
  · rfl
  · obtain ⟨s, -, rfl⟩ := Option.map_eq_some_iff.1 (Option.mem_toList.1 he)
    rfl
  · obtain ⟨s, -, rfl⟩ := Option.map_eq_some_iff.1 (Option.mem_toList.1 he)
    rfl
  · exact isReadable_sheet .text htext d.quorumImages
  · exact isReadable_sheet .text htext d.tesseraImages
  · exact isReadable_sheet TemplatePair.toToml hpair d.nodes

theorem isReadable_toToml {c : Config} (h : c.Valid) : c.toToml.isReadable = true := by
  have hnetwork : c.network.toToml.isReadable = true := by
    refine entriesReadable_iff.2 ?_
    simp only [List.forall_mem_cons]
    exact ⟨isReadable_ofNat (by have := h.gracePeriod; omega), isReadable_ofNat h.attempts.2,
      isReadable_ofNat (by have := h.interval.2; omega), isReadable_ofNat h.networkAttempts.2,
      fun e he => absurd he List.not_mem_nil⟩
  refine entriesReadable_iff.2 ?_
  simp only [List.forall_mem_cons]
  exact ⟨rfl, isReadable_docker c.docker, hnetwork, fun e he => absurd he List.not_mem_nil⟩

/-- What is looked up in the table of a dictionary. -/
theorem under?_sheet {β : Type} (f : β → Toml) (d : Dict β) (k : String) :
    under? k (sheet (d.entries.map fun e => (e.1, f e.2))) = (d.get? k).map f :=
  lookup_map f k d.entries

theorem rel_under?_sheet {β : Type} {f : β → Toml} {reads : Toml → β → Prop}
    (hf : ∀ b, reads (f b) b) (d : Dict β) (k : String) :
    Option.Rel reads (under? k (sheet (d.entries.map fun e => (e.1, f e.2)))) (d.get? k) := by
  rw [under?_sheet]
  cases d.get? k with
  | none => exact .none
  | some b => exact .some (hf b)

theorem describes_docker (d : Docker) : Docker.Describes (fun k => under? k d.toToml) d := by
  have himages (d : Dict String) : IsTexts (ofTexts d) d :=
    .inl ⟨⟨_, _, rfl⟩, rel_under?_sheet (f := Toml.text) (fun _ => rfl) d⟩
  have hnodes (d : Dict TemplatePair) :
      IsPairs (sheet (d.entries.map fun e => (e.1, e.2.toToml))) d :=
    ⟨⟨_, _, rfl⟩, rel_under?_sheet (fun _ => ⟨rfl, rfl⟩) d⟩
  obtain ⟨host, quorum, tessera, images, others, nodes⟩ := d
  cases quorum with
  | none =>
      cases tessera with
      | none => exact ⟨rfl, rfl, rfl, himages images, himages others, hnodes nodes⟩
      | some t => exact ⟨rfl, rfl, rfl, himages images, himages others, hnodes nodes⟩
  | some q =>
      cases tessera with
      | none => exact ⟨rfl, rfl, rfl, himages images, himages others, hnodes nodes⟩
      | some t => exact ⟨rfl, rfl, rfl, himages images, himages others, hnodes nodes⟩

theorem at?_docker (c : Config) (k : String) :
    c.toToml.at? ["docker", k] = under? k c.docker.toToml := by
  rw [at?_two]
  rfl

/-- **A configuration is what its document describes.** -/
theorem describes_toToml {c : Config} (h : c.Valid) : Describes c.toToml c := by
  refine ⟨⟨rfl, rfl⟩, ?_, ?_⟩
  · simp only [at?_docker]
    exact describes_docker c.docker
  · exact ⟨⟨rfl, by have := h.gracePeriod; omega⟩, ⟨rfl, by have := h.attempts.2; omega⟩,
      ⟨rfl, by have := h.interval.2; omega⟩, ⟨rfl, by have := h.networkAttempts.2; omega⟩⟩

/-- Its sections and nodes are tables. -/
theorem sectioned_toToml (c : Config) : Sectioned c.toToml := by
  refine ⟨?_, fun node w hw => ?_⟩
  · simp only [List.forall_mem_cons]
    refine ⟨fun w hw => ?_, fun w hw => ?_, fun w hw => ?_, fun e he => absurd he List.not_mem_nil⟩
    all_goals
      rw [← Option.some.inj hw]
      exact ⟨_, _, rfl⟩
  · have hnodes : under? "nodes" c.docker.toToml =
        some (sheet (c.docker.nodes.entries.map fun e => (e.1, e.2.toToml))) := by
      obtain ⟨host, quorum, tessera, images, others, nodes⟩ := c.docker
      cases quorum <;> cases tessera <;> rfl
    rw [at?_three, ← at?_two, at?_docker, hnodes, Option.bind_some, under?_sheet] at hw
    obtain ⟨p, -, rfl⟩ := Option.map_eq_some_iff.1 hw
    exact ⟨_, _, rfl⟩

/-! ### Reading it back -/

/-- Documents that say the same have tables in the same places. -/
theorem Sectioned.of_same {v w : Toml} (h : Sectioned v) (hsame : SaysTheSame v w) :
    Sectioned w := by
  have hdocker := hsame.2 ("docker", Docker.SaysTheSame) (by simp)
  refine ⟨fun k hk u hu => ?_, fun node u hu => ?_⟩
  · have hrel : ∃ known, Option.Rel (Comparison.fields known) (v.under? k) (w.under? k) := by
      simp only [List.mem_cons, List.not_mem_nil, or_false] at hk
      rcases hk with rfl | rfl | rfl
      · exact ⟨_, hsame.2 ("general", General.SaysTheSame) (by simp)⟩
      · exact ⟨_, hdocker⟩
      · exact ⟨_, hsame.2 ("network", WaitingSaysTheSame) (by simp)⟩
    obtain ⟨known, hrel⟩ := hrel
    rw [← at?_one, ← at?_one, hu] at hrel
    exact Comparison.isTable_of_rel hrel (h.sections k hk)
  · have hrel := Comparison.each_under? (Comparison.fields_under? hdocker
      (k := "nodes") (c := .each NodeSaysTheSame) (by simp)) node
    rw [← at?_three, ← at?_three, hu] at hrel
    exact Comparison.isTable_of_rel hrel (h.nodes node)

/-- **A valid configuration is read back from its text.** -/
theorem parse_print {c : Config} (h : c.Valid) : Config.parse c.print = .ok c := by
  have hsimple := simple_toToml c
  have hread := hsimple.parse?_print
  have hrebuilt := saysTheSame_stable _ hsimple
  have hreadable := hsimple.isReadable_rebuilt (isReadable_toToml h)
  rw [toToml, sheet, rebuilt_table (by decide)] at hrebuilt hreadable
  -- the table at the root has a header whatever it holds, but that cannot be looked up
  have hsame : SaysTheSame c.toToml (.table .header _) :=
    ⟨⟨fun _ => ⟨_, _, rfl⟩, fun _ => ⟨_, _, rfl⟩⟩, hrebuilt.2⟩
  refine (parse_eq_ok_iff hread).2 ((ofToml?_eq_some_iff (parse?_document hread)
    ((sectioned_toToml c).of_same hsame)).2 ⟨passable_of_isReadable hreadable, ?_⟩)
  exact (describes_congr hsame c).1 (describes_toToml h)

end Config

/-! ### Showing it -/

/-- **A configuration that is shown reads back as itself.**  A configuration that passes its check
is shown without failure, in any format, and the text in the report is read as the configuration. -/
theorem Cli.shown_configuration_reads_back (c : Config) (hcheck : c.check = .ok ())
    (source : String) (v : Cli.Voice) :
    ∃ text, Cli.showConfig (.ok c) source v none = v.say (.config source none text) ∧
      Config.parse text = .ok c := by
  refine ⟨c.print, rfl, ?_⟩
  exact Config.parse_print (Config.check_eq_ok_iff.1 hcheck)

/-- A configuration with quotes, dots, line ends and control characters in its texts and keys. -/
def Config.odd : Config where
  docker := {
    host := "say \"hi\"\nor 'hi'\r"
    targetQuorumImage := some ""
    quorumImages := Dict.ofList [("", "'''\"\"\""), ("a.b = 1 #", "\\\x7f\t")]
    nodes := Dict.ofList [("[docker]\n", ⟨"\x00\"", "é'"⟩)] }

/-- It reads back as itself all the same. -/
theorem Cli.odd_configuration_reads_back :
    ∃ text, Cli.showConfig (.ok Config.odd) "qnet.toml" ⟨.json, false⟩ none =
        Cli.Voice.say ⟨.json, false⟩ (.config "qnet.toml" none text) ∧
      Config.parse text = .ok Config.odd :=
  shown_configuration_reads_back Config.odd
    (Config.check_eq_ok_iff.2 ((Config.check?_eq_none_iff _).1 (by decide +kernel))) _ _

end Testbed
