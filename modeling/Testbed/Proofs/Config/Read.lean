/-
**What a document says about a configuration.**

The sections of a configuration are read apart from one another, and so are the fields of a section:
each of them has the value that stands under its key, or its default if nothing stands there.  What
stands under other keys does not count, as long as it can be passed over, and neither does the order
in which keys are written.

A date in place of a dictionary of images is the one value of another kind that is accepted.  It
shows itself as a table of one private key, and so the dictionary holds the spelling of the date.

Main definitions:

* `Testbed.Config.Describes` — what a document says about a configuration, field by field;
* `Testbed.Config.Passable` — all that stands under other keys can be passed over;
* `Testbed.Config.Sectioned` — sections and nodes are written as tables;
* `Testbed.Config.known`, `Testbed.Config.Kind.Accepts` — the known keys and what they take;
* `Testbed.Config.SaysTheSame` — two documents that agree under all known keys.

Main results:

* `Testbed.Config.ofToml?_eq_some_iff` — the configuration of a document is the one it describes;
* `Testbed.Config.parse_by_fields` — **when a text is read, what is read, and what does not
  matter**.
-/

import Mathlib
import Testbed.Proofs.Config.Fields
import Testbed.Proofs.Toml.Sections

set_option relaxedAutoImplicit false
set_option autoImplicit false

namespace Testbed

/-! ### Values of fields -/

namespace Toml

/-- The value is this text. -/
def IsText (v : Toml) (s : String) : Prop := v = .text s

/-- The value is this number, which is below the limit. -/
def IsNumber (limit : Nat) (v : Toml) (n : Nat) : Prop := v = .integer n ∧ n < limit

/-- The value is the table of these texts, or a date, which counts as a table with its spelling
under the private key. -/
def IsTexts (v : Toml) (d : Dict String) : Prop :=
  (v.IsTable ∧ ∀ k, Option.Rel IsText (v.under? k) (d.get? k)) ∨
    ∃ s, v = .date s ∧ d = Dict.ofList [(dateKey, s)]

/-- The value has the two container ids of this pair. -/
def IsPair (v : Toml) (p : TemplatePair) : Prop :=
  v.under? "quorum_container_id" = some (.text p.quorum) ∧
    v.under? "tessera_container_id" = some (.text p.tessera)

/-- The value is the table of these pairs. -/
def IsPairs (v : Toml) (d : Dict TemplatePair) : Prop :=
  v.IsTable ∧ ∀ k, Option.Rel IsPair (v.under? k) (d.get? k)

end Toml

open Toml

/-! ### Sections -/

/-- **What the section on logging says.** -/
@[mk_iff] structure Config.General.Describes (s : Section) (g : Config.General) : Prop where
  logLevel : Filled IsText "info" (s "log_level") g.logLevel
  logFormat : Filled IsText "pretty" (s "log_format") g.logFormat

/-- **What the section on containers says.** -/
@[mk_iff] structure Config.Docker.Describes (s : Section) (d : Config.Docker) : Prop where
  host : Filled IsText "" (s "host") d.host
  targetQuorumImage : s "target_quorum_image" = d.targetQuorumImage.map .text
  targetTesseraImage : s "target_tessera_image" = d.targetTesseraImage.map .text
  quorumImages : Filled IsTexts Dict.empty (s "quorum_images") d.quorumImages
  tesseraImages : Filled IsTexts Dict.empty (s "tessera_images") d.tesseraImages
  nodes : Filled IsPairs Dict.empty (s "nodes") d.nodes

/-- **What the section on waiting says.** -/
@[mk_iff] structure Waiting.Describes (s : Section) (w : Waiting) : Prop where
  gracePeriod : Filled (IsNumber (2 ^ 64)) 30 (s "consensus_grace_period_secs") w.gracePeriod
  attempts : Filled (IsNumber (2 ^ 32)) 30 (s "wait_max_attempts") w.attempts
  interval : Filled (IsNumber (2 ^ 64)) 3 (s "wait_interval_secs") w.interval
  networkAttempts :
    Filled (IsNumber (2 ^ 32)) 20 (s "network_wait_max_attempts") w.networkAttempts

/-- The keys of a node. -/
def TemplatePair.fields : List String := ["quorum_container_id", "tessera_container_id"]

namespace Config

/-- The keys of the section on logging. -/
def General.fields : List String := ["log_level", "log_format"]

/-- **What a document says about a configuration.** -/
structure Describes (v : Toml) (c : Config) : Prop where
  general : General.Describes (fun k => v.at? ["general", k]) c.general
  docker : Docker.Describes (fun k => v.at? ["docker", k]) c.docker
  network : Waiting.Describes (fun k => v.at? ["network", k]) c.network

/-- **All that stands under other keys can be passed over**, at every level. -/
structure Passable (v : Toml) : Prop where
  sections : PassesOver ["general", "docker", "network"] fun k => v.at? [k]
  general : PassesOver General.fields fun k => v.at? ["general", k]
  docker : PassesOver Docker.fields fun k => v.at? ["docker", k]
  network : PassesOver Waiting.fields fun k => v.at? ["network", k]
  nodes : ∀ node, PassesOver TemplatePair.fields fun k => v.at? ["docker", "nodes", node, k]

/-- **Sections and nodes are written as tables**, where they are written. -/
structure Sectioned (v : Toml) : Prop where
  sections : ∀ k ∈ ["general", "docker", "network"], ∀ w, v.at? [k] = some w → w.IsTable
  nodes : ∀ node w, v.at? ["docker", "nodes", node] = some w → w.IsTable

end Config

/-! ### Values that are read -/

namespace Toml

theorem text?_eq_some_iff {v : Toml} {s : String} : text? v = some s ↔ v.IsText s := by
  cases v <;> simp [text?, IsText]

theorem natBelow?_eq_some_iff {limit : Nat} {v : Toml} {n : Nat} :
    natBelow? limit v = some n ↔ IsNumber limit v n := by
  cases v with
  | integer i =>
      simp only [natBelow?, IsNumber, Option.ite_none_right_eq_some, Option.some.injEq,
        integer.injEq, Bool.and_eq_true, decide_eq_true_eq]
      omega
  | _ => simp [natBelow?, IsNumber]

/-- A dictionary of texts: each entry of its table is one. -/
theorem dict?_text?_eq_some_iff {v : Toml} (hv : v.Distinct) {d : Dict String} :
    dict? text? v = some d ↔ IsTexts v d := by
  have hdate (s : String) : dict? text? (.date s) = some (Dict.ofList [(dateKey, s)]) := rfl
  cases hv with
  | table keys _ =>
      rw [dict?_eq_some_iff keys]
      simp only [text?_eq_some_iff]
      exact ⟨fun h => .inl ⟨⟨_, _, rfl⟩, h⟩, fun h => h.elim And.right fun ⟨s, hs, _⟩ => by cases hs⟩
  | date s =>
      rw [hdate, Option.some.injEq, eq_comm]
      refine ⟨fun h => .inr ⟨s, rfl, h⟩, ?_⟩
      rintro (⟨⟨o, es, h⟩, -⟩ | ⟨s', hs, rfl⟩)
      · cases h
      · cases hs
        rfl
  | _ =>
      refine ⟨fun h => (by cases h), ?_⟩
      rintro (⟨⟨o, es, h⟩, -⟩ | ⟨s', hs, -⟩)
      · cases h
      · cases hs

end Toml

theorem TemplatePair.ofToml?_eq_some_iff {v : Toml} (hv : v.Document) {p : TemplatePair} :
    TemplatePair.ofToml? v = some p ↔
      PassesOver TemplatePair.fields (fun k => v.under? k) ∧ v.IsPair p := by
  have hid (k : String) (s : String) :
      (v.under? k).bind text? = some s ↔ v.under? k = some (.text s) := by
    simp only [Option.bind_eq_some_iff, text?_eq_some_iff]
    exact ⟨fun ⟨w, hw, hs⟩ => hs ▸ hw, fun h => ⟨_, h, rfl⟩⟩
  unfold TemplatePair.ofToml?
  simp only [bind, Option.bind_eq_some_iff, section?_eq_some_iff hv]
  constructor
  · rintro ⟨s, ⟨hpass, rfl⟩, quorum, hquorum, tessera, htessera, hp⟩
    cases hp
    exact ⟨hpass, (hid _ _).1 (Option.bind_eq_some_iff.2 hquorum),
      (hid _ _).1 (Option.bind_eq_some_iff.2 htessera)⟩
  · rintro ⟨hpass, hquorum, htessera⟩
    exact ⟨_, ⟨hpass, rfl⟩, _, ⟨_, hquorum, rfl⟩, _, ⟨_, htessera, rfl⟩, rfl⟩

/-- A dictionary of nodes: each entry of its table is one, and has nothing else that cannot be
passed over. -/
theorem dict?_pair_eq_some_iff {v : Toml} (hv : v.Distinct)
    (htables : ∀ node w, v.under? node = some w → w.IsTable) {d : Dict TemplatePair} :
    dict? TemplatePair.ofToml? v = some d ↔
      (∀ node w, v.under? node = some w →
        PassesOver TemplatePair.fields fun k => w.under? k) ∧ v.IsPairs d := by
  cases hv with
  | table keys entries =>
      rename_i o es
      have hread (node : String) (w : Toml) (hw : lookup node es = some w) (p : TemplatePair) :
          TemplatePair.ofToml? w = some p ↔
            PassesOver TemplatePair.fields (fun k => w.under? k) ∧ w.IsPair p :=
        TemplatePair.ofToml?_eq_some_iff ⟨htables node w hw, entries _ (mem_of_lookup hw)⟩
      have hrel (node : String) : Option.Rel (fun w p => TemplatePair.ofToml? w = some p)
          (lookup node es) (d.get? node) ↔
          (∀ w, lookup node es = some w → PassesOver TemplatePair.fields fun k => w.under? k) ∧
            Option.Rel IsPair (lookup node es) (d.get? node) := by
        have hnode := hread node
        generalize lookup node es = found at hnode ⊢
        generalize d.get? node = held
        cases found with
        | none => cases held <;> simp
        | some w => cases held <;> simp [hnode w rfl]
      rw [dict?_eq_some_iff keys]
      simp only [hrel, forall_and]
      exact and_congr_right fun _ => ⟨fun h => ⟨⟨_, _, rfl⟩, h⟩, And.right⟩
  | date s =>
      refine ⟨fun h => ?_, fun ⟨_, ⟨o, es, h⟩, _⟩ => by cases h⟩
      cases h
  | _ => exact ⟨fun h => (by cases h), fun ⟨_, ⟨o, es, h⟩, _⟩ => by cases h⟩

/-! ### Sections that are read -/

namespace Toml

variable {s : Section} {name : String}

theorem field?_text_iff {default b : String} :
    field? s name text? default = some b ↔ Filled IsText default (s name) b :=
  field?_eq_some_iff fun _ _ => text?_eq_some_iff

theorem field?_number_iff {limit default b : Nat} :
    field? s name (natBelow? limit) default = some b ↔
      Filled (IsNumber limit) default (s name) b :=
  field?_eq_some_iff fun _ _ => natBelow?_eq_some_iff

/-- A text that may be missing. -/
theorem field?_optional_iff {b : Option String} :
    field? s name (fun v => v.text?.map some) none = some b ↔ s name = b.map .text := by
  unfold field?
  cases s name with
  | none => cases b <;> simp
  | some v =>
      simp only [Option.map_eq_some_iff, text?_eq_some_iff, IsText]
      cases b <;> simp

theorem field?_texts_iff {default b : Dict String}
    (hs : ∀ v, s name = some v → v.Distinct) :
    field? s name (dict? text?) default = some b ↔ Filled IsTexts default (s name) b :=
  field?_eq_some_iff fun v hv => dict?_text?_eq_some_iff (hs v hv)

/-- The nodes are read if what they hold besides their ids can be passed over. -/
theorem field?_pairs_iff {default b : Dict TemplatePair}
    (hs : ∀ v, s name = some v → v.Distinct ∧ ∀ node w, v.under? node = some w → w.IsTable) :
    field? s name (dict? TemplatePair.ofToml?) default = some b ↔
      (∀ v, s name = some v → ∀ node w, v.under? node = some w →
        PassesOver TemplatePair.fields fun k => w.under? k) ∧
      Filled IsPairs default (s name) b := by
  unfold field?
  cases hv : s name with
  | none => simp [Filled, eq_comm]
  | some v =>
      obtain ⟨hdistinct, htables⟩ := hs v hv
      simp [dict?_pair_eq_some_iff hdistinct htables, Filled]

end Toml

theorem Config.General.ofToml?_eq_some_iff {v : Toml} (hv : v.Document) {g : Config.General} :
    Config.General.ofToml? v = some g ↔
      PassesOver General.fields (fun k => v.under? k) ∧
        General.Describes (fun k => v.under? k) g := by
  unfold Config.General.ofToml?
  simp only [bind, Option.bind_eq_some_iff, section?_eq_some_iff hv, field?_text_iff]
  constructor
  · rintro ⟨s, ⟨hpass, rfl⟩, level, hlevel, format, hformat, hg⟩
    cases hg
    exact ⟨hpass, hlevel, hformat⟩
  · rintro ⟨hpass, hlevel, hformat⟩
    exact ⟨_, ⟨hpass, rfl⟩, _, hlevel, _, hformat, rfl⟩

theorem Waiting.ofToml?_eq_some_iff {v : Toml} (hv : v.Document) {w : Waiting} :
    Waiting.ofToml? v = some w ↔
      PassesOver Waiting.fields (fun k => v.under? k) ∧
        Waiting.Describes (fun k => v.under? k) w := by
  unfold Waiting.ofToml?
  simp only [bind, Option.bind_eq_some_iff, section?_eq_some_iff hv, field?_number_iff]
  constructor
  · rintro ⟨s, ⟨hpass, rfl⟩, grace, hgrace, attempts, hattempts, interval, hinterval, network,
      hnetwork, hw⟩
    cases hw
    exact ⟨hpass, hgrace, hattempts, hinterval, hnetwork⟩
  · rintro ⟨hpass, hgrace, hattempts, hinterval, hnetwork⟩
    exact ⟨_, ⟨hpass, rfl⟩, _, hgrace, _, hattempts, _, hinterval, _, hnetwork, rfl⟩

theorem Config.Docker.ofToml?_eq_some_iff {v : Toml} (hv : v.Document)
    (hnodes : ∀ u, v.under? "nodes" = some u → ∀ node w, u.under? node = some w → w.IsTable)
    {d : Config.Docker} :
    Config.Docker.ofToml? v = some d ↔
      (PassesOver Docker.fields (fun k => v.under? k) ∧
        ∀ u, v.under? "nodes" = some u → ∀ node w, u.under? node = some w →
          PassesOver TemplatePair.fields fun k => w.under? k) ∧
      Docker.Describes (fun k => v.under? k) d := by
  have hdistinct (k : String) (w : Toml) (hw : v.under? k = some w) : w.Distinct :=
    hv.distinct.under? hw
  unfold Config.Docker.ofToml?
  simp only [bind, Option.bind_eq_some_iff, section?_eq_some_iff hv]
  constructor
  · rintro ⟨s, ⟨hpass, rfl⟩, host, hhost, quorum, hquorum, tessera, htessera, images, himages,
      others, hothers, nodes, hread, hd⟩
    cases hd
    obtain ⟨hrest, hread⟩ :=
      (field?_pairs_iff fun u hu => ⟨hdistinct _ u hu, hnodes u hu⟩).1 hread
    exact ⟨⟨hpass, hrest⟩, field?_text_iff.1 hhost, field?_optional_iff.1 hquorum,
      field?_optional_iff.1 htessera, (field?_texts_iff (hdistinct _)).1 himages,
      (field?_texts_iff (hdistinct _)).1 hothers, hread⟩
  · rintro ⟨⟨hpass, hrest⟩, hhost, hquorum, htessera, himages, hothers, hread⟩
    exact ⟨_, ⟨hpass, rfl⟩, _, field?_text_iff.2 hhost, _, field?_optional_iff.2 hquorum, _,
      field?_optional_iff.2 htessera, _, (field?_texts_iff (hdistinct _)).2 himages, _,
      (field?_texts_iff (hdistinct _)).2 hothers, _,
      (field?_pairs_iff fun u hu => ⟨hdistinct _ u hu, hnodes u hu⟩).2 ⟨hrest, hread⟩, rfl⟩

/-! ### A section that is missing -/

/-- A section is filled as its fields are: one that is missing has all the defaults. -/
theorem Toml.filled_section_iff {β : Type} {passes : Toml → Prop} {describes : Section → β → Prop}
    {default b : β} (hdefault : describes (fun _ => none) b ↔ b = default) {o : Option Toml} :
    Filled (fun w b => passes w ∧ describes (fun k => w.under? k) b) default o b ↔
      (∀ w, o = some w → passes w) ∧ describes (fun k => o.bind (under? k)) b := by
  cases o with
  | none => exact hdefault.symm.trans (and_iff_right fun w hw => by cases hw).symm
  | some w => simp [Filled]

theorem Config.General.describes_none {g : Config.General} :
    General.Describes (fun _ => none) g ↔ g = {} := by
  refine ⟨fun h => ?_, ?_⟩
  · cases g
    cases h.logLevel
    cases h.logFormat
    rfl
  · rintro rfl
    exact ⟨rfl, rfl⟩

theorem Waiting.describes_none {w : Waiting} :
    Waiting.Describes (fun _ => none) w ↔ w = {} := by
  refine ⟨fun h => ?_, ?_⟩
  · cases w
    cases h.gracePeriod
    cases h.attempts
    cases h.interval
    cases h.networkAttempts
    rfl
  · rintro rfl
    exact ⟨rfl, rfl, rfl, rfl⟩

theorem Config.Docker.describes_none {d : Config.Docker} :
    Docker.Describes (fun _ => none) d ↔ d = {} := by
  refine ⟨fun h => ?_, ?_⟩
  · obtain ⟨host, quorum, tessera, images, others, nodes⟩ := d
    cases h.host
    cases h.quorumImages
    cases h.tesseraImages
    cases h.nodes
    cases Option.map_eq_none_iff.1 h.targetQuorumImage.symm
    cases Option.map_eq_none_iff.1 h.targetTesseraImage.symm
    rfl
  · rintro rfl
    exact ⟨rfl, rfl, rfl, rfl, rfl, rfl⟩

/-! ### Whole documents -/

namespace Toml

theorem at?_one (v : Toml) (k : String) : v.at? [k] = v.under? k := by
  simp [at?]

/-- A path goes one key further. -/
theorem at?_concat (v : Toml) (path : List String) (k : String) :
    v.at? (path ++ [k]) = (v.at? path).bind (under? k) := by
  simp [at?]

theorem at?_two (v : Toml) (k₁ k₂ : String) :
    v.at? [k₁, k₂] = (v.under? k₁).bind (under? k₂) := by
  rw [← at?_one]
  exact at?_concat v [k₁] k₂

theorem at?_three (v : Toml) (k₁ k₂ k₃ : String) :
    v.at? [k₁, k₂, k₃] = ((v.under? k₁).bind (under? k₂)).bind (under? k₃) := by
  rw [← at?_two]
  exact at?_concat v [k₁, k₂] k₃

end Toml

namespace Config

theorem Sectioned.isTable {v : Toml} (h : Sectioned v) {k : String}
    (hk : k ∈ ["general", "docker", "network"]) {w : Toml} (hw : v.under? k = some w) :
    w.IsTable :=
  h.sections k hk w (by rw [at?_one, hw])

theorem passesOver_bind_iff {fields : List String} {o : Option Toml} :
    PassesOver fields (fun k => o.bind (under? k)) ↔
      ∀ w, o = some w → PassesOver fields fun k => w.under? k := by
  cases o with
  | none => simp [PassesOver]
  | some w => simp

/-- What is passed over, table by table. -/
theorem passable_iff {v : Toml} :
    Passable v ↔
      PassesOver ["general", "docker", "network"] (fun k => v.under? k) ∧
      (∀ w, v.under? "general" = some w → PassesOver General.fields fun k => w.under? k) ∧
      (∀ w, v.under? "docker" = some w → PassesOver Docker.fields (fun k => w.under? k) ∧
        ∀ u, w.under? "nodes" = some u → ∀ node x, u.under? node = some x →
          PassesOver TemplatePair.fields fun k => x.under? k) ∧
      ∀ w, v.under? "network" = some w → PassesOver Waiting.fields fun k => w.under? k := by
  have hnodes : (∀ node, PassesOver TemplatePair.fields
      fun k => v.at? ["docker", "nodes", node, k]) ↔
      ∀ w, v.under? "docker" = some w → ∀ u, w.under? "nodes" = some u →
        ∀ node x, u.under? node = some x → PassesOver TemplatePair.fields fun k => x.under? k := by
    have hpath (node k : String) : v.at? ["docker", "nodes", node, k] =
        (((v.under? "docker").bind (under? "nodes")).bind (under? node)).bind (under? k) := by
      rw [← at?_three]
      exact at?_concat v ["docker", "nodes", node] k
    simp only [hpath, passesOver_bind_iff, Option.bind_eq_some_iff]
    exact ⟨fun h w hw u hu node x hx => h node x ⟨u, ⟨w, hw, hu⟩, hx⟩,
      fun h node x ⟨u, ⟨w, hw, hu⟩, hx⟩ => h w hw u hu node x hx⟩
  have hsplit : Passable v ↔ PassesOver ["general", "docker", "network"] (fun k => v.at? [k]) ∧
      PassesOver General.fields (fun k => v.at? ["general", k]) ∧
      PassesOver Docker.fields (fun k => v.at? ["docker", k]) ∧
      PassesOver Waiting.fields (fun k => v.at? ["network", k]) ∧
      ∀ node, PassesOver TemplatePair.fields fun k => v.at? ["docker", "nodes", node, k] :=
    ⟨fun h => ⟨h.sections, h.general, h.docker, h.network, h.nodes⟩,
      fun ⟨h, hg, hd, hn, hr⟩ => ⟨h, hg, hd, hn, hr⟩⟩
  rw [hsplit, hnodes]
  simp only [at?_one, at?_two, passesOver_bind_iff]
  exact ⟨fun ⟨h, hg, hd, hn, hr⟩ => ⟨h, hg, fun w hw => ⟨hd w hw, hr w hw⟩, hn⟩,
    fun ⟨h, hg, hd, hn⟩ => ⟨h, hg, fun w hw => (hd w hw).1, hn, fun w hw => (hd w hw).2⟩⟩

/-- A document that can be passed over as a whole can be passed over in part. -/
theorem passable_of_isReadable {v : Toml} (h : v.isReadable = true) : Passable v :=
  ⟨fun _ _ _ hw => isReadable_at? h hw, fun _ _ _ hw => isReadable_at? h hw,
    fun _ _ _ hw => isReadable_at? h hw, fun _ _ _ hw => isReadable_at? h hw,
    fun _ _ _ _ hw => isReadable_at? h hw⟩

/-- **The configuration of a document is the one that it describes**, as long as the rest can be
passed over. -/
theorem ofToml?_eq_some_iff {v : Toml} (hv : v.Document) (hs : Sectioned v) {c : Config} :
    ofToml? v = some c ↔ Passable v ∧ Describes v c := by
  have hsection (k : String) (hk : k ∈ ["general", "docker", "network"]) (w : Toml)
      (hw : v.under? k = some w) : w.Document :=
    ⟨hs.isTable hk hw, hv.distinct.under? hw⟩
  have hgeneral (g : General) :
      field? (fun k => v.under? k) "general" General.ofToml? {} = some g ↔
        (∀ w, v.under? "general" = some w → PassesOver General.fields fun k => w.under? k) ∧
          General.Describes (fun k => v.at? ["general", k]) g := by
    simp only [at?_two]
    rw [← filled_section_iff General.describes_none]
    exact field?_eq_some_iff fun w hw =>
      General.ofToml?_eq_some_iff (hsection "general" (by decide) w hw)
  have hdocker (d : Docker) :
      field? (fun k => v.under? k) "docker" Docker.ofToml? {} = some d ↔
        (∀ w, v.under? "docker" = some w → PassesOver Docker.fields (fun k => w.under? k) ∧
          ∀ u, w.under? "nodes" = some u → ∀ node x, u.under? node = some x →
            PassesOver TemplatePair.fields fun k => x.under? k) ∧
          Docker.Describes (fun k => v.at? ["docker", k]) d := by
    simp only [at?_two]
    rw [← filled_section_iff Docker.describes_none]
    refine field?_eq_some_iff fun w hw =>
      Docker.ofToml?_eq_some_iff (hsection "docker" (by decide) w hw) fun u hu node x hx =>
        hs.nodes node x ?_
    rw [at?_three, hw, Option.bind_some, hu, Option.bind_some, hx]
  have hnetwork (n : Waiting) :
      field? (fun k => v.under? k) "network" Waiting.ofToml? {} = some n ↔
        (∀ w, v.under? "network" = some w → PassesOver Waiting.fields fun k => w.under? k) ∧
          Waiting.Describes (fun k => v.at? ["network", k]) n := by
    simp only [at?_two]
    rw [← filled_section_iff Waiting.describes_none]
    exact field?_eq_some_iff fun w hw =>
      Waiting.ofToml?_eq_some_iff (hsection "network" (by decide) w hw)
  rw [passable_iff]
  unfold ofToml?
  simp only [bind, Option.bind_eq_some_iff, section?_eq_some_iff hv]
  constructor
  · rintro ⟨s, ⟨hpass, rfl⟩, g, hg, d, hd, n, hn, hc⟩
    cases hc
    obtain ⟨hgpass, hg⟩ := (hgeneral g).1 hg
    obtain ⟨hdpass, hd⟩ := (hdocker d).1 hd
    obtain ⟨hnpass, hn⟩ := (hnetwork n).1 hn
    exact ⟨⟨hpass, hgpass, hdpass, hnpass⟩, hg, hd, hn⟩
  · rintro ⟨⟨hpass, hgpass, hdpass, hnpass⟩, hg, hd, hn⟩
    exact ⟨_, ⟨hpass, rfl⟩, _, (hgeneral _).2 ⟨hgpass, hg⟩, _, (hdocker _).2 ⟨hdpass, hd⟩, _,
      (hnetwork _).2 ⟨hnpass, hn⟩, rfl⟩

/-! ### What is accepted -/

/-- What the value under a known key is declared to be. -/
inductive Kind where
  | text
  | number (limit : Nat)
  | texts
  | pairs
  deriving DecidableEq

/-- **The value is of the declared kind**; a node has both container ids. -/
def Kind.Declared : Kind → Toml → Prop
  | .text, v => ∃ s, v = .text s
  | .number limit, v => ∃ n : Nat, v = .integer n ∧ n < limit
  | .texts, v => v.IsTable ∧ ∀ k w, v.under? k = some w → ∃ s, w = .text s
  | .pairs, v => v.IsTable ∧ ∀ node w, v.under? node = some w →
      (∃ s, w.under? "quorum_container_id" = some (.text s)) ∧
        ∃ s, w.under? "tessera_container_id" = some (.text s)

/-- What is accepted besides: a date in place of a table of texts. -/
def Kind.Accepts (kind : Kind) (v : Toml) : Prop :=
  kind.Declared v ∨ kind = .texts ∧ ∃ s, v = .date s

/-- **The known keys** and the kinds of their values. -/
def known : List (List String × Kind) :=
  [(["general", "log_level"], .text), (["general", "log_format"], .text),
    (["docker", "host"], .text), (["docker", "target_quorum_image"], .text),
    (["docker", "target_tessera_image"], .text), (["docker", "quorum_images"], .texts),
    (["docker", "tessera_images"], .texts), (["docker", "nodes"], .pairs),
    (["network", "consensus_grace_period_secs"], .number (2 ^ 64)),
    (["network", "wait_max_attempts"], .number (2 ^ 32)),
    (["network", "wait_interval_secs"], .number (2 ^ 64)),
    (["network", "network_wait_max_attempts"], .number (2 ^ 32))]

theorem accepts_text_iff {v : Toml} : Kind.text.Accepts v ↔ ∃ s, IsText v s := by
  simp [Kind.Accepts, Kind.Declared, IsText]

theorem accepts_number_iff {limit : Nat} {v : Toml} :
    (Kind.number limit).Accepts v ↔ ∃ n, IsNumber limit v n := by
  simp [Kind.Accepts, Kind.Declared, IsNumber]

theorem accepts_texts_iff {v : Toml} (hv : v.Distinct) :
    Kind.texts.Accepts v ↔ ∃ d, IsTexts v d := by
  constructor
  · rintro (⟨⟨o, es, rfl⟩, hall⟩ | ⟨-, s, rfl⟩)
    · cases hv with
      | table keys _ =>
          have hread : ∀ k w, lookup k es = some w → ∃ s, IsText w s := hall
          obtain ⟨d, hd⟩ := exists_dict keys hread
          exact ⟨d, .inl ⟨⟨_, _, rfl⟩, hd⟩⟩
    · exact ⟨_, .inr ⟨s, rfl, rfl⟩⟩
  · rintro ⟨d, ⟨htable, hd⟩ | ⟨s, rfl, -⟩⟩
    · refine .inl ⟨htable, fun k w hw => ?_⟩
      have hk := hd k
      rw [hw] at hk
      exact exists_of_rel hk
    · exact .inr ⟨rfl, s, rfl⟩

theorem accepts_pairs_iff {v : Toml} (hv : v.Distinct) :
    Kind.pairs.Accepts v ↔ ∃ d, IsPairs v d := by
  constructor
  · rintro (⟨⟨o, es, rfl⟩, hall⟩ | ⟨h, -⟩)
    · cases hv with
      | table keys _ =>
          have hread (node : String) (w : Toml) (hw : lookup node es = some w) :
              ∃ p, IsPair w p := by
            obtain ⟨⟨quorum, hquorum⟩, tessera, htessera⟩ := hall node w hw
            exact ⟨⟨quorum, tessera⟩, hquorum, htessera⟩
          obtain ⟨d, hd⟩ := exists_dict keys hread
          exact ⟨d, ⟨_, _, rfl⟩, hd⟩
    · cases h
  · rintro ⟨d, htable, hd⟩
    refine .inl ⟨htable, fun node w hw => ?_⟩
    have hnode := hd node
    rw [hw] at hnode
    obtain ⟨p, hquorum, htessera⟩ := exists_of_rel hnode
    exact ⟨⟨_, hquorum⟩, _, htessera⟩

theorem exists_optional_iff {o : Option Toml} :
    (∃ s : Option String, o = s.map .text) ↔ ∀ v, o = some v → ∃ s, IsText v s := by
  cases o with
  | none => exact ⟨fun _ v hv => (by cases hv), fun _ => ⟨none, rfl⟩⟩
  | some v =>
      constructor
      · rintro ⟨_ | s, hs⟩ w hw
        · cases hs
        · exact ⟨s, Option.some.inj (hw.symm.trans hs)⟩
      · intro h
        obtain ⟨s, hs⟩ := h v rfl
        exact ⟨some s, congrArg some hs⟩

/-- **A document describes a configuration if what stands under the known keys is accepted.** -/
theorem exists_describes_iff {v : Toml} (hv : v.Distinct) :
    (∃ c, Describes v c) ↔ ∀ e ∈ known, ∀ w, v.at? e.1 = some w → e.2.Accepts w := by
  have hdistinct {k₁ k₂ : String} {w : Toml} (hw : v.at? [k₁, k₂] = some w) : w.Distinct := by
    rw [at?_two] at hw
    obtain ⟨u, hu, hw⟩ := Option.bind_eq_some_iff.1 hw
    exact (hv.under? hu).under? hw
  have htext (k₁ k₂ : String) (default : String) :
      (∃ b, Filled IsText default (v.at? [k₁, k₂]) b) ↔
        ∀ w, v.at? [k₁, k₂] = some w → Kind.text.Accepts w := by
    simp only [exists_filled_iff, accepts_text_iff]
  have hnumber (limit : Nat) (k₁ k₂ : String) (default : Nat) :
      (∃ b, Filled (IsNumber limit) default (v.at? [k₁, k₂]) b) ↔
        ∀ w, v.at? [k₁, k₂] = some w → (Kind.number limit).Accepts w := by
    simp only [exists_filled_iff, accepts_number_iff]
  have hoptional (k₁ k₂ : String) :
      (∃ b : Option String, v.at? [k₁, k₂] = b.map .text) ↔
        ∀ w, v.at? [k₁, k₂] = some w → Kind.text.Accepts w := by
    simp only [exists_optional_iff, accepts_text_iff]
  have htexts (k₁ k₂ : String) :
      (∃ b, Filled IsTexts Dict.empty (v.at? [k₁, k₂]) b) ↔
        ∀ w, v.at? [k₁, k₂] = some w → Kind.texts.Accepts w := by
    rw [exists_filled_iff]
    exact forall₂_congr fun w hw => (accepts_texts_iff (hdistinct hw)).symm
  have hpairs (k₁ k₂ : String) :
      (∃ b, Filled IsPairs Dict.empty (v.at? [k₁, k₂]) b) ↔
        ∀ w, v.at? [k₁, k₂] = some w → Kind.pairs.Accepts w := by
    rw [exists_filled_iff]
    exact forall₂_congr fun w hw => (accepts_pairs_iff (hdistinct hw)).symm
  constructor
  · rintro ⟨c, hg, hd, hn⟩
    simp only [known, List.forall_mem_cons]
    exact ⟨(htext _ _ _).1 ⟨_, hg.logLevel⟩, (htext _ _ _).1 ⟨_, hg.logFormat⟩,
      (htext _ _ _).1 ⟨_, hd.host⟩, (hoptional _ _).1 ⟨_, hd.targetQuorumImage⟩,
      (hoptional _ _).1 ⟨_, hd.targetTesseraImage⟩, (htexts _ _).1 ⟨_, hd.quorumImages⟩,
      (htexts _ _).1 ⟨_, hd.tesseraImages⟩, (hpairs _ _).1 ⟨_, hd.nodes⟩,
      (hnumber _ _ _ _).1 ⟨_, hn.gracePeriod⟩, (hnumber _ _ _ _).1 ⟨_, hn.attempts⟩,
      (hnumber _ _ _ _).1 ⟨_, hn.interval⟩, (hnumber _ _ _ _).1 ⟨_, hn.networkAttempts⟩,
      fun e he => absurd he List.not_mem_nil⟩
  · intro h
    simp only [known, List.forall_mem_cons] at h
    obtain ⟨hlevel, hformat, hhost, hquorum, htessera, himages, hothers, hnodes, hgrace, hattempts,
      hinterval, hnetwork, -⟩ := h
    obtain ⟨level, hlevel⟩ := (htext _ _ "info").2 hlevel
    obtain ⟨format, hformat⟩ := (htext _ _ "pretty").2 hformat
    obtain ⟨host, hhost⟩ := (htext _ _ "").2 hhost
    obtain ⟨quorum, hquorum⟩ := (hoptional _ _).2 hquorum
    obtain ⟨tessera, htessera⟩ := (hoptional _ _).2 htessera
    obtain ⟨images, himages⟩ := (htexts _ _).2 himages
    obtain ⟨others, hothers⟩ := (htexts _ _).2 hothers
    obtain ⟨nodes, hnodes⟩ := (hpairs _ _).2 hnodes
    obtain ⟨grace, hgrace⟩ := (hnumber _ _ _ 30).2 hgrace
    obtain ⟨attempts, hattempts⟩ := (hnumber _ _ _ 30).2 hattempts
    obtain ⟨interval, hinterval⟩ := (hnumber _ _ _ 3).2 hinterval
    obtain ⟨network, hnetwork⟩ := (hnumber _ _ _ 20).2 hnetwork
    exact ⟨⟨⟨level, format⟩, ⟨host, quorum, tessera, images, others, nodes⟩,
      ⟨grace, attempts, interval, network⟩⟩, ⟨hlevel, hformat⟩,
      ⟨hhost, hquorum, htessera, himages, hothers, hnodes⟩,
      ⟨hgrace, hattempts, hinterval, hnetwork⟩⟩

/-! ### What does not matter -/

/-- Two sections on logging that agree under the known keys. -/
def General.SaysTheSame : Comparison := .fields
  [("log_level", .scalar), ("log_format", .scalar)]

/-- Two nodes that agree under the known keys. -/
def NodeSaysTheSame : Comparison := .fields
  [("quorum_container_id", .scalar), ("tessera_container_id", .scalar)]

/-- Two sections on containers that agree under the known keys; in a dictionary all keys count. -/
def Docker.SaysTheSame : Comparison := .fields
  [("host", .scalar), ("target_quorum_image", .scalar), ("target_tessera_image", .scalar),
    ("quorum_images", .each .scalar), ("tessera_images", .each .scalar),
    ("nodes", .each NodeSaysTheSame)]

/-- Two sections on waiting that agree under the known keys. -/
def WaitingSaysTheSame : Comparison := .fields
  [("consensus_grace_period_secs", .scalar), ("wait_max_attempts", .scalar),
    ("wait_interval_secs", .scalar), ("network_wait_max_attempts", .scalar)]

/-- **Two documents that agree under all known keys.**  Of other keys nothing is asked, nor of the
order of keys. -/
def SaysTheSame : Comparison := .fields
  [("general", General.SaysTheSame), ("docker", Docker.SaysTheSame),
    ("network", WaitingSaysTheSame)]

/-- Documents with the same sections say the same, in whatever order the sections stand and whatever
else there is. -/
theorem saysTheSame_of_perm {o o' : Origin} {es fs : List (String × Toml)}
    (hes : (es.map Prod.fst).Nodup) (hfs : (fs.map Prod.fst).Nodup)
    (hperm : (es.filter fun e => ["general", "docker", "network"].contains e.1).Perm
      (fs.filter fun e => ["general", "docker", "network"].contains e.1)) :
    SaysTheSame (.table o es) (.table o' fs) := by
  have hscalar := Comparison.scalar_refl
  have heach := Comparison.each_refl hscalar
  have hnode : ∀ v, NodeSaysTheSame v v := Comparison.fields_refl (by simpa using hscalar)
  refine Comparison.fields_of_perm ?_ hes hfs hperm
  simp only [List.forall_mem_cons]
  exact ⟨Comparison.fields_refl (by simpa using hscalar),
    Comparison.fields_refl (by simpa using ⟨hscalar, heach, Comparison.each_refl hnode⟩),
    Comparison.fields_refl (by simpa using hscalar), fun e he => absurd he List.not_mem_nil⟩

theorem suffices_isText : Comparison.scalar.Suffices IsText := fun _ _ h => h.1

theorem suffices_isNumber (limit : Nat) : Comparison.scalar.Suffices (IsNumber limit) :=
  fun _ _ h n => and_congr_left' (h.2 n)

theorem suffices_isTexts : (Comparison.each .scalar).Suffices IsTexts := fun _ _ h _ =>
  or_congr (and_congr h.1 (forall_congr' fun k => rel_iff_of_rel suffices_isText (h.2.2 k) _))
    (exists_congr fun s => and_congr_left' (h.2.1 s))

theorem suffices_isPair : NodeSaysTheSame.Suffices IsPair := fun _ _ h _ =>
  and_congr (Comparison.scalar_text_iff (h.2 ("quorum_container_id", .scalar) (by simp)) _)
    (Comparison.scalar_text_iff (h.2 ("tessera_container_id", .scalar) (by simp)) _)

theorem suffices_isPairs : (Comparison.each NodeSaysTheSame).Suffices IsPairs := fun _ _ h _ =>
  and_congr h.1 (forall_congr' fun k => rel_iff_of_rel suffices_isPair (h.2.2 k) _)

theorem optional_congr {o o' : Option Toml} (h : Option.Rel Comparison.scalar o o')
    (s : Option String) : o = s.map .text ↔ o' = s.map .text := by
  cases s with
  | none => cases h <;> simp
  | some s => exact Comparison.scalar_text_iff h s

section Sections

open Comparison (fields_under?)

variable {o o' : Option Toml}

theorem General.describes_congr (h : Option.Rel General.SaysTheSame o o') (g : General) :
    General.Describes (fun k => o.bind (under? k)) g ↔
      General.Describes (fun k => o'.bind (under? k)) g := by
  have hfield {k : String} {c : Comparison} := fields_under? h (k := k) (c := c)
  simp only [General.describes_iff]
  exact and_congr (filled_iff_of_rel suffices_isText (hfield (by simp)) _ _)
    (filled_iff_of_rel suffices_isText (hfield (by simp)) _ _)

theorem waiting_describes_congr (h : Option.Rel WaitingSaysTheSame o o') (w : Waiting) :
    Waiting.Describes (fun k => o.bind (under? k)) w ↔
      Waiting.Describes (fun k => o'.bind (under? k)) w := by
  have hfield {k : String} {c : Comparison} := fields_under? h (k := k) (c := c)
  simp only [Waiting.describes_iff]
  exact and_congr (filled_iff_of_rel (suffices_isNumber _) (hfield (by simp)) _ _)
    (and_congr (filled_iff_of_rel (suffices_isNumber _) (hfield (by simp)) _ _)
      (and_congr (filled_iff_of_rel (suffices_isNumber _) (hfield (by simp)) _ _)
        (filled_iff_of_rel (suffices_isNumber _) (hfield (by simp)) _ _)))

theorem Docker.describes_congr (h : Option.Rel Docker.SaysTheSame o o') (d : Docker) :
    Docker.Describes (fun k => o.bind (under? k)) d ↔
      Docker.Describes (fun k => o'.bind (under? k)) d := by
  have hfield {k : String} {c : Comparison} := fields_under? h (k := k) (c := c)
  simp only [Docker.describes_iff]
  exact and_congr (filled_iff_of_rel suffices_isText (hfield (by simp)) _ _)
    (and_congr (optional_congr (hfield (by simp)) _)
      (and_congr (optional_congr (hfield (by simp)) _)
        (and_congr (filled_iff_of_rel suffices_isTexts (hfield (by simp)) _ _)
          (and_congr (filled_iff_of_rel suffices_isTexts (hfield (by simp)) _ _)
            (filled_iff_of_rel suffices_isPairs (hfield (by simp)) _ _)))))

end Sections

/-- **Documents that say the same describe the same configuration.** -/
theorem describes_congr {v w : Toml} (h : SaysTheSame v w) (c : Config) :
    Describes v c ↔ Describes w c := by
  have hg := General.describes_congr (h.2 ("general", General.SaysTheSame) (by simp)) c.general
  have hd := Docker.describes_congr (h.2 ("docker", Docker.SaysTheSame) (by simp)) c.docker
  have hn := waiting_describes_congr (h.2 ("network", WaitingSaysTheSame) (by simp)) c.network
  simp only [← at?_two] at hg hd hn
  exact ⟨fun hc => ⟨hg.1 hc.general, hd.1 hc.docker, hn.1 hc.network⟩,
    fun hc => ⟨hg.2 hc.general, hd.2 hc.docker, hn.2 hc.network⟩⟩

/-! ### Texts -/

theorem parse_eq_ok_iff {text : String} {v : Toml} (hread : Toml.parse? text = some v) {c : Config} :
    Config.parse text = .ok c ↔ ofToml? v = some c := by
  unfold Config.parse
  simp only [hread]
  cases ofToml? v <;> simp

/-- **A configuration is read field by field.**  The text of a document whose sections and nodes
are tables is read as the configuration that the document describes: under each known key the value
that stands there, or the default if none does.  It is read just if every value under a known key
is of its kind and all else can be passed over.  What stands under other keys does not change the
result, nor does the order of keys. -/
theorem parse_by_fields {text : String} {v : Toml} (hread : Toml.parse? text = some v)
    (hs : Sectioned v) :
    (∀ c, Config.parse text = .ok c ↔ Passable v ∧ Describes v c) ∧
    ((∃ c, Config.parse text = .ok c) ↔
      Passable v ∧ ∀ e ∈ known, ∀ w, v.at? e.1 = some w → e.2.Accepts w) ∧
    ∀ text' v', Toml.parse? text' = some v' → Sectioned v' → Passable v → Passable v' →
      SaysTheSame v v' → Config.parse text' = Config.parse text := by
  have hdocument := Toml.parse?_document hread
  have hok (c : Config) : Config.parse text = .ok c ↔ Passable v ∧ Describes v c :=
    (parse_eq_ok_iff hread).trans (ofToml?_eq_some_iff hdocument hs)
  refine ⟨hok, ?_, ?_⟩
  · simp only [hok, exists_and_left, exists_describes_iff hdocument.distinct]
  · intro text' v' hread' hs' hpass hpass' hsame
    have hequal : ofToml? v' = ofToml? v := by
      ext c
      rw [ofToml?_eq_some_iff hdocument hs, ofToml?_eq_some_iff (Toml.parse?_document hread') hs',
        describes_congr hsame, and_iff_right hpass, and_iff_right hpass']
    unfold Config.parse
    simp only [hread, hread', hequal]

/-- Keys that are not known, in two places, do not change what is read. -/
theorem parse_by_fields_beside_unknown_keys :
    Config.parse "spare = 1\n\n[network]\nother = 2\nwait_max_attempts = 5\n" =
        Config.parse "[network]\nwait_max_attempts = 5\n" ∧
      ∃ c, Config.parse "[network]\nwait_max_attempts = 5\n" = .ok c ∧ c.network.attempts = 5 := by
  have hplain (n : Int) : (Toml.integer n).Simple := .plain (.integer n)
  have hshort : Toml.parse? "[network]\nwait_max_attempts = 5\n" =
      some (.table .header [("network", .table .header [("wait_max_attempts", .integer 5)])]) := by
    have hsimple : Toml.Simple (.table .header
        [("network", .table .header [("wait_max_attempts", .integer 5)])]) :=
      .table (by decide) (by decide) (by simpa using .table (by decide) (by decide) (by simp [hplain]))
    exact hsimple.parse?_print
  have hlong : Toml.parse? "spare = 1\n\n[network]\nother = 2\nwait_max_attempts = 5\n" =
      some (.table .header [("spare", .integer 1),
        ("network", .table .header [("other", .integer 2), ("wait_max_attempts", .integer 5)])]) := by
    have hsimple : Toml.Simple (.table .header [("spare", .integer 1),
        ("network", .table .header [("other", .integer 2), ("wait_max_attempts", .integer 5)])]) :=
      .table (by decide) (by decide) (by
        simpa [hplain] using .table (by decide) (by decide) (by simp [hplain]))
    exact hsimple.parse?_print
  obtain ⟨hok, -, hsame⟩ := parse_by_fields hshort ⟨by simp [at?, under?, lookup, IsTable],
    by simp [at?, under?, lookup]⟩
  have hparse := (hok { network := { attempts := 5 } }).2 ⟨passable_of_isReadable rfl,
    ⟨rfl, rfl⟩, ⟨rfl, rfl, rfl, rfl, rfl, rfl⟩, rfl, ⟨rfl, by decide⟩, rfl, rfl⟩
  refine ⟨hsame _ _ hlong ⟨by simp [at?, under?, lookup, IsTable], by simp [at?, under?, lookup]⟩
    (passable_of_isReadable rfl) (passable_of_isReadable rfl) ?_, _, hparse, rfl⟩
  refine ⟨⟨fun _ => ⟨_, _, rfl⟩, fun _ => ⟨_, _, rfl⟩⟩, fun e he => ?_⟩
  simp only [List.mem_cons, List.not_mem_nil, or_false] at he
  rcases he with rfl | rfl | rfl
  · exact .none
  · exact .none
  · exact .some (Comparison.fields_of_perm (by simp [Comparison.scalar_refl]) (by decide)
      (by decide) (.of_eq rfl))

/-- Nodes that are not there are tables. -/
theorem sectioned_of_no_nodes {v : Toml}
    (hs : ∀ k ∈ ["general", "docker", "network"], ∀ w ∈ v.at? [k], w.IsTable)
    (hnodes : v.at? ["docker", "nodes"] = none) : Sectioned v := by
  refine ⟨hs, fun node w hw => ?_⟩
  rw [at?_three, ← at?_two, hnodes] at hw
  cases hw

/-- **A date in place of images is read, and a number that is too great is not passed over.**  The
value under the known key of the first text is no table of texts; in the second there is no known
key at all. -/
theorem date_for_images_and_number_too_great :
    (∃ v, Toml.parse? "[docker]\nquorum_images = 1979-05-27\n" = some v ∧ Sectioned v ∧
      Config.parse "[docker]\nquorum_images = 1979-05-27\n" =
        .ok { docker := { quorumImages := Dict.ofList [(dateKey, "1979-05-27")] } } ∧
      ¬ ∀ e ∈ known, ∀ w, v.at? e.1 = some w → e.2.Declared w) ∧
    ∃ v, Toml.parse? "spare = 1e999\n" = some v ∧ Sectioned v ∧
      (∀ e ∈ known, ∀ w, v.at? e.1 = some w → e.2.Declared w) ∧
      ∀ c, Config.parse "spare = 1e999\n" ≠ .ok c := by
  constructor
  · have hsome : (Toml.parse? "[docker]\nquorum_images = 1979-05-27\n").isSome = true := by
      decide +kernel
    obtain ⟨v, hv⟩ := Option.isSome_iff_exists.1 hsome
    have hfacts : ∀ v ∈ Toml.parse? "[docker]\nquorum_images = 1979-05-27\n",
        (∀ k ∈ ["general", "docker", "network"], ∀ w ∈ v.at? [k], w.IsTable) ∧
        (v.at? ["docker", "nodes"]).isNone = true ∧
        ofToml? v = some { docker := { quorumImages := Dict.ofList [(dateKey, "1979-05-27")] } } ∧
        (v.at? ["docker", "quorum_images"]).isSome = true ∧
        ∀ w ∈ v.at? ["docker", "quorum_images"], ¬ w.IsTable := by decide +kernel
    obtain ⟨htables, hnodes, hread, hthere, hdate⟩ := hfacts v hv
    refine ⟨v, hv, sectioned_of_no_nodes htables (Option.isNone_iff_eq_none.1 hnodes),
      (parse_eq_ok_iff hv).2 hread, fun hdeclared => ?_⟩
    obtain ⟨w, hw⟩ := Option.isSome_iff_exists.1 hthere
    exact hdate w hw (hdeclared (["docker", "quorum_images"], .texts) (by simp [known]) w hw).1
  · have hsome : (Toml.parse? "spare = 1e999\n").isSome = true := by decide +kernel
    obtain ⟨v, hv⟩ := Option.isSome_iff_exists.1 hsome
    have hfacts : ∀ v ∈ Toml.parse? "spare = 1e999\n",
        (∀ k ∈ ["general", "docker", "network"], ∀ w ∈ v.at? [k], w.IsTable) ∧
        (v.at? ["docker", "nodes"]).isNone = true ∧ ofToml? v = none ∧
        ∀ e ∈ known, (v.at? e.1).isNone = true := by decide +kernel
    obtain ⟨htables, hnodes, hread, habsent⟩ := hfacts v hv
    refine ⟨v, hv, sectioned_of_no_nodes htables (Option.isNone_iff_eq_none.1 hnodes),
      fun e he w hw => ?_, fun c hc => ?_⟩
    · have hnone := habsent e he
      rw [hw] at hnone
      cases hnone
    · rw [parse_eq_ok_iff hv, hread] at hc
      cases hc

end Config

end Testbed
