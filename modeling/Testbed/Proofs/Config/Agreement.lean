/-
**Two checks of one configuration.**

The waiting times and the templates are checked when a configuration is loaded, and once more by the
orchestrator that gets them, with ranges, an order and a search through the nodes of its own.  Both
checks come to the same verdict, and a configuration that they refuse is refused for the same
setting: the check of the file names it by its place there and says which of the two ids of a node
is blank, the check of the orchestrator by its own name.

Main definitions:

* `Testbed.Waiting.FirstOutside` — the first waiting time out of range;
* `Testbed.LeastBlank` — the least node, in the order of bytes, with a blank container id;
* `Testbed.Config.Blamed` — **the setting that a configuration is refused for, in both wordings**.

Main results:

* `Testbed.blankTemplate?_eq_some_iff`, `Testbed.Settings.blankNode?_eq_some_iff` — both searches
  through the nodes find the least one;
* `Testbed.Config.checks_agree` — **both checks accept the same configurations and refuse the others
  for the same setting**.
-/

import Testbed.Proofs.Config.Load
import Testbed.Proofs.Text.ByteOrder

set_option relaxedAutoImplicit false
set_option autoImplicit false

namespace Testbed

/-! ### The first waiting time out of range -/

/-- Outside the range from `low` to `high`. -/
def Outside (low high n : Nat) : Prop := n < low ∨ high < n

/-- **The first waiting time out of range**: those before it are in their ranges. -/
def Waiting.FirstOutside (w : Waiting) : Waiting.Field → Prop
  | .attempts => Outside 1 1000 w.attempts
  | .networkAttempts => ¬Outside 1 1000 w.attempts ∧ Outside 1 1000 w.networkAttempts
  | .interval =>
    ¬Outside 1 1000 w.attempts ∧ ¬Outside 1 1000 w.networkAttempts ∧ Outside 1 60 w.interval
  | .gracePeriod =>
    ¬Outside 1 1000 w.attempts ∧ ¬Outside 1 1000 w.networkAttempts ∧ ¬Outside 1 60 w.interval ∧
      Outside 0 600 w.gracePeriod

theorem Waiting.isOutside_iff (w : Waiting) (f : Waiting.Field) :
    w.isOutside f = true ↔ Outside f.range.1 f.range.2 (w.get f) := by
  rw [isOutside, Bool.or_eq_true, decide_eq_true_eq, decide_eq_true_eq, Outside]

theorem Waiting.fault?_eq_some_iff (w : Waiting) (f : Waiting.Field) :
    w.fault? = some f ↔ w.FirstOutside f := by
  have hattempts : _ ↔ Outside 1 1000 w.attempts := w.isOutside_iff .attempts
  have hnetwork : _ ↔ Outside 1 1000 w.networkAttempts := w.isOutside_iff .networkAttempts
  have hinterval : _ ↔ Outside 1 60 w.interval := w.isOutside_iff .interval
  have hgrace : _ ↔ Outside 0 600 w.gracePeriod := w.isOutside_iff .gracePeriod
  unfold FirstOutside fault? checkOrder
  rw [← hattempts, ← hnetwork, ← hinterval, ← hgrace]
  cases f <;> grind

/-! ### The first node with a blank id -/

/-- Is one of the two container ids blank? -/
def TemplatePair.IsBlank (p : TemplatePair) : Prop :=
  Text.isBlankText p.quorum = true ∨ Text.isBlankText p.tessera = true

/-- **The first container id that is blank**: that of the client is looked at before that of the
private manager. -/
def TemplatePair.FirstBlank (p : TemplatePair) : TemplatePair.Part → Prop
  | .quorum => Text.isBlankText p.quorum = true
  | .tessera => Text.isBlankText p.quorum = false ∧ Text.isBlankText p.tessera = true

theorem TemplatePair.blankPart?_eq_some_iff (p : TemplatePair) (part : TemplatePair.Part) :
    p.blankPart? = some part ↔ p.FirstBlank part := by
  unfold blankPart? FirstBlank
  cases part <;> cases Text.isBlankText p.quorum <;> cases Text.isBlankText p.tessera <;> simp

/-- **The least node with a blank container id**: every other one comes after it in the order of the
bytes of their names. -/
structure LeastBlank (nodes : Dict TemplatePair) (node : String) (pair : TemplatePair) : Prop where
  listed : nodes.get? node = some pair
  blank : pair.IsBlank
  least : ∀ other p, nodes.get? other = some p → p.IsBlank → other ≠ node →
    Utf8.encode node < Utf8.encode other

/-- A search for a node with a blank id finds the least one. -/
theorem find?_eq_some_iff_leastBlank {nodes : Dict TemplatePair}
    {search : String × TemplatePair → Bool} (hsearch : ∀ e, search e = true ↔ e.2.IsBlank)
    (node : String) (pair : TemplatePair) :
    nodes.entries.find? search = some (node, pair) ↔ LeastBlank nodes node pair := by
  rw [Dict.find?_entries_eq_some_iff]
  simp only [hsearch, ← Utf8.encode_lt_encode_iff]
  exact ⟨fun ⟨hlisted, hblank, hleast⟩ => ⟨hlisted, hblank, hleast⟩,
    fun h => ⟨h.listed, h.blank, h.least⟩⟩

theorem TemplatePair.blankPart?_isSome_iff (p : TemplatePair) :
    p.blankPart?.isSome = true ↔ p.IsBlank := by
  unfold blankPart? IsBlank
  cases Text.isBlankText p.quorum <;> cases Text.isBlankText p.tessera <;> simp

/-- The check of a configuration finds the least node with a blank id, and which id it is. -/
theorem blankTemplate?_eq_some_iff (nodes : Dict TemplatePair) (node : String)
    (part : TemplatePair.Part) : blankTemplate? nodes = some (node, part) ↔
      ∃ pair, LeastBlank nodes node pair ∧ pair.FirstBlank part := by
  have hsearch (e : String × TemplatePair) : e.2.blankPart?.isSome = true ↔ e.2.IsBlank :=
    e.2.blankPart?_isSome_iff
  simp only [← find?_eq_some_iff_leastBlank hsearch, ← TemplatePair.blankPart?_eq_some_iff,
    List.find?_eq_some_iff_append, blankTemplate?, List.findSome?_eq_some_iff,
    Option.map_eq_some_iff, Option.map_eq_none_iff, Prod.mk.injEq]
  constructor
  · rintro ⟨before, ⟨node, pair⟩, after, hentries, ⟨part, hpart, rfl, rfl⟩, hbefore⟩
    exact ⟨pair, ⟨by simp [hpart], before, after, hentries,
      fun e he => by simp [hbefore e he]⟩, hpart⟩
  · rintro ⟨pair, ⟨-, before, after, hentries, hbefore⟩, hpart⟩
    exact ⟨before, (node, pair), after, hentries, ⟨part, hpart, rfl, rfl⟩,
      fun e he => by simpa using hbefore e he⟩

namespace Settings

/-- The check of the orchestrator finds the least node with a blank id. -/
theorem blankNode?_eq_some_iff (s : Settings) (node : String) :
    s.blankNode? = some node ↔ ∃ pair, LeastBlank s.nodes node pair := by
  have hsearch (e : String × TemplatePair) :
      (Text.isBlankText e.2.quorum || Text.isBlankText e.2.tessera) = true ↔ e.2.IsBlank := by
    rw [Bool.or_eq_true, TemplatePair.IsBlank]
  simp only [← find?_eq_some_iff_leastBlank hsearch, blankNode?, Option.map_eq_some_iff,
    Prod.exists, exists_and_right, exists_eq_right]

/-- The orchestrator has the ranges of a configuration. -/
theorem range_eq (f : Waiting.Field) : range f = f.range := by
  cases f with
  | attempts => rfl
  | networkAttempts => rfl
  | interval => rfl
  | gracePeriod => rfl

/-- The orchestrator stops at the waiting time at which the check of a configuration stops. -/
theorem fault?_eq (s : Settings) : s.fault? = s.waiting.fault? := by
  have horder : checkOrder = Waiting.checkOrder := rfl
  simp only [fault?, Waiting.fault?, horder, range_eq]
  rfl

/-- The two searches through the nodes find the same node. -/
theorem blankNode?_eq (s : Settings) : s.blankNode? = (blankTemplate? s.nodes).map Prod.fst := by
  cases h : blankTemplate? s.nodes with
  | none =>
      rw [blankTemplate?_eq_none_iff] at h
      simp only [blankNode?, Option.map_none, Option.map_eq_none_iff, List.find?_eq_none]
      intro e he
      simp [h e he]
  | some found =>
      obtain ⟨pair, hleast, -⟩ := (blankTemplate?_eq_some_iff s.nodes found.1 found.2).1 h
      exact (s.blankNode?_eq_some_iff found.1).2 ⟨pair, hleast⟩

end Settings

/-! ### The agreement of the checks -/

namespace Config

/-- **The setting that a configuration is refused for**, in the words of its own check and in those
of the orchestrator's: the first waiting time out of range, and if there is none, the least node
with a blank container id. -/
inductive Blamed (c : Config) : ConfigError → OperationError → Prop
  | waiting {f : Waiting.Field} (h : c.network.FirstOutside f) :
      Blamed c (.invalidValue ("network." ++ f.name) f.rangeText) (.invalidSetting f.name f.rangeText)
  | template {node : String} {pair : TemplatePair} {part : TemplatePair.Part}
      (hwaiting : ∀ f, ¬c.network.FirstOutside f) (hnode : LeastBlank c.docker.nodes node pair)
      (h : pair.FirstBlank part) :
      Blamed c (.invalidValue ("docker.nodes." ++ node ++ "." ++ part.name) "must not be empty")
        (.invalidSetting ("nodes." ++ node) "template container ids must not be empty")

/-- What the orchestrator's check finds, through the searches of the configuration's check. -/
theorem settings_check?_eq (c : Config) : (Settings.ofConfig c).check? =
    (c.network.fault?.map fun f => .invalidSetting f.name f.rangeText).or
      ((blankTemplate? c.docker.nodes).map fun found =>
        .invalidSetting ("nodes." ++ found.1) "template container ids must not be empty") := by
  rw [Settings.check?, Settings.fault?_eq, Settings.blankNode?_eq, Option.map_map]
  simp only [Settings.range_eq]
  rfl

/-- What is valid for a configuration is valid for the orchestrator. -/
theorem Valid.settings_check {c : Config} (h : c.Valid) : (Settings.ofConfig c).check = .ok () := by
  have hcheck := (check?_eq_none_iff c).2 h
  rw [check?, Option.or_eq_none_iff, Option.or_eq_none_iff, Option.map_eq_none_iff,
    Option.map_eq_none_iff] at hcheck
  obtain ⟨-, hwaiting, hnodes⟩ := hcheck
  rw [Settings.check, settings_check?_eq, hwaiting, hnodes]
  rfl

theorem fault?_eq_none_of_not_firstOutside {w : Waiting} (h : ∀ f, ¬w.FirstOutside f) :
    w.fault? = none :=
  Option.eq_none_iff_forall_ne_some.2 fun f hf => h f ((w.fault?_eq_some_iff f).1 hf)

/-- The setting that is blamed is what both checks find. -/
theorem blamed_iff {c : Config} (hgeneral : c.general.check? = none) (e : ConfigError)
    (e' : OperationError) :
    Blamed c e e' ↔ c.check? = some e ∧ (Settings.ofConfig c).check? = some e' := by
  rw [settings_check?_eq, check?, hgeneral, Option.none_or]
  constructor
  · rintro (h | ⟨hwaiting, hnode, h⟩)
    · rw [(c.network.fault?_eq_some_iff _).2 h]
      exact ⟨rfl, rfl⟩
    · have hblank := (blankTemplate?_eq_some_iff _ _ _).2 ⟨_, hnode, h⟩
      rw [fault?_eq_none_of_not_firstOutside hwaiting, hblank]
      exact ⟨rfl, rfl⟩
  · rintro ⟨he, he'⟩
    cases hfault : c.network.fault? with
    | some f =>
        rw [hfault] at he he'
        cases he
        cases he'
        exact .waiting ((c.network.fault?_eq_some_iff f).1 hfault)
    | none =>
        have hwaiting (f : Waiting.Field) : ¬c.network.FirstOutside f := fun hf => by
          simp [(c.network.fault?_eq_some_iff f).2 hf] at hfault
        cases hblank : blankTemplate? c.docker.nodes with
        | none =>
            rw [hfault, hblank] at he
            cases he
        | some found =>
            obtain ⟨node, part⟩ := found
            obtain ⟨pair, hnode, hpart⟩ := (blankTemplate?_eq_some_iff _ _ _).1 hblank
            rw [hfault, hblank] at he he'
            cases he
            cases he'
            exact .template hwaiting hnode hpart

/-- **Both checks accept the same configurations and refuse the others for the same setting.**  The
section on logging, which the orchestrator does not get, has to be valid. -/
theorem checks_agree {c : Config}
    (hlevel : c.general.logLevel ∈ ["trace", "debug", "info", "warn", "error"])
    (hformat : c.general.logFormat ∈ ["json", "pretty"]) :
    (c.check = .ok () ↔ (Settings.ofConfig c).check = .ok ()) ∧
      ∀ e e', c.check = .error e ∧ (Settings.ofConfig c).check = .error e' ↔ Blamed c e e' := by
  have hgeneral := (General.check?_eq_none_iff c.general).2 ⟨hlevel, hformat⟩
  have hcheck (e : ConfigError) : c.check = .error e ↔ c.check? = some e := by
    rw [check]
    cases c.check? <;> simp
  have hsettings (e : OperationError) : (Settings.ofConfig c).check = .error e ↔
      (Settings.ofConfig c).check? = some e := by
    rw [Settings.check]
    cases (Settings.ofConfig c).check? <;> simp
  refine ⟨?_, fun e e' => by rw [hcheck, hsettings, blamed_iff hgeneral]⟩
  rw [check, Settings.check, settings_check?_eq, check?, hgeneral, Option.none_or]
  cases c.network.fault? <;> cases blankTemplate? c.docker.nodes <;> simp

/-- A configuration with two nodes, of which the second lacks one id and the third both. -/
def withBlankIds : Config where
  docker :=
    { nodes := Dict.ofList [("a", ⟨"q", "t"⟩), ("b", ⟨"q", " "⟩), ("c", ⟨"", ""⟩)] }

/-- The second node is the one that both checks name. -/
theorem withBlankIds_refused : withBlankIds.check =
      .error (.invalidValue "docker.nodes.b.tessera_container_id" "must not be empty") ∧
    (Settings.ofConfig withBlankIds).check =
      .error (.invalidSetting "nodes.b" "template container ids must not be empty") := by
  refine ((checks_agree (c := withBlankIds) (by decide) (by decide)).2 _ _).2 ?_
  have hwaiting (f : Waiting.Field) : ¬withBlankIds.network.FirstOutside f := by
    rw [← Waiting.fault?_eq_some_iff]
    cases f <;> decide
  obtain ⟨pair, hnode, hpart⟩ := (blankTemplate?_eq_some_iff withBlankIds.docker.nodes "b"
    .tessera).1 (by decide)
  exact .template hwaiting hnode hpart

end Config

end Testbed
