/-
**What a configuration is loaded from.**

A configuration is loaded from a file under an environment.  Nine of its fields have a variable
each, which takes the place of what the file says; everything else is what the file says, or its
default.  The result has to be valid, and so has the file by itself: a value of the file that is out
of range is refused although a variable takes its place.

Main definitions:

* `Testbed.Config.Valid` — **a configuration with all values in their ranges**;
* `Testbed.Config.TextFrom`, `Testbed.Config.ImageFrom`, `Testbed.Config.NumberFrom` — where the
  value of a field comes from;
* `Testbed.Config.Effective` — **the configuration that a file and an environment make together**.

Main results:

* `Testbed.Config.check?_eq_none_iff` — what the check of a configuration looks for;
* `Testbed.Config.effective_iff` — the effective configuration is the one that is computed;
* `Testbed.Config.ofText_eq_ok_iff` — when a text and an environment make a configuration together;
* `Testbed.Config.load_ok_iff_both_valid` — **when a configuration is loaded**.
-/

import Mathlib
import Testbed.Config.Load
import Testbed.Proofs.Dict
import Testbed.Proofs.File.Local
import Testbed.Proofs.Text.Utf8
import Testbed.Rehearsal.World

set_option relaxedAutoImplicit false
set_option autoImplicit false

namespace Testbed

/-! ### Valid configurations -/

/-- **A configuration is valid** if its words are among those allowed, its waiting times are in
their ranges, and no node has a blank container id. -/
structure Config.Valid (c : Config) : Prop where
  logLevel : c.general.logLevel ∈ ["trace", "debug", "info", "warn", "error"]
  logFormat : c.general.logFormat ∈ ["json", "pretty"]
  attempts : 1 ≤ c.network.attempts ∧ c.network.attempts ≤ 1000
  networkAttempts : 1 ≤ c.network.networkAttempts ∧ c.network.networkAttempts ≤ 1000
  interval : 1 ≤ c.network.interval ∧ c.network.interval ≤ 60
  gracePeriod : c.network.gracePeriod ≤ 600
  nodes : ∀ e ∈ c.docker.nodes.entries,
    Text.isBlankText e.2.quorum = false ∧ Text.isBlankText e.2.tessera = false

theorem TemplatePair.blankPart?_eq_none_iff (p : TemplatePair) : p.blankPart? = none ↔
    Text.isBlankText p.quorum = false ∧ Text.isBlankText p.tessera = false := by
  unfold blankPart?
  cases Text.isBlankText p.quorum <;> cases Text.isBlankText p.tessera <;> simp

theorem blankTemplate?_eq_none_iff (nodes : Dict TemplatePair) : blankTemplate? nodes = none ↔
    ∀ e ∈ nodes.entries,
      Text.isBlankText e.2.quorum = false ∧ Text.isBlankText e.2.tessera = false := by
  simp only [blankTemplate?, List.findSome?_eq_none_iff, Option.map_eq_none_iff,
    TemplatePair.blankPart?_eq_none_iff]

theorem Waiting.isOutside_eq_false_iff (w : Waiting) (f : Waiting.Field) :
    w.isOutside f = false ↔ f.range.1 ≤ w.get f ∧ w.get f ≤ f.range.2 := by
  rw [isOutside, Bool.or_eq_false_iff, decide_eq_false_iff_not, decide_eq_false_iff_not,
    Nat.not_lt, Nat.not_lt]

/-- The waiting times have no fault if every one of them is in its range. -/
theorem Waiting.fault?_eq_none_iff (w : Waiting) :
    w.fault? = none ↔ ∀ f : Waiting.Field, f.range.1 ≤ w.get f ∧ w.get f ≤ f.range.2 := by
  have hall (f : Waiting.Field) : f ∈ checkOrder := by cases f <;> decide
  simp only [fault?, List.find?_eq_none, Bool.not_eq_true, isOutside_eq_false_iff, hall,
    true_imp_iff]

namespace Config

theorem General.check?_eq_none_iff (g : General) : g.check? = none ↔
    g.logLevel ∈ ["trace", "debug", "info", "warn", "error"] ∧
      g.logFormat ∈ ["json", "pretty"] := by
  have hlevel : logLevels.contains g.logLevel = true ↔
      g.logLevel ∈ ["trace", "debug", "info", "warn", "error"] := List.contains_iff_mem
  have hformat : logFormats.contains g.logFormat = true ↔ g.logFormat ∈ ["json", "pretty"] :=
    List.contains_iff_mem
  rw [← hlevel, ← hformat, check?]
  cases logLevels.contains g.logLevel <;> cases logFormats.contains g.logFormat <;> simp

/-- **What the check of a configuration looks for.** -/
theorem check?_eq_none_iff (c : Config) : c.check? = none ↔ c.Valid := by
  rw [check?, Option.or_eq_none_iff, Option.or_eq_none_iff, Option.map_eq_none_iff,
    Option.map_eq_none_iff, General.check?_eq_none_iff, Waiting.fault?_eq_none_iff,
    blankTemplate?_eq_none_iff]
  constructor
  · rintro ⟨⟨hlevel, hformat⟩, hwaiting, hnodes⟩
    exact ⟨hlevel, hformat, hwaiting .attempts, hwaiting .networkAttempts, hwaiting .interval,
      (hwaiting .gracePeriod).2, hnodes⟩
  · intro h
    refine ⟨⟨h.logLevel, h.logFormat⟩, fun f => ?_, h.nodes⟩
    cases f with
    | attempts => exact h.attempts
    | networkAttempts => exact h.networkAttempts
    | interval => exact h.interval
    | gracePeriod => exact ⟨Nat.zero_le _, h.gracePeriod⟩

theorem check_eq_ok_iff {c : Config} {u : Unit} : c.check = .ok u ↔ c.Valid := by
  rw [← check?_eq_none_iff, check]
  cases c.check? <;> simp

/-! ### Where the values come from -/

/-- **Where a text comes from**: its variable, or what is written if the variable is not set. -/
inductive TextFrom (e : Environment) (name written : String) : String → Prop
  | variable {s : String} (h : e.get? name = some s) : TextFrom e name written s
  | file (h : e.get? name = none) : TextFrom e name written written

/-- **Where an image comes from**: its variable, which clears it if it is blank, or what is written
if the variable is not set. -/
inductive ImageFrom (e : Environment) (name : String) (written : Option String) :
    Option String → Prop
  | variable {s : String} (h : e.get? name = some s) (hblank : Text.isBlankText s = false) :
      ImageFrom e name written (some s)
  | cleared {s : String} (h : e.get? name = some s) (hblank : Text.isBlankText s = true) :
      ImageFrom e name written none
  | file (h : e.get? name = none) : ImageFrom e name written written

/-- **Where a number comes from**: its variable, or what is written if the variable is not set or is
no number below the limit. -/
inductive NumberFrom (e : Environment) (name : String) (limit written : Nat) : Nat → Prop
  | variable {s : String} {n : Nat} (h : e.get? name = some s)
      (hn : Decimal.unsigned? limit s = some n) : NumberFrom e name limit written n
  | unread {s : String} (h : e.get? name = some s) (hn : Decimal.unsigned? limit s = none) :
      NumberFrom e name limit written written
  | file (h : e.get? name = none) : NumberFrom e name limit written written

theorem textFrom_iff {e : Environment} {name written value : String} :
    TextFrom e name written value ↔ value = e.text name written := by
  unfold Environment.text
  constructor
  · rintro (h | h)
    · rw [h]
      rfl
    · rw [h]
      rfl
  · rintro rfl
    cases h : e.get? name with
    | none => exact .file h
    | some s => exact .variable h

theorem imageFrom_iff {e : Environment} {name : String} {written value : Option String} :
    ImageFrom e name written value ↔ value = e.optionalText name written := by
  unfold Environment.optionalText
  constructor
  · rintro (⟨h, hblank⟩ | ⟨h, hblank⟩ | h)
    · simp [h, hblank]
    · simp [h, hblank]
    · simp [h]
  · rintro rfl
    cases h : e.get? name with
    | none => exact .file h
    | some s =>
        cases hblank : Text.isBlankText s with
        | false => simpa [hblank] using ImageFrom.variable h hblank
        | true => simpa [hblank] using ImageFrom.cleared h hblank

theorem numberFrom_iff {e : Environment} {name : String} {limit written value : Nat} :
    NumberFrom e name limit written value ↔ value = e.number name limit written := by
  unfold Environment.number
  constructor
  · rintro (⟨h, hn⟩ | ⟨h, hn⟩ | h)
    · simp [h, hn]
    · simp [h, hn]
    · simp [h]
  · rintro rfl
    cases h : e.get? name with
    | none => exact .file h
    | some s =>
        cases hn : Decimal.unsigned? limit s with
        | none => simpa [hn] using NumberFrom.unread h hn
        | some n => simpa [hn] using NumberFrom.variable h hn

/-- **The configuration that a file and an environment make together**: nine fields come from their
variables where these are set, and everything else is what is written. -/
structure Effective (e : Environment) (written c : Config) : Prop where
  logLevel : TextFrom e "QNET_GENERAL_LOG_LEVEL" written.general.logLevel c.general.logLevel
  logFormat : TextFrom e "QNET_GENERAL_LOG_FORMAT" written.general.logFormat c.general.logFormat
  host : TextFrom e "QNET_DOCKER_HOST" written.docker.host c.docker.host
  quorumImage : ImageFrom e "QNET_DOCKER_TARGET_QUORUM_IMAGE" written.docker.targetQuorumImage
    c.docker.targetQuorumImage
  tesseraImage : ImageFrom e "QNET_DOCKER_TARGET_TESSERA_IMAGE" written.docker.targetTesseraImage
    c.docker.targetTesseraImage
  gracePeriod : NumberFrom e "QNET_NETWORK_CONSENSUS_GRACE_PERIOD_SECS" (2 ^ 64)
    written.network.gracePeriod c.network.gracePeriod
  attempts : NumberFrom e "QNET_NETWORK_WAIT_MAX_ATTEMPTS" (2 ^ 32) written.network.attempts
    c.network.attempts
  interval : NumberFrom e "QNET_NETWORK_WAIT_INTERVAL_SECS" (2 ^ 64) written.network.interval
    c.network.interval
  networkAttempts : NumberFrom e "QNET_NETWORK_NETWORK_WAIT_MAX_ATTEMPTS" (2 ^ 32)
    written.network.networkAttempts c.network.networkAttempts
  quorumImages : c.docker.quorumImages = written.docker.quorumImages
  tesseraImages : c.docker.tesseraImages = written.docker.tesseraImages
  nodes : c.docker.nodes = written.docker.nodes

/-- **The effective configuration is the one that is computed.** -/
theorem effective_iff {e : Environment} {written c : Config} :
    Effective e written c ↔ c = written.withEnvironment e := by
  constructor
  · intro h
    obtain ⟨general, docker, network⟩ := c
    have hgeneral : general = (written.withEnvironment e).general := by
      cases general
      exact congr_arg₂ General.mk (textFrom_iff.1 h.logLevel) (textFrom_iff.1 h.logFormat)
    have hdocker : docker = (written.withEnvironment e).docker := by
      obtain ⟨host, quorumImage, tesseraImage, quorumImages, tesseraImages, nodes⟩ := docker
      obtain rfl := textFrom_iff.1 h.host
      obtain rfl := imageFrom_iff.1 h.quorumImage
      obtain rfl := imageFrom_iff.1 h.tesseraImage
      obtain rfl := h.quorumImages
      obtain rfl := h.tesseraImages
      obtain rfl := h.nodes
      rfl
    have hnetwork : network = (written.withEnvironment e).network := by
      obtain ⟨gracePeriod, attempts, interval, networkAttempts⟩ := network
      obtain rfl := numberFrom_iff.1 h.gracePeriod
      obtain rfl := numberFrom_iff.1 h.attempts
      obtain rfl := numberFrom_iff.1 h.interval
      obtain rfl := numberFrom_iff.1 h.networkAttempts
      rfl
    rw [hgeneral, hdocker, hnetwork]
  · rintro rfl
    exact
      { logLevel := textFrom_iff.2 rfl
        logFormat := textFrom_iff.2 rfl
        host := textFrom_iff.2 rfl
        quorumImage := imageFrom_iff.2 rfl
        tesseraImage := imageFrom_iff.2 rfl
        gracePeriod := numberFrom_iff.2 rfl
        attempts := numberFrom_iff.2 rfl
        interval := numberFrom_iff.2 rfl
        networkAttempts := numberFrom_iff.2 rfl
        quorumImages := rfl
        tesseraImages := rfl
        nodes := rfl }

/-! ### Loading -/

section

variable {ε δ α β : Type} {x : Except ε α}

/-- Of two stages one after the other something comes if each of them goes well. -/
theorem bind_eq_ok_iff {f : α → Except ε β} {b : β} :
    (x >>= f) = .ok b ↔ ∃ a, x = .ok a ∧ f a = .ok b := by
  cases x <;> simp [bind, Except.bind]

theorem mapError_eq_ok_iff {f : ε → δ} {a : α} : x.mapError f = .ok a ↔ x = .ok a := by
  cases x <;> simp [Except.mapError]

end

/-- What is made of a text that was read. -/
def loaded (e : Environment) (path : String) : Except FileFault String → Except Error Config
  | .error .notFound => .error (.config (.fileNotFound path))
  | .error f => .error (.io f.message)
  | .ok text => (ofText e text).mapError .config

/-- To load a configuration takes one action. -/
theorem load_run (e : Environment) (path : String) :
    (load e path).run =
      .act (.readFile path) fun a => .done (loaded e path (LocalFile.textOf a)) := by
  change (LocalFile.read path).run.bind _ = _
  rw [LocalFile.read_run]
  change Script.act _ _ = Script.act _ _
  congr 1
  funext a
  simp only [Script.bind]
  cases LocalFile.textOf a with
  | ok text => rfl
  | error f => cases f <;> rfl

/-- **When a text and an environment make a configuration together.** -/
theorem ofText_eq_ok_iff {e : Environment} {text : String} {c : Config} :
    ofText e text = .ok c ↔ ∃ written, parse text = .ok written ∧ written.Valid ∧
      Effective e written c ∧ c.Valid := by
  rw [ofText, bind_eq_ok_iff]
  refine exists_congr fun written => and_congr_right fun _ => ?_
  simp only [bind_eq_ok_iff, check_eq_ok_iff, effective_iff]
  constructor
  · rintro ⟨-, hwritten, -, hc, h⟩
    obtain rfl : written.withEnvironment e = c := Except.ok.inj h
    exact ⟨hwritten, rfl, hc⟩
  · rintro ⟨hwritten, rfl, hc⟩
    exact ⟨(), hwritten, (), hc, rfl⟩

/-- Why a configuration was not loaded. -/
theorem loaded_eq_error_cases {e : Environment} {path : String} {t : Except FileFault String}
    {x : Error} (h : loaded e path t = .error x) :
    (t = .error .notFound ∧ x = .config (.fileNotFound path)) ∨
      (∃ f, t = .error f ∧ f ≠ .notFound ∧ x = .io f.message) ∨
      ∃ text y, t = .ok text ∧ ofText e text = .error y ∧ x = .config y := by
  cases t with
  | ok text =>
      cases hloaded : ofText e text with
      | ok c => simp [loaded, hloaded, Except.mapError] at h
      | error y =>
          rw [loaded, hloaded] at h
          cases h
          exact .inr (.inr ⟨text, y, rfl, hloaded, rfl⟩)
  | error f =>
      cases f with
      | notFound =>
          cases h
          exact .inl ⟨rfl, rfl⟩
      | _ =>
          cases h
          refine .inr (.inl ⟨_, rfl, fun hf => ?_, rfl⟩)
          cases hf

/-- How a configuration was loaded. -/
theorem loaded_eq_ok {e : Environment} {path : String} {t : Except FileFault String} {c : Config}
    (h : loaded e path t = .ok c) : ∃ text, t = .ok text ∧ ofText e text = .ok c := by
  cases t with
  | ok text => exact ⟨text, rfl, mapError_eq_ok_iff.1 h⟩
  | error f => cases f <;> cases h

/-- A text whose fault is its own, whatever the environment says. -/
theorem ofText_of_fault {e : Environment} {text : String} {written : Config} {f : ConfigError}
    (hparse : parse text = .ok written) (hfault : written.check? = some f) :
    ofText e text = .error f := by
  unfold ofText
  rw [hparse]
  change Except.bind written.check _ = _
  rw [check, hfault]
  rfl

section

variable {W : Type} (p : Performer W) (w : W) (e : Environment) (path : String)

theorem perform_load : ((load e path).run.perform p w).1 =
    loaded e path (LocalFile.textOf (p (.readFile path) w).1) := by
  rw [load_run]
  rfl

/-- A file whose fault is its own is refused for it. -/
theorem perform_load_of_fault {content : Bytes} {text : String} {written : Config}
    {f : ConfigError} (hread : (p (.readFile path) w).1 = .ok content)
    (htext : Utf8.decode? content = some text) (hparse : parse text = .ok written)
    (hfault : written.check? = some f) :
    ((load e path).run.perform p w).1 = .error (.config f) := by
  have hloaded := LocalFile.textOf_eq_ok_iff.2 ⟨content, hread, htext⟩
  rw [perform_load, hloaded, loaded, ofText_of_fault hparse hfault]
  rfl

/-- **When a configuration is loaded, and which.**  The file can be read and holds the text of a
configuration that is valid by itself, and the configuration that it makes together with the
environment is valid; then that one is loaded.  If the file has a fault of its own, this is what is
reported, whatever the environment says. -/
theorem load_ok_iff_both_valid :
    (∀ c, ((load e path).run.perform p w).1 = .ok c ↔
      ∃ content text written, (p (.readFile path) w).1 = .ok content ∧
        Utf8.decode? content = some text ∧ parse text = .ok written ∧
        written.Valid ∧ Effective e written c ∧ c.Valid) ∧
    ∀ content text written f, (p (.readFile path) w).1 = .ok content →
      Utf8.decode? content = some text → parse text = .ok written → written.check? = some f →
      ((load e path).run.perform p w).1 = .error (.config f) := by
  refine ⟨fun c => ?_, fun content text written f hread htext hparse hfault =>
    perform_load_of_fault p w e path hread htext hparse hfault⟩
  rw [perform_load]
  constructor
  · intro h
    cases hloaded : LocalFile.textOf (p (.readFile path) w).1 with
    | error f =>
        rw [hloaded] at h
        cases f <;> cases h
    | ok text =>
        obtain ⟨content, hread, htext⟩ := LocalFile.textOf_eq_ok_iff.1 hloaded
        rw [hloaded] at h
        obtain ⟨written, hwritten⟩ := ofText_eq_ok_iff.1 (mapError_eq_ok_iff.1 h)
        exact ⟨content, text, written, hread, htext, hwritten⟩
  · rintro ⟨content, text, written, hread, htext, hwritten⟩
    rw [LocalFile.textOf_eq_ok_iff.2 ⟨content, hread, htext⟩]
    exact mapError_eq_ok_iff.2 (ofText_eq_ok_iff.2 ⟨written, hwritten⟩)

end

/-- A world with a text in the file `c`. -/
def holding (text : String) : Rehearsal.World Rehearsal.Runtime where
  runtime := {}
  disk := ⟨Dict.empty.insert "c" (.file (Utf8.encode text))⟩

theorem read_holding (text : String) :
    (Rehearsal.perform Rehearsal.Runtime.host (.readFile "c") (holding text)).1 =
      .ok (Utf8.encode text) := by
  rfl

theorem parse_eq_ok_of_toOption {text : String} {c : Config}
    (h : (parse text).toOption = some c) : parse text = .ok c := by
  cases hparse : parse text with
  | error f => simp [hparse, Except.toOption] at h
  | ok c' => simpa [hparse, Except.toOption] using h

/-- An environment that sets the interval between two looks. -/
def withInterval (s : String) : Environment :=
  Dict.empty.insert "QNET_NETWORK_WAIT_INTERVAL_SECS" s

/-- The environment takes the place of what the file says. -/
theorem load_ok_of_interval :
    ((load (withInterval "5") "c").run.perform (Rehearsal.perform Rehearsal.Runtime.host)
      (holding "[network]\nwait_interval_secs = 3\n")).1 =
        .ok { network := { interval := 5 } } := by
  have hparse : parse "[network]\nwait_interval_secs = 3\n" = .ok {} :=
    parse_eq_ok_of_toOption (by decide +kernel)
  refine ((load_ok_iff_both_valid _ _ _ _).1 _).2
    ⟨_, _, {}, read_holding _, Utf8.decode?_encode _, hparse, ?_, ?_, ?_⟩
  · exact (check?_eq_none_iff _).1 (by decide +kernel)
  · exact effective_iff.2 (by decide +kernel)
  · exact (check?_eq_none_iff _).1 (by decide +kernel)

/-- **A variable does not repair the file.**  An interval of zero in the file is out of range, and
the variable that takes its place is in range; the configuration that they make together is valid,
but it is not loaded. -/
theorem variable_does_not_repair :
    Effective (withInterval "5") { network := { interval := 0 } } { network := { interval := 5 } } ∧
      Valid { network := { interval := 5 } } ∧
      parse "[network]\nwait_interval_secs = 0\n" = .ok { network := { interval := 0 } } ∧
      ((load (withInterval "5") "c").run.perform (Rehearsal.perform Rehearsal.Runtime.host)
        (holding "[network]\nwait_interval_secs = 0\n")).1 =
          .error (.config (.invalidValue "network.wait_interval_secs" "must be 1-60")) := by
  have hparse : parse "[network]\nwait_interval_secs = 0\n" =
      .ok { network := { interval := 0 } } := parse_eq_ok_of_toOption (by decide +kernel)
  refine ⟨effective_iff.2 (by decide +kernel), (check?_eq_none_iff _).1 (by decide +kernel), hparse,
    ?_⟩
  exact perform_load_of_fault _ _ _ _ (read_holding _) (Utf8.decode?_encode _) hparse
    (by decide +kernel)

end Config

end Testbed
