/-
**What the environment makes of a configuration.**

Nine settings of a configuration have a variable each.  What a setting becomes is decided by its own
variable and by what it was: a text is replaced, an image is replaced or cleared, and a number is
replaced if the variable spells one that fits.  The same variable makes nothing else of what it has
made, so an environment that is applied once more changes nothing.

Main definitions:

* `Testbed.Decimal.Spells` — texts that spell a number, with or without a plus sign;
* `Testbed.Config.Setting` — the settings with a variable, `Testbed.Config.Setting.get` their values;
* `Testbed.Config.Setting.Kind.Takes` — **what a variable makes of a setting**.

Main results:

* `Testbed.Decimal.unsigned?_eq_some_iff` — which texts are read as numbers;
* `Testbed.Config.Setting.takes_withEnvironment` — every setting under an environment;
* `Testbed.Config.withEnvironment_touches_settings` — **an environment acts on each setting by
  itself, on nothing else, and only once**.
-/

import Mathlib
import Testbed.Config.Overrides
import Testbed.Proofs.Dict

set_option relaxedAutoImplicit false
set_option autoImplicit false

namespace Testbed

/-! ### Numbers in variables -/

namespace Decimal

/-- Digits, at least one of them. -/
structure IsNumeral (cs : List Char) : Prop where
  nonempty : cs ≠ []
  digits : ∀ c ∈ cs, '0' ≤ c ∧ c ≤ '9'

/-- **A text that spells a number**: digits with its value, with or without a plus sign. -/
inductive Spells (n : Nat) (s : String) : Prop
  | plain (digits : IsNumeral s.toList) (value : Decimal.value s.toList = n)
  | signed {ds : List Char} (text : s.toList = '+' :: ds) (digits : IsNumeral ds)
      (value : Decimal.value ds = n)

theorem toNat?_eq_some_iff {cs : List Char} {n : Nat} :
    toNat? cs = some n ↔ IsNumeral cs ∧ value cs = n := by
  have hdigits : cs.all isDigit = true ↔ ∀ c ∈ cs, '0' ≤ c ∧ c ≤ '9' := by
    simp [isDigit]
  have hnonempty : cs.isEmpty = false ↔ cs ≠ [] := by simp
  unfold toNat?
  constructor
  · intro h
    split at h
    · cases h
    · rename_i hcond
      simp only [Bool.or_eq_true, Bool.not_eq_true', not_or, Bool.not_eq_true,
        Bool.not_eq_false] at hcond
      exact ⟨⟨hnonempty.1 hcond.1, hdigits.1 hcond.2⟩, Option.some.inj h⟩
  · rintro ⟨⟨hne, hall⟩, rfl⟩
    simp [hnonempty.2 hne, hdigits.2 hall]

/-- A plus sign is no digit. -/
theorem not_isNumeral_plus (ds : List Char) : ¬ IsNumeral ('+' :: ds) := fun h =>
  absurd (h.digits '+' List.mem_cons_self).1 (by decide)

/-- **Which texts are read as numbers below a limit.** -/
theorem unsigned?_eq_some_iff {limit : Nat} {s : String} {n : Nat} :
    unsigned? limit s = some n ↔ Spells n s ∧ n < limit := by
  unfold unsigned?
  rw [Option.filter_eq_some_iff, decide_eq_true_eq]
  refine and_congr_left fun _ => ?_
  split
  · rename_i ds htext
    rw [toNat?_eq_some_iff]
    constructor
    · rintro ⟨hdigits, hvalue⟩
      exact .signed htext hdigits hvalue
    · rintro (⟨hdigits, -⟩ | ⟨htext', hdigits, hvalue⟩)
      · exact absurd (htext ▸ hdigits) (not_isNumeral_plus ds)
      · obtain rfl := List.tail_eq_of_cons_eq (htext.symm.trans htext')
        exact ⟨hdigits, hvalue⟩
  · rename_i hplain
    rw [toNat?_eq_some_iff]
    constructor
    · rintro ⟨hdigits, hvalue⟩
      exact .plain hdigits hvalue
    · rintro (⟨hdigits, hvalue⟩ | ⟨htext, -, -⟩)
      · exact ⟨hdigits, hvalue⟩
      · exact absurd htext (hplain _)

end Decimal

/-! ### Settings -/

namespace Config

/-- The settings of a configuration that have a variable. -/
inductive Setting where
  | logLevel | logFormat | host | quorumImage | tesseraImage
  | gracePeriod | attempts | interval | networkAttempts
  deriving DecidableEq, Repr

namespace Setting

/-- What a setting holds: a text, an image that may be missing, or a number below a limit. -/
inductive Kind where
  | text
  | image
  | number (limit : Nat)

/-- The values of a kind. -/
def Kind.Value : Kind → Type
  | .text => String
  | .image => Option String
  | .number _ => Nat

/-- The kind of a setting; counts are kept in thirty-two bits and periods in sixty-four. -/
def kind : Setting → Kind
  | .logLevel | .logFormat | .host => .text
  | .quorumImage | .tesseraImage => .image
  | .attempts | .networkAttempts => .number (2 ^ 32)
  | .gracePeriod | .interval => .number (2 ^ 64)

/-- The variable of a setting. -/
def variableName : Setting → String
  | .logLevel => "QNET_GENERAL_LOG_LEVEL"
  | .logFormat => "QNET_GENERAL_LOG_FORMAT"
  | .host => "QNET_DOCKER_HOST"
  | .quorumImage => "QNET_DOCKER_TARGET_QUORUM_IMAGE"
  | .tesseraImage => "QNET_DOCKER_TARGET_TESSERA_IMAGE"
  | .gracePeriod => "QNET_NETWORK_CONSENSUS_GRACE_PERIOD_SECS"
  | .attempts => "QNET_NETWORK_WAIT_MAX_ATTEMPTS"
  | .interval => "QNET_NETWORK_WAIT_INTERVAL_SECS"
  | .networkAttempts => "QNET_NETWORK_NETWORK_WAIT_MAX_ATTEMPTS"

theorem variableName_mem (s : Setting) : s.variableName ∈ variableNames := by
  cases s <;> decide

/-- The value of a setting. -/
def get (c : Config) : (s : Setting) → s.kind.Value
  | .logLevel => c.general.logLevel
  | .logFormat => c.general.logFormat
  | .host => c.docker.host
  | .quorumImage => c.docker.targetQuorumImage
  | .tesseraImage => c.docker.targetTesseraImage
  | .gracePeriod => c.network.gracePeriod
  | .attempts => c.network.attempts
  | .interval => c.network.interval
  | .networkAttempts => c.network.networkAttempts

/-- **What a variable makes of a setting**: one that is not set leaves it as it was, and so does one
of a number that spells none below the limit. -/
inductive Kind.Takes : (k : Kind) → Option String → k.Value → k.Value → Prop
  | unset {k : Kind} (old : k.Value) : Takes k none old old
  | text (s old : String) : Takes .text (some s) old s
  | image {s : String} (filled : Text.isBlankText s = false) (old : Option String) :
      Takes .image (some s) old (some s)
  | cleared {s : String} (blank : Text.isBlankText s = true) (old : Option String) :
      Takes .image (some s) old none
  | number {limit n : Nat} {s : String} (spelled : Decimal.Spells n s) (fits : n < limit)
      (old : Nat) : Takes (.number limit) (some s) old n
  | unread {limit : Nat} {s : String} (unfit : ∀ n < limit, ¬ Decimal.Spells n s) (old : Nat) :
      Takes (.number limit) (some s) old old

namespace Kind.Takes

variable {k : Kind} {v : Option String} {old new new' : k.Value}

/-- A variable makes one thing of a setting only. -/
theorem unique (h : k.Takes v old new) (h' : k.Takes v old new') : new = new' := by
  cases h with
  | unset => cases h'; rfl
  | text => cases h'; rfl
  | image filled =>
      cases h' with
      | image => rfl
      | cleared blank => exact absurd (filled.symm.trans blank) (by decide)
  | cleared blank =>
      cases h' with
      | image filled => exact absurd (filled.symm.trans blank) (by decide)
      | cleared => rfl
  | number spelled fits =>
      cases h' with
      | number spelled' fits' =>
          have hread := Decimal.unsigned?_eq_some_iff.2 ⟨spelled, fits⟩
          have hread' := Decimal.unsigned?_eq_some_iff.2 ⟨spelled', fits'⟩
          exact Option.some.inj (hread.symm.trans hread')
      | unread unfit => exact absurd spelled (unfit _ fits)
  | unread unfit =>
      cases h' with
      | number spelled fits => exact absurd spelled (unfit _ fits)
      | unread => rfl

/-- Of what a variable has made it makes nothing else. -/
theorem again (h : k.Takes v old new) : k.Takes v new new := by
  cases h with
  | unset => exact .unset _
  | text => exact .text _ _
  | image filled => exact .image filled _
  | cleared blank => exact .cleared blank _
  | number spelled fits => exact .number spelled fits _
  | unread unfit => exact .unread unfit _

end Kind.Takes

/-! ### Settings under an environment -/

variable (e : Environment)

theorem takes_text (name old : String) : Kind.text.Takes (e.get? name) old (e.text name old) := by
  unfold Environment.text
  cases e.get? name with
  | none => exact .unset (k := .text) old
  | some s => exact .text s old

theorem takes_optionalText (name : String) (old : Option String) :
    Kind.image.Takes (e.get? name) old (e.optionalText name old) := by
  unfold Environment.optionalText
  cases e.get? name with
  | none => exact .unset (k := .image) old
  | some s =>
      cases hblank : Text.isBlankText s with
      | false => simpa [hblank] using Kind.Takes.image hblank old
      | true => simpa [hblank] using Kind.Takes.cleared hblank old

theorem takes_number (name : String) (limit old : Nat) :
    (Kind.number limit).Takes (e.get? name) old (e.number name limit old) := by
  unfold Environment.number
  cases e.get? name with
  | none => exact .unset (k := .number limit) old
  | some s =>
      cases hread : Decimal.unsigned? limit s with
      | none =>
          have hunfit (n : Nat) (hn : n < limit) : ¬ Decimal.Spells n s := fun hspelled => by
            rw [Decimal.unsigned?_eq_some_iff.2 ⟨hspelled, hn⟩] at hread
            cases hread
          simpa [hread] using Kind.Takes.unread hunfit old
      | some n =>
          obtain ⟨hspelled, hfits⟩ := Decimal.unsigned?_eq_some_iff.1 hread
          simpa [hread] using Kind.Takes.number hspelled hfits old

/-- **Every setting under an environment** is what its own variable makes of it. -/
theorem takes_withEnvironment (c : Config) (s : Setting) :
    s.kind.Takes (e.get? s.variableName) (s.get c) (s.get (c.withEnvironment e)) := by
  cases s with
  | logLevel | logFormat | host => exact takes_text e _ _
  | quorumImage | tesseraImage => exact takes_optionalText e _ _
  | gracePeriod | attempts | interval | networkAttempts => exact takes_number e _ _ _

/-- A configuration is made of its settings, its image maps and its nodes. -/
theorem ext_get {c d : Config} (h : ∀ s : Setting, s.get c = s.get d)
    (hquorum : c.docker.quorumImages = d.docker.quorumImages)
    (htessera : c.docker.tesseraImages = d.docker.tesseraImages)
    (hnodes : c.docker.nodes = d.docker.nodes) : c = d := by
  obtain ⟨⟨_, _⟩, ⟨_, _, _, _, _, _⟩, ⟨_, _, _, _⟩⟩ := c
  obtain ⟨⟨_, _⟩, ⟨_, _, _, _, _, _⟩, ⟨_, _, _, _⟩⟩ := d
  obtain rfl := h .logLevel
  obtain rfl := h .logFormat
  obtain rfl := h .host
  obtain rfl := h .quorumImage
  obtain rfl := h .tesseraImage
  obtain rfl := h .gracePeriod
  obtain rfl := h .attempts
  obtain rfl := h .interval
  obtain rfl := h .networkAttempts
  obtain rfl := hquorum
  obtain rfl := htessera
  obtain rfl := hnodes
  rfl

end Setting

/-! ### Environments -/

variable {c c' : Config} {e e' : Environment}

/-- A setting comes from what it was and from its own variable. -/
theorem get_withEnvironment_congr {s : Setting} (hold : s.get c = s.get c')
    (hvariable : e.get? s.variableName = e'.get? s.variableName) :
    s.get (c.withEnvironment e) = s.get (c'.withEnvironment e') := by
  have h := s.takes_withEnvironment e c
  rw [hold, hvariable] at h
  exact h.unique (s.takes_withEnvironment e' c')

/-- **An environment acts on each setting by itself, on nothing else, and only once.**  Applied again
it changes nothing.  Each setting becomes what its own variable makes of it, whatever the other
settings and the other variables are; the image maps and the nodes stay; and environments that agree
on the nine variables make the same of a configuration. -/
theorem withEnvironment_touches_settings (c : Config) (e : Environment) :
    (c.withEnvironment e).withEnvironment e = c.withEnvironment e ∧
    (∀ s : Setting, s.kind.Takes (e.get? s.variableName) (s.get c) (s.get (c.withEnvironment e)) ∧
      ∀ c' e', s.get c' = s.get c → e'.get? s.variableName = e.get? s.variableName →
        s.get (c'.withEnvironment e') = s.get (c.withEnvironment e)) ∧
    (c.withEnvironment e).docker.quorumImages = c.docker.quorumImages ∧
    (c.withEnvironment e).docker.tesseraImages = c.docker.tesseraImages ∧
    (c.withEnvironment e).docker.nodes = c.docker.nodes ∧
    ∀ e', (∀ name ∈ variableNames, e'.get? name = e.get? name) →
      c.withEnvironment e' = c.withEnvironment e := by
  refine ⟨?again, fun s => ⟨s.takes_withEnvironment e c, fun _ _ => get_withEnvironment_congr⟩,
    rfl, rfl, rfl, fun e' hvariables => ?others⟩
  case again =>
    refine Setting.ext_get (fun s => ?_) rfl rfl rfl
    have honce := s.takes_withEnvironment e c
    exact (s.takes_withEnvironment e (c.withEnvironment e)).unique honce.again
  case others =>
    exact Setting.ext_get
      (fun s => get_withEnvironment_congr rfl (hvariables _ s.variableName_mem)) rfl rfl rfl

/-- An environment with a period behind a plus sign, a count that is too great by one, and a blank
image. -/
def threeVariables : Environment :=
  Dict.ofList [("QNET_NETWORK_WAIT_INTERVAL_SECS", "+5"),
    ("QNET_NETWORK_WAIT_MAX_ATTEMPTS", "4294967296"), ("QNET_DOCKER_TARGET_QUORUM_IMAGE", " ")]

/-- The period is taken, the count is not, the image is cleared, and a variable of another name does
nothing. -/
theorem withEnvironment_touches_settings_of_three :
    withEnvironment { docker := { targetQuorumImage := some "q" } } threeVariables =
        { network := { interval := 5 } } ∧
      withEnvironment { docker := { targetQuorumImage := some "q" } }
          (threeVariables.insert "QNET_NETWORK_WAIT_INTERVAL" "7") =
        { network := { interval := 5 } } := by
  have heffect : withEnvironment { docker := { targetQuorumImage := some "q" } } threeVariables =
      { network := { interval := 5 } } := by decide +kernel
  obtain ⟨-, -, -, -, -, hothers⟩ := withEnvironment_touches_settings
    { docker := { targetQuorumImage := some "q" } } threeVariables
  refine ⟨heffect, (hothers _ ?_).trans heffect⟩
  decide +kernel

end Config

end Testbed
