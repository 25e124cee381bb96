/-
**The layers of the catalog.**

A catalog is built in one go, later entries over earlier ones.  What it answers for a version key is
what the first of three layers says that says anything: the images of the configuration, the image
under development, the releases.  An entry of a higher layer hides all of a lower one, its arguments
too.

Main definitions:

* `Testbed.Catalog.DevelopImage` — the image under development;
* `Testbed.Catalog.QuorumRelease`, `Testbed.Catalog.TesseraRelease` — the releases;
* `Testbed.Catalog.Answer` — **what the layers say of a key**.

Main results:

* `Testbed.Catalog.get?_layers` — entries over each other are layers;
* `Testbed.Catalog.answer_iff` — the layers, decided by look-ups;
* `Testbed.Catalog.lookups_by_layers` — **every look-up follows the layers**.
-/

import Testbed.Network.Catalog
import Testbed.Proofs.Dict
import Testbed.Proofs.Text.ByteOrder

set_option relaxedAutoImplicit false
set_option autoImplicit false

namespace Testbed.Catalog

/-! ### Layers -/

section

variable {β : Type} {configured : Dict β} {develop release : β → Prop}

/-- **What the layers say of a key**: the images of the configuration come first, for whatever key;
then, for its own key, the image under development; then the releases. -/
inductive Answer (configured : Dict β) (develop : β → Prop) (release : String → β → Prop) :
    String → Option β → Prop
  | configured {key : String} {v : β} (given : configured.get? key = some v) :
      Answer configured develop release key (some v)
  | develop {v : β} (notGiven : configured.get? "develop" = none) (image : develop v) :
      Answer configured develop release "develop" (some v)
  | release {key : String} {v : β} (notGiven : configured.get? key = none)
      (notDevelop : key ≠ "develop") (released : release key v) :
      Answer configured develop release key (some v)
  | unknown {key : String} (notGiven : configured.get? key = none)
      (notDevelop : key ≠ "develop") (notReleased : ∀ v, ¬ release key v) :
      Answer configured develop release key none

/-- **Entries over each other are layers.** -/
theorem get?_layers (releases : List (String × β)) (image : β) (configured : Dict β)
    (key : String) :
    (Dict.ofList (releases ++ [(developKey, image)] ++ configured.entries)).get? key =
      (configured.get? key).or
        (if key = developKey then some image else (Dict.ofList releases).get? key) := by
  have hsplit : Dict.ofList (releases ++ [(developKey, image)] ++ configured.entries) =
      ((Dict.ofList releases).insert developKey image).override configured := by
    unfold Dict.ofList Dict.override
    simp only [List.foldl_append, List.foldl_cons, List.foldl_nil]
  rw [hsplit, Dict.get?_override, Dict.get?_insert]

/-- The layers, decided by look-ups, where each of them says one thing of a key at the most. -/
theorem answer_iff {configured : Dict β} {develop : β → Prop} {release : String → β → Prop}
    {image : β} {releases : List (String × β)} (himage : ∀ v, develop v ↔ v = image)
    (hnodup : (releases.map Prod.fst).Nodup)
    (hreleases : ∀ key v, release key v ↔ (key, v) ∈ releases) (key : String) (v : Option β) :
    (Dict.ofList (releases ++ [(developKey, image)] ++ configured.entries)).get? key = v ↔
      Answer configured develop release key v := by
  have hrelease (v : β) : release key v ↔ (Dict.ofList releases).get? key = some v := by
    rw [hreleases, Dict.get?_ofList_eq_some_iff hnodup]
  rw [get?_layers]
  constructor
  · rintro rfl
    cases hconfigured : configured.get? key with
    | some v => exact .configured hconfigured
    | none =>
        rw [Option.none_or]
        split
        · rename_i hkey
          subst hkey
          exact .develop hconfigured ((himage image).2 rfl)
        · rename_i hkey
          cases hlookup : (Dict.ofList releases).get? key with
          | some v => exact .release hconfigured hkey ((hrelease v).2 hlookup)
          | none =>
              refine .unknown hconfigured hkey fun v hv => ?_
              rw [(hrelease v).1 hv] at hlookup
              cases hlookup
  · intro h
    cases h with
    | configured given => rw [given, Option.some_or]
    | develop notGiven himg =>
        rw [notGiven, Option.none_or, (himage _).1 himg]
        exact if_pos rfl
    | release notGiven notDevelop released =>
        rw [notGiven, Option.none_or, if_neg (show ¬ key = developKey from notDevelop),
          (hrelease _).1 released]
    | unknown notGiven notDevelop notReleased =>
        rw [notGiven, Option.none_or, if_neg (show ¬ key = developKey from notDevelop)]
        refine Option.eq_none_iff_forall_ne_some.2 fun v hv => ?_
        exact notReleased v ((hrelease v).2 hv)

end

/-! ### What the layers hold -/

/-- **The image under development**: what the configuration names, without the space at its ends,
unless it is blank, else that of the repository. -/
inductive DevelopImage (target : Option String) (fallback : String) : String → Prop
  | target {s : String} (named : target = some s) (filled : Text.isBlankText s = false) :
      DevelopImage target fallback (Text.trim s)
  | fallback (unnamed : ∀ s, target = some s → Text.isBlankText s = true) :
      DevelopImage target fallback fallback

/-- The arguments that a version of quorum needs to unlock accounts. -/
def unlocking : Overlay := Overlay.empty.set "--allow-insecure-unlock" ""

/-- **The releases of quorum**: one of them needs no arguments. -/
inductive QuorumRelease : String → QuorumImage → Prop
  | legacy : QuorumRelease "v2.5.0" ⟨"quorumengineering/quorum:2.5.0", Overlay.empty⟩
  | release {tag : String} (listed : tag ∈ ["latest", "21.1.0", "21.4.0", "21.10.0", "2.7.0"]) :
      QuorumRelease tag ⟨"quorumengineering/quorum:" ++ tag, unlocking⟩

/-- **The releases of tessera.** -/
inductive TesseraRelease : String → String → Prop
  | release {tag : String} (listed : tag ∈ ["latest", "0.10.5", "21.1.0", "21.10.0"]) :
      TesseraRelease tag ("quorumengineering/tessera:" ++ tag)

/-- **What the layers say of a version of quorum.**  Images of the configuration, and that under
development, come with the arguments to unlock accounts. -/
def QuorumAnswer (c : Config.Docker) : String → Option QuorumImage → Prop :=
  Answer (c.quorumImages.map fun image => ⟨image, unlocking⟩)
    (fun q => ∃ image, DevelopImage c.targetQuorumImage "quorumengineering/quorum:develop" image ∧
      q = ⟨image, unlocking⟩)
    QuorumRelease

/-- **What the layers say of a version of tessera.** -/
def TesseraAnswer (c : Config.Docker) : String → Option String → Prop :=
  Answer c.tesseraImages
    (DevelopImage c.targetTesseraImage "quorumengineering/tessera:develop")
    TesseraRelease

theorem developImage_of_filled {s : String} (h : Text.isBlankText s = false)
    (repository : String → String) : developImage (some s) repository = Text.trim s := by
  have htrim : Text.trim s ≠ "" := fun hempty => by
    rw [(Text.trim_eq_empty_iff s).1 hempty] at h
    cases h
  simp [developImage, Option.filter_some, htrim]

theorem developImage_of_blank {s : String} (h : Text.isBlankText s = true)
    (repository : String → String) : developImage (some s) repository = repository developKey := by
  simp [developImage, Option.filter_some, (Text.trim_eq_empty_iff s).2 h]

theorem developImage_iff {target : Option String} {repository : String → String}
    {fallback image : String} (h : repository developKey = fallback) :
    DevelopImage target fallback image ↔ image = developImage target repository := by
  subst h
  constructor
  · rintro (⟨rfl, filled⟩ | unnamed)
    · exact (developImage_of_filled filled _).symm
    · cases target with
      | none => rfl
      | some s => exact (developImage_of_blank (unnamed s rfl) _).symm
  · rintro rfl
    cases target with
    | none => exact .fallback fun s hs => nomatch hs
    | some s =>
        cases hblank : Text.isBlankText s with
        | false =>
            rw [developImage_of_filled hblank]
            exact .target rfl hblank
        | true =>
            rw [developImage_of_blank hblank]
            exact .fallback fun t ht => Option.some.inj ht ▸ hblank

/-- The releases of quorum, as the catalog lists them. -/
def quorumReleaseEntries : List (String × QuorumImage) :=
  (legacyQuorumReleases.map fun e => (e.1, ⟨quorumImage e.2, Overlay.empty⟩)) ++
    quorumReleases.map fun key => (key, unlocked (quorumImage key))

theorem quorumRelease_iff (key : String) (q : QuorumImage) :
    QuorumRelease key q ↔ (key, q) ∈ quorumReleaseEntries := by
  simp only [quorumReleaseEntries, List.mem_append, List.mem_map, Prod.mk.injEq]
  constructor
  · rintro (_ | listed)
    · exact .inl ⟨_, List.mem_cons_self, rfl, by decide⟩
    · exact .inr ⟨key, listed, rfl, rfl⟩
  · rintro (⟨e, he, rfl, rfl⟩ | ⟨tag, listed, rfl, rfl⟩)
    · obtain rfl := List.mem_singleton.1 he
      exact .legacy
    · exact .release listed

theorem tesseraRelease_iff (key image : String) :
    TesseraRelease key image ↔
      (key, image) ∈ tesseraReleases.map fun key => (key, tesseraImage key) := by
  simp only [List.mem_map, Prod.mk.injEq]
  constructor
  · rintro ⟨listed⟩
    exact ⟨key, listed, rfl, rfl⟩
  · rintro ⟨tag, listed, rfl, rfl⟩
    exact .release listed

/-! ### The look-ups of a catalog -/

variable (c : Config.Docker)

theorem quorumEntries_eq : quorumEntries c =
    quorumReleaseEntries ++
      [(developKey, ⟨developImage c.targetQuorumImage quorumImage, unlocking⟩)] ++
      (c.quorumImages.map fun image => ⟨image, unlocking⟩).entries := by
  unfold quorumEntries quorumReleaseEntries
  simp only [List.append_assoc]
  rfl

theorem tesseraEntries_eq : tesseraEntries c =
    (tesseraReleases.map fun key => (key, tesseraImage key)) ++
      [(developKey, developImage c.targetTesseraImage tesseraImage)] ++ c.tesseraImages.entries :=
  rfl

theorem get?_quorum_iff (key : String) (q : Option QuorumImage) :
    (ofConfig c).quorum.get? key = q ↔ QuorumAnswer c key q := by
  have hfallback : quorumImage developKey = "quorumengineering/quorum:develop" := by decide
  have hnodup : (quorumReleaseEntries.map Prod.fst).Nodup := by decide +kernel
  unfold ofConfig QuorumAnswer
  simp only [quorumEntries_eq, developImage_iff hfallback, exists_eq_left]
  exact answer_iff (fun _ => Iff.rfl) hnodup quorumRelease_iff key q

theorem get?_tessera_iff (key : String) (image : Option String) :
    (ofConfig c).tessera.get? key = image ↔ TesseraAnswer c key image := by
  have hfallback : tesseraImage developKey = "quorumengineering/tessera:develop" := by decide
  have hnodup : ((tesseraReleases.map fun key => (key, tesseraImage key)).map Prod.fst).Nodup := by
    decide +kernel
  have hdevelop (v : String) :
      DevelopImage c.targetTesseraImage "quorumengineering/tessera:develop" v ↔
        v = developImage c.targetTesseraImage tesseraImage := developImage_iff hfallback
  unfold ofConfig TesseraAnswer
  dsimp only
  rw [tesseraEntries_eq]
  exact answer_iff hdevelop hnodup tesseraRelease_iff key image

/-- The image under development is not empty. -/
theorem DevelopImage.ne_empty {target : Option String} {fallback image : String}
    (h : DevelopImage target fallback image) (hfallback : fallback ≠ "") : image ≠ "" := by
  cases h with
  | target named filled =>
      intro hempty
      rw [(Text.trim_eq_empty_iff _).1 hempty] at filled
      cases filled
  | fallback => exact hfallback

/-- An entry of quorum without an image is one that the configuration leaves empty. -/
theorem quorum_image_eq_empty_iff {key : String} {q : QuorumImage}
    (h : (ofConfig c).quorum.get? key = some q) :
    q.image = "" ↔ c.quorumImages.get? key = some "" := by
  have hanswer := (get?_quorum_iff c key (some q)).1 h
  cases hanswer with
  | configured given =>
      rw [Dict.get?_map] at given
      obtain ⟨image, himage, rfl⟩ := Option.map_eq_some_iff.1 given
      simp [himage]
  | develop notGiven develop =>
      obtain ⟨image, himage, rfl⟩ := develop
      rw [Dict.get?_map, Option.map_eq_none_iff] at notGiven
      simp [notGiven, himage.ne_empty (by decide)]
  | release notGiven notDevelop released =>
      rw [Dict.get?_map, Option.map_eq_none_iff] at notGiven
      cases released with
      | legacy => simp [notGiven]
      | release listed => simp [notGiven]

/-- An entry of tessera without an image is one that the configuration leaves empty. -/
theorem tessera_image_eq_empty_iff {key image : String}
    (h : (ofConfig c).tessera.get? key = some image) :
    image = "" ↔ c.tesseraImages.get? key = some "" := by
  have hanswer := (get?_tessera_iff c key (some image)).1 h
  cases hanswer with
  | configured given => simp [given]
  | develop notGiven himage => simp [notGiven, himage.ne_empty (by decide)]
  | release notGiven notDevelop released =>
      obtain ⟨listed⟩ := released
      simp [notGiven]

/-- An entry without image or arguments stands for no entry. -/
theorem quorumOrEmpty_eq_empty_iff (key : Option String) :
    (ofConfig c).quorumOrEmpty key = ⟨"", Overlay.empty⟩ ↔
      ∀ k, key = some k → (ofConfig c).quorum.get? k = none := by
  cases key with
  | none => simp [quorumOrEmpty]
  | some k =>
      simp only [quorumOrEmpty, Option.bind_some, Option.some.injEq, forall_eq']
      cases hentry : (ofConfig c).quorum.get? k with
      | none => simp
      | some q =>
          simp only [Option.getD_some, reduceCtorEq, iff_false]
          rintro rfl
          -- an entry without an image is one of the configuration, and those have arguments
          have hempty := (quorum_image_eq_empty_iff c hentry).1 rfl
          have hanswer := (get?_quorum_iff c k _).2 (.configured (v := ⟨"", unlocking⟩)
            (by rw [Dict.get?_map, hempty]; rfl))
          cases hentry.symm.trans hanswer

theorem image_quorumOrEmpty_eq_empty_iff (key : Option String) :
    ((ofConfig c).quorumOrEmpty key).image = "" ↔
      ∀ k, key = some k → (ofConfig c).quorum.get? k = none ∨
        c.quorumImages.get? k = some "" := by
  cases key with
  | none => simp [quorumOrEmpty]
  | some k =>
      simp only [quorumOrEmpty, Option.bind_some, Option.some.injEq, forall_eq']
      cases hentry : (ofConfig c).quorum.get? k with
      | none => simp
      | some q => simpa using quorum_image_eq_empty_iff c hentry

theorem tesseraOrEmpty_eq_empty_iff (key : Option String) :
    (ofConfig c).tesseraOrEmpty key = "" ↔
      ∀ k, key = some k → (ofConfig c).tessera.get? k = none ∨
        c.tesseraImages.get? k = some "" := by
  cases key with
  | none => simp [tesseraOrEmpty]
  | some k =>
      simp only [tesseraOrEmpty, Option.bind_some, Option.some.injEq, forall_eq']
      cases hentry : (ofConfig c).tessera.get? k with
      | none => simp
      | some image => simpa using tessera_image_eq_empty_iff c hentry

/-- **A list of the keys that have an answer**, in the order of their bytes. -/
structure Lists {β : Type} (answer : String → Option β → Prop) (keys : List String) : Prop where
  answered : ∀ key, key ∈ keys ↔ ∃ v, answer key (some v)
  increasing : keys.Pairwise fun a b => Utf8.encode a < Utf8.encode b

theorem lists_keys {β : Type} {d : Dict β} {answer : String → Option β → Prop}
    (h : ∀ key v, d.get? key = v ↔ answer key v) : Lists answer d.keys where
  answered key := by simp only [Dict.mem_keys_iff, h]
  increasing := List.pairwise_map.2 (d.increasing.imp Utf8.encode_lt_encode_iff.2)

/-- **Every look-up follows the layers.**  What the catalog of a configuration answers for a key is
what the layers say of it; the keys that it lists are those that have an answer.  The look-ups that
answer an unknown key with the empty image answer any other key with its entry, and the empty image
comes from an unknown key or from an entry of the configuration that is empty; only an unknown key
has an empty image without arguments. -/
theorem lookups_by_layers (c : Config.Docker) :
    (∀ key q, (ofConfig c).quorum.get? key = q ↔ QuorumAnswer c key q) ∧
    (∀ key image, (ofConfig c).tessera.get? key = image ↔ TesseraAnswer c key image) ∧
    Lists (QuorumAnswer c) (ofConfig c).quorum.keys ∧
    Lists (TesseraAnswer c) (ofConfig c).tessera.keys ∧
    (∀ key q, QuorumAnswer c key (some q) → (ofConfig c).quorumOrEmpty (some key) = q) ∧
    (∀ key, (ofConfig c).quorumOrEmpty key = ⟨"", Overlay.empty⟩ ↔
      ∀ k, key = some k → QuorumAnswer c k none) ∧
    (∀ key, ((ofConfig c).quorumOrEmpty key).image = "" ↔
      ∀ k, key = some k → QuorumAnswer c k none ∨ c.quorumImages.get? k = some "") ∧
    (∀ key image, TesseraAnswer c key (some image) →
      (ofConfig c).tesseraOrEmpty (some key) = image) ∧
    ∀ key, (ofConfig c).tesseraOrEmpty key = "" ↔
      ∀ k, key = some k → TesseraAnswer c k none ∨ c.tesseraImages.get? k = some "" := by
  have hquorum := get?_quorum_iff c
  have htessera := get?_tessera_iff c
  refine ⟨hquorum, htessera, lists_keys hquorum, lists_keys htessera, fun key q h => ?_,
    fun key => ?_, fun key => ?_, fun key image h => ?_, fun key => ?_⟩
  · rw [quorumOrEmpty, Option.bind_some, (hquorum _ _).2 h, Option.getD_some]
  · simp only [quorumOrEmpty_eq_empty_iff, hquorum]
  · simp only [image_quorumOrEmpty_eq_empty_iff, hquorum]
  · rw [tesseraOrEmpty, Option.bind_some, (htessera _ _).2 h, Option.getD_some]
  · simp only [tesseraOrEmpty_eq_empty_iff, htessera]

/-- An image that the configuration gives the oldest release brings arguments along. -/
example : (ofConfig { quorumImages := Dict.ofList [("v2.5.0", "q")] }).quorum.get? "v2.5.0" =
    some ⟨"q", unlocking⟩ := by decide +kernel

end Testbed.Catalog
