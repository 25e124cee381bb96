/-
**The image of a clone, and the arguments that come with it.**

A start asks the catalog for the image of the version of quorum that is wanted.  Whether there is
one is decided twice.  The clone takes any image that is not blank; the arguments of an entry are put
over those of the request unless its image is empty.  The entries that the library brings along have
images that are not blank, so the two decisions agree for them.  An entry of the configuration may
have an image of nothing but space: then the clone keeps the image of its template, and gets the
arguments of an image that it does not run.

Main definitions:

* `Testbed.Catalog.named?`, `Testbed.Catalog.filled?` — the two decisions;
* `Testbed.Config.Docker.BlankImage` — where they differ;
* `Testbed.ClonedBy` — **a clone that follows an entry**, in its image and in its environment.

Main results:

* `Testbed.Catalog.named?_eq_filled?` — where the two decisions agree;
* `Testbed.clonedBy_of_ofTemplate` — image and environment of a clone, each by its own decision;
* `Testbed.Orchestrator.quorum_clone_follows_entry` — **the clones of every start of nodes**.
-/

import Testbed.Proofs.Container.Clone
import Testbed.Proofs.Container.Protocol
import Testbed.Proofs.Dict
import Testbed.Proofs.Text.Blank

set_option relaxedAutoImplicit false
set_option autoImplicit false

namespace Testbed

/-! ### Entries of the catalog -/

/-- Does a configuration give a key an image of nothing but space? -/
def Config.Docker.BlankImage (c : Config.Docker) (key : Option String) : Prop :=
  ∃ k image, key = some k ∧ c.quorumImages.get? k = some image ∧
    Text.isBlankText image = true ∧ image ≠ ""

namespace Catalog

/-- The entry of a key whose image a clone takes: its image is not blank. -/
def named? (c : Catalog) (key : Option String) : Option QuorumImage :=
  (key.bind c.quorum.get?).filter fun q => !Text.isBlankText q.image

/-- The entry of a key whose arguments a request takes: its image is not empty. -/
def filled? (c : Catalog) (key : Option String) : Option QuorumImage :=
  (key.bind c.quorum.get?).filter fun q => q.image ≠ ""

/-- The image under development is not blank. -/
theorem developImage_not_blank {target : Option String} {repository : String → String}
    (h : Text.isBlankText (repository developKey) = false) :
    Text.isBlankText (developImage target repository) = false := by
  unfold developImage
  split
  · rename_i image himage
    obtain ⟨hmap, hne⟩ := Option.filter_eq_some_iff.1 himage
    obtain ⟨text, -, rfl⟩ := Option.map_eq_some_iff.1 hmap
    refine Bool.eq_false_iff.2 fun hblank => ?_
    exact absurd (Text.isBlankText_trim hblank) (by simpa using hne)
  · exact h

/-- **An entry with a blank image is one of the configuration.** -/
theorem configured_of_blank {c : Config.Docker} {k : String} {q : QuorumImage}
    (h : (ofConfig c).quorum.get? k = some q) (hblank : Text.isBlankText q.image = true) :
    c.quorumImages.get? k = some q.image := by
  have hmem := Dict.mem_of_get?_ofList h
  obtain ⟨e, he, rfl⟩ := List.mem_map.1 hmem
  obtain ⟨he, hkey⟩ := List.mem_filter.1 he
  simp only [decide_eq_true_eq] at hkey
  unfold quorumEntries at he
  simp only [List.mem_append, List.mem_map, List.mem_singleton] at he
  rcases he with ((⟨r, hr, rfl⟩ | ⟨r, hr, rfl⟩) | rfl) | ⟨r, hr, rfl⟩
  · obtain rfl := List.mem_singleton.1 hr
    exact absurd hblank (by decide +kernel)
  · have hall : ∀ r ∈ quorumReleases, Text.isBlankText (quorumImage r) = false := by
      decide +kernel
    exact absurd hblank (by simp [unlocked, hall r hr])
  · have hdevelop : Text.isBlankText (developImage c.targetQuorumImage quorumImage) = false :=
      developImage_not_blank (by decide +kernel)
    exact absurd hblank (by simp [unlocked, hdevelop])
  · subst hkey
    exact Dict.get?_eq_some_iff.2 hr

/-- An image of the configuration is the image of its key. -/
theorem get?_of_configured {c : Config.Docker} {k image : String}
    (h : c.quorumImages.get? k = some image) :
    (ofConfig c).quorum.get? k = some (unlocked image) := by
  have hsplit : (ofConfig c).quorum =
      (Dict.ofList (quorumEntries { c with quorumImages := Dict.empty })).override
        (c.quorumImages.map unlocked) := by
    unfold ofConfig quorumEntries Dict.ofList Dict.override
    simp only [List.foldl_append]
    rfl
  rw [hsplit, Dict.get?_override, Dict.get?_map, h]
  rfl

/-- **The two decisions agree** unless the configuration gives the key an image of nothing but
space. -/
theorem named?_eq_filled? {c : Config.Docker} {key : Option String}
    (h : ¬ c.BlankImage key) : (ofConfig c).named? key = (ofConfig c).filled? key := by
  unfold named? filled?
  cases hentry : key.bind (ofConfig c).quorum.get? with
  | none => rfl
  | some q =>
  obtain ⟨k, hkey, hk⟩ := Option.bind_eq_some_iff.1 hentry
  cases hblank : Text.isBlankText q.image with
  | true =>
      have hempty : q.image = "" := by
        by_contra hne
        exact h ⟨k, q.image, hkey, configured_of_blank hk hblank, hblank, hne⟩
      simp [Option.filter_some, hempty, Text.isBlankText_empty]
  | false =>
      have hne : q.image ≠ "" := fun he => by simp [he, Text.isBlankText_empty] at hblank
      simp [Option.filter_some, hne, hblank]

/-- Where they differ, a request takes arguments and the clone no image. -/
theorem entries_of_blankImage {c : Config.Docker} {key : Option String} (h : c.BlankImage key) :
    (ofConfig c).named? key = none ∧
      ∃ image, (ofConfig c).filled? key = some (unlocked image) := by
  obtain ⟨k, image, rfl, hget, hblank, hne⟩ := h
  have hentry := get?_of_configured hget
  refine ⟨?_, image, ?_⟩
  · simp [named?, hentry, unlocked, hblank]
  · simp [filled?, hentry, unlocked, hne]

end Catalog

/-! ### Clones -/

/-- The overlay of a request with that of an entry over it. -/
def Overlay.under (own : Option Overlay) : Option QuorumImage → Option Overlay
  | none => own
  | some q => some ((own.getD empty).overrideWith q.overlay)

/-- The environment of a clone that gets the arguments of an entry. -/
def NodeRequest.environmentWith (r : NodeRequest) (entry : Option QuorumImage)
    (template : List String) : List String :=
  template ++ (if r.freshStart then [freshStartEntry] else []) ++
    Overlay.handedOver (Overlay.under r.gethArgs entry)

/-- **A clone that follows an entry of the catalog**: without one it keeps the image of its template
and gets the request's own arguments; an entry gives it an image, and arguments over its own. -/
structure ClonedBy (entry : Option QuorumImage) (r : NodeRequest) (t : ContainerDetails)
    (spec : ContainerSpec) : Prop where
  image : spec.image = (entry.map QuorumImage.image).getD t.image
  env : spec.env = r.environmentWith entry t.env

theorem NodeRequest.environment_eq (r : NodeRequest) (template : List String) :
    r.environment template = r.environmentWith none template := by
  rw [environment, addedEnvironment_eq, ← List.append_assoc]
  rfl

/-- The arguments of an entry get into the environment if its image is not empty. -/
theorem NodeRequest.environment_withImage (c : Catalog) (r : NodeRequest)
    (template : List String) :
    (Orchestrator.withImage r (c.quorumOrEmpty r.quorumVersion)).environment template =
      r.environmentWith (c.filled? r.quorumVersion) template := by
  rw [environment_eq]
  unfold Catalog.quorumOrEmpty Catalog.filled? Orchestrator.withImage
  cases r.quorumVersion.bind c.quorum.get? with
  | none => rfl
  | some q => by_cases hq : q.image = "" <;> simp [Option.filter_some, hq, environmentWith, Overlay.under]

/-- The image of an entry is taken if it is not blank. -/
theorem Catalog.image_quorumOrEmpty (c : Catalog) (key : Option String) (image : String) :
    (if Text.isBlankText (c.quorumOrEmpty key).image = true then image
      else (c.quorumOrEmpty key).image) =
      ((c.named? key).map QuorumImage.image).getD image := by
  unfold quorumOrEmpty named?
  cases key.bind c.quorum.get? with
  | none => rfl
  | some q => cases hq : Text.isBlankText q.image <;> simp [Option.filter_some, hq]

/-- What a clone is made of. -/
theorem ContainerSpec.of_ofTemplate {id image : String} {t : ContainerDetails} {r : NodeRequest}
    {spec : ContainerSpec} (h : ofTemplate id t r image = .ok spec) :
    t.IsTemplate ∧ spec.image = (if Text.isBlankText image = true then t.image else image) ∧
      spec.env = r.environment t.env := by
  obtain ⟨htemplate, rfl⟩ := ofTemplate_eq_ok_iff.1 h
  exact ⟨htemplate, rfl, rfl⟩

/-- A container that can be cloned has a clone. -/
theorem ContainerDetails.IsTemplate.exists_clone {t : ContainerDetails} (h : t.IsTemplate)
    (id image : String) (r : NodeRequest) :
    ∃ spec, ContainerSpec.ofTemplate id t r image = .ok spec :=
  ContainerSpec.exists_clone_iff.2 h

/-- **Image and environment of a clone, each by its own decision.** -/
theorem clonedBy_of_ofTemplate {c : Config.Docker} {id : String} {t : ContainerDetails}
    {r : NodeRequest} {spec : ContainerSpec}
    (h : ContainerSpec.ofTemplate id t
      (Orchestrator.withImage r ((Catalog.ofConfig c).quorumOrEmpty r.quorumVersion))
      ((Catalog.ofConfig c).quorumOrEmpty r.quorumVersion).image = .ok spec) :
    (¬ c.BlankImage r.quorumVersion →
      ClonedBy ((Catalog.ofConfig c).named? r.quorumVersion) r t spec) ∧
    (c.BlankImage r.quorumVersion → spec.image = t.image ∧
      ∃ image, spec.env = r.environmentWith (some (Catalog.unlocked image)) t.env) := by
  obtain ⟨-, himage, henv⟩ := ContainerSpec.of_ofTemplate h
  rw [Catalog.image_quorumOrEmpty] at himage
  rw [NodeRequest.environment_withImage] at henv
  refine ⟨fun hagree => ⟨himage, ?_⟩, fun hblank => ?_⟩
  · rw [henv, Catalog.named?_eq_filled? hagree]
  · obtain ⟨hnone, image, hfilled⟩ := Catalog.entries_of_blankImage hblank
    refine ⟨?_, image, ?_⟩
    · rw [himage, hnone]
      rfl
    · rw [henv, hfilled]

/-! ### Launches -/

namespace Launch

variable {template image : String} {request : NodeRequest} {policy : WaitPolicy}
  {ds : List Deed} {s : Script (Except OperationError Bool)} {r : Except OperationError Bool}

/-- What a launch creates, at whatever stage it stands, is the clone of the template that it looked
at first. -/
theorem clone_of_create (h : (launchClone template request image policy).run.Does ds s)
    {spec : ContainerSpec} {a : Except OperationError String}
    (hd : ⟨.call (.create spec), a⟩ ∈ ds) :
    ∃ t, ds.head? = some ⟨.call (.inspect template), .ok t⟩ ∧
      ContainerSpec.ofTemplate template t request image = .ok spec := by
  cases stage_of_does h with
  | fresh next => simp at hd
  | unseen e => simp at hd
  | refused t e rejected => simp at hd
  | prepared t spec' next accepted => simp at hd
  | watched t spec' id watch s accepted wait =>
      have hwatch := ((waitUntilUsable_within id policy).of_does wait).2
      have hspec : spec = spec' := by
        simp only [List.mem_cons] at hd
        rcases hd with hd | hd | hd | hd | hd | hd
        · cases hd
        · cases hd
          rfl
        · cases hd
        · cases hd
        · cases hd
        · cases hwatch _ hd
      exact ⟨t, rfl, hspec ▸ accepted⟩
  | uncreated t spec' e accepted => exact ⟨t, rfl, by simp at hd; rwa [hd.1]⟩
  | created t spec' id next accepted => exact ⟨t, rfl, by simp at hd; rwa [hd.1]⟩
  | recorded t spec' id next accepted => exact ⟨t, rfl, by simp at hd; rwa [hd.1]⟩
  | unstarted t spec' id e accepted => exact ⟨t, rfl, by simp at hd; rwa [hd.1]⟩
  | started t spec' id next accepted => exact ⟨t, rfl, by simp at hd; rwa [hd.1]⟩

/-- A launch that has ended has looked at its template first, and if this can be cloned, it has asked
for the clone. -/
theorem create_of_clone (h : (launchClone template request image policy).run.Does ds (.done r)) :
    ∃ a, ds.head? = some ⟨.call (.inspect template), a⟩ ∧
      ∀ t spec, a = .ok t → ContainerSpec.ofTemplate template t request image = .ok spec →
        ∃ b, ⟨.call (.create spec), b⟩ ∈ ds := by
  cases course_of_does h with
  | unseen e => exact ⟨_, rfl, fun t spec ht => nomatch ht⟩
  | refused t e rejected =>
      refine ⟨_, rfl, fun t' spec ht accepted => ?_⟩
      cases ht
      cases accepted.symm.trans rejected
  | uncreated t spec' e accepted' =>
      refine ⟨_, rfl, fun t' spec ht accepted => ⟨.error e, ?_⟩⟩
      cases ht
      cases accepted.symm.trans accepted'
      simp
  | unstarted t spec' id e accepted' =>
      refine ⟨_, rfl, fun t' spec ht accepted => ⟨.ok id, ?_⟩⟩
      cases ht
      cases accepted.symm.trans accepted'
      simp [started]
  | watched t spec' id watch o accepted' wait =>
      refine ⟨_, rfl, fun t' spec ht accepted => ⟨.ok id, ?_⟩⟩
      cases ht
      cases accepted.symm.trans accepted'
      simp [started]

end Launch

/-! ### Runs of a start -/

namespace Orchestrator

open Rehearsal

/-- A start of nodes runs its clones beside each other, and joins their outcomes. -/
theorem startNodes_run (o : Orchestrator) (requests : List NodeRequest) :
    (o.startNodes requests).run = Ensemble.fanOut (o.launchScripts requests) fun rs =>
      .done (conjunction (settle (requests.flatMap o.launches) rs)) := by
  unfold startNodes launchScripts
  rw [FanOut.run_together_bind, operations_launches, List.map_map]
  rfl

/-- The clone of quorum comes first among those of its request. -/
theorem quorum_of_allTasks {o : Orchestrator} {r : NodeRequest} {pair : TemplatePair}
    (h : o.settings.nodes.get? r.node = some pair) (before behind : List NodeRequest) :
    (o.allTasks (before ++ r :: behind))[(o.allTasks before).length]? =
      some ⟨pair.quorum, withImage r (o.catalog.quorumOrEmpty r.quorumVersion),
        (o.catalog.quorumOrEmpty r.quorumVersion).image⟩ := by
  unfold allTasks
  rw [List.flatMap_append, List.flatMap_cons, List.getElem?_append_right (Nat.le_refl _),
    Nat.sub_self]
  simp [cloneTasks, h]

section Runs

variable {c : Config} {o : Orchestrator} {before behind : List NodeRequest} {r : NodeRequest}
  {pair : TemplatePair} {α : Type} {g : List (Except OperationError Bool) → Script α}
  {ms : History (Except OperationError Bool)} {t : Threads (Except OperationError Bool) α}

/-- What the launch of a task creates is the clone of the template that it looked at first. -/
theorem clone_of_task {requests : List NodeRequest} {i : Nat} {task : CloneTask}
    (x : Threads.Explained (Ensemble.fanOut (o.launchScripts requests) g) ms t)
    (htask : (o.allTasks requests)[i]? = some task) {spec : ContainerSpec}
    {a : Except OperationError String} (hd : ⟨.call (.create spec), a⟩ ∈ ms.deedsOf (.script i)) :
    ∃ t, (ms.deedsOf (.script i)).head? = some ⟨.call (.inspect task.template), .ok t⟩ ∧
      ContainerSpec.ofTemplate task.template t task.request task.image = .ok spec := by
  have hlt : i < t.scripts.length := by
    rw [x.length_scripts]
    refine Nat.lt_of_not_le fun hge => ?_
    rw [x.idle i hge] at hd
    cases hd
  obtain ⟨s, hs, hdoes⟩ := x.script_of_fanOut (List.getElem?_eq_getElem hlt)
  rw [launchScripts, List.getElem?_map, htask] at hs
  cases hs
  exact Launch.clone_of_create hdoes hd

/-- At the end the launch of a task has asked for the clone of a template that can be cloned. -/
theorem create_of_task {requests : List NodeRequest} {i : Nat} {task : CloneTask}
    (x : Threads.Explained (Ensemble.fanOut (o.launchScripts requests) g) ms t) {b : α}
    (ht : t.lead = .done b) (htask : (o.allTasks requests)[i]? = some task) :
    ∃ a, (ms.deedsOf (.script i)).head? = some ⟨.call (.inspect task.template), a⟩ ∧
      ∀ t spec, a = .ok t →
        ContainerSpec.ofTemplate task.template t task.request task.image = .ok spec →
        ∃ b, ⟨.call (.create spec), b⟩ ∈ ms.deedsOf (.script i) := by
  obtain ⟨rs, hlen, -, -, hdoes⟩ := x.end_of_fanOut ht
  have hscript : (o.launchScripts requests)[i]? =
      some (task.operation o.settings.waitPolicy).run := by
    rw [launchScripts, List.getElem?_map, htask]
    rfl
  have hi : i < rs.length := by
    rw [hlen]
    exact (List.getElem?_eq_some_iff.1 hscript).1
  exact Launch.create_of_clone (hdoes i _ rs[i] hscript (List.getElem?_eq_getElem hi))

end Runs

/-! ### A node with a ready template -/

theorem settles_startNodes (o : Orchestrator) (requests : List NodeRequest) :
    (o.startNodes requests).run.Settles 0 := by
  rw [startNodes_run]
  exact Ensemble.settles_fanOut _ _

/-- A runtime where every container can be cloned and has the same image. -/
def readyAnswers (image : String) : (c : Call) → Except OperationError c.Answer
  | .inspect id => (stubbornAnswers (.inspect id)).map fun d => { d with image }
  | c => stubbornAnswers c

/-- The template of such a runtime. -/
def readyTemplate (id image : String) : ContainerDetails :=
  { (default : ContainerDetails) with
    id, name := id, image, status := "created", networks := [{ name := "net" }] }

theorem readyTemplate_isTemplate (id image : String) : (readyTemplate id image).IsTemplate :=
  ⟨by simp [readyTemplate, Text.sameWord], rfl⟩

/-- What is answered first about a template. -/
theorem answer_of_head {ms : History (Except OperationError Bool)} {image template : String}
    {t t' : Threads (Except OperationError Bool) (Except OperationError Bool)} {w v : World Unit}
    (run : Threads.Run (perform (.ofAnswers (readyAnswers image))) t w ms t' v) {who : Thread}
    {a : Except OperationError ContainerDetails}
    (hhead : (ms.deedsOf who).head? = some ⟨.call (.inspect template), a⟩) :
    a = .ok (readyTemplate template image) :=
  run.answer_ofAnswers (History.mem_deedsOf.1 (List.mem_of_head? hhead))

/-- A node of which the version `k` has an image of one blank. -/
def blankVersion : Config :=
  { docker := { nodes := Dict.ofList [("n", ⟨"q", "t"⟩)], quorumImages := Dict.ofList [("k", " ")] } }

/-- The node is wanted with an argument, at some version. -/
def archiveAt (version : String) : NodeRequest :=
  { node := "n", quorumVersion := some version,
    gethArgs := some (Overlay.ofSteps [.gcMode "archive"]) }

/-- **A blank image brings arguments**: the clone has the image of its template, and yet it gets the
arguments of an entry, which is none of those that a clone follows. -/
theorem blank_image_brings_arguments :
    ∃ ms t v spec a, Threads.Run (perform (.ofAnswers (readyAnswers "base")))
        (.ofEnsemble ((ofConfig blankVersion).startNodes [archiveAt "k"]).run) { runtime := () }
        ms t v ∧
      ⟨.call (.create spec), a⟩ ∈ ms.deedsOf (.script 0) ∧
      spec.image = (readyTemplate "q" "base").image ∧
      (Catalog.ofConfig blankVersion.docker).named? (archiveAt "k").quorumVersion = none ∧
      spec.env = ["ADDITIONAL_GETH_ARGS=--allow-insecure-unlock --gcmode archive"] ∧
      ¬ ClonedBy none (archiveAt "k") (readyTemplate "q" "base") spec := by
  obtain ⟨ms, t, v, result, run, hend⟩ :=
    (Threads.Run.nil (p := perform (.ofAnswers (readyAnswers "base")))
      (.ofEnsemble ((ofConfig blankVersion).startNodes [archiveAt "k"]).run)
      { runtime := () }).completes (settles_startNodes _ _)
  have x := run.explained
  rw [startNodes_run] at x
  have hnode : blankVersion.docker.nodes.get? (archiveAt "k").node = some ⟨"q", "t"⟩ := by
    decide +kernel
  have htask := quorum_of_allTasks (o := ofConfig blankVersion) hnode [] []
  obtain ⟨a, hhead, hcreate⟩ := create_of_task x hend htask
  obtain ⟨spec, hspec⟩ := (readyTemplate_isTemplate "q" "base").exists_clone "q"
    ((ofConfig blankVersion).catalog.quorumOrEmpty (some "k")).image
    (withImage (archiveAt "k") ((ofConfig blankVersion).catalog.quorumOrEmpty (some "k")))
  obtain ⟨b, hd⟩ := hcreate _ spec (answer_of_head run hhead) hspec
  obtain ⟨-, himage, henv⟩ := ContainerSpec.of_ofTemplate hspec
  have himage' : spec.image = "base" := himage.trans (by decide +kernel)
  have henv' : spec.env = ["ADDITIONAL_GETH_ARGS=--allow-insecure-unlock --gcmode archive"] :=
    henv.trans (by decide +kernel)
  refine ⟨ms, t, v, spec, b, run, hd, himage', by decide +kernel, henv', fun hclone => ?_⟩
  have hown := henv'.symm.trans hclone.env
  exact absurd hown (by decide +kernel)

/-! ### Every run of a start -/

/-- **A clone of quorum follows the catalog's entry for its version**, in every start of nodes: its
image is that of the entry, and the entry's arguments lie over the request's own; without an entry,
or with one whose image is empty, it keeps the image of its template and the request's own arguments.
If the configuration gives the version an image of nothing but space, it keeps the image of its
template, but gets the arguments that images of the configuration come with.  What is created is the
clone of the template that was looked at first, and at the end the launch has looked at it, and has
asked for the clone if there can be one. -/
theorem quorum_clone_follows_entry {R : Type} (h : Host R) (c : Config)
    (before behind : List NodeRequest) (r : NodeRequest) (pair : TemplatePair)
    (hnode : c.docker.nodes.get? r.node = some pair) (w v : World R)
    (ms : History (Except OperationError Bool))
    (t : Threads (Except OperationError Bool) (Except OperationError Bool))
    (run : Threads.Run (perform h)
      (.ofEnsemble ((ofConfig c).startNodes (before ++ r :: behind)).run) w ms t v) :
    let deeds := ms.deedsOf (.script ((ofConfig c).allTasks before).length)
    (∀ spec a, ⟨.call (.create spec), a⟩ ∈ deeds →
      ∃ template, deeds.head? = some ⟨.call (.inspect pair.quorum), .ok template⟩ ∧
        template.IsTemplate ∧
        (¬ c.docker.BlankImage r.quorumVersion →
          ClonedBy ((Catalog.ofConfig c.docker).named? r.quorumVersion) r template spec) ∧
        (c.docker.BlankImage r.quorumVersion → spec.image = template.image ∧
          ∃ image, spec.env = r.environmentWith (some (Catalog.unlocked image)) template.env)) ∧
    (∀ result, t.lead = .done result →
      ∃ a, deeds.head? = some ⟨.call (.inspect pair.quorum), a⟩ ∧
        ∀ template, a = .ok template → template.IsTemplate →
          ∃ spec b, ⟨.call (.create spec), b⟩ ∈ deeds) := by
  intro deeds
  have x := run.explained
  rw [startNodes_run] at x
  have htask := quorum_of_allTasks (o := ofConfig c) hnode before behind
  refine ⟨fun spec a hd => ?_, fun result hend => ?_⟩
  · obtain ⟨template, hhead, hclone⟩ := clone_of_task x htask hd
    exact ⟨template, hhead, (ContainerSpec.of_ofTemplate hclone).1, clonedBy_of_ofTemplate hclone⟩
  · obtain ⟨a, hhead, hcreate⟩ := create_of_task x hend htask
    refine ⟨a, hhead, fun template ha htemplate => ?_⟩
    obtain ⟨spec, hspec⟩ := htemplate.exists_clone pair.quorum
      ((ofConfig c).catalog.quorumOrEmpty r.quorumVersion).image
      (withImage r ((ofConfig c).catalog.quorumOrEmpty r.quorumVersion))
    exact ⟨spec, hcreate template spec ha hspec⟩

theorem quorum_clone_follows_entry_of_latest :
    ∃ ms t v spec a, Threads.Run (perform (.ofAnswers (readyAnswers "base")))
        (.ofEnsemble ((ofConfig blankVersion).startNodes [archiveAt "latest"]).run)
        { runtime := () } ms t v ∧
      ⟨.call (.create spec), a⟩ ∈ ms.deedsOf (.script 0) ∧
      spec.image = "quorumengineering/quorum:latest" ∧
      spec.env = ["ADDITIONAL_GETH_ARGS=--allow-insecure-unlock --gcmode archive"] := by
  obtain ⟨ms, t, v, result, run, hend⟩ :=
    (Threads.Run.nil (p := perform (.ofAnswers (readyAnswers "base")))
      (.ofEnsemble ((ofConfig blankVersion).startNodes [archiveAt "latest"]).run)
      { runtime := () }).completes (settles_startNodes _ _)
  have hnode : blankVersion.docker.nodes.get? (archiveAt "latest").node = some ⟨"q", "t"⟩ := by
    decide +kernel
  obtain ⟨hclones, hcreates⟩ := quorum_clone_follows_entry (.ofAnswers (readyAnswers "base"))
    blankVersion [] [] (archiveAt "latest") ⟨"q", "t"⟩ hnode _ _ _ _ run
  obtain ⟨a, hhead, hcreate⟩ := hcreates result hend
  obtain rfl := answer_of_head run hhead
  obtain ⟨spec, b, hd⟩ := hcreate _ rfl (readyTemplate_isTemplate "q" "base")
  obtain ⟨template, hhead', -, hnamed, -⟩ := hclones spec b hd
  have htemplate : readyTemplate "q" "base" = template := by
    cases hhead.symm.trans hhead'
    rfl
  subst htemplate
  have hlatest : ¬ blankVersion.docker.BlankImage (archiveAt "latest").quorumVersion := by
    rintro ⟨k, image, hk, hget, -⟩
    obtain rfl : "latest" = k := Option.some.inj hk
    have hnone : blankVersion.docker.quorumImages.get? "latest" = none := by decide +kernel
    cases hnone.symm.trans hget
  refine ⟨ms, t, v, spec, b, run, hd, ?_, ?_⟩
  · exact (hnamed hlatest).image.trans (by decide +kernel)
  · exact (hnamed hlatest).env.trans (by decide +kernel)

end Orchestrator

end Testbed
