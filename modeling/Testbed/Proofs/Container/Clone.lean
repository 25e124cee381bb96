/-
**What a clone is made of.**

A container can be cloned if it was created and never started, and if it has joined a network; any
other is refused, for its status first.  The clone is the template over again but for four things:
its name, its image if another one is asked for, two labels that say where it comes from, and what
the request puts behind the environment.

Main definitions:

* `Testbed.ContainerDetails.IsTemplate`, `Testbed.ContainerSpec.Refused` — **which containers can be
  cloned**, and why others cannot;
* `Testbed.ContainerSpec.clone` — the clone of a template;
* `Testbed.ContainerSpec.IsClone` — **what makes up a clone**, one part of it after the other;
* `Testbed.NodeRequest.Refreshes`, `Testbed.NodeRequest.HandsOver` — the two entries that a request
  may add, of which `Testbed.Overlay.handedOver` gives the second.

Main results:

* `Testbed.ContainerSpec.ofTemplate_eq_ok_iff`, `Testbed.ContainerSpec.ofTemplate_eq_error_iff` —
  the two ends of cloning;
* `Testbed.ContainerSpec.isClone_iff` — there is one clone;
* `Testbed.ContainerSpec.templates_only_are_cloned` — **templates and no others are cloned, and
  every part of the clone is accounted for**.
-/

import Testbed.Container.Clone
import Testbed.Proofs.Dict

set_option relaxedAutoImplicit false
set_option autoImplicit false

namespace Testbed

/-! ### Templates -/

/-- Can a container be cloned?  It was created and never started, and it has joined a network. -/
def ContainerDetails.IsTemplate (t : ContainerDetails) : Prop :=
  Text.sameWord t.status "created" = true ∧ t.primaryNetwork?.isSome = true

theorem Text.sameWord_created_iff {s : String} :
    sameWord s "created" = true ↔ foldCase s = "created" := by
  have hfold : foldCase "created" = "created" := by decide +kernel
  rw [sameWord, hfold, beq_iff_eq]

theorem ContainerDetails.isTemplate_iff {t : ContainerDetails} :
    t.IsTemplate ↔ Text.foldCase t.status = "created" ∧ t.networks ≠ [] := by
  rw [IsTemplate, Text.sameWord_created_iff, primaryNetwork?, List.isSome_head?]

/-! ### What a request adds -/

/-- The entry that hands an overlay to geth: none for an overlay that is absent or renders blank. -/
def Overlay.handedOver (o : Option Overlay) : List String :=
  ((o.map render).filter fun text => !Text.isBlankText text).toList.map NodeRequest.gethArgsEntry

theorem Overlay.handedOver_some (o : Overlay) : handedOver (some o) =
    if Text.isBlankText o.render then [] else [NodeRequest.gethArgsEntry o.render] := by
  cases hblank : Text.isBlankText o.render <;> simp [handedOver, Option.filter_some, hblank]

namespace NodeRequest

/-- A fresh start adds one entry. -/
inductive Refreshes : Bool → List String → Prop
  | asked : Refreshes true ["ALWAYS_REFRESH=true"]
  | unasked : Refreshes false []

/-- **Arguments add one entry**, unless there are none or they render blank. -/
inductive HandsOver : Option Overlay → List String → Prop
  | unasked : HandsOver none []
  | blank {o : Overlay} (nothing : Text.isBlankText o.render = true) : HandsOver (some o) []
  | given {o : Overlay} (something : Text.isBlankText o.render = false) :
      HandsOver (some o) ["ADDITIONAL_GETH_ARGS=" ++ o.render]

theorem Refreshes.unique {fresh : Bool} {es fs : List String} (h : Refreshes fresh es)
    (h' : Refreshes fresh fs) : es = fs := by
  cases h <;> cases h' <;> rfl

/-- What is handed over is decided by the text of the overlay. -/
theorem handsOver_iff {o : Option Overlay} {es : List String} :
    HandsOver o es ↔ es = Overlay.handedOver o := by
  constructor
  · rintro (_ | nothing | something)
    · rfl
    · rw [Overlay.handedOver_some, if_pos nothing]
    · rw [Overlay.handedOver_some, if_neg (ne_true_of_eq_false something)]
      rfl
  · rintro rfl
    cases o with
    | none => exact .unasked
    | some o =>
        rw [Overlay.handedOver_some]
        cases hblank : Text.isBlankText o.render with
        | true => exact .blank hblank
        | false => exact .given hblank

theorem HandsOver.unique {o : Option Overlay} {es fs : List String} (h : HandsOver o es)
    (h' : HandsOver o fs) : es = fs := (handsOver_iff.1 h).trans (handsOver_iff.1 h').symm

theorem addedEnvironment_eq (r : NodeRequest) : r.addedEnvironment =
    (if r.freshStart then [freshStartEntry] else []) ++ Overlay.handedOver r.gethArgs := by
  unfold addedEnvironment
  cases r.gethArgs with
  | none => rfl
  | some o => rw [Overlay.handedOver_some]

theorem exists_added (r : NodeRequest) : ∃ fresh arguments,
    r.addedEnvironment = fresh ++ arguments ∧ Refreshes r.freshStart fresh ∧
      HandsOver r.gethArgs arguments := by
  refine ⟨_, _, r.addedEnvironment_eq, ?_, handsOver_iff.2 rfl⟩
  cases r.freshStart with
  | false => exact .unasked
  | true => exact .asked

end NodeRequest

namespace ContainerSpec

variable {templateId image : String} {t : ContainerDetails} {r : NodeRequest}
  {spec : ContainerSpec} {e : OperationError}

/-! ### The clone of a template -/

/-- The clone of a template. -/
def clone (templateId : String) (t : ContainerDetails) (r : NodeRequest) (image : String) :
    ContainerSpec where
  name := cloneName t.name
  image := if Text.isBlankText image then t.image else image
  hostname := t.hostname
  domainname := t.domainname
  exposedPorts := t.exposedPorts
  env := r.environment t.env
  healthcheck := t.healthcheck
  entrypoint := t.entrypoint
  hostConfig := t.hostConfig
  network := t.primaryNetwork?
  labels := (t.labels.insert Label.clonedFromId templateId).insert Label.clonedFromName t.name

/-- **Why a container is refused**: for its status if it was started, and else because it has joined
no network. -/
inductive Refused (t : ContainerDetails) : OperationError → Prop
  | started (status : Text.foldCase t.status ≠ "created") :
      Refused t (.invalidTemplate t.name ("status must be 'created', found '" ++ t.status ++ "'"))
  | apart (status : Text.foldCase t.status = "created") (alone : t.networks = []) :
      Refused t (.invalidTemplate t.name "template is not attached to any network")

/-- **A container is cloned if it is a template.** -/
theorem ofTemplate_eq_ok_iff :
    ofTemplate templateId t r image = .ok spec ↔
      t.IsTemplate ∧ spec = clone templateId t r image := by
  rw [ContainerDetails.IsTemplate, ofTemplate, clone]
  cases Text.sameWord t.status "created" with
  | false => simp
  | true =>
      cases t.primaryNetwork? with
      | none => simp
      | some network =>
          simp only [Bool.not_true, Bool.false_eq_true, if_false, Except.ok.injEq,
            Option.isSome_some, and_self, true_and]
          exact eq_comm

/-- **A container is refused if it is no template.** -/
theorem ofTemplate_eq_error_iff :
    ofTemplate templateId t r image = .error e ↔ Refused t e := by
  have hword := Text.sameWord_created_iff (s := t.status)
  cases hstatus : Text.sameWord t.status "created" with
  | false =>
      have hne : Text.foldCase t.status ≠ "created" := fun hcreated => by
        cases hstatus.symm.trans (hword.2 hcreated)
      simp only [ofTemplate, hstatus, Bool.not_false, if_true, Except.error.injEq]
      constructor
      · rintro rfl
        exact .started hne
      · rintro (⟨-⟩ | ⟨hcreated, -⟩)
        · rfl
        · exact absurd hcreated hne
  | true =>
      have hcreated : Text.foldCase t.status = "created" := hword.1 hstatus
      cases hnetworks : t.networks with
      | nil =>
          simp only [ofTemplate, hstatus, ContainerDetails.primaryNetwork?, hnetworks,
            List.head?_nil, Bool.not_true, Bool.false_eq_true, if_false, Except.error.injEq]
          constructor
          · rintro rfl
            exact .apart hcreated hnetworks
          · rintro (⟨hne⟩ | -)
            · exact absurd hcreated hne
            · rfl
      | cons network networks =>
          simp only [ofTemplate, hstatus, ContainerDetails.primaryNetwork?, hnetworks,
            List.head?_cons, Bool.not_true, Bool.false_eq_true, if_false, reduceCtorEq, false_iff]
          rintro (⟨hne⟩ | ⟨-, hnil⟩)
          · exact hne hcreated
          · cases hnetworks.symm.trans hnil

/-! ### Its parts -/

/-- **What makes up a clone.** -/
structure IsClone (templateId : String) (t : ContainerDetails) (r : NodeRequest) (image : String)
    (spec : ContainerSpec) : Prop where
  name : spec.name = t.name ++ "-clone"
  image_given : Text.isBlankText image = false → spec.image = image
  image_kept : Text.isBlankText image = true → spec.image = t.image
  source_id : spec.labels.get? "ClonedFromContainerId" = some templateId
  source_name : spec.labels.get? "ClonedFromContainerName" = some t.name
  labels : ∀ label, label ≠ "ClonedFromContainerId" → label ≠ "ClonedFromContainerName" →
    spec.labels.get? label = t.labels.get? label
  env : ∃ fresh arguments, spec.env = t.env ++ fresh ++ arguments ∧
    NodeRequest.Refreshes r.freshStart fresh ∧ NodeRequest.HandsOver r.gethArgs arguments
  network : spec.network = t.networks.head?
  hostname : spec.hostname = t.hostname
  domainname : spec.domainname = t.domainname
  exposedPorts : spec.exposedPorts = t.exposedPorts
  healthcheck : spec.healthcheck = t.healthcheck
  entrypoint : spec.entrypoint = t.entrypoint
  hostConfig : spec.hostConfig = t.hostConfig

theorem isClone_clone (templateId : String) (t : ContainerDetails) (r : NodeRequest)
    (image : String) : IsClone templateId t r image (clone templateId t r image) where
  name := rfl
  image_given h := by simp [clone, h]
  image_kept h := by simp [clone, h]
  source_id := by
    have hne : "ClonedFromContainerId" ≠ Label.clonedFromName := by decide
    rw [clone, Dict.get?_insert, if_neg hne]
    exact (Dict.get?_insert _ _ _ _).trans (if_pos rfl)
  source_name := (Dict.get?_insert _ _ _ _).trans (if_pos rfl)
  labels label hid hname := by
    have hother : label ≠ Label.clonedFromName := hname
    rw [clone, Dict.get?_insert, if_neg hother]
    exact (Dict.get?_insert _ _ _ _).trans (if_neg hid)
  env := by
    obtain ⟨fresh, arguments, hadded, hfresh, harguments⟩ := r.exists_added
    refine ⟨fresh, arguments, ?_, hfresh, harguments⟩
    rw [List.append_assoc, ← hadded]
    rfl
  network := rfl
  hostname := rfl
  domainname := rfl
  exposedPorts := rfl
  healthcheck := rfl
  entrypoint := rfl
  hostConfig := rfl

theorem IsClone.unique {spec' : ContainerSpec} (h : IsClone templateId t r image spec)
    (h' : IsClone templateId t r image spec') : spec = spec' := by
  have himage : spec.image = spec'.image := by
    cases hblank : Text.isBlankText image with
    | true => exact (h.image_kept hblank).trans (h'.image_kept hblank).symm
    | false => exact (h.image_given hblank).trans (h'.image_given hblank).symm
  have hlabels : spec.labels = spec'.labels := by
    refine Dict.ext_get? fun label => ?_
    by_cases hid : label = "ClonedFromContainerId"
    · rw [hid, h.source_id, h'.source_id]
    · by_cases hname : label = "ClonedFromContainerName"
      · rw [hname, h.source_name, h'.source_name]
      · rw [h.labels label hid hname, h'.labels label hid hname]
  have henv : spec.env = spec'.env := by
    obtain ⟨fresh, arguments, henv, hfresh, harguments⟩ := h.env
    obtain ⟨fresh', arguments', henv', hfresh', harguments'⟩ := h'.env
    rw [henv, henv', hfresh.unique hfresh', harguments.unique harguments']
  cases spec
  cases spec'
  simp only [mk.injEq]
  exact ⟨h.name.trans h'.name.symm, himage, h.hostname.trans h'.hostname.symm,
    h.domainname.trans h'.domainname.symm, h.exposedPorts.trans h'.exposedPorts.symm, henv,
    h.healthcheck.trans h'.healthcheck.symm, h.entrypoint.trans h'.entrypoint.symm,
    h.hostConfig.trans h'.hostConfig.symm, h.network.trans h'.network.symm, hlabels⟩

/-- **There is one clone**, and it is the one that is made. -/
theorem isClone_iff :
    IsClone templateId t r image spec ↔ spec = clone templateId t r image := by
  constructor
  · exact fun h => h.unique (isClone_clone templateId t r image)
  · rintro rfl
    exact isClone_clone templateId t r image

/-! ### Cloning -/

theorem exists_clone_iff :
    (∃ spec, ofTemplate templateId t r image = .ok spec) ↔ t.IsTemplate :=
  ⟨fun ⟨_, h⟩ => (ofTemplate_eq_ok_iff.1 h).1, fun h => ⟨_, ofTemplate_eq_ok_iff.2 ⟨h, rfl⟩⟩⟩

/-- A refusal is a precondition that does not hold, and it names the container. -/
theorem Refused.names (h : Refused t e) : e.isPrecondition = true ∧
    ∃ reason, e = .invalidTemplate t.name reason ∧
      e.toError = .precondition ("invalid template '" ++ t.name ++ "': " ++ reason) := by
  cases h <;> exact ⟨rfl, _, rfl, rfl⟩

/-- **Templates and no others are cloned, and every part of the clone is accounted for.**  A
container is cloned exactly if its status is that of a created one, in whatever case, and if it has
joined a network.  What comes of it is what makes up a clone, all of it and nothing else.  Every
other container is refused, for its status before anything else, by a precondition that names it. -/
theorem templates_only_are_cloned (templateId : String) (t : ContainerDetails) (r : NodeRequest)
    (image : String) :
    ((∃ spec, ofTemplate templateId t r image = .ok spec) ↔
      Text.foldCase t.status = "created" ∧ t.networks ≠ []) ∧
    (∀ spec, ofTemplate templateId t r image = .ok spec →
      IsClone templateId t r image spec ∧
        ∀ other, IsClone templateId t r image other → other = spec) ∧
    (∀ e, ofTemplate templateId t r image = .error e ↔ Refused t e) ∧
    ∀ e, Refused t e → e.isPrecondition = true ∧
      ∃ reason, e = .invalidTemplate t.name reason ∧
        e.toError = .precondition ("invalid template '" ++ t.name ++ "': " ++ reason) := by
  refine ⟨exists_clone_iff.trans ContainerDetails.isTemplate_iff, fun spec h => ?_,
    fun e => ofTemplate_eq_error_iff, fun e h => h.names⟩
  have hclone : IsClone templateId t r image spec := isClone_iff.2 (ofTemplate_eq_ok_iff.1 h).2
  exact ⟨hclone, fun other hother => hother.unique hclone⟩

/-- A template that has joined two networks, in capitals, and that is itself a clone. -/
def clonedTemplate : ContainerDetails :=
  { (default : ContainerDetails) with
    name := "q-clone", image := "quorum:1", status := "CREATED", env := ["ALWAYS_REFRESH=true"],
    labels := Dict.ofList [("ClonedFromContainerId", "0a"), ("ClonedFromContainerName", "q"),
      ("QuorumContainer", "")],
    networks := [{ name := "inner", aliases := ["q"] }, { name := "outer" }] }

/-- A clone of a clone says where it comes from itself, and joins the first network.  The same
container is refused for its status once it runs, though it has left its networks too. -/
theorem templates_only_are_cloned_of_clone :
    (∃ spec, ofTemplate "0b" clonedTemplate
        { node := "n", freshStart := true, gethArgs := some (Overlay.ofSteps [.gcMode "archive"]) }
        " " = .ok spec ∧
      spec.name = "q-clone-clone" ∧ spec.image = "quorum:1" ∧
      spec.labels.get? "ClonedFromContainerId" = some "0b" ∧
      spec.labels.get? "ClonedFromContainerName" = some "q-clone" ∧
      spec.labels.get? "QuorumContainer" = some "" ∧
      spec.network = some { name := "inner", aliases := ["q"] } ∧
      spec.env = ["ALWAYS_REFRESH=true", "ALWAYS_REFRESH=true",
        "ADDITIONAL_GETH_ARGS=--gcmode archive"]) ∧
    ofTemplate "0b" { clonedTemplate with status := "running", networks := [] } { node := "n" } "" =
      .error (.invalidTemplate "q-clone" "status must be 'created', found 'running'") := by
  refine ⟨?_, ?_⟩
  · obtain ⟨hexists, hparts, -, -⟩ := templates_only_are_cloned "0b" clonedTemplate
      { node := "n", freshStart := true, gethArgs := some (Overlay.ofSteps [.gcMode "archive"]) }
      " "
    obtain ⟨spec, hspec⟩ := hexists.2 ⟨by decide +kernel, List.cons_ne_nil _ _⟩
    obtain ⟨hclone, -⟩ := hparts spec hspec
    obtain ⟨fresh, arguments, henv, hfresh, harguments⟩ := hclone.env
    have hadded : arguments = ["ADDITIONAL_GETH_ARGS=--gcmode archive"] :=
      (harguments.unique (.given (by decide +kernel))).trans (by decide +kernel)
    rw [hfresh.unique .asked, hadded] at henv
    exact ⟨spec, hspec, hclone.name, hclone.image_kept (by decide +kernel), hclone.source_id,
      hclone.source_name, (hclone.labels _ (by decide) (by decide)).trans (by decide +kernel),
      hclone.network, henv⟩
  · obtain ⟨-, -, hrefused, -⟩ := templates_only_are_cloned "0b"
      { clonedTemplate with status := "running", networks := [] } { node := "n" } ""
    exact (hrefused _).2 (.started (by decide +kernel))

end ContainerSpec

end Testbed
