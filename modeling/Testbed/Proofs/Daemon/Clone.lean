/-
**A clone takes over its template's place in the network.**

What the daemon reports about a template is flattened to a container, turned into the description of
its clone, and sent to the daemon as an object again.  Of the template's networks only the first by
name is kept, and there the address and the aliases, if there are any; what makes up the rest of the
template's identity passes through.

Main definitions:

* `Testbed.Daemon.Inherits` — a description that says what a report says;
* `Testbed.Daemon.PinsTo` — **a description with one place in one network**;
* `Testbed.Daemon.TakesOver` — **a description that takes over** the identity of a template.

Main results:

* `Testbed.Daemon.exists_clone` — a created template with a network has one clone;
* `Testbed.Daemon.takesOver_creation` — what is sent to the daemon takes over what was reported;
* `Testbed.Daemon.clone_takes_over` — the same from the response to the request.
-/

import Testbed.Proofs.Container.Clone
import Testbed.Proofs.Daemon.Inspection
import Testbed.Proofs.Network.Ledger
import Testbed.Proofs.Text.ByteOrder

set_option relaxedAutoImplicit false
set_option autoImplicit false

namespace Testbed.Daemon

open Http (Request Response Dialogue)

/-! ### From a report to the description of a clone -/

/-- The description of a clone **inherits** what a report says, and one place in a network. -/
structure Inherits (i : Inspection) (a : Attachment) (s : ContainerSpec) : Prop where
  hostname : s.hostname = i.hostname
  domainname : s.domainname = i.domainname
  exposedPorts : s.exposedPorts = i.ports
  healthcheck : s.healthcheck = i.healthcheck
  entrypoint : s.entrypoint = i.entrypoint
  hostConfig : s.hostConfig = i.hostConfig
  network : s.network = some (Inspection.tidy a)

/-- A created template with a network has a clone, which is the same in whatever order the maps of
the report are walked through. -/
theorem exists_clone {i : Inspection} (hi : i.Ordered) (hstatus : i.status = some "created")
    {a : Attachment} {as : List Attachment} (hnetworks : i.networks = a :: as)
    (reference templateId image : String) (r : NodeRequest) :
    ∃ s, Inherits i a s ∧ ∀ j, i.Shuffled j →
      ContainerSpec.ofTemplate templateId (j.details reference) r image = .ok s := by
  have hcreated : (i.details reference).status = "created" := by
    simp [Inspection.details, hstatus]
  have hports := (Inspection.Shuffled.refl i).details_exposedPorts hi reference
  have hprimary : (i.details reference).primaryNetwork? = some (Inspection.tidy a) := by
    rw [ContainerDetails.primaryNetwork?, (Inspection.Shuffled.refl i).details_networks hi,
      hnetworks]
    rfl
  have htemplate : (i.details reference).IsTemplate := by
    simp [ContainerDetails.IsTemplate, hcreated, hprimary, Text.sameWord]
  refine ⟨.clone templateId (i.details reference) r image,
    ⟨rfl, rfl, hports, rfl, rfl, rfl, hprimary⟩, fun j hj => ?_⟩
  rw [hj.details_eq hi]
  exact ContainerSpec.ofTemplate_eq_ok_iff.2 ⟨htemplate, rfl⟩

/-! ### From the description of a clone to the request -/

theorem lookup_optionalMember (k name : String) (v : Option Json) :
    Dict.lookup k (optionalMember name v) = if k = name then v else none := by
  cases v <;> simp [optionalMember, Dict.lookup]

/-- The object of some members, of which some may be missing. -/
def object (members : List (String × Option Json)) : Json :=
  .obj (members.flatMap fun m => optionalMember m.1 m.2)

/-- A name of an object leads to its member, if that is not missing. -/
theorem get?_object {members : List (String × Option Json)} (h : (members.map Prod.fst).Nodup)
    (name : String) : (object members).get? name = (Dict.lookup name members).join := by
  induction members with
  | nil => rfl
  | cons m members ih =>
      obtain ⟨key, v⟩ := m
      obtain ⟨hkey, hrest⟩ := List.nodup_cons.1 h
      have hmembers := ih hrest
      simp only [object, Json.get?, List.flatMap_cons, Dict.lookup_append, lookup_optionalMember,
        Dict.lookup] at hmembers ⊢
      rw [hmembers]
      by_cases hname : name = key
      · rw [hname, Dict.lookup_eq_none_of_not_mem hkey]
        simp
      · simp [hname]

/-- The members of the description of a new container. -/
def creationMembers (s : ContainerSpec) : List (String × Option Json) :=
  [("Image", some (.str s.image)), ("Hostname", s.hostname.map .str),
    ("Domainname", s.domainname.map .str), ("ExposedPorts", some (portSet s.exposedPorts)),
    ("Env", some (Json.ofStrings s.env)), ("Healthcheck", s.healthcheck),
    ("Entrypoint", s.entrypoint.map Json.ofStrings),
    ("Labels", some (.obj (s.labels.entries.map fun e => (e.1, Json.str e.2)))),
    ("HostConfig", some (hostSettings s)), ("NetworkingConfig", s.network.map networkSettings)]

theorem get?_creation (s : ContainerSpec) (name : String) :
    (creation s).get? name = (Dict.lookup name (creationMembers s)).join := by
  have hcreation : creation s = object (creationMembers s) := by
    simp [creation, object, creationMembers, optionalMember]
  rw [hcreation, get?_object (by simp [creationMembers])]

/-- The members of a place in a network. -/
def endpointMembers (a : Attachment) : List (String × Option Json) :=
  [("IPAMConfig", a.ipv4Address.map fun ip => .obj [("IPv4Address", .str ip)]),
    ("Aliases", if a.aliases = [] then none else some (Json.ofStrings a.aliases))]

theorem get?_endpointSettings (a : Attachment) (name : String) :
    (endpointSettings a).get? name = (Dict.lookup name (endpointMembers a)).join := by
  have hendpoint : endpointSettings a = object (endpointMembers a) := by
    by_cases h : a.aliases = []
    · simp [endpointSettings, object, endpointMembers, optionalMember, h]
    · simp [endpointSettings, object, endpointMembers, optionalMember, h]
  rw [hendpoint, get?_object (by simp [endpointMembers])]

/-- The host settings have the network for their mode. -/
theorem get?_hostSettings_mode {s : ContainerSpec} {a : Attachment} (h : s.network = some a) :
    (hostSettings s).get? "NetworkMode" = some (.str a.name) := by
  simp only [hostSettings, h, Json.get?, replaceMember, Dict.lookup_append, Dict.lookup_filter_ne,
    if_true, Option.none_or, Dict.lookup]

/-- The other host settings are handed on. -/
theorem get?_hostSettings {s : ContainerSpec} {name : String} (hname : name ≠ "NetworkMode") :
    (hostSettings s).get? name = s.hostConfig.bind fun v => v.get? name := by
  have hmembers (v : Json) : Dict.lookup name (v.members?.getD []) = v.get? name := by
    cases v <;> rfl
  have hhost : Dict.lookup name ((s.hostConfig.bind Json.members?).getD []) =
      s.hostConfig.bind fun v => v.get? name := by
    cases s.hostConfig with
    | none => rfl
    | some v => exact hmembers v
  cases h : s.network with
  | none => simp only [hostSettings, h, Json.get?, hhost]
  | some a =>
      simp only [hostSettings, h, Json.get?, replaceMember, Dict.lookup_append,
        Dict.lookup_filter_ne, hname, if_false, Dict.lookup, Option.or_none, hhost]

/-- An object without the members that are null shows the same. -/
theorem at?_withoutNulls (v : Json) (name : String) :
    (Inspection.withoutNulls v.canonical).at? [name] = v.canonical.at? [name] := by
  cases hv : v.canonical with
  | obj members =>
      have hincreasing := Json.increasing_of_canonical hv
      rw [Json.at?_cons, Json.at?_cons, Inspection.withoutNulls, Json.get?, Json.get?,
        Dict.lookup_filter (fun u : Json => !u.isNull) name hincreasing]
      cases Dict.lookup name members with
      | none => rfl
      | some u => cases hu : u.isNull <;> simp [Option.filter, hu, Json.at?_nil]
  | _ => rfl

/-- What is handed on without the members that are null shows the same. -/
theorem at?_handedOn (w : Json) (path : List String) (name : String) :
    (((w.canonical.at? path).map Inspection.withoutNulls).bind fun u => u.at? [name]) =
      w.canonical.at? (path ++ [name]) := by
  rw [Json.at?_append _ _ (List.cons_ne_nil name [])]
  cases hu : w.canonical.at? path with
  | none => rfl
  | some u =>
      obtain ⟨u, rfl⟩ := Json.exists_of_at?_canonical hu
      exact at?_withoutNulls u name

/-- Ports that come in the order of their names are written as they come. -/
theorem portSet_of_increasing {ports : List String} (h : ports.Pairwise (· < ·)) :
    portSet ports = .obj (ports.map fun p => (p, Json.obj [])) := by
  have hincreasing : (ports.map fun p => (p, Json.obj [])).Pairwise fun a b => a.1 < b.1 :=
    List.pairwise_map.2 h
  rw [portSet, Dict.ofList_entries ⟨_, hincreasing⟩]

/-! ### What a clone takes over -/

/-- The address that is set for a place in a network; an empty one counts as none. -/
def address? (place : Json) : Option String :=
  (place.textAt? ["IPAMConfig", "IPv4Address"]).filter (· ≠ "")

/-- The aliases of a place in a network; an empty list counts as none. -/
def aliases? (place : Json) : Option (List String) :=
  (place.textsAt? ["Aliases"]).filter (· ≠ [])

/-- **An endpoint that takes over a place in a network**: its address, its aliases, and nothing
else. -/
structure TakesPlace (place endpoint : Json) : Prop where
  address : endpoint.at? ["IPAMConfig"] =
    (address? place).map fun ip => .obj [("IPv4Address", .str ip)]
  aliases : endpoint.at? ["Aliases"] = (aliases? place).map Json.ofStrings
  nothingElse (name : String) : name ≠ "IPAMConfig" → name ≠ "Aliases" → endpoint.at? [name] = none

/-- **A description with one place in one network**: the network is the mode of the host settings
and the only endpoint. -/
structure PinsTo (name : String) (place b : Json) : Prop where
  mode : b.textAt? ["HostConfig", "NetworkMode"] = some name
  endpoint : ∃ e, b.membersAt ["NetworkingConfig", "EndpointsConfig"] = [(name, e)] ∧
    TakesPlace place e

/-- **A description that takes over the identity of a template**, of which `v` is reported. -/
structure TakesOver (v b : Json) : Prop where
  /-- The network is the first one in the order of the bytes of the names. -/
  network : ∃ m ∈ v.membersAt ["NetworkSettings", "Networks"],
    (∀ n ∈ v.membersAt ["NetworkSettings", "Networks"], n ≠ m →
      Utf8.encode m.1 < Utf8.encode n.1) ∧ PinsTo m.1 m.2 b
  ports : b.membersAt ["ExposedPorts"] =
    (v.membersAt ["Config", "ExposedPorts"]).map fun m => (m.1, .obj [])
  hostname : b.textAt? ["Hostname"] = v.textAt? ["Config", "Hostname"]
  domainname : b.textAt? ["Domainname"] = v.textAt? ["Config", "Domainname"]
  entrypoint : b.textsAt? ["Entrypoint"] = v.textsAt? ["Config", "Entrypoint"]
  hasHealthcheck : (b.at? ["Healthcheck"]).isSome = (v.at? ["Config", "Healthcheck"]).isSome
  healthcheck (name : String) :
    b.at? ["Healthcheck", name] = v.at? ["Config", "Healthcheck", name]
  hostSettings (name : String) : name ≠ "NetworkMode" →
    b.at? ["HostConfig", name] = v.at? ["HostConfig", name]

theorem takesPlace_endpointSettings (name : String) (place : Json) :
    TakesPlace place (endpointSettings (Inspection.tidy (Inspection.attachmentOf name place))) where
  address := by
    rw [Json.at?_cons, get?_endpointSettings]
    change Option.bind ((address? place).map _) _ = _
    cases address? place <;> rfl
  aliases := by
    have haliases (ss : Option (List String)) :
        ((if ss.getD [] = [] then none else some (Json.ofStrings (ss.getD []))).bind
          fun u => u.at? []) = (ss.filter (· ≠ [])).map Json.ofStrings := by
      cases ss with
      | none => rfl
      | some ss =>
          by_cases h : ss = []
          · simp [h, Option.filter]
          · simp [h, Option.filter, Json.ofStrings, Json.at?_nil, Json.isNull]
    rw [Json.at?_cons, get?_endpointSettings, aliases?, ← haliases]
    simp [endpointMembers, Dict.lookup, Inspection.tidy, Inspection.attachmentOf]
  nothingElse k haddress haliases := by
    simp [Json.at?_cons, get?_endpointSettings, endpointMembers, Dict.lookup, haddress, haliases]

section

variable {w : Json} {a : Attachment} {s : ContainerSpec}

/-- What stands in a description is found in the member that its first name leads to. -/
theorem at?_creation (s : ContainerSpec) (name : String) (path : List String) :
    (creation s).at? (name :: path) =
      (Dict.lookup name (creationMembers s)).join.bind fun u => u.at? path := by
  rw [Json.at?_cons, get?_creation]

theorem at?_creation_hostConfig (s : ContainerSpec) (path : List String) :
    (creation s).at? ("HostConfig" :: path) = (hostSettings s).at? path := by
  rw [at?_creation]
  simp [creationMembers, Dict.lookup]

theorem textAt?_creation {name : String} {t : Option String}
    (h : (Dict.lookup name (creationMembers s)).join = t.map .str) :
    (creation s).textAt? [name] = t := by
  rw [Json.textAt?, at?_creation, h]
  cases t <;> rfl

theorem textsAt?_creation {name : String} {ss : Option (List String)}
    (h : (Dict.lookup name (creationMembers s)).join = ss.map Json.ofStrings) :
    (creation s).textsAt? [name] = ss := by
  rw [Json.textsAt?, at?_creation, h]
  cases ss with
  | none => rfl
  | some ss => exact Ledger.strings?_ofStrings ss

/-- A description with a network has one place in it. -/
theorem pinsTo_creation {name : String} {place : Json}
    (h : s.network = some (Inspection.tidy (Inspection.attachmentOf name place))) :
    PinsTo name place (creation s) where
  mode := by
    rw [Json.textAt?, at?_creation_hostConfig, Json.at?_cons, get?_hostSettings_mode h]
    rfl
  endpoint := by
    have hnetwork : (Dict.lookup "NetworkingConfig" (creationMembers s)).join =
        some (networkSettings (Inspection.tidy (Inspection.attachmentOf name place))) := by
      simp [creationMembers, Dict.lookup, h]
    refine ⟨_, ?_, takesPlace_endpointSettings name place⟩
    rw [Json.membersAt, at?_creation, hnetwork]
    rfl

variable (h : Inherits (Inspection.ofJson w.canonical) a s)
include h

theorem membersAt_creation_exposedPorts : (creation s).membersAt ["ExposedPorts"] =
    (w.canonical.membersAt ["Config", "ExposedPorts"]).map fun m => (m.1, .obj []) := by
  have hports : (Dict.lookup "ExposedPorts" (creationMembers s)).join =
      some (portSet ((w.canonical.membersAt ["Config", "ExposedPorts"]).map Prod.fst)) := by
    simp [creationMembers, Dict.lookup, h.exposedPorts, Inspection.ofJson]
  have hincreasing := List.pairwise_map.2 (w.increasing_membersAt ["Config", "ExposedPorts"])
  rw [Json.membersAt, at?_creation, hports, portSet_of_increasing hincreasing, List.map_map]
  rfl

theorem at?_creation_healthcheck (path : List String) :
    (creation s).at? ("Healthcheck" :: path) =
      ((w.canonical.at? ["Config", "Healthcheck"]).map Inspection.withoutNulls).bind
        fun u => u.at? path := by
  rw [at?_creation]
  simp [creationMembers, Dict.lookup, h.healthcheck, Inspection.ofJson]

/-- There is a health check if there was one. -/
theorem isSome_healthcheck : ((creation s).at? ["Healthcheck"]).isSome =
    (w.canonical.at? ["Config", "Healthcheck"]).isSome := by
  rw [at?_creation_healthcheck h]
  cases hu : w.canonical.at? ["Config", "Healthcheck"] with
  | none => rfl
  | some u =>
      have hnull := Json.isNull_of_at? hu
      cases u with
      | null => cases hnull
      | _ => rfl

theorem at?_hostConfig {name : String} (hname : name ≠ "NetworkMode") :
    (creation s).at? ["HostConfig", name] = w.canonical.at? ["HostConfig", name] := by
  have hsettings : (hostSettings s).at? [name] = s.hostConfig.bind fun u => u.at? [name] := by
    rw [Json.at?_cons, get?_hostSettings hname, Option.bind_assoc]
    rfl
  rw [at?_creation_hostConfig, hsettings, h.hostConfig]
  exact at?_handedOn w ["HostConfig"] name

end

/-- **What is sent to the daemon takes over what was reported.** -/
theorem takesOver_creation {w : Json} {s : ContainerSpec} {m : String × Json}
    {ms : List (String × Json)}
    (hnetworks : w.canonical.membersAt ["NetworkSettings", "Networks"] = m :: ms)
    (h : Inherits (Inspection.ofJson w.canonical) (Inspection.attachmentOf m.1 m.2) s) :
    TakesOver w.canonical (creation s) where
  network := by
    have hincreasing := w.increasing_membersAt ["NetworkSettings", "Networks"]
    rw [hnetworks] at hincreasing ⊢
    refine ⟨m, List.mem_cons_self, fun n hn hne => ?_, pinsTo_creation h.network⟩
    have hms : n ∈ ms := (List.mem_cons.1 hn).resolve_left hne
    exact Utf8.encode_lt_encode_iff.2 ((List.pairwise_cons.1 hincreasing).1 n hms)
  ports := membersAt_creation_exposedPorts h
  hostname := textAt?_creation <| by
    simp [creationMembers, Dict.lookup, h.hostname, Inspection.ofJson]
  domainname := textAt?_creation <| by
    simp [creationMembers, Dict.lookup, h.domainname, Inspection.ofJson]
  entrypoint := textsAt?_creation <| by
    simp [creationMembers, Dict.lookup, h.entrypoint, Inspection.ofJson]
  hasHealthcheck := isSome_healthcheck h
  healthcheck name := by
    rw [at?_creation_healthcheck h, at?_handedOn]
    rfl
  hostSettings name hname := at?_hostConfig h hname

/-- **A clone takes over its template's place in the network**, from the response to the request.
For every report about a created template with a network there is one description of a clone, in
whatever order the maps of the report are walked through, and in whatever order they are written;
the client sends it as one request, and what it carries takes over the template's identity. -/
theorem clone_takes_over {x : Response} {v : Json} (hx : Reports x v)
    (hstatus : v.textAt? ["State", "Status"] = some "created")
    (hnetworks : v.membersAt ["NetworkSettings", "Networks"] ≠ [])
    (reference templateId image : String) (r : NodeRequest) :
    ∃ s b,
      (∀ i, (Inspection.ofJson v).Shuffled i →
        ContainerSpec.ofTemplate templateId (i.details reference) r image = .ok s) ∧
      (∀ y, SameButOrder x y → Reports y v) ∧
      (call (.create s)).run.Begins (fun q => q = createRequest s) (fun _ => False) ∧
      (createRequest s).body = .json b ∧ TakesOver v b := by
  obtain ⟨w, rfl⟩ := hx.exists_canonical
  obtain ⟨m, ms, hm⟩ := List.exists_cons_of_ne_nil hnetworks
  have hplaces : (Inspection.ofJson w.canonical).networks =
      Inspection.attachmentOf m.1 m.2 :: ms.map fun m => Inspection.attachmentOf m.1 m.2 := by
    change (w.canonical.membersAt ["NetworkSettings", "Networks"]).map _ = _
    rw [hm, List.map_cons]
  obtain ⟨s, hs, hclone⟩ := exists_clone (Inspection.ordered_ofJson w) hstatus hplaces reference
    templateId image r
  refine ⟨s, creation s, hclone, fun y hy => hy.reports hx, ?_, rfl, takesOver_creation hm hs⟩
  exact begins_exchange_bind rfl fun v q hq => Dialogue.not_sends_done _ _ hq

/-- A report about a created template with some networks. -/
def templateIn (networks : List (String × Json)) : Json :=
  .obj ([("Id", .str "0a"), ("State", .obj [("Status", .str "created")]),
    ("HostConfig", .obj [("NetworkMode", .str "bridge"), ("Privileged", .bool true)])] ++
      ("NetworkSettings", .obj ([] ++ ("Networks", .obj networks) :: [])) :: [])

/-- A network in which a template has an alias and an empty address. -/
def backbone : String × Json :=
  ("backbone", .obj [("IPAMConfig", .obj [("IPv4Address", .str "")]),
    ("Aliases", .arr [.str "node"])])

/-- A network in which a template has nothing of its own. -/
def uplink : String × Json := ("uplink", .obj [])

/-- A template in two networks, which are reported in two orders. -/
theorem clone_takes_over_of_two :
    Reports (carrying (templateIn [uplink, backbone])) (templateIn [uplink, backbone]).canonical ∧
      SameButOrder (carrying (templateIn [uplink, backbone]))
        (carrying (templateIn [backbone, uplink])) ∧
      Reports (carrying (templateIn [backbone, uplink]))
        (templateIn [uplink, backbone]).canonical ∧
      ∃ s b, ContainerSpec.ofTemplate "0a"
          ((Inspection.ofJson (templateIn [uplink, backbone]).canonical).details "0a")
          { node := "n" } "" = .ok s ∧
        (createRequest s).body = .json b ∧
        TakesOver (templateIn [uplink, backbone]).canonical b := by
  have hlegible (a b : String × Json) (ha : a.2.Legible) (hb : b.2.Legible) :
      (templateIn [a, b]).Legible := by
    simp [templateIn, Json.Legible, Json.LegibleMembers, ha, hb]
  have huplink : uplink.2.Legible := trivial
  have hbackbone : backbone.2.Legible := by
    simp [backbone, Json.Legible, Json.LegibleMembers, Json.LegibleItems]
  have hx : Reports (carrying (templateIn [uplink, backbone]))
      (templateIn [uplink, backbone]).canonical :=
    reports_carrying (hlegible _ _ huplink hbackbone) (by decide) (by rfl)
  have hxy : SameButOrder (carrying (templateIn [uplink, backbone]))
      (carrying (templateIn [backbone, uplink])) := by
    refine sameButOrder_carrying (hlegible _ _ huplink hbackbone) (by decide)
      (hlegible _ _ hbackbone huplink) (by decide) ?_
    exact .member _ _ _ (.member _ _ _ (.members (by decide) (.swap _ _ _)))
  obtain ⟨s, b, hclone, horder, -, hb, htakes⟩ := clone_takes_over hx (by rfl)
    (List.ne_nil_of_length_pos (by decide)) "0a" "0a" "" { node := "n" }
  exact ⟨hx, hxy, horder _ hxy, s, b, hclone _ (.refl _), hb, htakes⟩

end Testbed.Daemon
