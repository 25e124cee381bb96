/-
**Reports about a container.**

What the daemon reports about a container comes as an object, which is read from a response and
flattened to a container.  The order in which the maps of a report are written, or walked through,
leaves no trace.  The words for a status come from a fixed list.

Main definitions:

* `Testbed.Daemon.Inspection.Shuffled` — a report whose maps are walked through in another order;
* `Testbed.Daemon.Reports` — **a response and the report that is read from it**;
* `Testbed.Daemon.SameButOrder` — responses that differ only in the order of members;
* `Testbed.Daemon.carrying` — the response that carries a value.

Main results:

* `Testbed.Daemon.Inspection.Shuffled.details_eq` — the order of ports and networks leaves no trace;
* `Testbed.Daemon.Reports.inspect` — what the call for a report answers;
* `Testbed.Daemon.Reports.status_mem` — the words for a status;
* `Testbed.Daemon.SameButOrder.reports` — the order of members does not matter.
-/

import Testbed.Proofs.Daemon.Client
import Testbed.Proofs.Json.Numbers
import Testbed.Proofs.Text.Utf8

set_option relaxedAutoImplicit false
set_option autoImplicit false

namespace Testbed.Daemon

open Http (Request Response Dialogue)

/-! ### The order of maps -/

namespace Inspection

/-- **A report whose maps are walked through in another order.** -/
structure Shuffled (i j : Inspection) : Prop where
  ports : j.ports.Perm i.ports
  networks : j.networks.Perm i.networks
  /-- Nothing else is different. -/
  rest : j = { i with ports := j.ports, networks := j.networks }

theorem Shuffled.refl (i : Inspection) : i.Shuffled i := ⟨.refl _, .refl _, rfl⟩

/-- The maps of a report are walked through in the order of their names. -/
structure Ordered (i : Inspection) : Prop where
  ports : i.ports.Pairwise (· < ·)
  networks : i.networks.Pairwise fun a b => a.name < b.name

theorem ordered_ofJson (w : Json) : (ofJson w.canonical).Ordered where
  ports := List.pairwise_map.2 (w.increasing_membersAt _)
  networks := List.pairwise_map.2 (w.increasing_membersAt _)

/-- What is made of the networks of a report in whatever order they come. -/
theorem Shuffled.details_networks {i j : Inspection} (h : i.Shuffled j) (hi : i.Ordered)
    (reference : String) : (j.details reference).networks = i.networks.map tidy :=
  -- To tidy up a place in a network does not change its name.
  mergeSort_of_perm Attachment.name (List.pairwise_map.2 hi.networks) (h.networks.map tidy)

/-- What is made of the ports of a report in whatever order they come. -/
theorem Shuffled.details_exposedPorts {i j : Inspection} (h : i.Shuffled j) (hi : i.Ordered)
    (reference : String) : (j.details reference).exposedPorts = i.ports :=
  mergeSort_of_perm (fun s => s) hi.ports h.ports

/-- **The order of ports and networks does not matter.** -/
theorem Shuffled.details_eq {i j : Inspection} (h : i.Shuffled j) (hi : i.Ordered)
    (reference : String) : j.details reference = i.details reference := by
  have hports : (j.details reference).exposedPorts = (i.details reference).exposedPorts := by
    rw [h.details_exposedPorts hi, (Shuffled.refl i).details_exposedPorts hi]
  have hnetworks : (j.details reference).networks = (i.details reference).networks := by
    rw [h.details_networks hi, (Shuffled.refl i).details_networks hi]
  calc j.details reference
      = { i.details reference with
          exposedPorts := (j.details reference).exposedPorts
          networks := (j.details reference).networks } := by rw [h.rest]; rfl
    _ = i.details reference := by rw [hports, hnetworks]

end Inspection

/-! ### Reading a report -/

/-- **A response and the report that is read from it.** -/
structure Reports (x : Response) (v : Json) : Prop where
  success : isSuccess x.status = true
  read : readJson Inspection.schema x = .ok v

/-- What is read is canonical. -/
theorem Reports.exists_canonical {x : Response} {v : Json} (h : Reports x v) :
    ∃ w : Json, v = w.canonical := by
  obtain ⟨-, -, w, -, -, -, hv⟩ := readJson_eq_ok_iff.1 h.read
  exact ⟨w, hv⟩

/-- The call for a report about a container answers what the report is flattened to. -/
theorem Reports.inspect {x : Response} {v : Json} (h : Reports x v) {id : String}
    (hid : Reference.check id = .ok ()) :
    ∃ next, (call (.inspect id)).run = .ask (inspectRequest id) next ∧
      next (some x) = .done (.ok ((Inspection.ofJson v).details id)) := by
  rw [call, withReference_of_ok hid, exchange_bind_run]
  refine ⟨_, rfl, ?_⟩
  rw [heard_of_ok h.success h.read]
  rfl

/-- **The status of a container is one of few words.** -/
theorem Reports.status_mem {x : Response} {v : Json} (h : Reports x v) {t : String}
    (ht : v.textAt? ["State", "Status"] = some t) : t ∈ Inspection.statuses := by
  obtain ⟨-, -, w, -, -, hfits, rfl⟩ := readJson_eq_ok_iff.1 h.read
  obtain ⟨u, hat, hstr⟩ := Option.bind_eq_some_iff.1 ht
  obtain ⟨state, hstate, hat⟩ := Option.bind_eq_some_iff.1 hat
  obtain ⟨status, hstatus, hat⟩ := Option.bind_eq_some_iff.1 hat
  obtain ⟨state, rfl, hnull | hfits⟩ := Json.exists_of_fits_options hfits
    (show ("State", Inspection.stateSchema) ∈ _ by simp) hstate
  · rw [Json.eq_null_of_isNull hnull] at hstatus
    cases hstatus
  obtain ⟨status, rfl, hnull | hfits⟩ := Json.exists_of_fits_options hfits
    (show ("Status", Json.Schema.word Inspection.statuses) ∈ _ by simp) hstatus
  · rw [Json.eq_null_of_isNull hnull] at hat
    cases hat
  cases status with
  | str s =>
      cases hat
      cases hstr
      simpa [Json.Schema.fits] using hfits
  | _ => simp [Json.Schema.fits] at hfits

/-- **Responses that differ only in the order of members** of the values in their bodies. -/
structure SameButOrder (x y : Response) : Prop where
  status : y.status = x.status
  complete : y.complete = x.complete
  body : ∃ t u v w, Utf8.decode? x.body = some t ∧ Json.parse? t = some v ∧
    Utf8.decode? y.body = some u ∧ Json.parse? u = some w ∧ v.Reordered w

/-- **The order of members does not matter**: the same report is read. -/
theorem SameButOrder.reports {x y : Response} {v : Json} (h : SameButOrder x y)
    (hx : Reports x v) : Reports y v := by
  obtain ⟨t, u, w, w', ht, hw, hu, hw', hreordered⟩ := h.body
  obtain ⟨hcomplete, t', v', ht', hv', hfits, rfl⟩ := readJson_eq_ok_iff.1 hx.read
  obtain rfl : t = t' := Option.some.inj (ht.symm.trans ht')
  obtain rfl : w = v' := Option.some.inj (hw.symm.trans hv')
  refine ⟨h.status ▸ hx.success, readJson_eq_ok_iff.2 ⟨h.complete ▸ hcomplete, u, w', hu, hw', ?_⟩⟩
  exact ⟨hreordered.sameForms _ ▸ hfits, hreordered.canonical_eq⟩

/-- The response that carries a value. -/
def carrying (v : Json) : Response where
  status := 200
  body := Utf8.encode v.compact

section

variable {v w : Json} (hlegible : v.Legible) (hdepth : v.height ≤ Json.depthLimit)
include hlegible hdepth

/-- A value of the form of a report is read from the response that carries it. -/
theorem reports_carrying (hfits : Inspection.schema.fits v = true) :
    Reports (carrying v) v.canonical where
  success := rfl
  read := readJson_eq_ok_iff.2 ⟨rfl, v.compact, v, Utf8.decode?_encode _,
    Json.parse?_compact hlegible hdepth, hfits, rfl⟩

theorem sameButOrder_carrying (hlegible' : w.Legible) (hdepth' : w.height ≤ Json.depthLimit)
    (h : v.Reordered w) : SameButOrder (carrying v) (carrying w) where
  status := rfl
  complete := rfl
  body := ⟨v.compact, w.compact, v, w, Utf8.decode?_encode _, Json.parse?_compact hlegible hdepth,
    Utf8.decode?_encode _, Json.parse?_compact hlegible' hdepth', h⟩

end

end Testbed.Daemon
