/-
**Archives that are cut off.**

A reader does not notice at once that bytes of a content are missing: it hands out what is there, and
finds the end only when it moves on to the next header.  So what it says of a member of an archive
that is cut off may be wrong, but then it fails afterwards.  What it reads without a fault are the
first members of the whole archive, as they are there.

Main definitions:

* `Testbed.Tar.Cursor.CutOff` — **a place in an archive that is cut off**;
* `Testbed.Tar.CutReading` — what is read there, beside what is read of the whole archive.

Main results:

* `Testbed.Tar.Cursor.CutOff.next?`, `Testbed.Tar.judge_begins`, `Testbed.Tar.judge_describes` —
  what one header says where the archive is cut off, it says in the whole archive;
* `Testbed.Tar.membersFrom_cutOff` — **what is read without a fault** from an archive that is cut
  off are the first members of the whole one;
* `Testbed.Tar.unpack_cutOff` — a cut-off archive of one file is not unpacked to anything else.
-/

import Testbed.Proofs.Tar.SingleFile

set_option relaxedAutoImplicit false
set_option autoImplicit false

namespace Testbed.Tar

/-! ### Places -/

/-- **A place in an archive that is cut off**: of what follows the place only a first part is there. -/
structure Cursor.CutOff (c d : Cursor) : Prop where
  rest : c.rest <+: d.rest
  skip : c.skip = d.skip

/-- Are there fewer bytes than belong to the header before? -/
def Cursor.IsShort (c : Cursor) : Prop := c.rest.length < c.skip

namespace Cursor.CutOff

variable {c d : Cursor}

/-- What is not missing is the same. -/
theorem content_eq (h : c.CutOff d) {size : Nat} (hsize : size ≤ c.rest.length) :
    c.content size = d.content size := by
  obtain ⟨t, ht⟩ := h.rest
  rw [Cursor.content, Cursor.content, ← ht, List.take_append_of_le_length hsize]

/-- A header that is there is found in the whole archive too. -/
theorem next? {declared : Option Nat} {c' : Cursor} {f : Found} (h : c.CutOff d)
    (hnext : c.next? declared = .ok (some (f, c'))) :
    ∃ d', d.next? declared = .ok (some (f, d')) ∧ c'.CutOff d' ∧ f.size ≤ c'.skip := by
  obtain ⟨t, ht⟩ := h.rest
  unfold Cursor.next? at hnext
  split at hnext
  · cases hnext
  rename_i hskip
  dsimp only at hnext
  split at hnext
  · cases hnext
  split at hnext
  · cases hnext
  rename_i hne hblock
  split at hnext
  · cases hnext
  rename_i hzeros
  -- the header takes a whole block, so it is the same in the whole archive
  have hdrop : d.rest.drop d.skip = c.rest.drop c.skip ++ t := by
    rw [← ht, ← h.skip, List.drop_append_of_le_length (by omega)]
  have hlen : blockSize ≤ (c.rest.drop c.skip).length := by
    rw [List.length_take] at hblock
    omega
  have hroom : ¬ d.rest.length < d.skip := by
    rw [← ht, ← h.skip, List.length_append]
    omega
  cases hexamine : examine declared ((c.rest.drop c.skip).take blockSize) with
  | error e =>
      rw [hexamine] at hnext
      cases hnext
  | ok found =>
      rw [hexamine] at hnext
      cases hnext
      refine ⟨⟨(d.rest.drop d.skip).drop blockSize, roundUp f.size⟩, ?_, ⟨?_, rfl⟩, le_roundUp _⟩
      · unfold Cursor.next?
        rw [if_neg hroom]
        simp only [hdrop, List.take_append_of_le_length hlen, hne, hblock, hzeros, hexamine,
          if_false, Bool.false_eq_true]
      · exact ⟨t, by rw [hdrop, List.drop_append_of_le_length hlen]⟩

end Cursor.CutOff

/-- Where bytes are missing, the reader fails as it moves on. -/
theorem membersFrom_of_isShort {c : Cursor} (h : c.IsShort) (p : Pending) :
    membersFrom p c = ([], some .missingBytes) := by
  have hnext : c.next? p.size? = .error .missingBytes := if_pos h
  rw [membersFrom_eq, hnext]

/-! ### Maps of files with holes -/

theorem mapEntries_append {bs : Bytes} {n : Nat} (h : 24 * n ≤ bs.length) (t : Bytes) :
    mapEntries (bs ++ t) n = mapEntries bs n := by
  induction n generalizing bs with
  | zero => rfl
  | succ n ih =>
      have hrest : 24 * n ≤ (bs.drop 24).length := by
        rw [List.length_drop]
        omega
      rw [mapEntries, mapEntries, List.take_append_of_le_length (by omega),
        List.drop_append_of_le_length (by omega), ih hrest]

theorem headD_append {bs : Bytes} (h : bs ≠ []) (t : Bytes) : (bs ++ t).headD 0 = bs.headD 0 := by
  cases bs with
  | nil => exact absurd rfl h
  | cons b bs => rfl

/-- A block that continues a map is read alone. -/
theorem Holes.extend_of_block {size : Nat} {h h' : Holes} {rest : Bytes}
    (hlen : ¬ rest.length < blockSize)
    (hmap : (mapEntries rest 21).foldlM (Holes.add size) h = .ok h') (t : Bytes) :
    h.extend size (rest ++ t) =
      if (rest.drop 504).headD 0 = 1 then
        (h'.extend size (rest.drop blockSize ++ t)).map fun r => (r.1, r.2 + 1)
      else .ok (h', 1) := by
  have hblock : blockSize = 512 := rfl
  have hlong : ¬ (rest ++ t).length < blockSize := by
    rw [List.length_append]
    omega
  have hlast : rest.drop 504 ≠ [] := by
    rw [Ne, List.drop_eq_nil_iff]
    omega
  rw [Holes.extend, dif_neg hlong, mapEntries_append (by omega), hmap,
    List.drop_append_of_le_length (by omega), headD_append hlast,
    List.drop_append_of_le_length (by omega)]

/-- What continues a map continues it in a longer archive too. -/
theorem Holes.extend_append {size : Nat} {h : Holes} {rest : Bytes} {r : Holes × Nat}
    (hx : h.extend size rest = .ok r) (t : Bytes) : h.extend size (rest ++ t) = .ok r := by
  fun_induction Holes.extend size h rest generalizing r with
  | case1 => cases hx
  | case2 => cases hx
  | case3 h rest hlen h' hmap hmore ih =>
      rw [Holes.extend_of_block hlen hmap, if_pos hmore]
      cases hrest : h'.extend size (rest.drop blockSize) with
      | error e =>
          rw [hrest] at hx
          cases hx
      | ok r' =>
          rw [hrest] at hx
          rw [ih hrest]
          exact hx
  | case4 h rest hlen h' hmap hlast =>
      rw [Holes.extend_of_block hlen hmap, if_neg hlast]
      exact hx

/-- A map that ends is the same map in a longer archive. -/
theorem mapBlocks_append {block : Bytes} {size n : Nat} {rest : Bytes}
    (hmap : mapBlocks block size rest = .ok n) (t : Bytes) :
    mapBlocks block size (rest ++ t) = .ok n := by
  -- only the continuation of the map depends on what follows the header
  unfold mapBlocks at hmap ⊢
  simp only [bind, Except.bind] at hmap ⊢
  split at hmap
  · cases hmap
  rename_i hgnu
  rw [if_neg hgnu]
  cases hentries : (mapEntries (field block 386 96) 4).foldlM (Holes.add size) ⟨0, size⟩ with
  | error e =>
      rw [hentries] at hmap
      cases hmap
  | ok h =>
      rw [hentries] at hmap
      dsimp only at hmap ⊢
      split at hmap
      · rename_i hmore
        rw [if_pos hmore]
        cases hextend : h.extend size rest with
        | error e =>
            rw [hextend] at hmap
            cases hmap
        | ok r =>
            rw [hextend] at hmap
            rw [Holes.extend_append hextend]
            exact hmap
      · rename_i hmore
        rw [if_neg hmore]
        exact hmap

/-! ### From header to header -/

variable {p : Pending} {f : Cursor.Found} {c d : Cursor}

/-- **A header that begins a member** begins it in the whole archive too. -/
theorem judge_begins (h : c.CutOff d) {m : Member} {n : Nat}
    (hjudge : judge p f c = .ok (.begins m n)) :
    m = p.member f c ∧ judge p f d = .ok (.begins (p.member f d) n) := by
  unfold judge at hjudge ⊢
  dsimp only at hjudge ⊢
  split at hjudge
  · split at hjudge <;> cases hjudge
  · split at hjudge <;> cases hjudge
  · split at hjudge <;> cases hjudge
  · cases hmap : mapBlocks f.block f.size c.rest with
    | error e =>
        rw [hmap] at hjudge
        cases hjudge
    | ok blocks =>
        rw [hmap] at hjudge
        cases hjudge
        obtain ⟨t, ht⟩ := h.rest
        rw [← ht, mapBlocks_append hmap]
        exact ⟨rfl, rfl⟩
  · cases hjudge
    exact ⟨rfl, rfl⟩

/-- Words about the next member that are given once are given in the whole archive too, and are the
same if none of them are missing. -/
theorem describes_once (h : c.CutOff d) {given : Bool} {q : Pending} (next : Bytes → Pending)
    (hjudge : (if given then .error .repeated else .ok (.describes (next (c.content f.size)))) =
      (.ok (.describes q) : Except Fault Outcome)) :
    ∃ q', (if given then .error .repeated else .ok (.describes (next (d.content f.size)))) =
      (.ok (.describes q') : Except Fault Outcome) ∧ (f.size ≤ c.rest.length → q' = q) := by
  split at hjudge
  · cases hjudge
  · rename_i hnew
    cases hjudge
    exact ⟨_, if_neg hnew, fun hsize => by rw [h.content_eq hsize]⟩

/-- **A header that describes the next member** describes it in the whole archive too, and in the
same words if none of them are missing. -/
theorem judge_describes (h : c.CutOff d) {q : Pending}
    (hjudge : judge p f c = .ok (.describes q)) :
    ∃ q', judge p f d = .ok (.describes q') ∧ (f.size ≤ c.rest.length → q' = q) := by
  unfold judge at hjudge ⊢
  dsimp only at hjudge ⊢
  split at hjudge
  · exact describes_once h (fun data => { p with longName := data }) hjudge
  · exact describes_once h (fun data => { p with longLink := data }) hjudge
  · exact describes_once h (fun data => { p with records := data }) hjudge
  · cases hmap : mapBlocks f.block f.size c.rest with
    | error e =>
        rw [hmap] at hjudge
        cases hjudge
    | ok blocks =>
        rw [hmap] at hjudge
        cases hjudge
  · cases hjudge

/-! ### Members -/

/-- **What is read of an archive that is cut off**, beside what is read of the whole one: without a
fault its first members, and in any case the kinds of its first members. -/
structure CutReading (cut whole : List Member × Option Fault) : Prop where
  members : cut.2 = none → cut.1 <+: whole.1
  kinds : cut.1.map Member.kind <+: whole.1.map Member.kind

theorem CutReading.nil (fault : Option Fault) (whole : List Member × Option Fault) :
    CutReading ([], fault) whole := ⟨fun _ => List.nil_prefix, List.nil_prefix⟩

theorem CutReading.cons {m m' : Member} {ms ms' : List Member} {fault fault' : Option Fault}
    (h : CutReading (ms, fault) (ms', fault')) (hkind : m.kind = m'.kind)
    (hsame : fault = none → m = m') : CutReading (m :: ms, fault) (m' :: ms', fault') where
  members hnone := List.cons_prefix_cons.2 ⟨hsame hnone, h.members hnone⟩
  kinds := List.cons_prefix_cons.2 ⟨hkind, h.kinds⟩

/-- **What is read without a fault** from an archive that is cut off are the first members of the
whole one. -/
theorem membersFrom_cutOff (h : c.CutOff d) : CutReading (membersFrom p c) (membersFrom p d) := by
  -- by induction on the headers that are there; at the last one bytes may be missing, and then the
  -- reader fails behind it
  induction hlen : c.rest.length using Nat.strong_induction_on generalizing p c d with
  | _ len ih =>
      subst hlen
      cases hnext : c.next? p.size? with
      | error e =>
          rw [membersFrom_eq, hnext]
          exact .nil _ _
      | ok found =>
          cases found with
          | none =>
              rw [membersFrom_of_end hnext]
              exact .nil _ _
          | some found =>
              obtain ⟨f, c'⟩ := found
              have hshorter := Cursor.next?_shorter hnext
              obtain ⟨d', hnext', hcut, hsize⟩ := h.next? hnext
              rw [membersFrom_of_next? hnext, membersFrom_of_next? hnext']
              cases hjudge : judge p f c' with
              | error e => exact .nil _ _
              | ok outcome =>
                  cases outcome with
                  | describes q =>
                      obtain ⟨q', hjudge', hwords⟩ := judge_describes hcut hjudge
                      rw [hjudge']
                      by_cases hshort : c'.IsShort
                      · dsimp only
                        rw [membersFrom_of_isShort hshort]
                        exact .nil _ _
                      · obtain rfl := hwords (Nat.le_trans hsize (Nat.not_lt.1 hshort))
                        exact ih _ hshorter hcut rfl
                  | begins m n =>
                      obtain ⟨rfl, hjudge'⟩ := judge_begins hcut hjudge
                      rw [hjudge']
                      let c'' : Cursor := ⟨c'.rest, c'.skip + n * blockSize⟩
                      have hcut' : c''.CutOff ⟨d'.rest, d'.skip + n * blockSize⟩ :=
                        ⟨hcut.rest, congrArg (· + _) hcut.skip⟩
                      refine (ih _ hshorter hcut' rfl).cons rfl fun hnone => ?_
                      -- without a fault behind it, no byte of the member is missing
                      have hthere : c'.skip + n * blockSize ≤ c'.rest.length := by
                        refine Nat.not_lt.1 fun hlt => ?_
                        have hfault := congrArg Prod.snd (membersFrom_of_isShort (c := c'') hlt {})
                        cases hfault.symm.trans hnone
                      unfold Pending.member
                      rw [hcut.content_eq (by omega)]

/-! ### Archives of one file -/

/-- A refusal that is about the archive and not about what it holds. -/
theorem Refusal.toOperationError_archive {r : Refusal} (h : r ≠ .notAFile)
    (container path : String) :
    ∃ text, r.toOperationError container path = .archive text := by
  cases r with
  | notAFile => exact absurd rfl h
  | several => exact ⟨_, rfl⟩
  | empty => exact ⟨_, rfl⟩
  | unreadable fault => exact ⟨_, rfl⟩

/-- **A cut-off archive of one file** is unpacked to the content of that file, or refused, but not
as one that holds something else than a file. -/
theorem unpack_cutOff {archive cut bs : Bytes} (hcut : cut <+: archive)
    (h : unpack archive = .ok bs) :
    unpack cut = .ok bs ∨ ∃ r, unpack cut = .error r ∧ r ≠ .notAFile := by
  obtain ⟨m, hmembers, hkind, rfl⟩ := unpack_eq_ok_iff.1 h
  have hreading : CutReading (members cut) (members archive) := membersFrom_cutOff ⟨hcut, rfl⟩
  rw [hmembers] at hreading
  unfold unpack
  generalize members cut = reading at hreading
  obtain ⟨ms, fault⟩ := reading
  cases ms with
  | nil =>
      right
      cases fault with
      | none => exact ⟨.empty, rfl, nofun⟩
      | some f => exact ⟨.unreadable f, rfl, nofun⟩
  | cons m' ms =>
      obtain ⟨hfile, hrest⟩ := List.cons_prefix_cons.1 hreading.kinds
      obtain rfl : ms = [] := List.map_eq_nil_iff.1 (List.prefix_nil.1 hrest)
      have honly : onlyFile fault none [m'] = onlyFile fault (some m'.data) [] := by
        rw [onlyFile, if_neg (not_not_intro (hfile.trans hkind))]
        rfl
      dsimp only
      rw [honly]
      cases fault with
      | none =>
          left
          obtain ⟨rfl, -⟩ := List.cons_prefix_cons.1 (hreading.members rfl)
          rfl
      | some f => exact .inr ⟨.unreadable f, rfl, nofun⟩

/-- **A cut-off archive is never read as a shorter file.**  However much of a packed archive is
there, what is unpacked from it is the whole content that was packed, or the archive is refused as
one that cannot be read or is empty.  Name and content are taken to be no longer than a reader
stands, which is more than a memory holds. -/
theorem unpack_pack_cutOff {modified : Nat} {name : String} {content archive cut : Bytes}
    (hpack : pack modified name content = .ok archive)
    (hname : (Utf8.encode name).length < sizeLimit) (hsize : content.length ≤ sizeLimit)
    (hcut : cut <+: archive) (container path : String) :
    (unpack cut).mapError (·.toOperationError container path) = .ok content ∨
      ∃ text, (unpack cut).mapError (·.toOperationError container path) =
        .error (.archive text) := by
  rcases unpack_cutOff hcut (unpack_pack hpack hname hsize) with hok | ⟨r, hr, hne⟩
  · left
    rw [hok]
    rfl
  · right
    obtain ⟨text, htext⟩ := Refusal.toOperationError_archive hne container path
    refine ⟨text, ?_⟩
    rw [hr, ← htext]
    rfl

theorem unpack_pack_cutOff_of_four :
    ∃ archive, pack 0 "a" [7, 8, 9, 10] = .ok archive ∧
      ((unpack (archive.take 514)).mapError (·.toOperationError "c" "/d/a") = .ok [7, 8, 9, 10] ∨
        ∃ text, (unpack (archive.take 514)).mapError (·.toOperationError "c" "/d/a") =
          .error (.archive text)) := by
  have hname : nameFault? "a" = none := by decide +kernel
  obtain ⟨archive, hpack⟩ := packable_iff.2 hname 0 [7, 8, 9, 10]
  exact ⟨archive, hpack, unpack_pack_cutOff hpack (by decide +kernel) (by decide)
    (List.take_prefix 514 archive) "c" "/d/a"⟩

end Testbed.Tar
