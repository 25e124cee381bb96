/-
**A packed file is unpacked again.**

An archive of one file holds a header, the content filled up to whole blocks, and two blocks of
zeros; a long name stands in a member before it.  A reader goes from header to header and finds
exactly this one file, with its whole name and its whole content.

Main definitions:

* `Testbed.Tar.sizeLimit` — the largest size that a reader stands;
* `Testbed.Tar.fileMember` — a file as a member;
* `Testbed.Tar.Packable` — a name that can be packed.

Main results:

* `Testbed.Tar.Cursor.next?_block`, `Testbed.Tar.Cursor.next?_trailer` — the next header is found
  behind what belongs to the one before, and so is the end;
* `Testbed.Tar.members_pack` — **a packed file is the only member** of its archive;
* `Testbed.Tar.unpack_eq_ok_iff` — what can be unpacked.
-/

import Testbed.Proofs.Tar.Header
import Testbed.Tar.SingleFile

set_option relaxedAutoImplicit false
set_option autoImplicit false

namespace Testbed.Tar

/-- The largest size that a reader stands, which leaves room for rounding up. -/
def sizeLimit : Nat := 2 ^ 64 - 2 * blockSize

/-! ### Whole blocks -/

theorem le_roundUp (n : Nat) : n ≤ roundUp n := by
  unfold roundUp blockSize
  omega

@[simp] theorem length_padded (bs : Bytes) : (padded bs).length = roundUp bs.length := by
  have := le_roundUp bs.length
  rw [padded, padding, List.length_append, List.length_replicate]
  omega

theorem blockSize_dvd_roundUp (n : Nat) : blockSize ∣ roundUp n := Nat.dvd_mul_left _ _

theorem content_padded (bs rest : Bytes) (skip : Nat) :
    Cursor.content ⟨padded bs ++ rest, skip⟩ bs.length = bs := by
  rw [Cursor.content, padded, List.append_assoc]
  exact List.take_left' rfl

/-! ### From header to header -/

namespace Cursor

/-- The next header is found behind what belongs to the one before. -/
theorem next?_block (h : Header) (hsize : h.size ≤ sizeLimit) (skipped rest : Bytes) :
    next? none ⟨skipped ++ (h.block ++ rest), skipped.length⟩ =
      .ok (some (⟨h.block, h.size⟩, ⟨rest, roundUp h.size⟩)) := by
  have hlen := h.length_block
  have hdrop : (skipped ++ (h.block ++ rest)).drop skipped.length = h.block ++ rest :=
    List.drop_left' rfl
  have hne : h.block.isEmpty = false := by
    cases hb : h.block with
    | nil => simp [hb, blockSize] at hlen
    | cons b r => rfl
  unfold next?
  rw [if_neg (by simp)]
  simp only [hdrop, List.take_left' hlen, List.drop_left' hlen, hne, hlen, h.block_ne_zero,
    h.examine_block hsize, Nat.lt_irrefl, if_false, Bool.false_eq_true]

/-- A block of zeros ends the archive. -/
theorem next?_trailer (declared : Option Nat) (skipped rest : Bytes) :
    next? declared ⟨skipped ++ (List.replicate blockSize 0 ++ rest), skipped.length⟩ = .ok none := by
  have hdrop : (skipped ++ (List.replicate blockSize 0 ++ rest)).drop skipped.length =
      List.replicate blockSize 0 ++ rest := List.drop_left' rfl
  have htake : (List.replicate blockSize 0 ++ rest : Bytes).take blockSize =
      List.replicate blockSize 0 := List.take_left' List.length_replicate
  have hzeros : (List.replicate blockSize 0 : Bytes).all (· == 0) = true := by simp
  unfold next?
  rw [if_neg (by simp)]
  simp only [hdrop, htake, List.length_replicate, Nat.lt_irrefl, hzeros, if_true, if_false, ite_self]

end Cursor

/-- The reader looks for the next header, and goes on with what it says. -/
theorem membersFrom_eq (p : Pending) (c : Cursor) :
    membersFrom p c =
      match c.next? p.size? with
      | .error f => ([], some f)
      | .ok none => ([], if p.isEmpty then none else some .dangling)
      | .ok (some (f, d)) =>
        match judge p f d with
        | .error f => ([], some f)
        | .ok (.describes q) => membersFrom q d
        | .ok (.begins m blocks) =>
          let (ms, fault) := membersFrom {} ⟨d.rest, d.skip + blocks * blockSize⟩
          (m :: ms, fault) := by
  rw [membersFrom]
  generalize c.next? p.size? = found
  split <;> rfl

theorem membersFrom_of_next? {p : Pending} {c d : Cursor} {f : Cursor.Found}
    (h : c.next? p.size? = .ok (some (f, d))) :
    membersFrom p c =
      match judge p f d with
      | .error f => ([], some f)
      | .ok (.describes q) => membersFrom q d
      | .ok (.begins m blocks) =>
        let (ms, fault) := membersFrom {} ⟨d.rest, d.skip + blocks * blockSize⟩
        (m :: ms, fault) := by
  rw [membersFrom_eq, h]

theorem membersFrom_of_end {p : Pending} {c : Cursor} (h : c.next? p.size? = .ok none) :
    membersFrom p c = ([], if p.isEmpty then none else some .dangling) := by
  rw [membersFrom_eq, h]

/-! ### Names -/

theorem wholeChars_eq_encode {limit : Nat} {cs : List Char}
    (h : (cs.flatMap String.utf8EncodeChar).length ≤ limit) :
    wholeChars limit cs = cs.flatMap String.utf8EncodeChar := by
  induction cs generalizing limit with
  | nil => rfl
  | cons c cs ih =>
      rw [List.flatMap_cons, List.length_append] at h
      rw [wholeChars, List.flatMap_cons, if_pos (by omega), ih (by omega)]

theorem length_wholeChars_le (limit : Nat) (cs : List Char) :
    (wholeChars limit cs).length ≤ limit := by
  induction cs generalizing limit with
  | nil => exact Nat.zero_le _
  | cons c cs ih =>
      rw [wholeChars]
      split
      · have := ih (limit - (String.utf8EncodeChar c).length)
        rw [List.length_append]
        omega
      · exact Nat.zero_le _

theorem shortName_eq_encode {name : String} (h : (Utf8.encode name).length ≤ nameLimit) :
    shortName name = Utf8.encode name := wholeChars_eq_encode h

theorem length_shortName_le (name : String) : (shortName name).length ≤ nameLimit :=
  length_wholeChars_le nameLimit name.toList

theorem dropZero_snoc (bs : Bytes) : Pending.dropZero (bs ++ [0]) = bs := by
  rw [Pending.dropZero, List.getLast?_concat, if_pos rfl, List.dropLast_concat]

theorem mem_of_mem_wholeChars {limit : Nat} {cs : List Char} {b : UInt8}
    (h : b ∈ wholeChars limit cs) : ∃ c ∈ cs, b ∈ String.utf8EncodeChar c := by
  induction cs generalizing limit with
  | nil => cases h
  | cons c cs ih =>
      rw [wholeChars] at h
      split at h
      · rcases List.mem_append.1 h with hb | hb
        · exact ⟨c, List.mem_cons_self, hb⟩
        · obtain ⟨d, hd, hb⟩ := ih hb
          exact ⟨d, List.mem_cons_of_mem c hd, hb⟩
      · cases h

theorem zero_not_mem_shortName {name : String} (h : '\x00' ∉ name.toList) :
    0 ∉ shortName name := by
  intro hmem
  obtain ⟨c, hc, hb⟩ := mem_of_mem_wholeChars hmem
  refine Utf8.zero_not_mem_encodeChar ?_ hb
  rintro rfl
  exact h hc

/-! ### One file -/

/-- A file as a member of an archive. -/
def fileMember (name : Bytes) (content : Bytes) : Member where
  name := name
  mode := some Header.mode
  kind := .file
  size := content.length
  data := content

/-- The header of a file, its content and the end of the archive. -/
def fileBlocks (modified : Nat) (name : String) (content : Bytes) : Bytes :=
  Header.block { name := shortName name, size := content.length, modified } ++
    (padded content ++ trailer)

theorem judge_file (p : Pending) (h : Header) (hkind : h.kind = 0) (size : Nat) (c : Cursor) :
    judge p ⟨h.block, size⟩ c = .ok (.begins (p.member ⟨h.block, size⟩ c) 0) := by
  have hfile : kind h.block = .file := by
    rw [h.kind_block, hkind]
    rfl
  unfold judge
  simp only [h.isGnu_block, hfile]
  rfl

/-- **The blocks of a file** hold one member, whose name may be known from a member before. -/
theorem membersFrom_fileBlocks {p : Pending} {modified : Nat} {name : String} {content : Bytes}
    (hrecords : p.records = none) (hsize : content.length ≤ sizeLimit)
    (hname : ∀ h : Header, h.name = shortName name → p.name h.block = Utf8.encode name)
    (skipped : Bytes) :
    membersFrom p ⟨skipped ++ fileBlocks modified name content, skipped.length⟩ =
      ([fileMember (Utf8.encode name) content], none) := by
  let h : Header := { name := shortName name, size := content.length, modified }
  have hnone : p.size? = none := by rw [Pending.size?, hrecords, Option.bind_none]
  have hnext : Cursor.next? p.size? ⟨skipped ++ fileBlocks modified name content, skipped.length⟩ =
      .ok (some (⟨h.block, content.length⟩, ⟨padded content ++ trailer, roundUp content.length⟩)) := by
    rw [hnone]
    exact Cursor.next?_block h hsize skipped (padded content ++ trailer)
  have hmember : p.member ⟨h.block, content.length⟩
      ⟨padded content ++ trailer, roundUp content.length⟩ =
        fileMember (Utf8.encode name) content := by
    unfold Pending.member fileMember
    rw [hname h rfl, h.mode_block, h.kind_block, content_padded]
    rfl
  have hend : membersFrom {} ⟨padded content ++ trailer, roundUp content.length + 0 * blockSize⟩ =
      ([], none) := by
    have htrailer : trailer = List.replicate blockSize 0 ++ List.replicate blockSize 0 := by
      rw [trailer, Nat.two_mul, List.replicate_append_replicate]
    rw [Nat.zero_mul, Nat.add_zero, ← length_padded, htrailer]
    exact membersFrom_of_end (Cursor.next?_trailer _ _ _)
  rw [membersFrom_of_next? hnext, judge_file p h rfl, hmember]
  dsimp only
  rw [hend]

/-! ### A long name -/

/-- The header of a member that holds a long name. -/
def longNameHeader (name : Bytes) : Header where
  name := longNameMark
  owner := some 0
  size := name.length + 1
  modified := 0
  kind := 0x4C

theorem judge_longName (name : Bytes) (size : Nat) (c : Cursor) :
    judge {} ⟨(longNameHeader name).block, size⟩ c =
      .ok (.describes { longName := some (c.content size) }) := by
  have hlong : kind (longNameHeader name).block = .longName := by
    rw [Header.kind_block]
    rfl
  unfold judge
  simp only [Header.isGnu_block, hlong]
  rfl

/-- **A long name** is known when the reader comes to the member behind it. -/
theorem membersFrom_longName {name : Bytes} (hlong : ¬ name.length ≤ nameLimit)
    (hname : name.length < sizeLimit) (rest : Bytes) :
    membersFrom {} ⟨longNameMember name ++ rest, 0⟩ =
      membersFrom { longName := some (name ++ [0]) }
        ⟨padded (name ++ [0]) ++ rest, (padded (name ++ [0])).length⟩ := by
  have hlen : (name ++ [0]).length = name.length + 1 := List.length_append
  have hblocks : longNameMember name ++ rest =
      [] ++ ((longNameHeader name).block ++ (padded (name ++ [0]) ++ rest)) := by
    rw [longNameMember, if_neg hlong, List.append_assoc, List.nil_append]
    rfl
  have hnext := Cursor.next?_block (longNameHeader name) hname []
    (padded (name ++ [0]) ++ rest)
  rw [← hblocks, List.length_nil] at hnext
  rw [membersFrom_of_next? (p := {}) hnext, judge_longName]
  show membersFrom { longName := some (Cursor.content _ (name.length + 1)) } _ = _
  rw [← hlen, content_padded, length_padded]
  show membersFrom _ ⟨_, roundUp (name.length + 1)⟩ = _
  rw [hlen]

/-- What keeps a name from being packed. -/
theorem nameFault?_eq_none_iff (name : String) :
    nameFault? name = none ↔
      name ≠ "" ∧ '/' ∉ name.toList ∧ name ≠ ".." ∧ 0 ∉ shortName name := by
  unfold nameFault?
  grind

/-- Can a name be packed, with any content and at any time? -/
def Packable (name : String) : Prop :=
  ∀ modified content, ∃ archive, pack modified name content = .ok archive

theorem nameFault?_eq_none_of_pack {modified : Nat} {name : String} {content archive : Bytes}
    (h : pack modified name content = .ok archive) : nameFault? name = none := by
  unfold pack at h
  split at h
  · cases h
  · assumption

theorem nameFault?_eq_some_of_pack {modified : Nat} {name : String} {content : Bytes}
    {f : NameFault} (h : pack modified name content = .error f) : nameFault? name = some f := by
  unfold pack at h
  split at h
  · cases h
    assumption
  · cases h

/-- What is packed: the long name, if there is one, and the blocks of the file. -/
theorem eq_of_pack {modified : Nat} {name : String} {content archive : Bytes}
    (h : pack modified name content = .ok archive) :
    archive = longNameMember (Utf8.encode name) ++ fileBlocks modified name content := by
  simp only [pack, nameFault?_eq_none_of_pack h] at h
  rw [← Except.ok.inj h]
  simp [fileBlocks]

theorem blockSize_dvd_longNameMember (name : Bytes) :
    blockSize ∣ (longNameMember name).length := by
  unfold longNameMember
  split
  · exact Nat.dvd_zero _
  · rw [List.length_append, Header.length_block, length_padded]
    exact Nat.dvd_add (Nat.dvd_refl _) (blockSize_dvd_roundUp _)

theorem blockSize_dvd_fileBlocks (modified : Nat) (name : String) (content : Bytes) :
    blockSize ∣ (fileBlocks modified name content).length := by
  rw [fileBlocks, List.length_append, List.length_append, Header.length_block, length_padded,
    trailer, List.length_replicate]
  exact Nat.dvd_add (Nat.dvd_refl _) (Nat.dvd_add (blockSize_dvd_roundUp _) (Nat.dvd_mul_left _ _))

/-- **A packed file is a whole number of blocks.** -/
theorem blockSize_dvd_pack {modified : Nat} {name : String} {content archive : Bytes}
    (h : pack modified name content = .ok archive) : blockSize ∣ archive.length := by
  rw [eq_of_pack h, List.length_append]
  exact Nat.dvd_add (blockSize_dvd_longNameMember _) (blockSize_dvd_fileBlocks modified name content)

theorem packable_iff {name : String} : Packable name ↔ nameFault? name = none := by
  constructor
  · intro h
    obtain ⟨archive, harchive⟩ := h 0 []
    exact nameFault?_eq_none_of_pack harchive
  · intro h modified content
    simp [pack, h]

/-- **A packed file is the only member of its archive**, with its whole name and content. -/
theorem members_pack {modified : Nat} {name : String} {content archive : Bytes}
    (hpack : pack modified name content = .ok archive)
    (hname : (Utf8.encode name).length < sizeLimit) (hsize : content.length ≤ sizeLimit) :
    members archive = ([fileMember (Utf8.encode name) content], none) := by
  obtain ⟨-, -, -, hzero⟩ := (nameFault?_eq_none_iff name).1 (nameFault?_eq_none_of_pack hpack)
  obtain rfl := eq_of_pack hpack
  unfold members
  by_cases hshort : (Utf8.encode name).length ≤ nameLimit
  · rw [longNameMember, if_pos hshort, List.nil_append]
    refine membersFrom_fileBlocks rfl hsize (fun h hh => ?_) []
    show headerName h.block = Utf8.encode name
    rw [← shortName_eq_encode hshort, ← hh]
    exact h.headerName_block (hh ▸ length_shortName_le name) (hh ▸ hzero)
  · rw [membersFrom_longName hshort hname]
    refine membersFrom_fileBlocks rfl hsize (fun h _ => ?_) _
    exact dropZero_snoc _

/-! ### Unpacking -/

/-- **What can be unpacked**: an archive that reads to its end and holds one member, which is a
file. -/
theorem unpack_eq_ok_iff {archive bs : Bytes} :
    unpack archive = .ok bs ↔ ∃ m, members archive = ([m], none) ∧ m.kind = .file ∧ m.data = bs := by
  unfold unpack
  obtain ⟨ms, fault⟩ := members archive
  cases ms with
  | nil => cases fault <;> simp [onlyFile]
  | cons m ms =>
      cases ms with
      | nil => cases fault <;> simp [onlyFile] <;> grind
      | cons m' ms =>
          simp [onlyFile]
          grind

/-- A packed file is unpacked again. -/
theorem unpack_pack {modified : Nat} {name : String} {content archive : Bytes}
    (hpack : pack modified name content = .ok archive)
    (hname : (Utf8.encode name).length < sizeLimit) (hsize : content.length ≤ sizeLimit) :
    unpack archive = .ok content :=
  unpack_eq_ok_iff.2 ⟨_, members_pack hpack hname hsize, rfl, rfl⟩

/-- **Unpacking undoes packing.**  A name that is not empty, not the one of the directory above, and
holds neither slash nor zero character is packed, at whatever time.  The archive is a whole number of
blocks, which hold one member: a file with this name, the mode of every file and the size of the
content.  Whatever it is said to be taken from, the content is unpacked from it.  Name and content
are taken to be no longer than a reader stands, which is more than a memory holds. -/
theorem unpack_undoes_pack {name : String} {content : Bytes} (hne : name ≠ "")
    (hparent : name ≠ "..") (hslash : '/' ∉ name.toList) (hzero : '\x00' ∉ name.toList)
    (hname : (Utf8.encode name).length < sizeLimit) (hsize : content.length ≤ sizeLimit)
    (modified : Nat) :
    ∃ archive, pack modified name content = .ok archive ∧ blockSize ∣ archive.length ∧
      (∃ m, members archive = ([m], none) ∧ m.name = Utf8.encode name ∧ m.kind = .file ∧
        m.mode = some 0o644 ∧ m.size = content.length) ∧
      ∀ container path, (unpack archive).mapError (·.toOperationError container path) =
        .ok content := by
  have hfault : nameFault? name = none :=
    (nameFault?_eq_none_iff name).2 ⟨hne, hslash, hparent, zero_not_mem_shortName hzero⟩
  obtain ⟨archive, hpack⟩ := packable_iff.2 hfault modified content
  have hmembers := members_pack hpack hname hsize
  refine ⟨archive, hpack, blockSize_dvd_pack hpack, ⟨_, hmembers, rfl, rfl, rfl, rfl⟩, ?_⟩
  intro container path
  rw [unpack_pack hpack hname hsize]
  rfl

/-- A name of 121 bytes, in which a character lies across the end of what a header holds. -/
def wideName : String := String.ofList ('a' :: List.replicate 60 'ä')

theorem unpack_undoes_pack_of_wide :
    ∃ archive, pack 0 wideName (List.replicate 512 0) = .ok archive ∧ blockSize ∣ archive.length ∧
      (∃ m, members archive = ([m], none) ∧ m.name = Utf8.encode wideName ∧ m.kind = .file ∧
        m.mode = some 0o644 ∧ m.size = 512) ∧
      (unpack archive).mapError (·.toOperationError "c" "/d") = .ok (List.replicate 512 0) := by
  have hlen : (List.replicate 512 0 : Bytes).length = 512 := List.length_replicate
  have hsize : (List.replicate 512 0 : Bytes).length ≤ sizeLimit := by
    rw [hlen]
    decide
  obtain ⟨archive, hpack, hblocks, ⟨m, hmembers, hname, hkind, hmode, hm⟩, hunpack⟩ :=
    @unpack_undoes_pack wideName (List.replicate 512 0) (by decide +kernel)
      (by decide +kernel) (by decide +kernel) (by decide +kernel) (by decide +kernel) hsize 0
  exact ⟨archive, hpack, hblocks, ⟨m, hmembers, hname, hkind, hmode, hm.trans hlen⟩,
    hunpack "c" "/d"⟩

end Testbed.Tar
