/-
**An archive is refused for its first offence.**

One file is expected.  A reader comes to the members of an archive one by one, and to a fault where
it cannot go on.  A member that is no file is an offence wherever it stands, a file is one behind
another file, and so is a fault.  The first offence decides what an archive is refused for; an
archive without one holds a single file, or nothing.

Headers that describe the next member are not members of their own.  A member as it stands in an
archive may begin with any number of them, and it is read as one, whatever stands behind it.  (A
header of records about all members to come describes no single one; it is a member, and no file.)

Main definitions:

* `Testbed.Tar.arrivals` — what a reader comes to;
* `Testbed.Tar.Offends`, `Testbed.Tar.FirstOffence` — **what is wrong first**;
* `Testbed.Tar.Holds` — bytes that hold one member, with what describes it.

Main results:

* `Testbed.Tar.clean_iff` — what is without offence: nothing, or one file;
* `Testbed.Tar.unpack_of_firstOffence` — **the first offence decides**;
* `Testbed.Tar.Holds.membersFrom` — a member is read as one, whatever stands behind it;
* `Testbed.Tar.unpack_by_first_offence` — both together.
-/

import Testbed.Proofs.Tar.CutOff

set_option relaxedAutoImplicit false
set_option autoImplicit false

namespace Testbed.Tar

/-! ### Offences -/

/-- Members, and behind them the fault that cuts the reading short. -/
def arrive (ms : List Member) (fault : Option Fault) : List (Except Fault Member) :=
  ms.map .ok ++ fault.toList.map .error

/-- What a reader of an archive comes to. -/
def arrivals (archive : Bytes) : List (Except Fault Member) :=
  arrive (members archive).1 (members archive).2

/-- What is wrong with the next arrival, behind others. -/
inductive Offends (container path : String) (before : List (Except Fault Member)) :
    Except Fault Member → OperationError → Prop
  | notAFile (m : Member) (other : m.kind ≠ .file) :
      Offends container path before (.ok m) (.notAFile container path)
  | several (m file : Member) (one : m.kind = .file) (earlier : .ok file ∈ before)
      (another : file.kind = .file) :
      Offends container path before (.ok m)
        (.archive ("expected a single entry for '" ++ path ++ "', found more"))
  | unreadable (f : Fault) :
      Offends container path before (.error f) (.archive ("failed to read entry: " ++ f.message))

/-- Is there nothing wrong with any arrival? -/
def Clean (container path : String) (as : List (Except Fault Member)) : Prop :=
  ∀ before a behind, as = before ++ a :: behind → ∀ e, ¬ Offends container path before a e

/-- **What is wrong first**: the first arrival with which anything is wrong, and what. -/
def FirstOffence (container path : String) (as : List (Except Fault Member)) (e : OperationError) :
    Prop :=
  ∃ before a behind, as = before ++ a :: behind ∧ Clean container path before ∧
    Offends container path before a e

section Offences

variable {container path : String} {as before : List (Except Fault Member)}
  {a : Except Fault Member} {e : OperationError}

theorem clean_nil : Clean container path [] := by
  intro before a behind h
  simp at h

/-- Nothing is wrong with arrivals if nothing is wrong with all but the last, nor with the last. -/
theorem clean_concat (h : Clean container path before)
    (ha : ∀ e, ¬ Offends container path before a e) : Clean container path (before ++ [a]) := by
  intro before' b behind hsplit
  rcases List.eq_nil_or_concat behind with rfl | ⟨behind, c, rfl⟩
  · obtain ⟨rfl, hb⟩ := List.append_inj' hsplit rfl
    cases hb
    exact ha
  · have hsplit' : before ++ [a] = (before' ++ b :: behind) ++ [c] := by simp [hsplit]
    exact h before' b behind (List.append_inj' hsplit' rfl).1

/-- Either there is nothing wrong, or something is wrong first. -/
theorem clean_or_firstOffence (container path : String) (as : List (Except Fault Member)) :
    Clean container path as ∨ ∃ e, FirstOffence container path as e := by
  induction as using List.reverseRecOn with
  | nil => exact .inl clean_nil
  | append_singleton as a ih =>
      rcases ih with hclean | ⟨e, before, b, behind, rfl, hbefore, hb⟩
      · by_cases ha : ∃ e, Offends container path as a e
        · obtain ⟨e, he⟩ := ha
          exact .inr ⟨e, as, a, [], rfl, hclean, he⟩
        · exact .inl (clean_concat hclean fun e he => ha ⟨e, he⟩)
      · exact .inr ⟨e, before, b, behind ++ [a], by simp, hbefore, hb⟩

/-- **What is without offence**: nothing, or one file. -/
theorem clean_iff : Clean container path as ↔ as = [] ∨ ∃ m : Member, as = [.ok m] ∧ m.kind = .file
    := by
  constructor
  · intro h
    match as with
    | [] => exact .inl rfl
    | .error f :: behind => exact absurd (.unreadable f) (h [] _ behind rfl _)
    | .ok m :: behind =>
        by_cases hm : m.kind = .file
        · match behind with
          | [] => exact .inr ⟨m, rfl, hm⟩
          | .error f :: behind => exact absurd (.unreadable f) (h [.ok m] _ behind rfl _)
          | .ok m' :: behind =>
              by_cases hm' : m'.kind = .file
              · exact absurd (.several m' m hm' (by simp) hm) (h [.ok m] _ behind rfl _)
              · exact absurd (.notAFile m' hm') (h [.ok m] _ behind rfl _)
        · exact absurd (.notAFile m hm) (h [] _ behind rfl _)
  · rintro (rfl | ⟨m, rfl, hm⟩)
    · exact clean_nil
    · refine clean_concat clean_nil fun e he => ?_
      cases he with
      | notAFile _ hother => exact hother hm
      | several _ file _ hearlier _ => cases hearlier

/-! ### What an archive is refused for -/

variable {ms : List Member} {fault : Option Fault} {behind : List (Except Fault Member)}

theorem arrive_eq_nil (h : arrive ms fault = []) : ms = [] ∧ fault = none := by
  cases ms with
  | nil => cases fault with
    | none => exact ⟨rfl, rfl⟩
    | some f => cases h
  | cons m ms => cases h

theorem arrive_eq_ok_cons {m : Member} (h : arrive ms fault = .ok m :: behind) :
    ∃ ms', ms = m :: ms' ∧ arrive ms' fault = behind := by
  cases ms with
  | nil => cases fault <;> cases h
  | cons m' ms =>
      cases h
      exact ⟨ms, rfl, rfl⟩

theorem arrive_eq_error_cons {f : Fault} (h : arrive ms fault = .error f :: behind) :
    ms = [] ∧ fault = some f := by
  cases ms with
  | nil => cases fault with
    | none => cases h
    | some f' =>
        cases h
        exact ⟨rfl, rfl⟩
  | cons m ms => cases h

/-- A file takes the place of nothing. -/
theorem onlyFile_file {m : Member} (hm : m.kind = .file) :
    onlyFile fault none (m :: ms) = onlyFile fault (some m.data) ms := by
  rw [onlyFile, if_neg (not_not_intro hm)]
  rfl

/-- An offence ends the reading, if a file that was read before is known. -/
theorem onlyFile_of_offends {found : Option Bytes} (hsplit : arrive ms fault = a :: behind)
    (hoffends : Offends container path before a e)
    (hfound : (∃ file : Member, .ok file ∈ before ∧ file.kind = .file) → found.isSome = true) :
    (onlyFile fault found ms).mapError (·.toOperationError container path) = .error e := by
  cases hoffends with
  | notAFile m hother =>
      obtain ⟨ms, rfl, -⟩ := arrive_eq_ok_cons hsplit
      rw [onlyFile, if_pos hother]
      rfl
  | several m file hone hearlier hanother =>
      obtain ⟨ms, rfl, -⟩ := arrive_eq_ok_cons hsplit
      rw [onlyFile, if_neg (not_not_intro hone), if_pos (hfound ⟨file, hearlier, hanother⟩)]
      rfl
  | unreadable f =>
      obtain ⟨rfl, rfl⟩ := arrive_eq_error_cons hsplit
      cases found <;> rfl

/-- **The first offence decides** what an archive is refused for. -/
theorem unpack_of_firstOffence {archive : Bytes}
    (h : FirstOffence container path (arrivals archive) e) :
    (unpack archive).mapError (·.toOperationError container path) = .error e := by
  obtain ⟨before, a, behind, hsplit, hclean, hoffends⟩ := h
  -- it comes first of all, or behind one file
  rcases clean_iff.1 hclean with rfl | ⟨file, rfl, hfile⟩
  · exact onlyFile_of_offends hsplit hoffends fun ⟨_, hnone, _⟩ => nomatch hnone
  · obtain ⟨ms, hms, hrest⟩ := arrive_eq_ok_cons hsplit
    rw [unpack, hms, onlyFile_file hfile]
    exact onlyFile_of_offends hrest hoffends fun _ => rfl

/-- An archive without members is empty. -/
theorem unpack_of_nil {archive : Bytes} (h : arrivals archive = []) :
    unpack archive = .error .empty := by
  obtain ⟨hms, hfault⟩ := arrive_eq_nil h
  rw [unpack, hms, hfault]
  rfl

/-- **What is unpacked**: the content of a file to which nothing is added. -/
theorem unpack_eq_ok_iff_arrivals {archive bs : Bytes} :
    unpack archive = .ok bs ↔
      ∃ m : Member, arrivals archive = [.ok m] ∧ m.kind = .file ∧ m.data = bs := by
  rw [unpack_eq_ok_iff]
  constructor
  · rintro ⟨m, hmembers, hm⟩
    refine ⟨m, ?_, hm⟩
    rw [arrivals, hmembers]
    rfl
  · rintro ⟨m, harrivals, hm⟩
    obtain ⟨ms, hms, hrest⟩ := arrive_eq_ok_cons harrivals
    obtain ⟨rfl, hfault⟩ := arrive_eq_nil hrest
    exact ⟨m, Prod.ext hms hfault, hm⟩

/-- **What an archive is refused for**: what is wrong first, or that there is nothing. -/
theorem refused_iff {archive : Bytes} :
    (unpack archive).mapError (·.toOperationError container path) = .error e ↔
      FirstOffence container path (arrivals archive) e ∨
        (arrivals archive = [] ∧ e = .archive ("archive for '" ++ path ++ "' is empty")) := by
  constructor
  · intro he
    rcases clean_or_firstOffence container path (arrivals archive) with hclean | ⟨e', hfirst⟩
    · rcases clean_iff.1 hclean with hnil | ⟨m, hone, hm⟩
      · rw [unpack_of_nil hnil] at he
        cases he
        exact .inr ⟨hnil, rfl⟩
      · rw [unpack_eq_ok_iff_arrivals.2 ⟨m, hone, hm, rfl⟩] at he
        cases he
    · cases (unpack_of_firstOffence hfirst).symm.trans he
      exact .inl hfirst
  · rintro (hfirst | ⟨hnil, rfl⟩)
    · exact unpack_of_firstOffence hfirst
    · rw [unpack_of_nil hnil]
      rfl

end Offences

/-! ### Members as they stand in an archive -/

/-- Does a header bear a mark of a format in which members can be described? -/
def isMarked (block : Bytes) : Bool := isGnu block || isUstar block

/-- A block that a reader accepts as a header of a member of some size, given what is known about
the member to come. -/
structure Pending.Accepts (p : Pending) (block : Bytes) (size : Nat) : Prop where
  whole : block.length = blockSize
  filled : block.all (· == 0) = false
  sound : Cursor.examine p.size? block = .ok ⟨block, size⟩

/-- **What a header with its content adds** to what is known about the member to come: what was not
known before. -/
inductive Describes (block content : Bytes) : Pending → Pending → Prop
  | longName {p : Pending} (speaks : kind block = .longName) (new : p.longName = none) :
      Describes block content p { p with longName := some content }
  | longLink {p : Pending} (speaks : kind block = .longLink) (new : p.longLink = none) :
      Describes block content p { p with longLink := some content }
  | records {p : Pending} (speaks : kind block = .records) (new : p.records = none) :
      Describes block content p { p with records := some content }

/-- Is a kind one of those that describe the next member? -/
def Kind.isDescription : Kind → Bool
  | .longName | .longLink | .records => true
  | _ => false

/-- The member of a header. -/
def Pending.headed (p : Pending) (block : Bytes) (size : Nat) (data : Bytes) : Member :=
  ⟨p.name block, octal? (field block 100 8), kind block, size, data⟩

/-- **Bytes that hold one member**, given what is known about it: a header with its content; one of a
file with holes, whose map may go on in blocks behind the header; or a header that describes the
member, and bytes that hold it. -/
inductive Holds : Pending → Bytes → Member → Prop
  | plain {p : Pending} {block content : Bytes} (head : p.Accepts block content.length)
      (member : (isMarked block && (kind block).isDescription) = false)
      (dense : kind block ≠ .sparse) :
      Holds p (block ++ padded content) (p.headed block content.length content)
  | sparse {p : Pending} {block content extension : Bytes} {n : Nat}
      (head : p.Accepts block content.length) (holes : kind block = .sparse)
      (map : mapBlocks block content.length extension = .ok n)
      (blocks : extension.length = n * blockSize) :
      Holds p (block ++ (extension ++ padded content))
        (p.headed block content.length ((extension ++ padded content).take content.length))
  | described {p q : Pending} {block content bytes : Bytes} {m : Member}
      (head : p.Accepts block content.length) (marked : isMarked block = true)
      (describes : Describes block content p q) (holds : Holds q bytes m) :
      Holds p (block ++ (padded content ++ bytes)) m

/-- A header that is accepted is found next. -/
theorem Pending.Accepts.next? {p : Pending} {block : Bytes} {size : Nat} (h : p.Accepts block size)
    (rest : Bytes) :
    Cursor.next? p.size? ⟨block ++ rest, 0⟩ = .ok (some (⟨block, size⟩, ⟨rest, roundUp size⟩)) := by
  have hne : block.isEmpty = false := by
    cases hb : block with
    | nil => simpa [hb, blockSize] using h.whole
    | cons b r => rfl
  unfold Cursor.next?
  simp only [List.drop_zero, List.take_left' h.whole, List.drop_left' h.whole, hne, h.whole,
    h.filled, h.sound, Nat.lt_irrefl, Nat.not_lt_zero, if_false, Bool.false_eq_true]

/-- What belongs to the header before is skipped. -/
theorem membersFrom_skipped (p : Pending) (skipped rest : Bytes) :
    membersFrom p ⟨skipped ++ rest, skipped.length⟩ = membersFrom p ⟨rest, 0⟩ := by
  have hnext : Cursor.next? p.size? ⟨skipped ++ rest, skipped.length⟩ =
      Cursor.next? p.size? ⟨rest, 0⟩ := by
    unfold Cursor.next?
    simp
  rw [membersFrom_eq, membersFrom_eq p ⟨rest, 0⟩, hnext]

/-- A header with one of the two marks that describes a member is no member. -/
theorem judge_of_describes {p q : Pending} {block content rest : Bytes} {skip : Nat}
    (hmarked : isMarked block = true) (h : Describes block content p q) :
    judge p ⟨block, content.length⟩ ⟨padded content ++ rest, skip⟩ = .ok (.describes q) := by
  unfold isMarked at hmarked
  unfold judge
  cases h with
  | _ hspeaks hnew => simp [hmarked, hspeaks, hnew, content_padded]

/-- Any other header begins one. -/
theorem judge_of_plain {p : Pending} {block : Bytes} {size : Nat} {c : Cursor}
    (hmember : (isMarked block && (kind block).isDescription) = false)
    (hdense : kind block ≠ .sparse) :
    judge p ⟨block, size⟩ c = .ok (.begins (p.headed block size (c.content size)) 0) := by
  unfold isMarked at hmember
  unfold judge
  cases hkind : kind block with
  | file => simp [hkind, Pending.member, Pending.headed]
  | other => simp [hkind, Pending.member, Pending.headed]
  | sparse => exact absurd hkind hdense
  | _ =>
      have hplain : (isGnu block || isUstar block) = false := by
        simpa [hkind, Kind.isDescription] using hmember
      simp [hplain, hkind, Pending.member, Pending.headed]

/-- The header of a file with holes begins a member if the map of the holes can be followed. -/
theorem judge_of_sparse {p : Pending} {block : Bytes} {size n : Nat} {c : Cursor}
    (hholes : kind block = .sparse) (hmap : mapBlocks block size c.rest = .ok n) :
    judge p ⟨block, size⟩ c = .ok (.begins (p.headed block size (c.content size)) n) := by
  unfold judge
  simp only [hholes, hmap]
  rfl

/-- **A member is read as one**, with what describes it, whatever stands behind it. -/
theorem Holds.membersFrom {p : Pending} {bytes : Bytes} {m : Member} (h : Holds p bytes m)
    (rest : Bytes) :
    membersFrom p ⟨bytes ++ rest, 0⟩ = (m :: (members rest).1, (members rest).2) := by
  induction h with
  | plain head member dense =>
      rw [List.append_assoc, membersFrom_of_next? (head.next? _), judge_of_plain member dense,
        content_padded]
      dsimp only
      rw [Nat.zero_mul, Nat.add_zero, ← length_padded, membersFrom_skipped]
      rfl
  | @sparse p block content extension n head holes map blocks =>
      have hmap : mapBlocks block content.length (extension ++ padded content ++ rest) = .ok n := by
        rw [List.append_assoc]
        exact mapBlocks_append map _
      have hlen : (extension ++ padded content).length = roundUp content.length + n * blockSize := by
        rw [List.length_append, blocks, length_padded, Nat.add_comm]
      have hdata : (extension ++ padded content ++ rest).take content.length =
          (extension ++ padded content).take content.length := by
        refine List.take_append_of_le_length ?_
        rw [hlen]
        exact Nat.le_trans (le_roundUp _) (Nat.le_add_right _ _)
      rw [List.append_assoc, membersFrom_of_next? (head.next? _), judge_of_sparse holes hmap]
      dsimp only
      rw [← hlen, membersFrom_skipped, Cursor.content, hdata]
      rfl
  | described head marked describes holds ih =>
      rw [List.append_assoc, List.append_assoc, membersFrom_of_next? (head.next? _),
        judge_of_describes marked describes]
      dsimp only
      rw [← length_padded, membersFrom_skipped]
      exact ih

/-- Members are read one after the other, whatever stands behind them. -/
theorem members_of_holds {written : List (Bytes × Member)} (h : ∀ w ∈ written, Holds {} w.1 w.2)
    (rest : Bytes) :
    members (written.flatMap Prod.fst ++ rest) =
      (written.map Prod.snd ++ (members rest).1, (members rest).2) := by
  induction written with
  | nil => rfl
  | cons w written ih =>
      obtain ⟨hw, hwritten⟩ := List.forall_mem_cons.1 h
      rw [List.flatMap_cons, List.append_assoc, members, hw.membersFrom, ih hwritten]
      rfl

/-! ### Headers as the library writes them -/

theorem accepts_block (h : Header) (hsize : h.size ≤ sizeLimit) {p : Pending}
    (hrecords : p.records = none) : p.Accepts h.block h.size where
  whole := h.length_block
  filled := h.block_ne_zero
  sound := by
    rw [Pending.size?, hrecords, Option.bind_none]
    exact h.examine_block hsize

theorem isMarked_block (h : Header) : isMarked h.block = true := by
  rw [isMarked, h.isGnu_block, Bool.true_or]

/-- **A header with any type byte begins a member** with any content, unless it describes one or has
holes. -/
theorem holds_block (h : Header) {content : Bytes} (hcontent : content.length = h.size)
    (hsize : h.size ≤ sizeLimit) (hmember : (Kind.ofByte h.kind).isDescription = false)
    (hdense : Kind.ofByte h.kind ≠ .sparse) {p : Pending} (hrecords : p.records = none) :
    Holds p (h.block ++ padded content)
      ⟨p.name h.block, some Header.mode, Kind.ofByte h.kind, content.length, content⟩ := by
  have hholds := Holds.plain (hcontent ▸ accepts_block h hsize hrecords)
    (by rw [h.kind_block, hmember, Bool.and_false]) (by rwa [h.kind_block])
  rwa [Pending.headed, h.mode_block, h.kind_block] at hholds

/-- A long name stands before the member that it belongs to. -/
theorem holds_longName {name bytes : Bytes} {m : Member} (hlong : ¬ name.length ≤ nameLimit)
    (hname : name.length < sizeLimit) (h : Holds { longName := some (name ++ [0]) } bytes m) :
    Holds {} (longNameMember name ++ bytes) m := by
  have hlen : (name ++ [0]).length = (longNameHeader name).size := List.length_append
  have hspeaks : kind (longNameHeader name).block = .longName := (longNameHeader name).kind_block
  rw [longNameMember, if_neg hlong, List.append_assoc]
  exact .described (hlen ▸ accepts_block (longNameHeader name) hname rfl)
    (isMarked_block (longNameHeader name)) (.longName hspeaks rfl) h

/-- A file behind its long name. -/
theorem holds_longNamed {name content : Bytes} (hlong : ¬ name.length ≤ nameLimit)
    (hname : name.length < sizeLimit) {h : Header} (hkind : h.kind = 0)
    (hcontent : content.length = h.size) (hsize : h.size ≤ sizeLimit) :
    Holds {} (longNameMember name ++ (h.block ++ padded content)) (fileMember name content) := by
  have hfile : Kind.ofByte h.kind = .file := by rw [hkind]; rfl
  have hholds := @holds_block h content hcontent hsize (by rw [hfile]; rfl)
    (by rw [hfile]; exact nofun) { longName := some (name ++ [0]) } rfl
  have hnamed : Pending.name { longName := some (name ++ [0]) } h.block = name := dropZero_snoc name
  rw [hnamed, hfile] at hholds
  exact holds_longName hlong hname hholds

/-! ### Every archive -/

/-- **An archive is refused for its first offence.**  Whatever members are written one behind the
other, each with what describes it, and whatever follows them, a reader comes to exactly these
members, and then to what follows.  The archive is unpacked to the content of a file if it comes to
this file and to nothing else; it is refused for the first arrival with which anything is wrong, or
because there is none.  Here a member that is no file is wrong wherever it stands, a file behind
another one, and a fault. -/
theorem unpack_by_first_offence (container path : String) {written : List (Bytes × Member)}
    (hwritten : ∀ w ∈ written, Holds {} w.1 w.2) (rest : Bytes) :
    let archive := written.flatMap Prod.fst ++ rest
    let unpacked := (unpack archive).mapError (·.toOperationError container path)
    arrivals archive = written.map (fun w => .ok w.2) ++ arrivals rest ∧
    (∀ e, unpacked = .error e ↔ FirstOffence container path (arrivals archive) e ∨
      (arrivals archive = [] ∧ e = .archive ("archive for '" ++ path ++ "' is empty"))) ∧
    ∀ bs, unpacked = .ok bs ↔
      ∃ m : Member, arrivals archive = [.ok m] ∧ m.kind = .file ∧ m.data = bs := by
  intro archive unpacked
  refine ⟨?_, fun e => refused_iff, fun bs => ?_⟩
  · rw [arrivals, members_of_holds hwritten rest, arrive, List.map_append, List.map_map,
      List.append_assoc]
    rfl
  · rw [← unpack_eq_ok_iff_arrivals]
    show (unpack archive).mapError _ = .ok bs ↔ _
    cases unpack archive <;> simp [Except.mapError]

deriving instance DecidableEq for Cursor.Found

/-- The header of a file without content that is one hole. -/
def hollowBlock : Bytes :=
  let h : Header := { name := [0x68], size := 0, modified := 0, kind := 0x53 }
  let back := h.back.take 3 ++ [(218, []), (29, number 12 0)]
  Header.layOut h.front ++
    fit 8 (number 8 (checksum (Header.layOut h.front ++ List.replicate 8 0 ++ Header.layOut back))) ++
      Header.layOut back

theorem holds_hollowBlock : Holds {} (hollowBlock ++ ([] ++ padded []))
    (Pending.headed {} hollowBlock 0 []) := by
  refine @Holds.sparse {} hollowBlock [] [] 0 ⟨?_, ?_, ?_⟩ ?_ ?_ rfl
  all_goals decide +kernel

/-- A file with a long name, a file with holes behind it, and bytes that are no block: neither is the
second member one file too many, nor is the third one looked at. -/
theorem unpack_by_first_offence_of_hollow :
    ∃ archive hollow, arrivals archive =
        [.ok (fileMember (Utf8.encode wideName) [1, 2, 3]), .ok hollow, .error .shortBlock] ∧
      hollow.kind = .sparse ∧
      (unpack archive).mapError (·.toOperationError "c" "/d") = .error (.notAFile "c" "/d") := by
  have hlong : ¬ (Utf8.encode wideName).length ≤ nameLimit := by decide +kernel
  have hname : (Utf8.encode wideName).length < sizeLimit := by decide +kernel
  generalize Utf8.encode wideName = name at hlong hname ⊢
  have hfile := @holds_longNamed name [1, 2, 3] hlong hname { name := [], size := 3, modified := 0 }
    rfl rfl (by decide)
  have hkind : (Pending.headed {} hollowBlock 0 []).kind = .sparse := by decide +kernel
  obtain ⟨harrivals, hrefused, -⟩ := unpack_by_first_offence "c" "/d"
    (List.forall_mem_cons.2 ⟨hfile, List.forall_mem_singleton.2 holds_hollowBlock⟩ :
      ∀ w ∈ [(_, _), (_, _)], Holds {} w.1 w.2) [1]
  have hlast : arrivals [1] = [.error .shortBlock] := by
    have hnext : Cursor.next? (Pending.size? {}) ⟨[1], 0⟩ = .error .shortBlock := by
      simp [Cursor.next?, blockSize]
    rw [arrivals, members, membersFrom_eq, hnext]
    rfl
  rw [hlast] at harrivals
  refine ⟨_, _, harrivals, hkind, (hrefused _).2 (.inl ?_)⟩
  rw [harrivals]
  refine ⟨[.ok _], _, _, rfl, clean_iff.2 (.inr ⟨_, rfl, rfl⟩), .notAFile _ fun hother => ?_⟩
  cases hkind.symm.trans hother

end Testbed.Tar
