/-
**A file is replaced as a whole, or not at all.**

A file transaction makes at most one upload, and makes it only when everything before has gone well:
the path names a file, and where the file is modified, what was fetched is one file, its content is
text, and the text could be changed.  What is uploaded is the whole new text under the name of the
file.

Main definitions:

* `Testbed.segments` — the parts of a path;
* `Testbed.Exchange.IsUpload`, `Testbed.uploads` — the uploads among exchanges;
* `Testbed.HoldsText` — an archive that holds one file, which is text;
* `Testbed.Carries` — **a file and an archive that carry a text to a path**;
* `Testbed.Written`, `Testbed.Modified` — the courses of a transaction;
* `Testbed.AllOrNothing` — a transaction that uploads what is ready, or nothing.

Main results:

* `Testbed.FilePath.parse_cases` — the directory and the name of a file denote its path;
* `Testbed.written_of_does`, `Testbed.modified_of_does` — the course of a transaction;
* `Testbed.fileTransaction_all_or_nothing` — **a file transaction is all or nothing**.
-/

import Testbed.File.Transaction
import Testbed.Proofs.Script.Deeds
import Testbed.Proofs.Tar.SingleFile

set_option relaxedAutoImplicit false
set_option autoImplicit false

namespace Testbed

/-! ### Paths -/

/-- The parts of a path between its slashes, without the empty ones. -/
def segments (path : String) : List String :=
  ((path.toList.splitOn '/').filter (· ≠ [])).map String.ofList

theorem segments_split {path : String} {front back : List Char}
    (h : path.toList = front ++ '/' :: back) :
    segments path = segments (String.ofList front) ++ segments (String.ofList back) := by
  unfold segments List.splitOn
  rw [h, List.splitOnP_append_cons _ _ (by decide), List.filter_append, List.map_append,
    String.toList_ofList, String.toList_ofList]

theorem segments_single {name : List Char} (hne : name ≠ []) (hname : '/' ∉ name) :
    segments (String.ofList name) = [String.ofList name] := by
  unfold segments
  rw [String.toList_ofList, List.splitOn_eq_singleton hname, List.filter_cons_of_pos (by simpa using hne)]
  rfl

namespace FilePath

/-- A directory and a name **denote a path** together if its parts are those of the directory and
the name. -/
def Denotes (target : FilePath) (path : String) : Prop :=
  segments target.directory ++ [target.name] = segments path ∧ '/' ∉ target.name.toList

/-- Does a path name a file?  It is absolute and does not end with a slash. -/
def NamesFile (path : String) : Prop :=
  path.toList.head? = some '/' ∧ path.toList.getLast? ≠ some '/'

/-- What stands before and behind the last slash. -/
theorem exists_split {cs : List Char} (h : '/' ∈ cs) :
    ∃ front back, cs = front ++ '/' :: back ∧ '/' ∉ back := by
  obtain ⟨front, back, hcs, hfront⟩ := List.eq_append_cons_of_mem (List.mem_reverse.2 h)
  refine ⟨back.reverse, front.reverse, ?_, by simpa using hfront⟩
  rw [← List.reverse_reverse cs, hcs]
  simp

/-- The last slash is at the end exactly if nothing stands behind it. -/
theorem getLast?_split {front back : List Char} (hback : '/' ∉ back) :
    (front ++ '/' :: back).getLast? = some '/' ↔ back = [] := by
  constructor
  · intro h
    rcases List.eq_nil_or_concat back with rfl | ⟨init, last, rfl⟩
    · rfl
    · have hlast : last = '/' := by simpa [List.getLast?_append, List.getLast?_cons] using h
      simp [hlast] at hback
  · rintro rfl
    simp

theorem parse_split (container : String) {path : String} {front back : List Char}
    (hpath : path.toList = front ++ '/' :: back) (hback : '/' ∉ back) :
    parse container path =
      if path.toList.head? ≠ some '/' then
        .error (.content ("'" ++ path ++ "' is not an absolute file path"))
      else if back = [] then .error (.notAFile container path)
      else .ok ⟨if front = [] then "/" else String.ofList front, String.ofList back⟩ := by
  have hname : (path.toList.reverse.takeWhile (· ≠ '/')).reverse = back := by
    have hreverse : path.toList.reverse = back.reverse ++ '/' :: front.reverse := by simp [hpath]
    rw [hreverse, List.takeWhile_append_of_pos]
    · simp
    · intro c hc
      simp only [ne_eq, decide_not, Bool.not_eq_true', decide_eq_false_iff_not]
      rintro rfl
      exact hback (List.mem_reverse.1 hc)
  have hdirectory : path.toList.take (path.toList.length - back.length - 1) = front := by
    rw [hpath, List.length_append, List.length_cons]
    exact List.take_left' (by omega)
  unfold parse
  dsimp only
  rw [hname, hdirectory]

/-- The directory and the name of a file denote its path. -/
theorem parse_cases (container path : String) :
    (¬ NamesFile path ∧ ∃ e, parse container path = .error e) ∨
    (NamesFile path ∧ ∃ target, parse container path = .ok target ∧ target.Denotes path ∧
      (Utf8.encode target.name).length < (Utf8.encode path).length) := by
  by_cases habsolute : path.toList.head? = some '/'
  · obtain ⟨front, back, hpath, hback⟩ := exists_split (List.mem_of_head? habsolute)
    have hparse := parse_split container hpath hback
    rw [if_neg (not_not_intro habsolute)] at hparse
    by_cases hne : back = []
    · rw [if_pos hne] at hparse
      refine .inl ⟨fun h => h.2 ?_, _, hparse⟩
      rw [hpath]
      exact (getLast?_split hback).2 hne
    · rw [if_neg hne] at hparse
      refine .inr ⟨⟨habsolute, fun h => hne ?_⟩, _, hparse, ⟨?_, ?_⟩, ?_⟩
      · rw [hpath] at h
        exact (getLast?_split hback).1 h
      · -- the root directory is written as a slash, which has no parts either
        have hroot : segments (if front = [] then "/" else String.ofList front) =
            segments (String.ofList front) := by
          split
          · rename_i hfront
            rw [hfront]
            decide
          · rfl
        rw [hroot, segments_split hpath, segments_single hne hback]
      · rwa [String.toList_ofList]
      · simp only [Utf8.encode, String.toList_ofList, hpath, List.flatMap_append, List.flatMap_cons,
          List.length_append]
        have hslash : (String.utf8EncodeChar '/').length = 1 := by decide
        omega
  · refine .inl ⟨fun h => habsolute h.1, _, if_pos ?_⟩
    exact habsolute

/-- Slashes before the last one stay with the directory. -/
example : parse "c" "/etc//hosts" = .ok ⟨"/etc/", "hosts"⟩ ∧
    segments "/etc/" ++ ["hosts"] = segments "/etc//hosts" := ⟨rfl, by decide⟩

theorem of_parse {container path : String} {target : FilePath}
    (h : parse container path = .ok target) : NamesFile path ∧ target.Denotes path ∧
      (Utf8.encode target.name).length < (Utf8.encode path).length := by
  rcases parse_cases container path with ⟨-, e, he⟩ | ⟨hpath, target', htarget, hdenotes, hlength⟩
  · cases he.symm.trans h
  · cases htarget.symm.trans h
    exact ⟨hpath, hdenotes, hlength⟩

theorem not_namesFile_of_parse {container path : String} {e : OperationError}
    (h : parse container path = .error e) : ¬ NamesFile path := by
  rcases parse_cases container path with ⟨hpath, -⟩ | ⟨-, target, htarget, -⟩
  · exact hpath
  · cases htarget.symm.trans h

/-- A path gives its file one name only. -/
theorem Denotes.name_unique {path : String} {target target' : FilePath} (h : target.Denotes path)
    (h' : target'.Denotes path) : target.name = target'.name := by
  have hnames := (List.append_inj' (h.1.trans h'.1.symm) rfl).2
  exact (List.cons.inj hnames).1

end FilePath

/-! ### Archives of one text -/

/-- **An archive that holds one file, which is text.**  It has one member, which is a file, and its
bytes are those of a text. -/
def HoldsText (archive : Bytes) (s : String) : Prop :=
  ∃ m, Tar.members archive = ([m], none) ∧ m.kind = .file ∧ Utf8.decode? m.data = some s

theorem textOfArchive_eq_ok_iff {container path : String} {archive : Bytes} {s : String} :
    textOfArchive container path archive = .ok s ↔ HoldsText archive s := by
  unfold textOfArchive HoldsText
  cases hunpack : Tar.unpack archive with
  | error f =>
      constructor
      · intro h
        cases h
      · rintro ⟨m, hm, hkind, -⟩
        cases hunpack.symm.trans (Tar.unpack_eq_ok_iff.2 ⟨m, hm, hkind, rfl⟩)
  | ok bs =>
      obtain ⟨m, hm, hkind, rfl⟩ := Tar.unpack_eq_ok_iff.1 hunpack
      simp only [Except.mapError, bind, Except.bind]
      cases hdecode : Utf8.decode? m.data with
      | none =>
          constructor
          · intro h
            cases h
          · rintro ⟨m', hm', -, hdecode'⟩
            obtain rfl : m = m' := by simpa using congrArg Prod.fst (hm.symm.trans hm')
            cases hdecode.symm.trans hdecode'
      | some t =>
          constructor
          · intro h
            cases h
            exact ⟨m, hm, hkind, hdecode⟩
          · rintro ⟨m', hm', -, hdecode'⟩
            obtain rfl : m = m' := by simpa using congrArg Prod.fst (hm.symm.trans hm')
            cases hdecode.symm.trans hdecode'
            rfl

theorem HoldsText.unique {archive : Bytes} {s t : String} (hs : HoldsText archive s)
    (ht : HoldsText archive t) : s = t := by
  have hread : textOfArchive "" "" archive = .ok s := textOfArchive_eq_ok_iff.2 hs
  exact Except.ok.inj (hread.symm.trans (textOfArchive_eq_ok_iff.2 ht))

/-! ### The course of a transaction -/

/-- **A file and an archive that carry a text to a path**: the directory and the name of the file
denote the path together, and the archive has one member, of this name, and is unpacked to the bytes
of the text.  Path and text are taken to be no longer than the limit of a reader, which is more than
a memory holds. -/
structure Carries (path text : String) (target : FilePath) (archive : Bytes) : Prop where
  denotes : target.Denotes path
  holds : (Utf8.encode path).length ≤ Tar.sizeLimit → (Utf8.encode text).length ≤ Tar.sizeLimit →
    Tar.members archive = ([Tar.fileMember (Utf8.encode target.name) (Utf8.encode text)], none) ∧
    Tar.unpack archive = .ok (Utf8.encode text)

/-- **The courses of a replacement of a file by a text**: exchanges with the runtime, and outcome.
A path that names no file is refused, and so is a name that cannot be packed; behind that there is
one upload, and its answer decides. -/
inductive Written (container path text : String) :
    List Exchange → Except OperationError String → Prop
  | refused {e : OperationError} (noFile : ¬ FilePath.NamesFile path)
      (failed : FilePath.parse container path = .error e) :
      Written container path text [] (.error e)
  | unpackable {target : FilePath} {f : Tar.NameFault} (file : FilePath.NamesFile path)
      (denotes : target.Denotes path) (failed : Tar.nameFault? target.name = some f) :
      Written container path text [] (.error (.archive (f.message target.name)))
  | uploaded {target : FilePath} {archive : Bytes} (file : FilePath.NamesFile path)
      (packable : Tar.Packable target.name) (carries : Carries path text target archive)
      (a : Except OperationError Unit) :
      Written container path text [⟨.upload container target.directory archive, a⟩]
        (a.map fun _ => container)

/-- **The courses of a modification of a file.**  A path that names no file is refused.  Any other
is fetched first; what was fetched is written back with its text changed, unless it holds no text or
the change fails. -/
inductive Modified (container path : String) (change : String → Except OperationError String) :
    List Exchange → Except OperationError String → Prop
  | refused {e : OperationError} (noFile : ¬ FilePath.NamesFile path)
      (failed : FilePath.parse container path = .error e) :
      Modified container path change [] (.error e)
  | unread (file : FilePath.NamesFile path) (e : OperationError) :
      Modified container path change [⟨.download container path, .error e⟩] (.error e)
  | unusable {archive : Bytes} {e : OperationError} (file : FilePath.NamesFile path)
      (noText : ∀ old, ¬ HoldsText archive old)
      (failed : textOfArchive container path archive = .error e) :
      Modified container path change [⟨.download container path, .ok archive⟩] (.error e)
  | unchanged {archive : Bytes} {old : String} {e : OperationError}
      (file : FilePath.NamesFile path) (text : HoldsText archive old)
      (failed : change old = .error e) :
      Modified container path change [⟨.download container path, .ok archive⟩] (.error e)
  | written {archive : Bytes} {old new : String} {xs : List Exchange}
      {r : Except OperationError String} (file : FilePath.NamesFile path)
      (text : HoldsText archive old) (changed : change old = .ok new)
      (write : Written container path new xs r) :
      Modified container path change (⟨.download container path, .ok archive⟩ :: xs) r

/-- What is packed for a path carries the text there. -/
theorem carries_of_pack {container path text : String} {target : FilePath} {modified : Nat}
    {archive : Bytes} (hparse : FilePath.parse container path = .ok target)
    (hpack : Tar.pack modified target.name (Utf8.encode text) = .ok archive) :
    Carries path text target archive := by
  obtain ⟨-, hdenotes, hlength⟩ := FilePath.of_parse hparse
  refine ⟨hdenotes, fun hpath htext => ?_⟩
  have hname : (Utf8.encode target.name).length < Tar.sizeLimit := by omega
  exact ⟨Tar.members_pack hpack hname htext, Tar.unpack_pack hpack hname htext⟩

theorem written_of_does {container path text : String} {ds : List Deed}
    {r : Except OperationError String}
    (h : (writeFile container path text).run.Does ds (.done r)) :
    Written container path text (exchanges ds) r := by
  unfold writeFile at h
  rw [Operation.run_ofExcept_bind] at h
  cases hparse : FilePath.parse container path with
  | error e =>
      rw [hparse, Operation.after_error] at h
      obtain ⟨rfl, hr⟩ := Script.does_done.1 h
      cases hr
      exact .refused (FilePath.not_namesFile_of_parse hparse) hparse
  | ok target =>
      obtain ⟨hfile, hdenotes, -⟩ := FilePath.of_parse hparse
      rw [hparse, Operation.after_ok, Operation.run_act_bind] at h
      rcases Script.does_act.1 h with ⟨-, hr⟩ | ⟨modified, ds, rfl, h₁⟩
      · cases hr
      change Written container path text (exchanges ds) r
      rw [Operation.run_ofExcept_bind] at h₁
      cases hpack : Tar.pack modified target.name (Utf8.encode text) with
      | error f =>
          rw [hpack] at h₁
          obtain ⟨rfl, hr⟩ := Script.does_done.1 h₁
          cases hr
          exact .unpackable hfile hdenotes (Tar.nameFault?_eq_some_of_pack hpack)
      | ok archive =>
          have hname : Tar.Packable target.name :=
            Tar.packable_iff.2 (Tar.nameFault?_eq_none_of_pack hpack)
          have hcarries : Carries path text target archive := carries_of_pack hparse hpack
          rw [hpack] at h₁
          change ((Operation.call _ >>= _ : Operation String).run).Does ds _ at h₁
          rw [Operation.run_call_bind] at h₁
          rcases Script.does_act.1 h₁ with ⟨-, hr⟩ | ⟨a, ds, rfl, h₂⟩
          · cases hr
          rw [exchanges_call]
          cases a with
          | error e =>
              obtain ⟨rfl, hr⟩ := Script.does_done.1 h₂
              cases hr
              exact .uploaded hfile hname hcarries (.error e)
          | ok u =>
              rw [Operation.after_ok, Operation.count, Operation.run_act_bind] at h₂
              rcases Script.does_act.1 h₂ with ⟨-, hr⟩ | ⟨counted, ds, rfl, h₃⟩
              · cases hr
              obtain ⟨rfl, hr⟩ := Script.does_done.1 h₃
              cases hr
              exact .uploaded hfile hname hcarries (.ok ())

theorem modified_of_does {container path : String} {change : String → Except OperationError String}
    {ds : List Deed} {r : Except OperationError String}
    (h : (modifyFile container path change).run.Does ds (.done r)) :
    Modified container path change (exchanges ds) r := by
  unfold modifyFile at h
  rw [Operation.run_ofExcept_bind] at h
  cases hparse : FilePath.parse container path with
  | error e =>
      rw [hparse, Operation.after_error] at h
      obtain ⟨rfl, hr⟩ := Script.does_done.1 h
      cases hr
      exact .refused (FilePath.not_namesFile_of_parse hparse) hparse
  | ok target =>
      obtain ⟨hfile, -⟩ := FilePath.of_parse hparse
      rw [hparse, Operation.after_ok, Operation.run_call_bind] at h
      rcases Script.does_act.1 h with ⟨-, hr⟩ | ⟨a, ds, rfl, h₁⟩
      · cases hr
      rw [exchanges_call]
      cases a with
      | error e =>
          obtain ⟨rfl, hr⟩ := Script.does_done.1 h₁
          cases hr
          exact .unread hfile e
      | ok archive =>
          rw [Operation.after_ok, Operation.run_ofExcept_bind] at h₁
          cases htext : textOfArchive container path archive with
          | error e =>
              rw [htext, Operation.after_error] at h₁
              obtain ⟨rfl, hr⟩ := Script.does_done.1 h₁
              cases hr
              refine .unusable hfile (fun old hold => ?_) htext
              cases htext.symm.trans (textOfArchive_eq_ok_iff.2 hold)
          | ok old =>
              have hold := textOfArchive_eq_ok_iff.1 htext
              rw [htext, Operation.after_ok, Operation.run_ofExcept_bind] at h₁
              cases hchange : change old with
              | error e =>
                  rw [hchange, Operation.after_error] at h₁
                  obtain ⟨rfl, hr⟩ := Script.does_done.1 h₁
                  cases hr
                  exact .unchanged hfile hold hchange
              | ok new =>
                  rw [hchange, Operation.after_ok] at h₁
                  exact .written hfile hold hchange (written_of_does h₁)

/-! ### All or nothing -/

/-- Is an exchange an upload? -/
def Exchange.isUpload : Exchange → Bool
  | ⟨.upload .., _⟩ => true
  | _ => false

/-- The uploads among exchanges. -/
def uploads (xs : List Exchange) : List Exchange := xs.filter Exchange.isUpload

/-- **A transaction that uploads what is ready, or nothing.** -/
structure AllOrNothing (container path : String) (ready : String → Prop) (xs : List Exchange)
    (r : Except OperationError String) : Prop where
  /-- There is at most one upload. -/
  once : (uploads xs).length ≤ 1
  /-- A path that names no file is noticed before any call. -/
  silent : ¬ FilePath.NamesFile path → xs = []
  /-- There is an upload exactly if the path names a file, there is something to upload, and the
  name of the file can be packed. -/
  uploads_iff : uploads xs ≠ [] ↔ FilePath.NamesFile path ∧ (∃ text, ready text) ∧
    ∃ target : FilePath, target.Denotes path ∧ Tar.Packable target.name
  /-- What is uploaded is what was ready. -/
  carries : ∀ x ∈ uploads xs, ∃ (text : String) (target : FilePath) (archive : Bytes)
    (a : Except OperationError Unit), ready text ∧
      x = ⟨.upload container target.directory archive, a⟩ ∧ Carries path text target archive
  /-- The transaction is a success exactly if the upload is. -/
  ok_iff : ∀ v, r = .ok v ↔ v = container ∧ ∃ x ∈ uploads xs, ∃ y, x.answer = .ok y

/-- A transaction that fails without an upload. -/
theorem AllOrNothing.of_no_upload {container path : String} {ready : String → Prop}
    {xs : List Exchange} {e : OperationError} (hnone : uploads xs = [])
    (hsilent : ¬ FilePath.NamesFile path → xs = [])
    (hready : FilePath.NamesFile path → ∀ text, ready text → ∀ target : FilePath,
      target.Denotes path → ¬ Tar.Packable target.name) :
    AllOrNothing container path ready xs (.error e) where
  once := by simp [hnone]
  silent := hsilent
  uploads_iff := by
    refine ⟨fun h => absurd hnone h, ?_⟩
    rintro ⟨hpath, ⟨text, htext⟩, target, hdenotes, hname⟩
    exact absurd hname (hready hpath text htext target hdenotes)
  carries := by simp [hnone]
  ok_iff := by simp [hnone]

/-- What is written behind exchanges without an upload is all or nothing. -/
theorem Written.allOrNothing {container path text : String} {ready : String → Prop}
    {xs : List Exchange} {r : Except OperationError String} (before : List Exchange)
    (hready : ready text) (hbefore : uploads before = [])
    (hsilent : ¬ FilePath.NamesFile path → before = [])
    (h : Written container path text xs r) :
    AllOrNothing container path ready (before ++ xs) r := by
  have huploads : ∀ ys, uploads (before ++ ys) = uploads ys := fun ys => by
    rw [uploads, List.filter_append]
    exact congrArg (· ++ uploads ys) hbefore
  cases h with
  | refused noFile failed =>
      refine .of_no_upload (huploads []) (fun hpath => ?_) fun hpath => absurd hpath noFile
      rw [hsilent hpath, List.append_nil]
  | @unpackable target f file denotes failed =>
      refine .of_no_upload (huploads []) (fun hpath => absurd file hpath) ?_
      intro _ _ _ target' hdenotes hname
      rw [hdenotes.name_unique denotes] at hname
      cases (Tar.packable_iff.1 hname).symm.trans failed
  | @uploaded target archive file packable carries a =>
      have hone : uploads (before ++ [⟨.upload container target.directory archive, a⟩]) =
          [⟨.upload container target.directory archive, a⟩] := huploads _
      refine ⟨by simp [hone], fun hpath => absurd file hpath, ?_, ?_, fun v => ?_⟩
      · rw [hone]
        refine ⟨fun _ => ?_, fun _ => List.cons_ne_nil _ _⟩
        exact ⟨file, ⟨text, hready⟩, target, carries.denotes, packable⟩
      · rw [hone]
        intro x hx
        obtain rfl := List.mem_singleton.1 hx
        exact ⟨text, target, archive, a, hready, rfl, carries⟩
      · rw [hone]
        cases a with
        | error e => simp [Except.map]
        | ok u => simp [Except.map, eq_comm]

/-- Is a text what the change makes of the text that was fetched? -/
def Changed (container path : String) (change : String → Except OperationError String)
    (xs : List Exchange) (new : String) : Prop :=
  ∃ archive old, ⟨.download container path, .ok archive⟩ ∈ xs ∧ HoldsText archive old ∧
    change old = .ok new

theorem Modified.allOrNothing {container path : String}
    {change : String → Except OperationError String} {xs : List Exchange}
    {r : Except OperationError String} (h : Modified container path change xs r) :
    AllOrNothing container path (Changed container path change xs) xs r := by
  cases h with
  | refused noFile failed =>
      exact .of_no_upload rfl (fun _ => rfl) fun hpath => absurd hpath noFile
  | unread file e =>
      refine .of_no_upload rfl (fun hpath => absurd file hpath) ?_
      rintro - text ⟨archive, old, hmem, -⟩
      cases List.mem_singleton.1 hmem
  | @unusable archive e file noText failed =>
      refine .of_no_upload rfl (fun hpath => absurd file hpath) ?_
      rintro - text ⟨archive', old, hmem, hold, -⟩
      cases List.mem_singleton.1 hmem
      exact absurd hold (noText old)
  | @unchanged archive old e file text failed =>
      refine .of_no_upload rfl (fun hpath => absurd file hpath) ?_
      rintro - _ ⟨archive', old', hmem, hold, hchange⟩
      cases List.mem_singleton.1 hmem
      obtain rfl := hold.unique text
      cases failed.symm.trans hchange
  | @written archive old new xs r file text changed write =>
      refine Written.allOrNothing [⟨.download container path, .ok archive⟩]
        ⟨archive, old, List.mem_cons_self, text, changed⟩ rfl (fun hpath => ?_) write
      exact absurd file hpath

/-- **A file transaction is all or nothing.**  In every world, and whatever the path is, writing a
file uploads the given text or nothing, and modifying a file uploads what the change makes of the
text that was fetched, or nothing.  A path that is not absolute or ends with a slash causes no call
at all.  Any other path is fetched before it is modified; then there is one upload exactly if the
download has succeeded with an archive that holds one file of text, the change has succeeded and the
name can be packed, and a failure is that of the step that ended the transaction. -/
theorem fileTransaction_all_or_nothing {W : Type} (p : Performer W) (w : W)
    (container path : String) :
    (∀ text,
      Written container path text (exchanges ((writeFile container path text).run.deedsIn p w))
        ((writeFile container path text).run.perform p w).1 ∧
      AllOrNothing container path (· = text)
        (exchanges ((writeFile container path text).run.deedsIn p w))
        ((writeFile container path text).run.perform p w).1) ∧
    ∀ change,
      Modified container path change
        (exchanges ((modifyFile container path change).run.deedsIn p w))
        ((modifyFile container path change).run.perform p w).1 ∧
      AllOrNothing container path
        (Changed container path change
          (exchanges ((modifyFile container path change).run.deedsIn p w)))
        (exchanges ((modifyFile container path change).run.deedsIn p w))
        ((modifyFile container path change).run.perform p w).1 := by
  constructor
  · intro text
    have hwritten := written_of_does (.perform p (writeFile container path text).run w)
    exact ⟨hwritten, hwritten.allOrNothing [] rfl rfl fun _ => rfl⟩
  · intro change
    have hmodified := modified_of_does (.perform p (modifyFile container path change).run w)
    exact ⟨hmodified, hmodified.allOrNothing⟩

end Testbed
