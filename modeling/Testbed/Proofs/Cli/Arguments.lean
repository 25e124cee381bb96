/-
**Arguments for geth from the command line.**

An entry is an argument if it begins with two dashes and does not end there, the space at its ends
aside.  Up to its first equals sign it gives a name, and behind it a value.  A list of arguments
makes an overlay, in which the last entry with a name counts; every other list is refused for the
first entry that is no argument.  What an overlay holds can be written down as entries again, in any
order, and is read back from them.

That something follows the dashes is asked of the whole entry and not of its name.  So an entry that
goes on with an equals sign gives the two dashes alone as a name, and one that goes on with space
gives a name of which the dashes stand alone in the text of the overlay.

Main definitions:

* `Testbed.Overlay.IsArgument`, `Testbed.Overlay.Gives` — **what counts as an argument, and what it
  gives**;
* `Testbed.Overlay.written` — an argument as an entry;
* `Testbed.Overlay.BareDashes` — a name of which the dashes stand alone.

Main results:

* `Testbed.Overlay.gives_iff` — splitting an entry at its first equals sign;
* `Testbed.Overlay.parse_of_arguments`, `Testbed.Overlay.parse_of_first_fault` — the two ends of
  reading;
* `Testbed.Overlay.get?_of_parse` — **the last entry with a name counts**;
* `Testbed.Overlay.parse_written` — **an overlay is read back from its entries**;
* `Testbed.Overlay.held_iff_given`, `Testbed.Overlay.gives_bareDashes_iff` — which names there are.
-/

import Mathlib.Data.List.TakeWhile
import Testbed.Cli.NetworkCommands
import Testbed.Proofs.Network.Overlay
import Testbed.Proofs.Text.Blank

set_option relaxedAutoImplicit false
set_option autoImplicit false

namespace Testbed

/-! ### Rows that tell what other rows tell -/

/-- A row whose members tell values, and the same row of members that tell these as settings. -/
theorem lastTold_map_some {α γ β : Type} {tells : α → β → Prop} {settings : γ → Option β → Prop}
    {f : α → γ} (h : ∀ a said, settings (f a) said ↔ ∃ b, said = some b ∧ tells a b) {as : List α}
    {b : β} : LastTold settings (as.map f) (some b) ↔ LastTold tells as b := by
  have hsome : ∀ a b, settings (f a) (some b) ↔ tells a b := fun a b => by simp [h]
  constructor
  · intro hlast
    generalize hrow : as.map f = row at hlast
    generalize hsaid : some b = said at hlast
    cases hlast with
    | told before after last silent =>
        obtain ⟨front, rest, rfl, rfl, hrest⟩ := List.map_eq_append_iff.1 hrow
        obtain ⟨a, behind, rfl, rfl, rfl⟩ := List.map_eq_cons_iff.1 hrest
        subst hsaid
        refine .told front behind ((hsome a b).1 last) fun x hx c hc => ?_
        exact silent (f x) (List.mem_map_of_mem hx) (some c) ((hsome x c).2 hc)
  · rintro ⟨before, after, last, silent⟩
    rw [List.map_append, List.map_cons]
    refine .told _ _ ((hsome _ _).2 last) fun x hx said hsaid => ?_
    obtain ⟨a, ha, rfl⟩ := List.mem_map.1 hx
    obtain ⟨c, -, hc⟩ := (h a said).1 hsaid
    exact silent a ha c hc

namespace Overlay

/-! ### One entry -/

/-- **Is an entry an argument?**  The space at its ends aside, it is two dashes and more. -/
def IsArgument (entry : String) : Prop := ∃ rest, rest ≠ "" ∧ Text.trim entry = "--" ++ rest

/-- **What an entry gives to a name**: the value behind the first equals sign, and the empty value
if there is none. -/
inductive Gives (name entry : String) : String → Prop
  | bare (whole : Text.trim entry = name) (unsplit : '=' ∉ name.toList) : Gives name entry ""
  | valued {value : String} (whole : Text.trim entry = name ++ "=" ++ value)
      (first : '=' ∉ name.toList) : Gives name entry value

/-- An argument as an entry. -/
def written (e : String × String) : String := e.1 ++ "=" ++ e.2

variable {entry name value : String}

theorem isEntry_iff : isEntry entry = true ↔ IsArgument entry := by
  have hdashes : "--".toList = ['-', '-'] := rfl
  simp only [isEntry, Bool.and_eq_true, List.isPrefixOf_iff_prefix, decide_eq_true_eq]
  constructor
  · rintro ⟨⟨rest, hrest⟩, hlength⟩
    refine ⟨String.ofList rest, ?_, String.toList_inj.1 (by simp [← hrest])⟩
    rintro hempty
    have hnil : rest = [] := by simpa using congrArg String.toList hempty
    rw [← hrest, hnil, hdashes] at hlength
    exact absurd hlength (by decide)
  · rintro ⟨rest, hne, hwhole⟩
    rw [hwhole, String.toList_append]
    refine ⟨List.prefix_append _ _, ?_⟩
    have hpos : 0 < rest.toList.length := by
      refine List.length_pos_iff.2 fun hnil => hne (String.toList_inj.1 (by simp [hnil]))
    rw [hdashes, List.length_append]
    simp only [List.length_cons, List.length_nil]
    omega

instance (entry : String) : Decidable (IsArgument entry) := decidable_of_iff _ isEntry_iff

/-- Every entry gives something to some name. -/
theorem exists_gives (entry : String) : ∃ name value, Gives name entry value := by
  by_cases hmem : '=' ∈ (Text.trim entry).toList
  · obtain ⟨name, value, hchars, hfirst⟩ := List.eq_append_cons_of_mem hmem
    refine ⟨String.ofList name, String.ofList value, .valued (String.toList_inj.1 ?_) ?_⟩
    · simpa using hchars
    · simpa using hfirst
  · exact ⟨Text.trim entry, "", .bare rfl hmem⟩

theorem splitEntry_of_gives (h : Gives name entry value) : splitEntry entry = (name, value) := by
  have hpass : '=' ∉ name.toList → ∀ c ∈ name.toList, decide (c ≠ '=') = true :=
    fun hname c hc => decide_eq_true fun he => hname (he ▸ hc)
  cases h with
  | bare whole unsplit =>
      simp only [splitEntry, whole]
      rw [List.takeWhile_eq_self_iff.2 (hpass unsplit), List.dropWhile_eq_nil_iff.2 (hpass unsplit)]
      simp
  | valued whole first =>
      have hchars : (name ++ "=" ++ value).toList = name.toList ++ '=' :: value.toList := by simp
      simp only [splitEntry, whole, hchars]
      rw [List.takeWhile_append_of_pos (hpass first), List.dropWhile_append_of_pos (hpass first)]
      simp

/-- **An entry is split at its first equals sign.** -/
theorem gives_iff : Gives name entry value ↔ splitEntry entry = (name, value) := by
  refine ⟨splitEntry_of_gives, fun h => ?_⟩
  obtain ⟨n, v, hgives⟩ := exists_gives entry
  obtain ⟨rfl, rfl⟩ := Prod.mk.inj ((splitEntry_of_gives hgives).symm.trans h)
  exact hgives

/-- An entry gives one value to one name. -/
theorem Gives.unique {n v : String} (h : Gives name entry value) (h' : Gives n entry v) :
    name = n ∧ value = v := Prod.mk.inj ((gives_iff.1 h).symm.trans (gives_iff.1 h'))

theorem Gives.no_equals (h : Gives name entry value) : '=' ∉ name.toList := by
  cases h with
  | bare _ unsplit => exact unsplit
  | valued _ first => exact first

/-- Two dashes in front of an equals sign are those of the name. -/
theorem dashes_of_append {tail : String} (h : name ++ "=" ++ value = "--" ++ tail) :
    ∃ rest, name = "--" ++ rest := by
  have hchars : name.toList ++ '=' :: value.toList = '-' :: '-' :: tail.toList := by
    simpa using congrArg String.toList h
  match hname : name.toList with
  | [] => simp [hname] at hchars
  | [c] => simp [hname] at hchars
  | c :: d :: rest =>
      rw [hname] at hchars
      simp only [List.cons_append, List.cons.injEq] at hchars
      obtain ⟨rfl, rfl, -⟩ := hchars
      exact ⟨String.ofList rest, String.toList_inj.1 (by simpa using hname)⟩

/-- The name that an argument gives begins with two dashes. -/
theorem Gives.dashes (h : Gives name entry value) (ha : IsArgument entry) :
    ∃ rest, name = "--" ++ rest := by
  obtain ⟨tail, -, hwhole⟩ := ha
  cases h with
  | bare whole _ => exact ⟨tail, whole.symm.trans hwhole⟩
  | valued whole _ => exact dashes_of_append (whole.symm.trans hwhole)

/-! ### Arguments written down -/

/-- What is written down has no space at its ends. -/
theorem Gives.trimmed_written (h : Gives name entry value) (ha : IsArgument entry) :
    Text.Trimmed (written (name, value)) := by
  obtain ⟨rest, rfl⟩ := h.dashes ha
  cases h with
  | bare whole _ =>
      have hchars : (written ("--" ++ rest, "")).toList = '-' :: '-' :: rest.toList ++ ['='] := by
        simp [written]
      refine ⟨?_, ?_⟩
      · rw [hchars]
        rintro _ ⟨⟩
        decide
      · rw [hchars, List.getLast?_concat]
        rintro _ ⟨⟩
        decide
  | valued whole _ =>
      rw [written, ← whole]
      exact Text.trimmed_trim entry

/-- **What an argument gives is given by what is written down.** -/
theorem Gives.written (h : Gives name entry value) (ha : IsArgument entry) :
    IsArgument (written (name, value)) ∧ Gives name (Overlay.written (name, value)) value := by
  have htrim : Text.trim (Overlay.written (name, value)) = name ++ "=" ++ value :=
    (h.trimmed_written ha).trim_eq
  refine ⟨?_, .valued htrim h.no_equals⟩
  obtain ⟨rest, rfl⟩ := h.dashes ha
  refine ⟨rest ++ "=" ++ value, fun hempty => ?_, by rw [htrim]; simp [String.append_assoc]⟩
  simpa using congrArg String.toList hempty

/-! ### Rows of entries -/

/-- The step that an entry stands for. -/
def entryStep (entry : String) : Step := .arg (splitEntry entry).1 (splitEntry entry).2

/-- An overlay with one more entry. -/
def read (o : Overlay) (entry : String) : Except String Overlay :=
  if isEntry entry then .ok (o.apply (entryStep entry)) else .error (Text.trim entry)

theorem parse_eq (entries : List String) : parse entries = entries.foldlM read empty := rfl

variable {entries : List String} {o : Overlay}

/-- Arguments in front are read one after the other. -/
theorem foldlM_read {before : List String} (h : ∀ e ∈ before, IsArgument e) (after : List String)
    (o : Overlay) : (before ++ after).foldlM read o =
      after.foldlM read ((before.map entryStep).foldl apply o) := by
  induction before generalizing o with
  | nil => rfl
  | cons e before ih =>
      obtain ⟨he, hrest⟩ := List.forall_mem_cons.1 h
      rw [List.cons_append, List.foldlM_cons, read, if_pos (isEntry_iff.2 he)]
      exact ih hrest _

theorem parse_of_arguments (h : ∀ e ∈ entries, IsArgument e) :
    parse entries = .ok (ofSteps (entries.map entryStep)) := by
  have hread := foldlM_read h [] empty
  rw [List.append_nil] at hread
  exact hread

theorem parse_of_first_fault {before : List String} (h : ∀ e ∈ before, IsArgument e) {bad : String}
    (hbad : ¬ IsArgument bad) (after : List String) :
    parse (before ++ bad :: after) = .error (Text.trim bad) := by
  have hentry : ¬ isEntry bad = true := fun he => hbad (isEntry_iff.1 he)
  rw [parse_eq, foldlM_read h, List.foldlM_cons, read, if_neg hentry]
  rfl

/-- In every list all entries are arguments, or one is the first that is none. -/
theorem arguments_or_first_fault (entries : List String) :
    (∀ e ∈ entries, IsArgument e) ∨ ∃ before bad after, entries = before ++ bad :: after ∧
      (∀ e ∈ before, IsArgument e) ∧ ¬ IsArgument bad := by
  cases hfind : entries.find? fun e => !decide (IsArgument e) with
  | none => exact .inl (by simpa using List.find?_eq_none.1 hfind)
  | some bad =>
      obtain ⟨hbad, before, after, hentries, hbefore⟩ := List.find?_eq_some_iff_append.1 hfind
      exact .inr ⟨before, bad, after, hentries, by simpa using hbefore, by simpa using hbad⟩

theorem arguments_of_parse (h : parse entries = .ok o) : ∀ e ∈ entries, IsArgument e := by
  rcases arguments_or_first_fault entries with hall | ⟨before, bad, after, rfl, hbefore, hbad⟩
  · exact hall
  · rw [parse_of_first_fault hbefore hbad] at h
    cases h

theorem tells_entryStep {said : Option String} :
    Step.Tells name (entryStep entry) said ↔
      ∃ value, said = some value ∧ Gives name entry value := by
  obtain ⟨n, v, hgives⟩ := exists_gives entry
  rw [entryStep, gives_iff.1 hgives]
  constructor
  · intro h
    cases h
    exact ⟨_, rfl, hgives⟩
  · rintro ⟨value, rfl, hvalue⟩
    obtain ⟨rfl, rfl⟩ := hgives.unique hvalue
    exact .arg _ _

/-- **The last entry with a name counts.** -/
theorem get?_of_parse (h : parse entries = .ok o) :
    o.get? name = some value ↔ LastTold (Gives name) entries value := by
  rw [parse_of_arguments (arguments_of_parse h)] at h
  cases h
  rw [get?_ofSteps_eq_some_iff]
  exact lastTold_map_some fun _ _ => tells_entryStep

/-- **The names of an overlay are those that its entries give.** -/
theorem held_iff_given (h : parse entries = .ok o) :
    (∃ value, o.get? name = some value) ↔ ∃ entry ∈ entries, ∃ value, Gives name entry value := by
  simp only [get?_of_parse h]
  constructor
  · rintro ⟨value, hlast⟩
    obtain ⟨entry, hmem, hgives⟩ := hlast.exists_tells
    exact ⟨entry, hmem, value, hgives⟩
  · rintro ⟨entry, hmem, value, hgives⟩
    rcases exists_lastTold_or_silent (Gives name) entries with hlast | hsilent
    · exact hlast
    · exact absurd hgives (hsilent entry hmem value)

/-- **An overlay is read back from its entries**, in whatever order and however often they come. -/
theorem parse_written (h : parse entries = .ok o) {es : List (String × String)}
    (hes : ∀ name value, (name, value) ∈ es ↔ o.get? name = some value) :
    parse (es.map written) = .ok o := by
  have hgiven : ∀ e ∈ es, IsArgument (written e) ∧ Gives e.1 (written e) e.2 := by
    rintro ⟨name, value⟩ he
    obtain ⟨entry, hentry, hgives⟩ := ((get?_of_parse h).1 ((hes name value).1 he)).exists_tells
    exact hgives.written (arguments_of_parse h entry hentry)
  have hall : ∀ entry ∈ es.map written, IsArgument entry := by
    intro entry hentry
    obtain ⟨e, he, rfl⟩ := List.mem_map.1 hentry
    exact (hgiven e he).1
  obtain ⟨p, hp⟩ : ∃ p, parse (es.map written) = .ok p := ⟨_, parse_of_arguments hall⟩
  -- what is held is what was written down, so it does not matter which entry comes last
  have hheld : ∀ name value, p.get? name = some value → o.get? name = some value := by
    intro name value hget
    obtain ⟨_, hmem, hgives⟩ := ((get?_of_parse hp).1 hget).exists_tells
    obtain ⟨e, he, rfl⟩ := List.mem_map.1 hmem
    obtain ⟨rfl, rfl⟩ := (hgiven e he).2.unique hgives
    exact (hes e.1 e.2).1 he
  have hsame : p = o := by
    refine ext_get? fun name => Option.ext fun value => ⟨hheld name value, fun hget => ?_⟩
    have hmem := (hes name value).2 hget
    obtain ⟨u, hu⟩ := (held_iff_given hp).2
      ⟨_, List.mem_map_of_mem hmem, value, (hgiven _ hmem).2⟩
    rwa [Option.some.inj ((hheld name u hu).symm.trans hget)] at hu
  rw [hp, hsame]

/-! ### Dashes that stand alone -/

/-- **Do the dashes of a name stand alone?**  Nothing follows them, or space does. -/
def BareDashes (name : String) : Prop :=
  ∃ rest, name = "--" ++ rest ∧ ∀ c ∈ rest.toList.head?, Text.isBlank c = true

/-- Does an entry go on behind its dashes with an equals sign, or with space? -/
def OpenDashes (entry : String) : Prop :=
  ∃ c rest, Text.trim entry = "--" ++ String.ofList (c :: rest) ∧ (c = '=' ∨ Text.isBlank c = true)

/-- Behind the dashes of an entry stands what stands behind those of its name, and then, if there is
an equals sign, the value. -/
theorem Gives.behind_dashes {rest tail : String} (h : Gives ("--" ++ rest) entry value)
    (hwhole : Text.trim entry = "--" ++ tail) : tail = rest ∨ tail = rest ++ "=" ++ value := by
  cases h with
  | bare whole _ => exact .inl (by simpa using hwhole.symm.trans whole)
  | valued whole _ =>
      exact .inr (by simpa [String.append_assoc] using hwhole.symm.trans whole)

/-- An argument goes on behind its dashes as its name does, or with the equals sign that ends it. -/
theorem Gives.head?_behind_dashes {rest tail : String} (h : Gives ("--" ++ rest) entry value)
    (hwhole : Text.trim entry = "--" ++ tail) (hne : tail ≠ "") :
    tail.toList.head? = some (rest.toList.head?.getD '=') := by
  rcases h.behind_dashes hwhole with rfl | rfl
  · cases hrest : tail.toList with
    | nil => exact absurd (String.toList_inj.1 hrest) hne
    | cons c cs => rfl
  · cases hrest : rest.toList <;> simp [hrest]

theorem gives_dashes_iff (ha : IsArgument entry) :
    (∃ value, Gives "--" entry value) ↔ ∃ value, Text.trim entry = "--=" ++ value := by
  obtain ⟨tail, hne, hwhole⟩ := ha
  constructor
  · rintro ⟨value, hgives⟩
    have hempty : "--" = "--" ++ "" := by simp
    rw [hempty] at hgives
    rcases hgives.behind_dashes hwhole with rfl | rfl
    · exact absurd rfl hne
    · exact ⟨value, hwhole.trans (String.toList_inj.1 (by simp))⟩
  · rintro ⟨value, hvalue⟩
    exact ⟨value, .valued hvalue (by decide)⟩

/-- **Which arguments give a name of which the dashes stand alone.** -/
theorem gives_bareDashes_iff (ha : IsArgument entry) :
    (∃ name value, Gives name entry value ∧ BareDashes name) ↔ OpenDashes entry := by
  constructor
  · rintro ⟨_, value, hgives, rest, rfl, hblank⟩
    obtain ⟨tail, hne, hwhole⟩ := ha
    obtain ⟨cs, htail⟩ := List.head?_eq_some_iff.1 (hgives.head?_behind_dashes hwhole hne)
    refine ⟨rest.toList.head?.getD '=', cs, ?_, ?_⟩
    · rw [← htail, String.ofList_toList, hwhole]
    · cases hrest : rest.toList.head? with
      | none => exact .inl rfl
      | some c => exact .inr (hblank c hrest)
  · rintro ⟨c, cs, hwhole, hc⟩
    obtain ⟨name, value, hgives⟩ := exists_gives entry
    obtain ⟨rest, rfl⟩ := hgives.dashes ha
    refine ⟨_, value, hgives, rest, rfl, fun d hd => ?_⟩
    have hhead := hgives.head?_behind_dashes hwhole (by simp)
    have hcd : c = d := by simpa [Option.mem_def.1 hd] using hhead
    -- an equals sign would have ended the name
    rcases hc with rfl | hc
    · subst hcd
      exact absurd (by simp [List.mem_of_mem_head? hd]) hgives.no_equals
    · rwa [← hcd]

end Overlay

namespace Cli

open Overlay (IsArgument Gives OpenDashes BareDashes written)

/-! ### The arguments of a start -/

variable {a : StartOptions} {o : Overlay}

theorem StartOptions.overlay_eq_ok_iff :
    a.overlay = .ok o ↔ Overlay.parse a.gethArgs = .ok o := by
  unfold StartOptions.overlay
  cases Overlay.parse a.gethArgs <;> simp [Except.mapError]

theorem StartOptions.overlay_of_first_fault {before after : List String} {bad : String}
    (hargs : a.gethArgs = before ++ bad :: after) (h : ∀ e ∈ before, IsArgument e)
    (hbad : ¬ IsArgument bad) :
    a.overlay = .error (.command ("invalid geth argument '" ++ Text.trim bad ++
      "': expected --name or --name=value")) := by
  rw [StartOptions.overlay, hargs, Overlay.parse_of_first_fault h hbad]
  rfl

theorem StartOptions.exists_overlay (h : ∀ e ∈ a.gethArgs, IsArgument e) :
    ∃ o, a.overlay = .ok o :=
  ⟨_, StartOptions.overlay_eq_ok_iff.2 (Overlay.parse_of_arguments h)⟩

/-- **What is read from arguments can be written down and read again.**  A list of entries that are
all accepted makes an overlay; it holds under each name the value of the last entry that gives one
to the name, and entries that are written from it make the same overlay, in whatever order they
come.  A list of which some entry is not accepted is refused for the first such entry.  An entry is
accepted if it is two dashes and more, the space at its ends aside. -/
theorem StartOptions.overlay_reads_back (a : StartOptions) :
    (∀ entry, (∃ o, { a with gethArgs := [entry] }.overlay = .ok o) ↔ IsArgument entry) ∧
    ((∀ entry ∈ a.gethArgs, IsArgument entry) → ∃ o, a.overlay = .ok o ∧
      (∀ name value, o.get? name = some value ↔ LastTold (Gives name) a.gethArgs value) ∧
      ∀ es : List (String × String), (∀ name value, (name, value) ∈ es ↔ o.get? name = some value) →
        { a with gethArgs := es.map written }.overlay = .ok o) ∧
    ((∃ entry ∈ a.gethArgs, ¬ IsArgument entry) → ∃ before bad after,
      a.gethArgs = before ++ bad :: after ∧ (∀ entry ∈ before, IsArgument entry) ∧
      ¬ IsArgument bad ∧ a.overlay = .error (.command ("invalid geth argument '" ++
        Text.trim bad ++ "': expected --name or --name=value"))) := by
  refine ⟨fun entry => ⟨?_, fun h => ?_⟩, fun h => ?_, ?_⟩
  · rintro ⟨o, ho⟩
    exact Overlay.arguments_of_parse (StartOptions.overlay_eq_ok_iff.1 ho) entry
      (List.mem_singleton_self entry)
  · exact StartOptions.exists_overlay (by simpa using h)
  · obtain ⟨o, ho⟩ := StartOptions.exists_overlay h
    have hparse := StartOptions.overlay_eq_ok_iff.1 ho
    refine ⟨o, ho, fun name value => Overlay.get?_of_parse hparse, fun es hes => ?_⟩
    exact StartOptions.overlay_eq_ok_iff.2 (Overlay.parse_written hparse hes)
  · rintro ⟨entry, hmem, hnot⟩
    rcases Overlay.arguments_or_first_fault a.gethArgs with
      hall | ⟨before, bad, after, hargs, hbefore, hbad⟩
    · exact absurd (hall entry hmem) hnot
    · exact ⟨before, bad, after, hargs, hbefore, hbad,
        StartOptions.overlay_of_first_fault hargs hbefore hbad⟩

/-- A start with arguments. -/
def startWith (entries : List String) : StartOptions :=
  ⟨[], false, none, none, entries, "ledger"⟩

/-- A name with space in front of its equals sign, and a flag that gets a value later. -/
theorem StartOptions.overlay_reads_back_of_three :
    ∃ o, (startWith [" --a b = c=d ", "--flag", "--flag=x"]).overlay = .ok o ∧
      o.get? "--a b " = some " c=d" ∧
      (startWith ["--flag=x", "--a b = c=d"]).overlay = .ok o ∧
      (startWith ["--a", " bad ", "worse"]).overlay =
        .error (.command "invalid geth argument 'bad': expected --name or --name=value") := by
  have hall : ∀ entry ∈ (startWith [" --a b = c=d ", "--flag", "--flag=x"]).gethArgs,
      IsArgument entry := by decide +kernel
  obtain ⟨-, hread, -⟩ :=
    StartOptions.overlay_reads_back (startWith [" --a b = c=d ", "--flag", "--flag=x"])
  obtain ⟨o, ho, -, hback⟩ := hread hall
  have hentries : o.args.entries = [("--a b ", " c=d"), ("--flag", "x")] := by
    have hparse := StartOptions.overlay_eq_ok_iff.1 ho
    rw [Overlay.parse_of_arguments hall] at hparse
    cases hparse
    decide +kernel
  have hheld : ∀ name value, (name, value) ∈ [("--flag", "x"), ("--a b ", " c=d")] ↔
      o.get? name = some value := by
    intro name value
    rw [Overlay.get?, Dict.get?_eq_some_iff, hentries]
    simp [or_comm]
  refine ⟨o, ho, (hheld _ _).1 (by simp), hback _ hheld, ?_⟩
  obtain ⟨-, -, hrefused⟩ := StartOptions.overlay_reads_back (startWith ["--a", " bad ", "worse"])
  have hbad : ¬ IsArgument " bad " := by decide +kernel
  obtain ⟨before, bad, after, hargs, hbefore, hnot, herror⟩ :=
    hrefused ⟨" bad ", by simp [startWith], hbad⟩
  rcases before with _ | ⟨first, _ | ⟨second, before⟩⟩
  · obtain ⟨rfl, -⟩ := List.cons.inj hargs
    exact absurd (by decide +kernel) hnot
  · obtain ⟨rfl, -⟩ := List.cons.inj (List.cons.inj hargs).2
    exact herror.trans (by decide +kernel)
  · obtain ⟨rfl, -⟩ := List.cons.inj (List.cons.inj hargs).2
    exact absurd (hbefore " bad " (by simp)) hbad

/-! ### Names of arguments -/

/-- **Every name begins with two dashes, and these stand alone only where an entry left them open.**
The overlay that a list of entries makes has names that begin with two dashes.  The name that is
nothing but these is there exactly if some entry goes on behind its dashes with an equals sign.  In
the text of the overlay the dashes of some name stand alone exactly if some entry goes on behind its
dashes with an equals sign or with space. -/
theorem StartOptions.overlay_flags {a : StartOptions} {o : Overlay} (h : a.overlay = .ok o) :
    (∀ name value, o.get? name = some value → ∃ rest, name = "--" ++ rest) ∧
    ((∃ value, o.get? "--" = some value) ↔
      ∃ entry ∈ a.gethArgs, ∃ value, Text.trim entry = "--=" ++ value) ∧
    ∃ es, o.Lists es ∧ Overlay.Line es o.render ∧
      ((∃ e ∈ es, BareDashes e.1) ↔ ∃ entry ∈ a.gethArgs, OpenDashes entry) := by
  have hparse := StartOptions.overlay_eq_ok_iff.1 h
  have hall := Overlay.arguments_of_parse hparse
  refine ⟨fun name value hget => ?_, ?_, ?_⟩
  · obtain ⟨entry, hmem, u, hgives⟩ := (Overlay.held_iff_given hparse).1 ⟨value, hget⟩
    exact hgives.dashes (hall entry hmem)
  · rw [Overlay.held_iff_given hparse]
    exact exists_congr fun entry => and_congr_right fun hmem =>
      Overlay.gives_dashes_iff (hall entry hmem)
  · obtain ⟨es, hes, hline⟩ := Overlay.render_eq_iff.1 rfl
    refine ⟨es, hes, hline, ?_⟩
    constructor
    · rintro ⟨⟨name, value⟩, he, hbare⟩
      obtain ⟨entry, hmem, u, hgives⟩ :=
        (Overlay.held_iff_given hparse).1 ⟨value, (hes.held name value).1 he⟩
      have hopen := (Overlay.gives_bareDashes_iff (hall entry hmem)).1 ⟨name, u, hgives, hbare⟩
      exact ⟨entry, hmem, hopen⟩
    · rintro ⟨entry, hmem, hopen⟩
      obtain ⟨name, u, hgives, hbare⟩ := (Overlay.gives_bareDashes_iff (hall entry hmem)).2 hopen
      obtain ⟨value, hget⟩ := (Overlay.held_iff_given hparse).2 ⟨entry, hmem, u, hgives⟩
      exact ⟨(name, value), (hes.held name value).2 hget, hbare⟩

/-- One entry that leaves its dashes to an equals sign, one to space, and one that goes on. -/
theorem StartOptions.overlay_flags_of_three :
    ∃ o, (startWith ["--a=1", "--=v", "-- x"]).overlay = .ok o ∧
      o.render = "-- v -- x --a 1" ∧ (∃ value, o.get? "--" = some value) ∧
      ∃ es, o.Lists es ∧ Overlay.Line es o.render ∧ ∃ e ∈ es, BareDashes e.1 := by
  have hread : (startWith ["--a=1", "--=v", "-- x"]).overlay =
      .ok (Overlay.ofSteps [.arg "--a" "1", .arg "--" "v", .arg "-- x" ""]) := by decide +kernel
  obtain ⟨-, hdashes, es, hes, hline, hbare⟩ := StartOptions.overlay_flags hread
  refine ⟨_, hread, by decide +kernel, hdashes.2 ⟨"--=v", by simp [startWith], "v", ?_⟩, es, hes,
    hline, hbare.2 ⟨"-- x", by simp [startWith], ' ', ['x'], ?_, .inr (by decide)⟩⟩
  · decide +kernel
  · decide +kernel

/-- **Two dashes alone are accepted as a name** in front of an equals sign. -/
theorem dashes_alone_accepted :
    ∃ o, (startWith ["--=v"]).overlay = .ok o ∧ o.get? "--" = some "v" ∧ o.render = "-- v" ∧
      ¬ ∀ name value, o.get? name = some value → ∃ rest, rest ≠ "" ∧ name = "--" ++ rest := by
  have hread : (startWith ["--=v"]).overlay = .ok (Overlay.ofSteps [.arg "--" "v"]) := by
    decide +kernel
  have hheld : (Overlay.ofSteps [.arg "--" "v"]).get? "--" = some "v" := by decide +kernel
  refine ⟨_, hread, hheld, by decide +kernel, fun hall => ?_⟩
  obtain ⟨rest, hne, hname⟩ := hall "--" "v" hheld
  refine hne (String.toList_inj.1 ?_)
  simpa using congrArg String.toList hname

end Cli

end Testbed
