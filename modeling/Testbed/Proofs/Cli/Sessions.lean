/-
**Sessions on one ledger file.**

Commands that start and tear down nodes share a ledger file, one command after the other.  Between
two of them the file is all that is kept of the containers.  So long as it can be read and written
at all, it lists every container that was created and not yet removed, however the commands end.

Main definitions:

* `Testbed.Cli.Session` — commands on one ledger file, with what they did;
* `Testbed.Cli.Connects` — a command that gets a connection;
* `Testbed.Cli.LaunchedFor` — the node that a thread launches a clone for;
* `Testbed.Cli.Outstanding` — **a container that was created and not removed since**;
* `Testbed.Cli.Accounted` — every such container is listed in the file.

Main results:

* `Testbed.Cli.start_accounts`, `Testbed.Cli.teardown_accounts` — what one command does to the file;
* `Testbed.Cli.Accounted.startNode`, `Testbed.Cli.Accounted.teardown` — **no command loses a
  container**.
-/

import Testbed.Proofs.Cli.NetworkCommands

set_option relaxedAutoImplicit false
set_option autoImplicit false

namespace Testbed.Cli

open Rehearsal Threads

/-! ### What a command does to containers -/

/-- Is a container removed in a history? -/
def Removes (ms : History (Except OperationError Bool)) (id : String) : Prop :=
  ∃ who, (who, .deed ⟨.call (.remove id), .ok ()⟩) ∈ ms

/-- Is a container created in a history, and by which thread? -/
def Creates (ms : History (Except OperationError Bool)) (who : Thread) (id : String) : Prop :=
  ∃ spec, (who, .deed ⟨.call (.create spec), .ok id⟩) ∈ ms

/-- **The node that a thread launches a clone for.** -/
def LaunchedFor (ms : History (Except OperationError Bool)) (who : Thread) (node : String) : Prop :=
  ∃ i c policy, who = .script i ∧ ms.started[i]? = some (CloneTask.operation policy c).run ∧
    c.node = node

section Commands

variable {ms ns : History (Except OperationError Bool)} {id node : String} {who : Thread}

theorem Removes.of_sameCalls (h : ms.SameCalls ns) : Removes ms id ↔ Removes ns id :=
  exists_congr fun _ => h.mem_call

theorem Creates.of_sameCalls (h : ms.SameCalls ns) : Creates ms who id ↔ Creates ns who id :=
  exists_congr fun _ => h.mem_call

theorem LaunchedFor.of_sameCalls (h : ms.SameCalls ns) :
    LaunchedFor ms who node ↔ LaunchedFor ns who node := by
  unfold LaunchedFor
  rw [h.1]

theorem not_creates_of_quiet (h : ms.SameCalls []) : ¬ Creates ms who id := by
  rw [Creates.of_sameCalls h]
  rintro ⟨spec, hmem⟩
  cases hmem

end Commands

/-! ### One command -/

variable {R : Type} {h : Host R} {w v : World R} {l : Ledger}
  {ms : History (Except OperationError Bool)} {r : Except Failure Unit}

/-- What a command does to get a connection. -/
def connection (e : Environment) (config : String) : Step Orchestrator := do
  connect (← ExceptT.lift (Config.load e config).run)

/-- **Does a command get a connection?**  Its configuration can be loaded and used, and the runtime
can be reached. -/
def Connects (h : Host R) (w : World R) (e : Environment) (config : String) : Prop :=
  ((connection e config).run.perform (perform h) w).1.isOk = true

theorem connection_run (e : Environment) (config : String) :
    (connection e config).run =
      (Config.load e config).run.bind fun loaded => (connect loaded).run := by
  show Script.bind (Script.bind _ _) _ = _
  rw [Script.bind_assoc]
  rfl

/-- A command that needs a connection goes on with it, or ends with the files as they are. -/
theorem connected_finishes {f : Orchestrator → Job (Except OperationError Bool) Unit}
    {e : Environment} {config : String}
    (fin : Finishes (perform h) (.ofEnsemble (do
      let loaded ← ExceptT.lift (Ensemble.ofScript (Config.load e config).run)
      let o ← connect loaded
      f o : Job (Except OperationError Bool) Unit).run) w ms r v) :
    (¬ Connects h w e config ∧ v.disk = w.disk ∧ ms.SameCalls []) ∨
      ∃ o ms' x, ms.SameCalls ms' ∧ x.disk = w.disk ∧
        Finishes (perform h) (.ofEnsemble (f o).run) x ms' r v := by
  have hnil : Idle ([] : List (Script (Except OperationError Bool))) := nofun
  have hlocal : (Config.load e config).run.Within Action.IsLocal :=
    (Config.load_quiet e config).mono fun _ hx => hx.isLocal
  have hdisk := (perform_quiet h (Config.load_quiet e config) w).2
  obtain ⟨ms₁, hcalls₁, fin⟩ := Job.of_lift hnil hlocal fin
  obtain ⟨ms₂, x, hcalls₂, -, hdisk₂, hrest⟩ := Job.of_quiet hnil (connect_quiet _) fin
  rcases hrest with ⟨e, hperform, -, rfl, rfl⟩ | ⟨o, -, fin⟩
  · refine .inl ⟨?_, hdisk₂.trans hdisk, hcalls₁.trans hcalls₂⟩
    intro hconnected
    rw [Connects, connection_run, Script.perform_bind, hperform] at hconnected
    cases hconnected
  · exact .inr ⟨o, ms₂, x, hcalls₁.trans hcalls₂, hdisk₂.trans hdisk, fin⟩

/-- The launches of a start list what they create, each under its node. -/
theorem startNetwork_accounts {o : Orchestrator} {requests : List NodeRequest}
    {outcome : Except OperationError Bool}
    (fin : Finishes (perform h) (.ofEnsemble (o.startNetwork requests).run) w ms outcome v) :
    (∀ node, v.ledger.ids node = w.ledger.ids node ++ ms.recorded node) ∧
    ∀ who id, Creates ms who id → (∃ node, LaunchedFor ms who node) ∧
      ∀ node, LaunchedFor ms who node → id ∈ ms.recorded node := by
  obtain ⟨t, run, ht⟩ := fin
  have hx := run.explained
  refine ⟨Orchestrator.ids_of_startNetwork run, ?_⟩
  rintro who id ⟨spec, hcreate⟩
  obtain ⟨i, c, rfl, hc⟩ := Orchestrator.task_of_call hx ht hcreate
  refine ⟨⟨c.node, i, c, o.settings.waitPolicy, rfl, ?_, rfl⟩, ?_⟩
  · rw [Orchestrator.started_of_startNetwork hx ht, Orchestrator.launchScripts, List.getElem?_map,
      hc]
    rfl
  · rintro node ⟨j, c', policy, hj, hstarted, rfl⟩
    cases hj
    -- the launch has ended, and so it has listed what it created
    obtain ⟨rs, -, hsc, -⟩ := Orchestrator.end_of_startNetwork hx ht
    obtain ⟨s, hs, hdoes⟩ := hx.scripts i _ hstarted
    rw [hsc, List.getElem?_map] at hs
    obtain ⟨r, -, rfl⟩ := Option.map_eq_some_iff.1 hs
    have hlisted : (c'.node, id) ∈ (ms.deedsOf (.script i)).filterMap Deed.recorded? := by
      rw [Launch.recorded_eq_created hdoes]
      exact List.mem_map_of_mem (List.mem_filterMap.2 ⟨_, History.mem_deedsOf.2 hcreate, rfl⟩)
    obtain ⟨d, hd, hrec⟩ := List.mem_filterMap.1 hlisted
    exact History.mem_collect.2 ⟨.script i, d, History.mem_deedsOf.1 hd, by simp [hrec]⟩

/-- A start makes the calls of its launches, if any, and the file lists behind what was there what
they list. -/
theorem start_launches {a : StartOptions} {config : String} {level : Option String}
    {format : Format} {e : Environment} {colours : Bool}
    (hold : LedgerFile.Holds w.disk a.ledger l)
    (fin : Finishes (perform h)
      (.ofEnsemble (Invocation.run ⟨config, level, format, .startNode a⟩ e colours).run) w ms r v) :
    ∃ ns : History (Except OperationError Bool), ms.SameCalls ns ∧
      (∀ who id, Creates ns who id → (∃ node, LaunchedFor ns who node) ∧
        ∀ node, LaunchedFor ns who node → id ∈ ns.recorded node) ∧
      ∃ l', LedgerFile.Holds v.disk a.ledger l' ∧
        ∀ node, l'.ids node = l.ids node ++ ns.recorded node := by
  have hnone : ∀ who id, ¬ Creates [] who id := fun who id => not_creates_of_quiet (.refl [])
  have hsame : ∀ node, l.ids node = l.ids node ++
      History.recorded node ([] : History (Except OperationError Bool)) := fun node =>
    (List.append_nil _).symm
  rcases connected_finishes fin with ⟨-, hdisk, hcalls⟩ | ⟨o, ms₁, x, hcalls, hdisk, fin⟩
  · exact ⟨[], hcalls, fun who id hc => absurd hc (hnone who id), l, hdisk ▸ hold, hsame⟩
  rcases startNode_finishes (hdisk ▸ hold) fin with ⟨hold', hcalls'⟩ | hlaunched
  · exact ⟨[], hcalls.trans hcalls', fun who id hc => absurd hc (hnone who id), l, hold', hsame⟩
  obtain ⟨requests, ns, outcome, x₁, y, rfl, hcalls', hrun, hold'⟩ := hlaunched
  obtain ⟨hids, hcreated⟩ := startNetwork_accounts hrun
  refine ⟨ns, hcalls.trans hcalls', hcreated, _, hold', fun node => ?_⟩
  rw [Ledger.ids_ofDict]
  exact hids node

/-- **What a start does to the ledger file**: what was listed stays listed, and what was created is
listed under its node. -/
theorem start_accounts {a : StartOptions} {config : String} {level : Option String}
    {format : Format} {e : Environment} {colours : Bool}
    (hold : LedgerFile.Holds w.disk a.ledger l)
    (fin : Finishes (perform h)
      (.ofEnsemble (Invocation.run ⟨config, level, format, .startNode a⟩ e colours).run) w ms r v) :
    (∀ who id, Creates ms who id → ∃ node, LaunchedFor ms who node) ∧
    ∃ l', LedgerFile.Holds v.disk a.ledger l' ∧ (∀ node, l.ids node <+: l'.ids node) ∧
      ∀ who id node, Creates ms who id → LaunchedFor ms who node → id ∈ l'.ids node := by
  obtain ⟨ns, hsame, hcreated, l', hold', hids⟩ := start_launches hold fin
  refine ⟨fun who id hc => ?_, l', hold', fun node => ?_, fun who id node hc hn => ?_⟩
  · obtain ⟨node, hnode⟩ := (hcreated who id ((Creates.of_sameCalls hsame).1 hc)).1
    exact ⟨node, (LaunchedFor.of_sameCalls hsame).2 hnode⟩
  · exact ⟨_, (hids node).symm⟩
  · have hc' := (Creates.of_sameCalls hsame).1 hc
    have hn' := (LaunchedFor.of_sameCalls hsame).1 hn
    rw [hids node]
    exact List.mem_append_right _ ((hcreated who id hc').2 node hn')

/-- **What a teardown does to the ledger file**: it creates nothing, and what is listed no more is
removed. -/
theorem teardown_accounts {path config : String} {level : Option String} {format : Format}
    {e : Environment} {colours : Bool} (hold : LedgerFile.Holds w.disk path l)
    (fin : Finishes (perform h)
      (.ofEnsemble (Invocation.run ⟨config, level, format, .teardown path⟩ e colours).run) w ms r
      v) :
    (∀ who id, ¬ Creates ms who id) ∧
    ∃ l', LedgerFile.Holds v.disk path l' ∧
      ∀ node id, id ∈ l.ids node → id ∈ l'.ids node ∨ Removes ms id := by
  rcases connected_finishes fin with ⟨-, hdisk, hcalls⟩ | ⟨o, ms₁, x, hcalls, hdisk, fin⟩
  · refine ⟨fun who id => not_creates_of_quiet hcalls, l, hdisk ▸ hold, fun node id hid => ?_⟩
    exact .inl hid
  obtain ⟨ms₂, outcome, y, hcalls₂, ⟨t, run, ht⟩, hrest⟩ :=
    teardown_finishes (hdisk ▸ hold) fin
  have hsame : ms.SameCalls ms₂ := hcalls.trans hcalls₂
  refine ⟨fun who id => ?_, ?_⟩
  · rw [Creates.of_sameCalls hsame]
    rintro ⟨spec, hmem⟩
    cases run.explained.within (tearDown_within l) hmem
  -- the file is removed only if everything that it listed is
  rcases hrest with ⟨rfl, hgone, -⟩ | ⟨-, hdisk', -⟩
  · refine ⟨Ledger.empty, .of_none hgone, fun node id hid => .inr ?_⟩
    exact (Removes.of_sameCalls hsame).2 (removed_of_tearDown run.explained ht hid)
  · exact ⟨l, (hdisk'.trans hdisk) ▸ hold, fun node id hid => .inl hid⟩

/-! ### Command after command -/

/-- **Commands on one ledger file**, one after the other: what each of them did, and the files
behind the last of them.  Each has a runtime, a configuration and options of its own, and finds the
ledger file as the one before has left it. -/
inductive Session (path : String) (start : Disk) :
    List (History (Except OperationError Bool)) → Disk → Prop
  | begin : Session path start [] start
  | startNode {hs : List (History (Except OperationError Bool))} {d : Disk} {R : Type}
      {h : Host R} {w v : World R} {a : StartOptions} {config : String} {level : Option String}
      {format : Format} {e : Environment} {colours : Bool}
      {ms : History (Except OperationError Bool)} {r : Except Failure Unit}
      (before : Session path start hs d) (ledger : a.ledger = path)
      (found : ∀ content, d.Holds path content → w.disk.Holds path content)
      (run : Ensemble.Ends (perform h)
        (Invocation.run ⟨config, level, format, .startNode a⟩ e colours).run w ms r v) :
      Session path start (hs ++ [ms]) v.disk
  | teardown {hs : List (History (Except OperationError Bool))} {d : Disk} {R : Type}
      {h : Host R} {w v : World R} {config : String} {level : Option String} {format : Format}
      {e : Environment} {colours : Bool}
      {ms : History (Except OperationError Bool)} {r : Except Failure Unit}
      (before : Session path start hs d)
      (found : ∀ content, d.Holds path content → w.disk.Holds path content)
      (run : Ensemble.Ends (perform h)
        (Invocation.run ⟨config, level, format, .teardown path⟩ e colours).run w ms r v) :
      Session path start (hs ++ [ms]) v.disk

/-- **A container that was created for a node**, and that nothing has removed since. -/
def Outstanding (hs : List (History (Except OperationError Bool))) (node id : String) : Prop :=
  ∃ before ms after first who spec behind, hs = before ++ ms :: after ∧
    ms = first ++ (who, .deed ⟨.call (.create spec), .ok id⟩) :: behind ∧
    LaunchedFor ms who node ∧ ¬ Removes behind id ∧ ∀ ns ∈ after, ¬ Removes ns id

/-- One more command creates what is outstanding, or has not removed it. -/
theorem Outstanding.of_snoc {hs : List (History (Except OperationError Bool))} {node id : String}
    (out : Outstanding (hs ++ [ms]) node id) :
    (Outstanding hs node id ∧ ¬ Removes ms id) ∨
      ∃ who, Creates ms who id ∧ LaunchedFor ms who node := by
  obtain ⟨before, ns, after, first, who, spec, behind, hsplit, hns, hfor, hbehind, hafter⟩ := out
  -- the container was created by the last command, or by one before it
  rcases List.eq_nil_or_concat after with rfl | ⟨after, m, rfl⟩
  · obtain ⟨rfl, hms⟩ := List.append_inj' hsplit rfl
    obtain rfl : ms = ns := by simpa using hms
    refine .inr ⟨who, ⟨spec, ?_⟩, hfor⟩
    rw [hns]
    simp
  · have hsplit' : hs ++ [ms] = (before ++ ns :: after) ++ [m] := by simpa using hsplit
    obtain ⟨rfl, hm⟩ := List.append_inj' hsplit' rfl
    obtain rfl : ms = m := by simpa using hm
    refine .inl ⟨⟨before, ns, after, first, who, spec, behind, rfl, hns, hfor, hbehind, ?_⟩, ?_⟩
    · exact fun ns' hns' => hafter ns' (by simp [hns'])
    · exact hafter ms (by simp)

/-- **Every container that was created is listed or removed.** -/
structure Accounted (path : String) (hs : List (History (Except OperationError Bool))) (d : Disk)
    (l : Ledger) : Prop where
  holds : LedgerFile.Holds d path l
  /-- Containers are created by launches only. -/
  launched : ∀ ms ∈ hs, ∀ who id, Creates ms who id → ∃ node, LaunchedFor ms who node
  /-- What is outstanding is listed under its node. -/
  listed : ∀ node id, Outstanding hs node id → id ∈ l.ids node

section Steps

variable {path config : String} {level : Option String} {format : Format} {e : Environment}
  {colours : Bool} {a : StartOptions} {hs : List (History (Except OperationError Bool))} {d : Disk}

theorem Accounted.begin (hnone : d.Holds path none) : Accounted path [] d Ledger.empty where
  holds := ⟨none, hnone, rfl⟩
  launched := by simp
  listed := by
    rintro node id ⟨before, ms, after, first, who, spec, behind, hsplit, -⟩
    simp at hsplit

/-- What is accounted for stays so behind a start. -/
theorem Accounted.startNode (acc : Accounted path hs d l) (ledger : a.ledger = path)
    (found : ∀ content, d.Holds path content → w.disk.Holds path content)
    (run : Ensemble.Ends (perform h)
      (Invocation.run ⟨config, level, format, .startNode a⟩ e colours).run w ms r v) :
    ∃ l', Accounted path (hs ++ [ms]) v.disk l' ∧ ∀ node, l.ids node <+: l'.ids node := by
  subst ledger
  obtain ⟨content, hdisk, hcontent⟩ := acc.holds
  obtain ⟨hlaunched, l', hold', hkept, hcreated⟩ :=
    start_accounts ⟨content, found content hdisk, hcontent⟩ run
  refine ⟨l', ⟨hold', fun ns hns => ?_, fun node id hout => ?_⟩, hkept⟩
  · rcases List.mem_append.1 hns with hns | hns
    · exact acc.launched ns hns
    · obtain rfl := List.mem_singleton.1 hns
      exact hlaunched
  · rcases hout.of_snoc with ⟨hout', -⟩ | ⟨who, hc, hn⟩
    · exact (hkept node).subset (acc.listed node id hout')
    · exact hcreated who id node hc hn

/-- What is accounted for stays so behind a teardown. -/
theorem Accounted.teardown (acc : Accounted path hs d l)
    (found : ∀ content, d.Holds path content → w.disk.Holds path content)
    (run : Ensemble.Ends (perform h)
      (Invocation.run ⟨config, level, format, .teardown path⟩ e colours).run w ms r v) :
    ∃ l', Accounted path (hs ++ [ms]) v.disk l' := by
  obtain ⟨content, hdisk, hcontent⟩ := acc.holds
  obtain ⟨hnone, l', hold', hgone⟩ :=
    teardown_accounts ⟨content, found content hdisk, hcontent⟩ run
  refine ⟨l', hold', fun ns hns => ?_, fun node id hout => ?_⟩
  · rcases List.mem_append.1 hns with hns | hns
    · exact acc.launched ns hns
    · obtain rfl := List.mem_singleton.1 hns
      exact fun who id hc => absurd hc (hnone who id)
  · rcases hout.of_snoc with ⟨hout', hkept⟩ | ⟨who, hc, -⟩
    · rcases hgone node id (acc.listed node id hout') with hid | hremoved
      · exact hid
      · exact absurd hremoved hkept
    · exact absurd hc (hnone who id)

end Steps

/-- The configuration of one node, and no ledger. -/
def smallDisk : Disk :=
  ⟨Dict.ofList [("c", .file (Utf8.encode
    "[docker.nodes.n]\nquorum_container_id=\"q\"\ntessera_container_id=\"t\""))]⟩

/-- The same files, with a ledger of two containers. -/
def listedDisk : Disk :=
  ⟨smallDisk.nodes.insert "l" (.file (Utf8.encode
    "\x7b\n  \"n\": [\n    \"id-t-clone\",\n    \"id-q-clone\"\n  ]\n\x7d"))⟩

/-- **No container is lost between commands.**  Commands start and tear down nodes on a ledger file
that was missing and could be written.  Whatever the runtime answered and however the commands
ended, every container that one of them created and nothing removed since is listed in the file,
under the node that it was created for; and a start keeps what was listed before, in its order. -/
theorem Session.accounted {path : String} {start written d : Disk} {content : Bytes}
    {hs : List (History (Except OperationError Bool))}
    (missing : start.read path = .error .notFound)
    (writable : start.write path content = .ok written)
    (session : Session path start hs d) :
    ∃ l, Accounted path hs d l ∧
      ∀ (R : Type) (h : Host R) (w v : World R) (a : StartOptions) (config : String)
        (level : Option String) (format : Format) (e : Environment) (colours : Bool)
        (ms : History (Except OperationError Bool)) (r : Except Failure Unit), a.ledger = path →
        (∀ content, d.Holds path content → w.disk.Holds path content) →
        Ensemble.Ends (perform h)
          (Invocation.run ⟨config, level, format, .startNode a⟩ e colours).run w ms r v →
        ∃ l', LedgerFile.Holds v.disk path l' ∧ ∀ node, l.ids node <+: l'.ids node := by
  have hacc : ∃ l, Accounted path hs d l := by
    -- induction on the commands: each of them keeps what is accounted for
    induction session with
    | begin => exact ⟨Ledger.empty, .begin (Disk.holds_none missing writable)⟩
    | startNode _ ledger found run ih =>
        obtain ⟨l, acc⟩ := ih
        obtain ⟨l', acc', -⟩ := acc.startNode ledger found run
        exact ⟨l', acc'⟩
    | teardown _ found run ih =>
        obtain ⟨l, acc⟩ := ih
        exact acc.teardown found run
  obtain ⟨l, acc⟩ := hacc
  refine ⟨l, acc, fun R h w v a config level format e colours ms r ledger found run => ?_⟩
  obtain ⟨l', acc', hkept⟩ := acc.startNode ledger found run
  exact ⟨l', acc'.holds, hkept⟩

theorem Session.accounted_of_two :
    ∃ hs l, Session "l" smallDisk hs listedDisk ∧ hs.length = 2 ∧
      Accounted "l" hs listedDisk l := by
  let options : StartOptions := ⟨[], false, none, none, [], "l"⟩
  -- one of the clones does not start
  have hstart : ((Invocation.run ⟨"c", none, .json, .startNode options⟩ Dict.empty false).run.endIn?
      (perform (.ofAnswers Orchestrator.stubbornAnswers))
      [.lead, .lead, .lead, .lead, .lead, .lead, .script 1, .script 0, .script 1, .script 1,
        .script 0, .script 1, .script 0, .script 0, .script 0, .script 0, .lead, .lead, .lead,
        .lead] { runtime := (), disk := smallDisk }).map (fun x => x.2.disk) =
      some listedDisk := by decide +kernel
  -- and none of them can be stopped
  have hteardown : ((Invocation.run ⟨"c", none, .json, .teardown "l"⟩ Dict.empty false).run.endIn?
      (perform (.ofAnswers fun _ => .error (.api "device busy")))
      [.lead, .lead, .lead, .lead, .script 0, .lead]
      { runtime := (), disk := listedDisk }).map (fun x => x.2.disk) =
      some listedDisk := by decide +kernel
  obtain ⟨⟨r₁, v₁⟩, hx₁, hv₁⟩ := Option.map_eq_some_iff.1 hstart
  obtain ⟨⟨r₂, v₂⟩, hx₂, hv₂⟩ := Option.map_eq_some_iff.1 hteardown
  obtain ⟨ms₁, fin₁⟩ := Ensemble.ends_of_endIn? hx₁
  obtain ⟨ms₂, fin₂⟩ := Ensemble.ends_of_endIn? hx₂
  have session₁ : Session "l" smallDisk _ v₁.disk := .startNode .begin rfl (fun _ hd => hd) fin₁
  have session₂ : Session "l" smallDisk _ v₂.disk :=
    .teardown session₁ (fun _ hd => hv₁ ▸ hd) fin₂
  have hwrite : smallDisk.write "l" [] = .ok ⟨smallDisk.nodes.insert "l" (.file [])⟩ := rfl
  obtain ⟨l, hl, -⟩ := Session.accounted rfl hwrite session₂
  refine ⟨[] ++ [ms₁] ++ [ms₂], l, ?_, rfl, ?_⟩
  · rw [← show v₂.disk = listedDisk from hv₂]
    exact session₂
  · rw [← show v₂.disk = listedDisk from hv₂]
    exact hl

end Testbed.Cli
