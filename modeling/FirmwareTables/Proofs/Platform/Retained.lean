/-
**Populating loses and duplicates nothing.**

What descriptions declare is what a store gives back (`Footprint.IsRetained`): the record about the
vendor of the last one, the plain lists and the initiators of all of them one after the other, the
nodes of each kind, the last one first, and every array under a token of its own. Nothing else is
there, and every object is counted as often as it was declared (`configured_retained`).

Two things are out of reach (`configured_limits`): where nothing is declared, reading ends with an
error, and more nodes than a 32-bit number can count are stored, but neither counted nor read.
-/

import FirmwareTables.Proofs.Platform.Counting
import FirmwareTables.Proofs.Platform.Tables

namespace FirmwareTables

open Iort (Source Inventory)
open Population (bind_ok)

/-- The records of a kind of nodes are read, the last one first. -/
def ReadsReversed {α : Type} [Record α] (store : Store) (pick : Source → Option α)
    (sources : List Source) : Prop :=
  (store.view.getList α .null).result = Store.readout .null (sources.filterMap pick).reverse

/-- A store gives back what descriptions declare, and nothing else. -/
structure Footprint.IsRetained (footprint : Footprint) (platforms : List Platform)
    (store : Store) : Prop where
  /-- The only record about the vendor is that of the last description. -/
  vendor : ∃ info, Platform.IsVendor platforms info ∧
    (store.view.getList ManagerInfo .null).result = .ok [info]
  /-- The plain lists can be counted, and but for requests, which may not be readable, they are read
  one after the other. -/
  lists : ∀ list ∈ PlainList.all, (platforms.flatMap list.records).length ≤ maxCount ∧
    (list.id ≠ Record.objectId TableRequest →
      (store.view.getList list.α .null).result =
        Store.readout .null (platforms.flatMap list.records))
  /-- The initiators are read one after the other, each with the handle of its device under its
  token. -/
  initiators : footprint.records.length ≤ maxCount ∧
    (store.view.getList GenericInitiator .null).result = Store.readout .null footprint.records ∧
    List.Forall₂ (InitiatorSection.Realizes store) (platforms.flatMap Platform.initiators)
      footprint.records
  /-- The names with tokens are those of the descriptions. -/
  names : footprint.tables.map (fun tokens => tokens.map Prod.fst) =
    platforms.map Platform.nodeNames
  /-- The records of nodes are those of the descriptions, with their arrays under their tokens. -/
  nodes : List.Forall₂ (IsRealized store footprint.tables) (allNodes platforms) footprint.sources
  /-- The groups of translation services are read, the last one first. -/
  itsGroups : ReadsReversed store Source.itsGroup? footprint.sources
  /-- So are the components that the namespace names. -/
  namedComponents : ReadsReversed store Source.namedComponent? footprint.sources
  /-- So are the root complexes. -/
  rootComplexes : ReadsReversed store Source.rootComplex? footprint.sources
  /-- So are the memory management units of the first and second version. -/
  smmuV1V2s : ReadsReversed store Source.smmuV1V2? footprint.sources
  /-- So are those of the third version. -/
  smmuV3s : ReadsReversed store Source.smmuV3? footprint.sources
  /-- So are the groups of performance counters. -/
  pmcgs : ReadsReversed store Source.pmcg? footprint.sources
  /-- Nodes, arrays and handles are all under different tokens. -/
  tokens : (footprint.lots.map Lot.token).Nodup ∧ ∀ lot ∈ footprint.lots, lot.token.isNull = false
  /-- Nothing else is under a token. -/
  entries : (store.named.map Entry.lot).Perm footprint.lots
  /-- Each object is counted as often as it is declared. -/
  counted : ∀ id, (store.view.countOnly id).result =
    if maxCount < (declared platforms).count id then
      .error (.invalidParameter (.countOverflow id))
    else .ok ((declared platforms).count id)

theorem Picks.reads {α : Type} [Record α] {pick : Source → Option α} {wrap : α → Source}
    {own : α → Token} {kind : Iort.NodeKind} (picks : Picks pick wrap own kind) {store : Store}
    {sources : List Source} (entries : store.nodes = (sources.map Source.entry).reverse)
    (readable : ∀ record ∈ sources.filterMap pick, Record.IsReadable record) :
    ReadsReversed store pick sources := by
  have finds : store.Finds .null (sources.reverse.filterMap pick) := by
    refine picks.finds ?_
    rw [entries, List.map_reverse]
  rw [List.filterMap_reverse] at finds
  exact Store.getList_eq finds fun record inside => readable record (List.mem_reverse.mp inside)

theorem PlainList.readable {list : PlainList} (inside : list ∈ all)
    (other : list.id ≠ Record.objectId TableRequest) (records : List list.α) :
    ∀ record ∈ records, Record.IsReadable record :=
  Record.areReadable ((by decide : ∀ list ∈ all, list.id ≠ Record.objectId TableRequest →
    ∀ field ∈ Record.fields list.α, field.kind.IsFixed = true) list inside other) records

theorem Footprint.IsOf.isRetained {footprint : Footprint} {platforms : List Platform}
    {configuration : Configuration} (isOf : footprint.IsOf platforms configuration)
    (short : ∀ platform ∈ platforms, platform.HasShortNames) :
    footprint.IsRetained platforms configuration.store where
  vendor := by
    obtain ⟨info, own, found⟩ := isOf.vendor
    have one : ([info] : List ManagerInfo).length ≤ maxCount := (by decide : 1 ≤ maxCount)
    refine ⟨info, own, Store.getList_of_finds (Store.finds_of_listOf found one) ?_ one ?_⟩
    · exact Record.areReadable (by decide) _
    · exact List.cons_ne_nil _ _
  lists list inside := by
    obtain ⟨few, found⟩ := isOf.plain list inside
    exact ⟨few, fun other =>
      Store.getList_eq (Store.finds_of_listOf found few) (PlainList.readable inside other _)⟩
  initiators := by
    obtain ⟨few, found, realized⟩ := isOf.initiators
    exact ⟨few, Store.getList_eq (Store.finds_of_listOf found few)
      (Record.areReadable (by decide) _), realized⟩
  names := isOf.names
  nodes := isOf.nodes.realized
  itsGroups := Source.picks_itsGroup.reads isOf.nodes.entries (Record.areReadable (by decide) _)
  namedComponents := Source.picks_namedComponent.reads isOf.nodes.entries
    (Inventory.readable_components (isOf.nodes.isReadable short))
  rootComplexes :=
    Source.picks_rootComplex.reads isOf.nodes.entries (Record.areReadable (by decide) _)
  smmuV1V2s := Source.picks_smmuV1V2.reads isOf.nodes.entries (Record.areReadable (by decide) _)
  smmuV3s := Source.picks_smmuV3.reads isOf.nodes.entries (Record.areReadable (by decide) _)
  pmcgs := Source.picks_pmcg.reads isOf.nodes.entries (Record.areReadable (by decide) _)
  tokens := by
    refine ⟨isOf.lots.distinct, fun lot inside => ?_⟩
    obtain ⟨entry, member, rfl⟩ := List.mem_map.mp (isOf.lots.entries.mem_iff.mpr inside)
    exact (Bool.not_eq_true' _).mp (List.mem_filter.mp member).2
  entries := isOf.lots.entries
  counted id := by
    rw [Store.countOnly_eq_total, isOf.total_eq]

/-- **Populating loses and duplicates nothing.** A manager was installed and had descriptions applied
to it, all of them accepted, with tokens issued in between, fewer than there are. Then its store
gives back what they declare, and nothing else. -/
theorem configured_retained {σ : Type} {host : σ} {platforms : List Platform}
    {manager : Manager σ} (configured : Configured host platforms manager)
    (small : manager.configuration.issued < UInt64.size)
    (short : ∀ platform ∈ platforms, platform.HasShortNames) :
    ∃ footprint : Footprint, footprint.IsRetained platforms manager.configuration.store := by
  obtain ⟨_, footprint, isOf⟩ := configured.footprint small
  exact ⟨footprint, isOf.isRetained short⟩

/-- The same names are given twice, and a token is issued in between. -/
theorem configured_retained_twice :
    ∃ footprint : Footprint,
      Configured () [Platform.small, Platform.small] Manager.twice ∧
      Manager.twice.configuration.issued < UInt64.size ∧
      (∀ platform ∈ [Platform.small, Platform.small], platform.HasShortNames) ∧
      footprint.IsRetained [Platform.small, Platform.small]
        Manager.twice.configuration.store := by
  obtain ⟨configured, small, short⟩ := Manager.configured_twice
  obtain ⟨footprint, retained⟩ := configured_retained configured small short
  exact ⟨footprint, configured, small, short, retained⟩

/-! ### What is out of reach -/

/-- A description of a single node. -/
def Platform.lone : Platform := { (default : Platform) with itsGroups := [⟨"its", []⟩] }

/-- Storing the node is storing its record, and all else is done before. -/
theorem Platform.addAll_lone {info : ManagerInfo} (own : lone.vendor.toInfo = .ok info)
    {before after : Configuration}
    (stored : Population.addRecord (.next before.issued)
      (⟨.next before.issued, 0, .null⟩ : ItsGroup)
      ⟨before.store.put (.ofRecords .null [info]), before.issued + 1⟩ = (.ok (), after)) :
    lone.addAll before = (.ok (), after) := by
  have vendor : storeVendor info before =
      (.ok (), { before with store := before.store.put (.ofRecords .null [info]) }) := rfl
  have plain : ∀ configuration, PlainList.all.forM (PlainList.add lone) configuration =
      (.ok (), configuration) := fun _ => rfl
  have found : ∀ token configuration, NodeTokens.find [("its", token)] "its" configuration =
      (.ok token, configuration) := fun _ _ => rfl
  have added : ItsGroupSection.add [("its", .next before.issued)] ⟨"its", []⟩
      ⟨before.store.put (.ofRecords .null [info]), before.issued + 1⟩ = (.ok (), after) :=
    (bind_ok (found _ _)).trans ((bind_ok rfl).trans stored)
  have nodes : lone.addNodes [("its", .next before.issued)]
      ⟨before.store.put (.ofRecords .null [info]), before.issued + 1⟩ = (.ok (), after) := by
    rw [addNodes_eq]
    exact (bind_ok added).trans rfl
  rw [addAll_eq, own]
  refine (bind_ok rfl).trans ?_
  refine (bind_ok vendor).trans ?_
  refine (bind_ok (plain _)).trans ?_
  refine (bind_ok (issue_eq _ _)).trans ?_
  exact (bind_ok nodes).trans rfl

/-- The node is accepted however often it was stored before. -/
theorem Platform.apply_lone {σ : Type} {manager : Manager σ} (installed : manager.installed = true)
    (issued : manager.configuration.IsIssued)
    (small : manager.configuration.issued + 1 < UInt64.size) :
    ∃ after, lone.apply manager = (.ok (), after) ∧ after.installed = true ∧
      after.configuration.issued = manager.configuration.issued + 1 := by
  have valid : lone.validate = .ok () := by decide +kernel
  obtain ⟨info, own, _⟩ := bind_eq_ok.mp valid
  let token : Token := .next manager.configuration.issued
  let record : ItsGroup := ⟨token, 0, .null⟩
  let before : Configuration :=
    ⟨manager.configuration.store.put (.ofRecords .null [info]), manager.configuration.issued + 1⟩
  obtain ⟨_, _, named, unused⟩ :=
    (Population.newToken_does [] manager.configuration token _ rfl).2 small issued trivial
  -- The token is new, so that the record is the first one under it.
  have found : before.store.found (Record.objectId ItsGroup) token =
      Entry.listOf token ([] : List ItsGroup) := by
    refine List.filter_eq_nil_iff.mpr fun entry inside seen => ?_
    unfold Entry.isFound at seen
    rw [named, Bool.false_or] at seen
    have same := eq_of_beq (Bool.and_eq_true_iff.mp seen).2
    rcases Store.mem_put inside with rfl | inside
    · exact Token.isNull_eq_false_iff.mp named same.symm
    · exact unused entry inside same
  have made : (Access.live.addObject token record before.store).result =
      .ok (before.store.put (.ofRecords token [record])) :=
    (Store.addObject_eq (Store.finds_of_listOf found (Nat.zero_le _)) record).trans (if_neg (by decide))
  have stored : Population.addRecord token record before =
      (.ok (), { before with store := before.store.put (.ofRecords token [record]) }) := by
    unfold Population.addRecord Population.store Access.addObjects
    rw [List.map_singleton, Change.inOrder]
    dsimp only
    rw [made]
    rfl
  have populated : lone.populate manager.installed manager.configuration =
      (.ok (), { before with store := before.store.put (.ofRecords token [record]) }) := by
    unfold populate
    rw [installed, valid]
    exact addAll_lone own stored
  refine ⟨{ manager with configuration :=
    { before with store := before.store.put (.ofRecords token [record]) } }, ?_, installed, rfl⟩
  unfold apply
  rw [populated]

theorem Configured.lone (number : Nat) (small : number < UInt64.size) :
    ∃ manager : Manager Unit, Configured () (List.replicate number Platform.lone) manager ∧
      manager.installed = true ∧ manager.configuration.issued = number := by
  induction number with
  | zero => exact ⟨_, .installed, rfl, rfl⟩
  | succ number ih =>
    obtain ⟨manager, configured, installed, same⟩ := ih (Nat.lt_of_succ_lt small)
    obtain ⟨issued, _⟩ := configured.footprint (same ▸ Nat.lt_of_succ_lt small)
    obtain ⟨after, accepted, ready, count⟩ :=
      Platform.apply_lone installed issued (by rw [same]; exact small)
    refine ⟨after, ?_, ready, count.trans (congrArg (· + 1) same)⟩
    rw [List.replicate_succ']
    exact .applied configured accepted

theorem le_count_declared (number : Nat) :
    number ≤ (declared (List.replicate number Platform.lone)).count (Record.objectId ItsGroup) := by
  have nodes : ((List.replicate number Platform.lone).flatMap Platform.nodes).flatMap
      NodeSection.items = List.replicate number (Record.objectId ItsGroup) := by
    induction number with
    | zero => rfl
    | succ number ih =>
      rw [List.replicate_succ, List.flatMap_cons, List.flatMap_append, ih]
      rfl
  unfold declared taggedItems
  rw [nodes, List.count_append, List.count_append, List.count_replicate_self]
  omega

/-- **What is out of reach.** Where nothing is declared, reading is an error; and nodes that are too
many for a 32-bit number are not counted. -/
theorem configured_limits :
    (∃ manager : Manager Unit, Configured () [default] manager ∧
      (manager.configuration.store.view.getList CpuInterface .null).result ≠
        .ok ([default].flatMap Platform.cpuInterfaces)) ∧
    ∃ (platforms : List Platform) (manager : Manager Unit),
      Configured () platforms manager ∧ manager.configuration.issued < UInt64.size ∧
        (manager.configuration.store.view.countOnly (Record.objectId ItsGroup)).result ≠
          .ok ((declared platforms).count (Record.objectId ItsGroup)) := by
  refine ⟨?_, List.replicate (maxCount + 1) Platform.lone, ?_⟩
  · let start : Manager Unit := (Manager.new ()).install.step.manager
    have accepted : ((default : Platform).apply start).1 = .ok () := by decide +kernel
    have configured : Configured () ([] ++ [default]) ((default : Platform).apply start).2 :=
      Configured.again .installed accepted
    refine ⟨_, configured, fun read => ?_⟩
    obtain ⟨_, footprint, isOf⟩ := configured.footprint (by decide +kernel)
    obtain ⟨few, found⟩ := isOf.plain ⟨CpuInterface, inferInstance, Platform.cpuInterfaces⟩
      (List.mem_cons_of_mem _ List.mem_cons_self)
    cases read.symm.trans (Store.getList_eq (Store.finds_of_listOf found few)
      (Record.areReadable (by decide) _))
  · have enough : maxCount + 1 < UInt64.size := by decide
    obtain ⟨manager, configured, _, issued⟩ := Configured.lone (maxCount + 1) enough
    have small : manager.configuration.issued < UInt64.size := issued ▸ enough
    obtain ⟨_, footprint, isOf⟩ := configured.footprint small
    refine ⟨manager, configured, small, ?_⟩
    have many : maxCount < (declared (List.replicate (maxCount + 1) Platform.lone)).count
        (Record.objectId ItsGroup) := le_count_declared (maxCount + 1)
    rw [Store.countOnly_eq_total, isOf.total_eq, if_pos many]
    exact fun absurd => nomatch absurd

end FirmwareTables
