/-
**Managers that descriptions were applied to.**

A manager is `Configured` by descriptions if it was new, was installed, and then had these applied
to it, all of them accepted, with tokens issued in between. As long as the tokens have not run out, its
configuration has a `Footprint` of them: the record about the vendor is that of the last
description, the plain lists are those of the descriptions one after the other, the nodes realize
the nodes of all descriptions, the initiators have their handles, and nothing else is under any
token.

* `addAll_does`: one more description;
* `Configured.footprint`: what is stored in the end;
* `Configured.describes`: what tables need of it.
-/

import FirmwareTables.Platform.Application
import FirmwareTables.Proofs.Outcome
import FirmwareTables.Proofs.Platform.Consistency
import FirmwareTables.Proofs.Platform.Populating
import FirmwareTables.Proofs.Platform.Storing

namespace FirmwareTables

open Iort (Source)
open Population (Does)

/-- What a record about the vendor has to be: that of the last description. -/
def Platform.IsVendor (platforms : List Platform) (info : ManagerInfo) : Prop :=
  match platforms.getLast? with
  | none => info = default
  | some platform => platform.vendor.toInfo = .ok info

/-! ### The nodes of all descriptions -/

/-- The nodes of descriptions in the order in which they are stored, each with the number of its
description. -/
def allNodes (platforms : List Platform) : List (Nat × NodeSection) :=
  platforms.zipIdx.flatMap fun entry => entry.1.nodes.map (entry.2, ·)

theorem allNodes_append (platforms : List Platform) (platform : Platform) :
    allNodes (platforms ++ [platform]) =
      allNodes platforms ++ platform.nodes.map (platforms.length, ·) := by
  unfold allNodes
  rw [List.zipIdx_append, List.flatMap_append, List.zipIdx_cons, List.zipIdx_nil,
    List.flatMap_cons, List.flatMap_nil, List.append_nil, Nat.zero_add]

theorem mem_allNodes {platforms : List Platform} {number : Nat} {node : NodeSection} :
    (number, node) ∈ allNodes platforms ↔
      ∃ platform, platforms[number]? = some platform ∧ node ∈ platform.nodes := by
  unfold allNodes
  rw [List.mem_flatMap]
  constructor
  · rintro ⟨⟨platform, place⟩, inside, member⟩
    obtain ⟨other, here, same⟩ := List.mem_map.mp member
    cases same
    exact ⟨platform, List.mem_zipIdx_iff_getElem?.mp inside, here⟩
  · rintro ⟨platform, known, here⟩
    exact ⟨(platform, number), List.mem_zipIdx_iff_getElem?.mpr known, List.mem_map_of_mem here⟩

/-! ### One more description -/

/-- The nodes of descriptions are stored, with the tokens of the names of each. -/
def HasNodes (platforms : List Platform) (configuration : Configuration) : Prop :=
  ∃ tables : List NodeTokens,
    tables.map (fun tokens => tokens.map Prod.fst) = platforms.map Platform.nodeNames ∧
      HasTokens tables configuration ∧
        ∃ sources, HoldsNodes tables (allNodes platforms) sources configuration.store

/-- What descriptions say is stored. -/
structure Describes (platforms : List Platform) (configuration : Configuration) : Prop where
  /-- There is a record about the vendor. -/
  vendor : HasVendor configuration.store
  /-- The plain lists are stored. -/
  plain : ∀ list ∈ PlainList.all, list.IsHeld platforms configuration.store
  /-- The nodes are stored. -/
  nodes : HasNodes platforms configuration
  /-- The initiators are stored. -/
  initiators : ∃ records, HoldsInitiators (platforms.flatMap Platform.initiators) records
    configuration.store

theorem hasPlain_stable {ids : List ObjectId} (apart : ∀ id ∈ PlainList.ids, id ∉ ids)
    (platforms : List Platform) : Stable ids fun configuration =>
      ∀ list ∈ PlainList.all, list.IsHeld platforms configuration.store :=
  fun before after grows holds list inside =>
    PlainList.IsHeld.stable (apart _ (List.mem_map_of_mem inside)) platforms before after grows
      (holds list inside)

/-- The objects that descriptions store. -/
def describedIds : List ObjectId :=
  Record.objectId ManagerInfo :: PlainList.ids ++ (arrayIds ++ nodeIds) ++ initiatorIds

/-- Storing a description, its plain lists taken together. -/
theorem Platform.addAll_eq (platform : Platform) :
    platform.addAll = (do
      let info ← liftM platform.vendor.toInfo
      Platform.storeVendor info
      PlainList.all.forM (PlainList.add platform)
      let tokens ← NodeTokens.issue platform.nodeNames
      platform.addNodes tokens
      platform.initiators.forM InitiatorSection.add) := by
  unfold addAll PlainList.all
  simp only [List.forM, bind_assoc, pure_bind]
  rfl

theorem lift_does {α : Type} (ids : List ObjectId) (holds : Configuration → Prop)
    (outcome : Except PlatformError α) :
    Does ids holds (liftM outcome : Population α)
      fun made configuration => outcome = .ok made ∧ holds configuration := by
  intro before value after done
  cases outcome with
  | error error => cases done
  | ok made =>
    cases done
    exact ⟨Nat.le_refl _, fun _ _ holds => ⟨.refl _ _, rfl, holds⟩⟩

/-- The record about the vendor is that of the last description. -/
def HoldsVendor (platforms : List Platform) (store : Store) : Prop :=
  ∃ info, Platform.IsVendor platforms info ∧
    store.found (Record.objectId ManagerInfo) .null = [Entry.ofRecords .null [info]]

theorem HoldsVendor.stable {ids : List ObjectId} (apart : Record.objectId ManagerInfo ∉ ids)
    (platforms : List Platform) :
    Stable ids fun configuration => HoldsVendor platforms configuration.store :=
  fun _ _ grows ⟨info, own, found⟩ => ⟨info, own, (grows.found_eq apart .null).trans found⟩

/-- What stands for descriptions in a store, in the order of the descriptions. -/
structure Footprint where
  /-- The tokens of the names of each description. -/
  tables : List NodeTokens
  /-- The records of the nodes. -/
  sources : List Source
  /-- The records of the initiators. -/
  records : List GenericInitiator
  deriving Inhabited

namespace Footprint

/-- What is under tokens: the nodes with their arrays, and the handles of the initiators. -/
def lots (footprint : Footprint) : List Lot :=
  footprint.sources.flatMap Source.lots ++ footprint.records.map GenericInitiator.lot

/-- The records are those of the nodes and the initiators of descriptions. -/
structure Realizes (footprint : Footprint) (platforms : List Platform)
    (configuration : Configuration) : Prop where
  /-- The names are those of the descriptions. -/
  names : footprint.tables.map (fun tokens => tokens.map Prod.fst) =
    platforms.map Platform.nodeNames
  /-- The names have tokens. -/
  tokens : HasTokens footprint.tables configuration
  /-- The nodes are stored. -/
  nodes : HoldsNodes footprint.tables (allNodes platforms) footprint.sources configuration.store
  /-- The initiators are stored. -/
  initiators : HoldsInitiators (platforms.flatMap Platform.initiators) footprint.records
    configuration.store

/-- All that is stored is there for these descriptions. -/
structure IsOf (footprint : Footprint) (platforms : List Platform)
    (configuration : Configuration) : Prop
    extends footprint.Realizes platforms configuration where
  /-- The record about the vendor is that of the last description. -/
  vendor : HoldsVendor platforms configuration.store
  /-- The plain lists are stored. -/
  plain : ∀ list ∈ PlainList.all, list.IsHeld platforms configuration.store
  /-- Nothing else is under a token. -/
  lots : HasLots (IsNamed footprint.tables) footprint.lots configuration

theorem Realizes.stable {ids : List ObjectId} (apart : ∀ id ∈ ids, id ∉ nodeIds)
    (other : Record.objectId GenericInitiator ∉ ids) (footprint : Footprint)
    (platforms : List Platform) : Stable ids (footprint.Realizes platforms) :=
  fun before after grows realizes => {
    names := realizes.names
    tokens := HasTokens.stable ids _ before after grows realizes.tokens
    nodes := HoldsNodes.stable apart _ _ _ before after grows realizes.nodes
    initiators := HoldsInitiators.stable other _ _ before after grows realizes.initiators }

theorem IsOf.describes {footprint : Footprint} {platforms : List Platform}
    {configuration : Configuration} (isOf : footprint.IsOf platforms configuration) :
    Describes platforms configuration where
  vendor := isOf.vendor.imp fun _ both => both.2
  plain := isOf.plain
  nodes := ⟨footprint.tables, isOf.names, isOf.tokens, footprint.sources, isOf.nodes⟩
  initiators := ⟨footprint.records, isOf.initiators⟩

end Footprint

/-- The nodes of a description are stored behind those of earlier ones. -/
theorem storeNodes_does (platforms : List Platform) (platform : Platform)
    (distinct : platform.nodeNames.Nodup) (tables : List NodeTokens) (sources : List Source)
    (others : List Lot) :
    Does (arrayIds ++ nodeIds)
      (fun configuration =>
        tables.map (fun tokens => tokens.map Prod.fst) = platforms.map Platform.nodeNames ∧
          HasTokens tables configuration ∧
            HoldsNodes tables (allNodes platforms) sources configuration.store ∧
              HasLots (IsNamed tables) (sources.flatMap Source.lots ++ others) configuration)
      (NodeTokens.issue platform.nodeNames >>= fun tokens => platform.addNodes tokens)
      fun _ configuration => ∃ tables : List NodeTokens,
        tables.map (fun tokens => tokens.map Prod.fst) =
            (platforms ++ [platform]).map Platform.nodeNames ∧
          StoresNodes tables (allNodes (platforms ++ [platform])) others configuration := by
  have earlier : ∀ labelled ∈ allNodes platforms, labelled.1 ≠ platforms.length := by
    intro ⟨number, node⟩ inside same
    obtain ⟨_, known, _⟩ := mem_allNodes.mp inside
    have bound := (List.getElem?_eq_some_iff.mp known).1
    exact Nat.ne_of_lt bound same
  have issue := (((issue_does tables platform.nodeNames).also
    (issue_yields tables (sources.flatMap Source.lots ++ others) platform.nodeNames)).keep
    ((Stable.const [] (tables.map (fun tokens => tokens.map Prod.fst) =
      platforms.map Platform.nodeNames)).and
        (HoldsNodes.stable (by decide) tables (allNodes platforms) sources))).widen
    (List.nil_subset (arrayIds ++ nodeIds))
  refine (issue.weaken (fun _ ⟨names, has, holds, lots⟩ => ⟨⟨has, lots⟩, names, holds⟩)
    fun _ _ => id).bind fun tokens => ?_
  have add := (addNodes_does platform distinct (tables ++ [tokens]) platforms.length tokens others
    earlier).keep (.const _ ((tables ++ [tokens]).map (fun tokens => tokens.map Prod.fst) =
      (platforms ++ [platform]).map Platform.nodeNames))
  refine add.weaken ?_ ?_
  · intro configuration ⟨⟨⟨own, has⟩, lots⟩, names, holds⟩
    have count : tables.length = platforms.length := by
      have same := congrArg List.length names
      rwa [List.length_map, List.length_map] at same
    have here : (tables ++ [tokens])[platforms.length]? = some tokens := by
      rw [← count]
      exact List.getElem?_concat_length
    refine ⟨⟨here, has, sources, ⟨holds.entries, ?_⟩, lots⟩, ?_⟩
    · refine holds.realized.imp ?_
      rintro labelled source ⟨table, known, realizes⟩
      refine ⟨table, ?_, realizes⟩
      rw [List.getElem?_append_left (List.getElem?_eq_some_iff.mp known).1]
      exact known
    · rw [List.map_append, List.map_append, names, List.map_singleton, List.map_singleton, own]
  · intro _ configuration ⟨⟨_, stores⟩, names⟩
    rw [← allNodes_append] at stores
    exact ⟨tables ++ [tokens], names, stores⟩

/-- The record about the vendor and the plain lists are stored. -/
def HoldsSettled (platforms : List Platform) (store : Store) : Prop :=
  HoldsVendor platforms store ∧ ∀ list ∈ PlainList.all, list.IsHeld platforms store

theorem HoldsSettled.stable {ids : List ObjectId} (apart : Record.objectId ManagerInfo ∉ ids)
    (other : ∀ id ∈ PlainList.ids, id ∉ ids) (platforms : List Platform) :
    Stable ids fun configuration => HoldsSettled platforms configuration.store :=
  (HoldsVendor.stable apart platforms).and (hasPlain_stable other platforms)

/-- The initiators of a description are stored last. -/
theorem storeInitiators_does (platforms : List Platform) (platform : Platform)
    (tables : List NodeTokens) (sources : List Source) :
    Does describedIds
      (fun configuration => StoresInitiators (IsNamed tables) (sources.flatMap Source.lots)
          (platforms.flatMap Platform.initiators) configuration ∧
        HoldsSettled (platforms ++ [platform]) configuration.store ∧
          tables.map (fun tokens => tokens.map Prod.fst) =
              (platforms ++ [platform]).map Platform.nodeNames ∧
            HasTokens tables configuration ∧
              HoldsNodes tables (allNodes (platforms ++ [platform])) sources configuration.store)
      (platform.initiators.forM InitiatorSection.add)
      fun _ configuration =>
        ∃ footprint : Footprint, footprint.IsOf (platforms ++ [platform]) configuration := by
  have initiators := (addInitiators_does (IsNamed tables) (sources.flatMap Source.lots)
    (platforms.flatMap Platform.initiators) platform.initiators).keep
    ((HoldsSettled.stable (by decide) (by decide) (platforms ++ [platform])).and
      ((Stable.const _ (tables.map (fun tokens => tokens.map Prod.fst) =
        (platforms ++ [platform]).map Platform.nodeNames)).and
          ((HasTokens.stable _ tables).and
            (HoldsNodes.stable (by decide) tables (allNodes (platforms ++ [platform])) sources))))
  refine (initiators.widen (by decide : _ ⊆ describedIds)).weaken (fun _ => id) ?_
  intro _ configuration ⟨⟨records, holds, lots⟩, ⟨vendor, plain⟩, names, has, nodes⟩
  have whole : (platforms ++ [platform]).flatMap Platform.initiators =
      platforms.flatMap Platform.initiators ++ platform.initiators := by
    rw [List.flatMap_append, List.flatMap_singleton]
  rw [← whole] at holds
  exact ⟨⟨tables, sources, records⟩, ⟨names, has, nodes, holds⟩, vendor, plain, lots⟩

/-- The nodes and the initiators of a description are stored after everything else. -/
theorem addRest_does (platforms : List Platform) (platform : Platform)
    (distinct : platform.nodeNames.Nodup) (footprint : Footprint) :
    Does describedIds
      (fun configuration => HoldsSettled (platforms ++ [platform]) configuration.store ∧
        footprint.Realizes platforms configuration ∧
          HasLots (IsNamed footprint.tables) footprint.lots configuration)
      (NodeTokens.issue platform.nodeNames >>= fun tokens => platform.addNodes tokens >>= fun _ =>
        platform.initiators.forM InitiatorSection.add)
      fun _ configuration =>
        ∃ footprint : Footprint, footprint.IsOf (platforms ++ [platform]) configuration := by
  have nodes := ((storeNodes_does platforms platform distinct footprint.tables footprint.sources
    (footprint.records.map GenericInitiator.lot)).keep
    ((HoldsSettled.stable (by decide) (by decide) (platforms ++ [platform])).and
      (HoldsInitiators.stable (by decide) (platforms.flatMap Platform.initiators)
        footprint.records))).widen (by decide : _ ⊆ describedIds)
  have initiators := Does.exists_pre fun tables =>
    Does.exists_pre fun sources => storeInitiators_does platforms platform tables sources
  rw [← bind_assoc]
  refine (nodes.weaken (fun _ ⟨settled, realizes, lots⟩ => ⟨⟨realizes.names, realizes.tokens,
    realizes.nodes, lots⟩, settled, realizes.initiators⟩) fun _ _ => id).bind fun _ => ?_
  exact initiators.weaken
    (fun _ ⟨⟨tables, names, has, sources, holds, lots⟩, settled, initiators⟩ =>
      ⟨tables, sources, ⟨footprint.records, initiators, lots⟩, settled, names, has, holds⟩)
    fun _ _ => id

/-- **One more description.** -/
theorem addAll_does (platforms : List Platform) (platform : Platform)
    (distinct : platform.nodeNames.Nodup) :
    Does describedIds
      (fun configuration => ∃ footprint : Footprint, footprint.IsOf platforms configuration)
      platform.addAll
      fun _ configuration =>
        ∃ footprint : Footprint, footprint.IsOf (platforms ++ [platform]) configuration := by
  rw [platform.addAll_eq]
  refine Does.exists_pre fun footprint => ?_
  refine (lift_does _ _ platform.vendor.toInfo).bind fun info => ?_
  have vendor := (((storeVendor_does info).also
    (storeVendor_yields (IsNamed footprint.tables) footprint.lots info)).keep
    ((Stable.const _ (platform.vendor.toInfo = .ok info)).and
      ((hasPlain_stable (by decide) platforms).and
        (Footprint.Realizes.stable (by decide) (by decide) footprint platforms)))).widen
    (by decide : _ ⊆ describedIds)
  have plain := ((addPlain_does (IsNamed footprint.tables) footprint.lots platforms platform).keep
    ((HoldsVendor.stable (by decide) (platforms ++ [platform])).and
      (Footprint.Realizes.stable (by decide) (by decide) footprint platforms))).widen
    (by decide : _ ⊆ describedIds)
  refine (vendor.weaken (fun _ ⟨own, isOf⟩ => ⟨⟨isOf.vendor.imp fun _ both => both.2, isOf.lots⟩,
    own, isOf.plain, isOf.toRealizes⟩) fun _ _ => id).bind fun _ => ?_
  have last : ∀ configuration : Configuration, platform.vendor.toInfo = .ok info →
      configuration.store.found (Record.objectId ManagerInfo) .null =
        [Entry.ofRecords .null [info]] →
          HoldsVendor (platforms ++ [platform]) configuration.store := by
    refine fun configuration own found => ⟨info, ?_, found⟩
    unfold Platform.IsVendor
    rw [List.getLast?_concat]
    exact own
  refine (plain.weaken (fun _ ⟨⟨found, lots⟩, own, plain, realizes⟩ =>
    ⟨⟨plain, lots⟩, last _ own found, realizes⟩) fun _ _ => id).bind fun _ => ?_
  exact (addRest_does platforms platform distinct footprint).weaken
    (fun _ ⟨⟨plain, lots⟩, vendor, realizes⟩ => ⟨⟨vendor, plain⟩, realizes, lots⟩) fun _ _ => id

/-! ### Configured managers -/

/-- A manager that was installed when it was new, and then had descriptions applied to it, all of
them accepted, the last at the end; tokens may have been issued in between. -/
inductive Configured {σ : Type} (host : σ) : List Platform → Manager σ → Prop where
  /-- A new manager is installed; nothing waits for that, so that one step ends it. -/
  | installed : Configured host [] (Manager.new host).install.step.manager
  /-- A token is issued. -/
  | issued {platforms : List Platform} {manager : Manager σ}
      (before : Configured host platforms manager) :
      Configured host platforms
        { manager with configuration := manager.configuration.newToken.2 }
  /-- A description is applied. -/
  | applied {platforms : List Platform} {platform : Platform} {manager after : Manager σ}
      (before : Configured host platforms manager)
      (accepted : platform.apply manager = (.ok (), after)) :
      Configured host (platforms ++ [platform]) after

namespace Configured

variable {σ : Type} {host : σ}

theorem install_new (host : σ) :
    (Manager.new host).install.step =
      ⟨{ Manager.new host with
          configuration := ⟨⟨[Entry.ofRecords .null [(default : ManagerInfo)]]⟩, 0⟩
          installed := true }, [], some (.ok 0)⟩ := rfl

theorem apply_eq_ok {platform : Platform} {manager after : Manager σ}
    (done : platform.apply manager = (.ok (), after)) :
    platform.validate = .ok () ∧
      platform.addAll manager.configuration = (.ok (), after.configuration) := by
  unfold Platform.apply at done
  cases run : platform.populate manager.installed manager.configuration with
  | mk outcome configuration =>
    rw [run] at done
    obtain ⟨rfl, rfl⟩ := Prod.mk.inj done
    unfold Platform.populate at run
    split at run
    · cases (Prod.mk.inj run).1
    · cases checked : platform.validate with
      | error error =>
        rw [checked] at run
        cases (Prod.mk.inj run).1
      | ok value =>
        rw [checked] at run
        exact ⟨rfl, run⟩

/-- **What is stored in the end.** -/
theorem footprint {platforms : List Platform} {manager : Manager σ}
    (configured : Configured host platforms manager)
    (small : manager.configuration.issued < UInt64.size) :
    manager.configuration.IsIssued ∧
      ∃ footprint : Footprint, footprint.IsOf platforms manager.configuration := by
  induction configured with
  | installed =>
    rw [install_new]
    have lone : ∀ entry ∈ [Entry.ofRecords .null [(default : ManagerInfo)]],
        entry.token = .null ∧ entry.id = Record.objectId ManagerInfo := by
      intro entry inside
      rw [List.mem_singleton.mp inside]
      exact ⟨rfl, rfl⟩
    refine ⟨fun entry inside => .inl (lone entry inside).1, default, ⟨rfl, ?_, ⟨rfl, .nil⟩, ?_⟩,
      ⟨default, rfl, rfl⟩, fun list inside => ⟨Nat.zero_le _, ?_⟩, ?_⟩
    · exact ⟨fun _ _ _ _ _ _ _ absurd => (nomatch absurd), fun _ absurd => (nomatch absurd)⟩
    · exact ⟨Nat.zero_le _, rfl, .nil⟩
    · have other : Record.objectId ManagerInfo ≠ list.id :=
        (by decide : ∀ id ∈ PlainList.ids, Record.objectId ManagerInfo ≠ id) _
          (List.mem_map_of_mem inside)
      refine List.filter_eq_nil_iff.mpr fun entry member found => other ?_
      rw [← (lone entry member).2]
      exact eq_of_beq (Bool.and_eq_true_iff.mp found).1
    · refine ⟨fun _ ⟨_, absurd, _⟩ => (nomatch absurd), fun _ _ ⟨_, absurd, _⟩ => (nomatch absurd),
        fun entry inside _ => ?_, .nil, .refl _⟩
      rw [(lone entry inside).2]
      decide
  | @issued platforms manager before ih =>
    obtain ⟨issued, footprint, isOf⟩ := ih (Nat.lt_of_succ_lt small)
    have token := (Population.newToken_does []).also
      (Population.newToken_yields (IsNamed footprint.tables) footprint.lots)
    obtain ⟨grows, _, lots, _⟩ :=
      (token manager.configuration _ _ rfl).2 small issued ⟨trivial, isOf.lots⟩
    exact ⟨grows.issued issued, footprint,
      Footprint.Realizes.stable (by decide) (by decide) _ _ _ _ grows isOf.toRealizes,
      HoldsVendor.stable (by decide) _ _ _ grows isOf.vendor,
      hasPlain_stable (by decide) platforms _ _ grows isOf.plain, lots⟩
  | @applied platforms platform manager after before accepted ih =>
    obtain ⟨valid, run⟩ := apply_eq_ok accepted
    obtain ⟨distinct, _⟩ := Platform.validate_eq_ok valid
    obtain ⟨least, rest⟩ := addAll_does platforms platform distinct _ _ _ run
    obtain ⟨issued, before⟩ := ih (Nat.lt_of_le_of_lt least small)
    obtain ⟨grows, reached⟩ := rest small issued before
    exact ⟨grows.issued issued, reached⟩

/-- **What the tables are built from.** -/
theorem describes {platforms : List Platform} {manager : Manager σ}
    (configured : Configured host platforms manager)
    (small : manager.configuration.issued < UInt64.size) :
    manager.configuration.IsIssued ∧ Describes platforms manager.configuration := by
  obtain ⟨issued, footprint, isOf⟩ := configured.footprint small
  exact ⟨issued, isOf.describes⟩

theorem consistent {platforms : List Platform} {manager : Manager σ}
    (configured : Configured host platforms manager) :
    ∀ platform ∈ platforms, platform.validate = .ok () := by
  induction configured with
  | installed => exact fun _ absurd => nomatch absurd
  | issued _ ih => exact ih
  | applied before accepted ih =>
    intro platform inside
    rcases List.mem_append.mp inside with inside | inside
    · exact ih platform inside
    · rw [List.mem_singleton.mp inside]
      exact (apply_eq_ok accepted).1

end Configured

end FirmwareTables
