/-
**The lists of descriptions in a store.**

Apart from nodes, a description has plain lists, which are stored as they are (`addPlain_does`), a
record about the vendor, which takes the place of the old one (`storeVendor_does`), and initiators,
each of which is stored with the handle of its device under a token of its own
(`addInitiators_does`). What earlier descriptions stored stays in front.
-/

import FirmwareTables.Proofs.Platform.Lots

namespace FirmwareTables

open Population (Does Yields)

/-! ### Plain lists -/

/-- A list of records that a description has ready. -/
structure PlainList where
  /-- The type of the records. -/
  α : Type
  /-- How they are stored. -/
  record : Record α
  /-- The records of a description. -/
  records : Platform → List α

attribute [instance] PlainList.record

namespace PlainList

/-- The object of a list. -/
def id (list : PlainList) : ObjectId := Record.objectId list.α

/-- Stores the list of a description. -/
def add (platform : Platform) (list : PlainList) : Population Unit :=
  Population.addRecords .null (list.records platform)

/-- The lists in the order in which they are stored. -/
def all : List PlainList :=
  [⟨TableRequest, inferInstance, Platform.tables⟩,
    ⟨CpuInterface, inferInstance, Platform.cpuInterfaces⟩,
    ⟨Distributor, inferInstance, Platform.distributors⟩,
    ⟨MsiFrame, inferInstance, Platform.msiFrames⟩,
    ⟨Redistributor, inferInstance, Platform.redistributors⟩,
    ⟨TranslationService, inferInstance, Platform.translationServices⟩,
    ⟨ConfigSpace, inferInstance, Platform.configSpaces⟩,
    ⟨MemoryAffinity, inferInstance, Platform.memoryAffinities⟩]

/-- The objects of the lists. -/
def ids : List ObjectId := all.map id

/-- A store holds the list of some descriptions, one after the other. -/
def IsHeld (platforms : List Platform) (store : Store) (list : PlainList) : Prop :=
  (platforms.flatMap list.records).length ≤ maxCount ∧
    store.found list.id .null = Entry.listOf .null (platforms.flatMap list.records)

theorem IsHeld.stable {ids : List ObjectId} {list : PlainList} (apart : list.id ∉ ids)
    (platforms : List Platform) :
    Stable ids fun configuration => list.IsHeld platforms configuration.store :=
  fun _ _ grows ⟨few, found⟩ => ⟨few, (grows.found_eq apart .null).trans found⟩

theorem add_does (list : PlainList) (plain : list.id ∉ arrayIds) (platforms : List Platform)
    (platform : Platform) :
    Does [list.id] (fun configuration => list.IsHeld platforms configuration.store)
      (list.add platform)
      fun _ configuration => list.IsHeld (platforms ++ [platform]) configuration.store := by
  have add := Population.addRecords_does .null (platforms.flatMap list.records)
    (list.records platform)
  refine add.weaken (fun _ ⟨few, found⟩ => ?_) fun _ configuration stored => ?_
  · exact ⟨.inl rfl, fun array => absurd array plain, found, few⟩
  · have whole : (platforms ++ [platform]).flatMap list.records =
        platforms.flatMap list.records ++ list.records platform := by
      rw [List.flatMap_append, List.flatMap_cons, List.flatMap_nil, List.append_nil]
    unfold IsHeld
    rw [whole]
    exact stored

theorem add_yields {list : PlainList} (inside : list ∈ all) (reserved : Token → Prop)
    (lots : List Lot) (platform : Platform) :
    Yields (HasLots reserved lots) (list.add platform) fun _ => HasLots reserved lots :=
  Population.addRecords_yields reserved lots
    ((by decide : ∀ id ∈ ids, id ∈ untaggedIds) _ (List.mem_map_of_mem inside)) _

end PlainList

/-- The lists already stored are those with one more description, the others are as before. -/
def HoldsPart (platforms : List Platform) (platform : Platform) (done rest : List PlainList)
    (store : Store) : Prop :=
  (∀ list ∈ done, list.IsHeld (platforms ++ [platform]) store) ∧
    ∀ list ∈ rest, list.IsHeld platforms store

/-- Storing a list leaves those of other objects as they are. -/
theorem HoldsPart.stable (platforms : List Platform) (platform : Platform) {list : PlainList}
    {done rest : List PlainList} (distinct : ((done ++ list :: rest).map PlainList.id).Nodup) :
    Stable [list.id] fun configuration =>
      HoldsPart platforms platform done rest configuration.store := by
  rw [List.map_append, List.map_cons] at distinct
  obtain ⟨_, behind, disjoint⟩ := List.nodup_append.mp distinct
  have fresh := (List.nodup_cons.mp behind).1
  intro before after grows ⟨new, old⟩
  refine ⟨fun other member => ?_, fun other member => ?_⟩
  · have apart : other.id ∉ [list.id] := by
      intro inside
      have same := List.mem_singleton.mp inside
      exact disjoint _ (List.mem_map_of_mem member) _ List.mem_cons_self same
    exact PlainList.IsHeld.stable apart _ before after grows (new other member)
  · have apart : other.id ∉ [list.id] := by
      intro same
      rw [← List.mem_singleton.mp same] at fresh
      exact fresh (List.mem_map_of_mem member)
    exact PlainList.IsHeld.stable apart _ before after grows (old other member)

theorem addPart_does (reserved : Token → Prop) (lots : List Lot) (platforms : List Platform)
    (platform : Platform) {list : PlainList} {done rest : List PlainList}
    (split : PlainList.all = done ++ list :: rest) :
    Does PlainList.ids
      (fun configuration =>
        HoldsPart platforms platform done (list :: rest) configuration.store ∧
          HasLots reserved lots configuration)
      (list.add platform)
      fun _ configuration =>
        HoldsPart platforms platform (done ++ [list]) rest configuration.store ∧
          HasLots reserved lots configuration := by
  have inside : list ∈ PlainList.all := by
    rw [split]
    exact List.mem_append_right _ List.mem_cons_self
  have distinct : (PlainList.all.map PlainList.id).Nodup := by decide
  have plain : list.id ∉ arrayIds :=
    (by decide : ∀ id ∈ PlainList.ids, id ∉ arrayIds) _ (List.mem_map_of_mem inside)
  rw [split] at distinct
  have add := (((list.add_does plain platforms platform).keep
    (HoldsPart.stable platforms platform distinct)).also
    (PlainList.add_yields inside reserved lots platform)).widen
    (List.cons_subset.mpr ⟨List.mem_map_of_mem inside, List.nil_subset PlainList.ids⟩)
  refine add.weaken ?_ ?_
  · intro configuration ⟨⟨new, old⟩, has⟩
    exact ⟨⟨old list List.mem_cons_self, new, fun other member =>
      old other (List.mem_cons_of_mem _ member)⟩, has⟩
  · intro _ configuration ⟨⟨own, new, old⟩, has⟩
    refine ⟨⟨fun other member => ?_, old⟩, has⟩
    rcases List.mem_append.mp member with member | member
    · exact new other member
    · rw [List.mem_singleton.mp member]
      exact own

/-- **The plain lists of a description** are stored behind those of earlier ones. -/
theorem addPlain_does (reserved : Token → Prop) (lots : List Lot) (platforms : List Platform)
    (platform : Platform) :
    Does PlainList.ids
      (fun configuration =>
        (∀ list ∈ PlainList.all, list.IsHeld platforms configuration.store) ∧
          HasLots reserved lots configuration)
      (PlainList.all.forM (PlainList.add platform))
      fun _ configuration =>
        (∀ list ∈ PlainList.all, list.IsHeld (platforms ++ [platform]) configuration.store) ∧
          HasLots reserved lots configuration := by
  have loop := @Does.forM PlainList.ids _ (PlainList.add platform) PlainList.all
    fun done rest configuration =>
      HoldsPart platforms platform done rest configuration.store ∧
        HasLots reserved lots configuration
  refine (loop fun done list rest split =>
    addPart_does reserved lots platforms platform split).weaken ?_ ?_
  · intro configuration ⟨holds, has⟩
    exact ⟨⟨fun _ absurd => (nomatch absurd), holds⟩, has⟩
  · intro _ configuration ⟨stored, has⟩
    exact ⟨stored.1, has⟩

/-! ### The vendor -/

/-- There is one record about the vendor. -/
def HasVendor (store : Store) : Prop :=
  ∃ info : ManagerInfo,
    store.found (Record.objectId ManagerInfo) .null = [Entry.ofRecords .null [info]]

theorem storeVendor_eq {info : ManagerInfo} {before after : Configuration} {value : Unit}
    (done : Platform.storeVendor info before = (.ok value, after)) :
    after = { before with store := before.store.put (.ofRecords .null [info]) } := by
  have few : [info].length ≤ maxCount := (by decide : 1 ≤ maxCount)
  unfold Platform.storeVendor at done
  rw [Store.setObjects_eq few] at done
  exact (Prod.mk.inj done).2.symm

/-- A record about the vendor rewrites what is under its object. -/
theorem rewrites_vendor (info : ManagerInfo) (store : Store) :
    store.Rewrites (Record.objectId ManagerInfo) .null (store.put (.ofRecords .null [info])) :=
  fun _ step start => step _ _ rfl rfl start

/-- **The record about the vendor** takes the place of the old one. -/
theorem storeVendor_does (info : ManagerInfo) :
    Does [Record.objectId ManagerInfo] (fun configuration => HasVendor configuration.store)
      (Platform.storeVendor info) fun _ configuration =>
        configuration.store.found (Record.objectId ManagerInfo) .null =
          [Entry.ofRecords .null [info]] := by
  intro before value after done
  rw [storeVendor_eq done]
  refine ⟨Nat.le_refl _, fun _ _ ⟨old, found⟩ => ⟨?_, ?_⟩⟩
  · exact Population.grows_of_rewrites (rewrites_vendor info before.store) (.inl rfl)
      fun array => absurd array (by decide)
  · exact @Store.found_put before.store (Entry.ofRecords .null [info])
      (.inr ⟨_, Entry.isAt_self (Entry.ofRecords .null [old]), found⟩)

theorem storeVendor_yields (reserved : Token → Prop) (lots : List Lot) (info : ManagerInfo) :
    Yields (HasLots reserved lots) (Platform.storeVendor info) fun _ => HasLots reserved lots := by
  intro before value after done _ _ has
  rw [storeVendor_eq done]
  exact has.of_rewrites (rewrites_vendor info before.store) (by decide)

/-! ### Initiators -/

/-- The number by which records say of what kind the handle of a device is. -/
def Device.type : Device → UInt8
  | acpi _ => AcpiHandle.deviceType
  | pci _ => PciHandle.deviceType

/-- The object that the handle of a device is. -/
def Device.object : Device → ObjectId
  | acpi _ => Record.objectId AcpiHandle
  | pci _ => Record.objectId PciHandle

/-- The handle of a device is all that is stored under a token. -/
def Device.IsHeld (store : Store) (token : Token) : Device → Prop
  | acpi handle => IsStored store [handle] 1 token
  | pci handle => IsStored store [handle] 1 token

/-- A record is that of a section, with the handle of the device stored under its token. -/
def InitiatorSection.Realizes (store : Store) (initiator : InitiatorSection)
    (record : GenericInitiator) : Prop :=
  record = ⟨initiator.proximityDomain, initiator.flags, initiator.device.type,
    record.deviceHandleToken⟩ ∧ initiator.device.IsHeld store record.deviceHandleToken

/-- The records of initiators are those of these sections. -/
structure HoldsInitiators (initiators : List InitiatorSection) (records : List GenericInitiator)
    (store : Store) : Prop where
  /-- They can be counted. -/
  few : records.length ≤ maxCount
  /-- The records. -/
  found : store.found (Record.objectId GenericInitiator) .null = Entry.listOf .null records
  /-- What the records are of. -/
  realized : List.Forall₂ (InitiatorSection.Realizes store) initiators records

/-- The objects that handles are. -/
def handleIds : List ObjectId := [Record.objectId AcpiHandle, Record.objectId PciHandle]

/-- The objects that are stored for initiators. -/
def initiatorIds : List ObjectId := Record.objectId GenericInitiator :: handleIds

theorem Device.IsHeld.stable (ids : List ObjectId) (token : Token) (device : Device) :
    Stable ids fun configuration => device.IsHeld configuration.store token := by
  cases device <;> exact IsStored.stable ids (by decide) _ _ _

theorem InitiatorSection.Realizes.stable (ids : List ObjectId) (initiators : List InitiatorSection)
    (records : List GenericInitiator) :
    Stable ids fun configuration =>
      List.Forall₂ (InitiatorSection.Realizes configuration.store) initiators records := by
  intro before after grows realized
  refine realized.imp fun initiator record ⟨same, held⟩ => ⟨same, ?_⟩
  exact Device.IsHeld.stable ids _ initiator.device before after grows held

theorem HoldsInitiators.stable {ids : List ObjectId}
    (apart : Record.objectId GenericInitiator ∉ ids) (initiators : List InitiatorSection)
    (records : List GenericInitiator) :
    Stable ids fun configuration => HoldsInitiators initiators records configuration.store :=
  fun before after grows ⟨few, found, realized⟩ =>
    ⟨few, (grows.found_eq apart .null).trans found,
      InitiatorSection.Realizes.stable ids initiators records before after grows realized⟩

/-- The lot of the handle that a record of an initiator refers to. -/
def GenericInitiator.lot (record : GenericInitiator) : Lot where
  id :=
    if record.deviceHandleType = AcpiHandle.deviceType then Record.objectId AcpiHandle
    else Record.objectId PciHandle
  token := record.deviceHandleToken
  count := 1

theorem InitiatorSection.Realizes.lot_eq {store : Store} {initiator : InitiatorSection}
    {record : GenericInitiator} (realizes : initiator.Realizes store record) :
    record.lot = ⟨initiator.device.object, record.deviceHandleToken, 1⟩ := by
  obtain ⟨same, _⟩ := realizes
  unfold GenericInitiator.lot
  rw [same]
  cases initiator.device <;> rfl

/-- A handle is stored under a new token. -/
theorem Population.addHandle_does {α : Type} [Record α] (reserved : Token → Prop) (lots : List Lot)
    (own : Record.objectId α ∈ handleIds) (token : Token) (handle : α) (type : UInt8) :
    Does handleIds
      (fun configuration => (configuration.HasIssued token ∧ token.isNull = false ∧
        ∀ entry ∈ configuration.store.entries, entry.token ≠ token) ∧
          HasLots reserved lots configuration ∧ ¬ reserved token)
      (addRecord token handle >>= fun _ => pure type)
      fun value configuration => value = type ∧ IsStored configuration.store [handle] 1 token ∧
        HasLots reserved (⟨Record.objectId α, token, 1⟩ :: lots) configuration := by
  have add := ((addNew_does token handle []).also
    (addNew_yields reserved lots token handle [])).widen
    (List.cons_subset.mpr ⟨own, List.nil_subset handleIds⟩)
  refine (add.weaken ?_ fun _ _ => id).bind fun _ => ?_
  · rintro configuration ⟨⟨issued, named, unused⟩, has, free⟩
    exact ⟨⟨issued, named, unused⟩, ⟨named, unused, fun taken => absurd taken free⟩, has⟩
  · have made := Does.pure handleIds type fun value configuration =>
      value = type ∧ IsStored configuration.store [handle] 1 token ∧
        HasLots reserved (⟨Record.objectId α, token, 1⟩ :: lots) configuration
    exact made.weaken (fun _ both => ⟨rfl, both⟩) fun _ _ => id

theorem Device.add_does (reserved : Token → Prop) (lots : List Lot) (token : Token)
    (device : Device) :
    Does handleIds
      (fun configuration => (configuration.HasIssued token ∧ token.isNull = false ∧
        ∀ entry ∈ configuration.store.entries, entry.token ≠ token) ∧
          HasLots reserved lots configuration ∧ ¬ reserved token)
      (device.add token)
      fun type configuration => type = device.type ∧ device.IsHeld configuration.store token ∧
        HasLots reserved (⟨device.object, token, 1⟩ :: lots) configuration := by
  cases device with
  | acpi handle => exact Population.addHandle_does reserved lots (by decide) token handle AcpiHandle.deviceType
  | pci handle => exact Population.addHandle_does reserved lots (by decide) token handle PciHandle.deviceType

theorem addInitiator_does (reserved : Token → Prop) (lots : List Lot)
    (initiator : InitiatorSection) (initiators : List InitiatorSection)
    (records : List GenericInitiator) :
    Does initiatorIds
      (fun configuration => HoldsInitiators initiators records configuration.store ∧
        HasLots reserved lots configuration)
      initiator.add
      fun _ configuration => ∃ record,
        HoldsInitiators (initiators ++ [initiator]) (records ++ [record]) configuration.store ∧
          HasLots reserved (record.lot :: lots) configuration := by
  have apart : Record.objectId GenericInitiator ∉ handleIds := by decide
  have within : handleIds ⊆ initiatorIds := List.subset_cons_self _ _
  have kept := HoldsInitiators.stable apart initiators records
  unfold InitiatorSection.add
  have fresh := (((Population.newToken_does handleIds).also
    (Population.newToken_yields reserved lots)).keep kept).widen within
  refine (fresh.weaken (fun _ ⟨holds, has⟩ => ⟨⟨trivial, has⟩, holds⟩) fun _ _ => id).bind
    fun token => ?_
  have device := ((initiator.device.add_does reserved lots token).keep kept).widen within
  refine device.bind fun type => ?_
  have record := (((Population.addRecords_does .null records
    [(⟨initiator.proximityDomain, initiator.flags, type, token⟩ : GenericInitiator)]).also
    (Population.addRecords_yields reserved (⟨initiator.device.object, token, 1⟩ :: lots)
      (by decide) _)).keep
    ((Stable.const _ (type = initiator.device.type)).and
      ((Device.IsHeld.stable _ token initiator.device).and
        (InitiatorSection.Realizes.stable _ initiators records))))
  refine (record.widen (by decide : _ ⊆ initiatorIds)).weaken ?_ ?_
  · intro configuration ⟨⟨same, held, has⟩, holds⟩
    exact ⟨⟨⟨.inl rfl, fun array => absurd array (by decide), holds.found, holds.few⟩, has⟩, same,
      held, holds.realized⟩
  · intro _ configuration ⟨⟨⟨few, found⟩, has⟩, same, held, realized⟩
    have realizes : initiator.Realizes configuration.store
        ⟨initiator.proximityDomain, initiator.flags, type, token⟩ := ⟨by rw [same], held⟩
    refine ⟨_, ⟨few, found, List.rel_append realized (.cons realizes .nil)⟩, ?_⟩
    rw [realizes.lot_eq]
    exact has

/-- Initiators are stored, and their handles are all lots but certain others. -/
def StoresInitiators (reserved : Token → Prop) (others : List Lot)
    (initiators : List InitiatorSection) (configuration : Configuration) : Prop :=
  ∃ records, HoldsInitiators initiators records configuration.store ∧
    HasLots reserved (others ++ records.map GenericInitiator.lot) configuration

/-- **The initiators of a description are stored** behind those of earlier ones. -/
theorem addInitiators_does (reserved : Token → Prop) (others : List Lot)
    (initiators added : List InitiatorSection) :
    Does initiatorIds (StoresInitiators reserved others initiators)
      (added.forM InitiatorSection.add)
      fun _ => StoresInitiators reserved others (initiators ++ added) := by
  have loop := @Does.forM initiatorIds _ InitiatorSection.add added fun done _ =>
    StoresInitiators reserved others (initiators ++ done)
  refine (loop fun done initiator rest _ => ?_).weaken (fun _ holds => ?_) fun _ _ => id
  · rw [← List.append_assoc]
    refine Does.exists_pre fun records => ?_
    refine (addInitiator_does reserved _ initiator (initiators ++ done) records).weaken
      (fun _ => id) fun _ configuration ⟨record, holds, has⟩ => ⟨_, holds, ?_⟩
    rw [List.map_append, List.map_singleton, ← List.append_assoc]
    exact has.perm (List.perm_append_singleton _ _).symm
  · rw [List.append_nil]
    exact holds

end FirmwareTables
