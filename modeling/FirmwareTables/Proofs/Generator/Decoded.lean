/-
**Structures are read back.**

A consumer who knows the shapes of the structures reads the records again out of a built table of
interrupt controllers, configuration space or affinity: the structures of a type are those of the
records that the view lists, in order, each field at its fixed distance, and all other bytes are
zero (`Supply.IsDecoded`). So two views from which one table is built list the same records, but for
what the table leaves out (`Supply.emitted`, `builtin_decoded`).

* `Madt.exists_decoded`, `Srat.exists_decoded`, `Mcfg.exists_decoded`: what is found in a table;
* `Madt.Supply.IsDecoded.unique` and the like: a table settles what it was built from;
* `GenericInitiator.IsShown.unique`: the same for one initiator and its device.
-/

import FirmwareTables.Proofs.Generator.Acceptance
import FirmwareTables.Proofs.Generator.Initiators

namespace FirmwareTables

/-! ### The front -/

theorem TableKind.front_isReadIn {kind : TableKind} {request : TableRequest} {view : View}
    {table : Table} (regular : kind.IsRegular)
    (built : (kind.build request view).result = .ok table) {form : Form}
    (starts : ∀ header : Header, header.revision = request.revision → ∀ plan fields,
      kind.fields plan = .ok fields →
        ∀ field ∈ form, Piece.startsAt? (header.pieces ++ fields) field.1 = some field.2) :
    form.IsReadIn table.bytes 0 := by
  obtain ⟨_, info, plan, images, fields, _, _, _, made, bytes⟩ := (build_eq_ok regular).mp built
  have read := Form.isReadIn_of_startsAt [] images.flatten
    (starts (Header.filled kind.toProfile request info plan.totalLength) rfl plan fields made)
  rw [bytes]
  exact read

/-! ### Interrupt controllers -/

namespace Madt

/-- The structure of a processor interface. Its last field stays empty in revision 4. -/
def interfaceShape (revision : UInt8) : Shape CpuInterface where
  type := 0x0b
  length := 80
  form record :=
    [(0, .byte 0x0b), (1, .byte 80), (2, .zeros 2), (4, .word record.cpuInterfaceNumber),
      (8, .word record.acpiProcessorUid), (12, .word record.flags),
      (16, .word record.parkingProtocolVersion), (20, .word record.performanceInterruptGsiv),
      (24, .long record.parkedAddress), (32, .long record.physicalBaseAddress),
      (40, .long record.gicv), (48, .long record.gich), (56, .word record.vgicMaintenanceInterrupt),
      (60, .long record.gicrBaseAddress), (68, .long record.mpidr),
      (76, .byte record.processorPowerEfficiencyClass), (77, .zeros 1),
      (78, .half (if 4 < revision then record.speOverflowInterrupt else 0))]
  emitted record :=
    { record with
      speOverflowInterrupt := if 4 < revision then record.speOverflowInterrupt else 0
      proximityDomain := 0, clockDomain := 0, affinityFlags := 0 }

def distributorShape : Shape Distributor where
  type := 0x0c
  length := 24
  form record :=
    [(0, .byte 0x0c), (1, .byte 24), (2, .zeros 2), (4, .word 0),
      (8, .long record.physicalBaseAddress), (16, .word 0), (20, .byte record.gicVersion),
      (21, .zeros 3)]
  emitted record := record

def msiFrameShape : Shape MsiFrame where
  type := 0x0d
  length := 24
  form record :=
    [(0, .byte 0x0d), (1, .byte 24), (2, .zeros 2), (4, .word record.gicMsiFrameId),
      (8, .long record.physicalBaseAddress), (16, .word record.flags), (20, .half record.spiCount),
      (22, .half record.spiBase)]
  emitted record := record

def redistributorShape : Shape Redistributor where
  type := 0x0e
  length := 16
  form record :=
    [(0, .byte 0x0e), (1, .byte 16), (2, .zeros 2), (4, .long record.discoveryRangeBaseAddress),
      (12, .word record.discoveryRangeLength)]
  emitted record := record

/-- The structure of a translation service, which says nothing of its proximity domain. -/
def serviceShape : Shape TranslationService where
  type := 0x0f
  length := 20
  form record :=
    [(0, .byte 0x0f), (1, .byte 20), (2, .zeros 2), (4, .word record.gicItsId),
      (8, .long record.physicalBaseAddress), (16, .zeros 4)]
  emitted record := { record with proximityDomain := 0 }

theorem interfaceShape_isFaithful (revision : UInt8) : (interfaceShape revision).IsFaithful where
  fields _ _ := rfl
  covers _ := by simp [interfaceShape, Form.Covers, Piece.length]
  settled one other same := by simp_all [interfaceShape]

theorem distributorShape_isFaithful : distributorShape.IsFaithful where
  fields _ _ := rfl
  covers _ := by simp [distributorShape, Form.Covers, Piece.length]
  settled one other same := by
    cases one
    cases other
    simp_all [distributorShape]

theorem msiFrameShape_isFaithful : msiFrameShape.IsFaithful where
  fields _ _ := rfl
  covers _ := by simp [msiFrameShape, Form.Covers, Piece.length]
  settled one other same := by
    cases one
    cases other
    simp_all [msiFrameShape]

theorem redistributorShape_isFaithful : redistributorShape.IsFaithful where
  fields _ _ := rfl
  covers _ := by simp [redistributorShape, Form.Covers, Piece.length]
  settled one other same := by
    cases one
    cases other
    simp_all [redistributorShape]

theorem serviceShape_isFaithful : serviceShape.IsFaithful where
  fields _ _ := rfl
  covers _ := by simp [serviceShape, Form.Covers, Piece.length]
  settled one other same := by simp_all [serviceShape]

namespace Supply

/-- Records of all kinds are read in a table. -/
structure IsDecoded (supply : Supply) (revision : UInt8) (bytes : Bytes) (mets : List Met) :
    Prop where
  /-- A walk from byte 44 on meets the structures. -/
  walked : LengthForm.short.walk bytes 44 = some mets
  /-- The revision and eight zero bytes stand in front of them. -/
  front : Form.IsReadIn [(8, .byte revision), (36, .word 0), (40, .word 0)] bytes 0
  /-- The interfaces are shown in their order. -/
  cpuInterfaces : (interfaceShape revision).Shows bytes supply.cpuInterfaces mets
  /-- So are the distributors. -/
  distributors : distributorShape.Shows bytes supply.distributors mets
  /-- So are the frames of message-signalled interrupts. -/
  msiFrames : msiFrameShape.Shows bytes supply.msiFrames mets
  /-- So are the redistributors. -/
  redistributors : redistributorShape.Shows bytes supply.redistributors mets
  /-- So are the translation services. -/
  translationServices : serviceShape.Shows bytes supply.translationServices mets

/-- What a table tells of records of all kinds. -/
def emitted (revision : UInt8) (supply : Supply) : Supply where
  cpuInterfaces := supply.cpuInterfaces.map (interfaceShape revision).emitted
  distributors := supply.distributors.map distributorShape.emitted
  msiFrames := supply.msiFrames.map msiFrameShape.emitted
  redistributors := supply.redistributors.map redistributorShape.emitted
  translationServices := supply.translationServices.map serviceShape.emitted

variable {supply others : Supply} {revision another : UInt8} {bytes : Bytes} {mets found : List Met}

/-- **A table settles the records** that are read in it. -/
theorem IsDecoded.unique (one : supply.IsDecoded revision bytes mets)
    (other : others.IsDecoded another bytes found) :
    revision = another ∧ supply.emitted revision = others.emitted another := by
  obtain rfl := Option.some.inj (one.walked.symm.trans other.walked)
  have same := Form.eq_of_isReadIn (by rfl) one.front other.front
  obtain rfl : revision = another := by simpa using same
  refine ⟨rfl, ?_⟩
  unfold emitted
  rw [one.cpuInterfaces.unique (interfaceShape_isFaithful revision) other.cpuInterfaces,
    one.distributors.unique distributorShape_isFaithful other.distributors,
    one.msiFrames.unique msiFrameShape_isFaithful other.msiFrames,
    one.redistributors.unique redistributorShape_isFaithful other.redistributors,
    one.translationServices.unique serviceShape_isFaithful other.translationServices]

end Supply

/-- **The records are read again** in a table of interrupt controllers. -/
theorem exists_decoded {view : View} {request : TableRequest} {table : Table}
    (built : (kind.build request view).result = .ok table) :
    ∃ supply : Supply, supply.IsListed view ∧
      ∃ mets, supply.IsDecoded request.revision table.bytes mets := by
  obtain ⟨groups, mets, index, loads, walked, each⟩ :=
    TableKind.walk_ofType isRegular states_all (by decide) built
  obtain ⟨supply, listed, -, rfl⟩ := Supply.loads_iff.mp loads
  simp only [Supply.groups, List.forall₂_cons] at each
  obtain ⟨interfaces, distributors, frames, redistributors, services, -⟩ := each
  refine ⟨supply, listed, mets, walked, ?_, ?_, ?_, ?_, ?_, ?_⟩
  · refine TableKind.front_isReadIn isRegular built fun header same plan fields made => ?_
    cases made
    simp [Header.pieces, Piece.startsAt?, Piece.length, header.oemId.length_bytes, same]
  · exact Shape.shows_of_stands (interfaceShape_isFaithful _)
      (fun _ _ => by simp [structureOf, interfaceShape])
      (fun _ => List.map_inj_left.mp rfl) interfaces
  · exact Shape.shows_of_stands distributorShape_isFaithful
      (fun _ _ => by simp [structureOf, distributorShape])
      (fun _ => List.map_inj_left.mp rfl) distributors
  · exact Shape.shows_of_stands msiFrameShape_isFaithful
      (fun _ _ => by simp [structureOf, msiFrameShape])
      (fun _ => List.map_inj_left.mp rfl) frames
  · exact Shape.shows_of_stands redistributorShape_isFaithful
      (fun _ _ => by simp [structureOf, redistributorShape])
      (fun _ => List.map_inj_left.mp rfl) redistributors
  · exact Shape.shows_of_stands serviceShape_isFaithful
      (fun _ _ => by simp [structureOf, serviceShape])
      (fun _ => List.map_inj_left.mp rfl) services

end Madt

/-! ### Affinity -/

namespace Srat

def interfaceShape : Shape CpuInterface where
  type := 3
  length := 18
  form record :=
    [(0, .byte 3), (1, .byte 18), (2, .word record.proximityDomain),
      (6, .word record.acpiProcessorUid), (10, .word record.affinityFlags),
      (14, .word record.clockDomain)]
  emitted record :=
    { (default : CpuInterface) with
      proximityDomain := record.proximityDomain, acpiProcessorUid := record.acpiProcessorUid
      affinityFlags := record.affinityFlags, clockDomain := record.clockDomain }

def serviceShape : Shape TranslationService where
  type := 4
  length := 12
  form record :=
    [(0, .byte 4), (1, .byte 12), (2, .word record.proximityDomain), (6, .zeros 2),
      (8, .word record.gicItsId)]
  emitted record := { record with physicalBaseAddress := 0 }

/-- The structure of a range of memory, whose start and length are each written in two halves. -/
def memoryShape : Shape MemoryAffinity where
  type := 1
  length := 40
  form record :=
    [(0, .byte 1), (1, .byte 40), (2, .word record.proximityDomain), (6, .zeros 2),
      (8, .word record.baseAddress.toUInt32), (12, .word (record.baseAddress >>> 32).toUInt32),
      (16, .word record.length.toUInt32), (20, .word (record.length >>> 32).toUInt32),
      (24, .zeros 4), (28, .word record.flags), (32, .zeros 8)]
  emitted record := record

theorem toNat_halves (value : UInt64) :
    value.toUInt32.toNat + 4294967296 * (value >>> 32).toUInt32.toNat = value.toNat := by
  have small : value.toNat / 4294967296 < 4294967296 := Nat.div_lt_of_lt_mul value.toNat_lt
  have high : (value >>> 32).toUInt32.toNat = value.toNat / 4294967296 := by
    rw [UInt64.toNat_toUInt32, UInt64.toNat_shiftRight, Nat.shiftRight_eq_div_pow]
    exact Nat.mod_eq_of_lt small
  rw [high, UInt64.toNat_toUInt32]
  exact Nat.mod_add_div _ _

theorem interfaceShape_isFaithful : interfaceShape.IsFaithful where
  fields _ _ := rfl
  covers _ := by simp [interfaceShape, Form.Covers, Piece.length]
  settled one other same := by simp_all [interfaceShape]

theorem serviceShape_isFaithful : serviceShape.IsFaithful where
  fields _ _ := rfl
  covers _ := by simp [serviceShape, Form.Covers, Piece.length]
  settled one other same := by simp_all [serviceShape]

theorem memoryShape_isFaithful : memoryShape.IsFaithful where
  fields _ _ := rfl
  covers _ := by simp [memoryShape, Form.Covers, Piece.length]
  settled one other same := by
    have halves : ∀ {one other : UInt64}, one.toUInt32 = other.toUInt32 →
        (one >>> 32).toUInt32 = (other >>> 32).toUInt32 → one = other := by
      intro one other low high
      rw [← UInt64.toNat_inj, ← toNat_halves one, ← toNat_halves other, low, high]
    obtain ⟨domain, base, length, flags⟩ := one
    obtain ⟨domain', base', length', flags'⟩ := other
    simp only [memoryShape, List.cons.injEq, Prod.mk.injEq, Piece.word.injEq, true_and] at same ⊢
    obtain ⟨rfl, baseLow, baseHigh, lengthLow, lengthHigh, rfl, -⟩ := same
    rw [halves baseLow baseHigh, halves lengthLow lengthHigh]

end Srat

/-- What a table tells of a device: five bits of a device number and three of a function. -/
def Device.emitted : Device → Device
  | acpi handle => acpi handle
  | pci handle =>
    pci { handle with
      deviceNumber := handle.deviceNumber % 32, functionNumber := handle.functionNumber % 8 }

/-- What a table tells of an initiator: not under which token its device is found. -/
def GenericInitiator.emitted (record : GenericInitiator) : GenericInitiator :=
  { record with deviceHandleToken := .null }

/-- The bytes of a handle settle its parts. -/
theorem PciHandle.parts_eq {one other : PciHandle}
    (same : UInt16.ofNat (256 * one.busNumber.toNat + 8 * (one.deviceNumber.toNat % 32) +
      one.functionNumber.toNat % 8) =
        UInt16.ofNat (256 * other.busNumber.toNat + 8 * (other.deviceNumber.toNat % 32) +
          other.functionNumber.toNat % 8)) :
    one.busNumber = other.busNumber ∧ one.deviceNumber % 32 = other.deviceNumber % 32 ∧
      one.functionNumber % 8 = other.functionNumber % 8 := by
  have bus := one.busNumber.toNat_lt
  have bus' := other.busNumber.toNat_lt
  have numbers := congrArg UInt16.toNat same
  rw [UInt16.toNat_ofNat', UInt16.toNat_ofNat'] at numbers
  have device : (32 : UInt8).toNat = 32 := rfl
  have function : (8 : UInt8).toNat = 8 := rfl
  simp only [← UInt8.toNat_inj, UInt8.toNat_mod, device, function]
  omega

theorem Device.emitted_eq {one other : Device} (same : one.form = other.form) :
    one.emitted = other.emitted := by
  cases one with
  | acpi handle =>
    cases other with
    | acpi handle' =>
      obtain ⟨hid, uid⟩ := handle
      obtain ⟨hid', uid'⟩ := handle'
      simp_all [form, emitted]
    | pci handle' => simp [form] at same
  | pci handle =>
    cases other with
    | acpi handle' => simp [form] at same
    | pci handle' =>
      simp only [form, List.cons.injEq, Prod.mk.injEq, Piece.half.injEq, true_and, and_true] at same
      obtain ⟨bus, device, function⟩ := PciHandle.parts_eq same.2
      simp only [emitted, same.1, bus, device, function]

/-- Two views show devices for two initiators of which a table tells the same. -/
def View.ShareDevice (one other : View) (record record' : GenericInitiator) : Prop :=
  ∃ device device', one.HasDevice record device ∧ other.HasDevice record' device' ∧
    device.emitted = device'.emitted

/-- **A structure settles its initiator** and the device. -/
theorem GenericInitiator.IsShown.unique {one other : View} {record record' : GenericInitiator}
    {bytes : Bytes} {met : Met} (shown : record.IsShown one bytes met)
    (shown' : record'.IsShown other bytes met) :
    record.emitted = record'.emitted ∧ one.ShareDevice other record record' := by
  obtain ⟨-, device, has, -, read⟩ := shown
  obtain ⟨-, device', has', -, read'⟩ := shown'
  obtain ⟨before, last⟩ := List.forall_mem_append.mp read
  obtain ⟨before', last'⟩ := List.forall_mem_append.mp read'
  obtain ⟨first, middle⟩ := List.forall_mem_append.mp before
  obtain ⟨first', middle'⟩ := List.forall_mem_append.mp before'
  have firsts := Form.eq_of_isReadIn (by rfl) first first'
  have lasts := Form.eq_of_isReadIn (by rfl) last last'
  simp only [List.cons.injEq, Prod.mk.injEq, Piece.byte.injEq, Piece.word.injEq, true_and,
    and_true] at firsts lasts
  have type : device.type = device'.type := has.type.symm.trans (firsts.1.trans has'.type)
  have blank : Form.blank device.form = Form.blank device'.form := by
    cases device <;> cases device' <;> first | rfl | cases type
  have forms := Form.eq_of_isReadIn blank middle middle'
  refine ⟨?_, device, device', has, has', Device.emitted_eq forms⟩
  unfold emitted
  rw [firsts.1, firsts.2, lasts]

namespace Srat

/-- A number is read from two halves, the lower of them in front. -/
def IsRebuilt (bytes : Bytes) (place : Nat) (value : UInt64) : Prop :=
  ∃ low high, bytes.read? place 4 = some low ∧ bytes.read? (place + 4) 4 = some high ∧
    value.toNat = low + 4294967296 * high

namespace Supply

/-- Records of all kinds are read in a table. -/
structure IsDecoded (supply : Supply) (view : View) (revision : UInt8) (bytes : Bytes)
    (mets : List Met) : Prop where
  /-- A walk from byte 48 on meets the structures. -/
  walked : LengthForm.short.walk bytes 48 = some mets
  /-- The revision, the number one and eight zero bytes stand in front of them. -/
  front : Form.IsReadIn [(8, .byte revision), (36, .word 1), (40, .zeros 8)] bytes 0
  /-- The interfaces are shown in their order. -/
  cpuInterfaces : interfaceShape.Shows bytes supply.cpuInterfaces mets
  /-- So are the translation services. -/
  translationServices : serviceShape.Shows bytes supply.translationServices mets
  /-- So are the ranges of memory. -/
  memories : memoryShape.Shows bytes supply.memories mets
  /-- Start and length of a range of memory are found in two halves. -/
  rebuilt : List.Forall₂ (fun record (met : Met) =>
      IsRebuilt bytes (met.offset + 8) record.baseAddress ∧
        IsRebuilt bytes (met.offset + 16) record.length)
    supply.memories (mets.filter fun met => met.type == 1)
  /-- Each initiator is shown with the device that the view has for it. -/
  initiators : List.Forall₂ (fun (record : GenericInitiator) => record.IsShown view bytes)
    supply.initiators (mets.filter fun met => met.type == 5)

/-- What a table tells of records of all kinds. -/
def emitted (supply : Supply) : Supply where
  cpuInterfaces := supply.cpuInterfaces.map interfaceShape.emitted
  translationServices := supply.translationServices.map serviceShape.emitted
  memories := supply.memories.map memoryShape.emitted
  initiators := supply.initiators.map GenericInitiator.emitted

/-- **A table settles the records** that are read in it, and the devices of the initiators. -/
theorem IsDecoded.unique {supply others : Supply} {view view' : View} {revision another : UInt8}
    {bytes : Bytes} {mets found : List Met} (one : supply.IsDecoded view revision bytes mets)
    (other : others.IsDecoded view' another bytes found) :
    revision = another ∧ supply.emitted = others.emitted ∧
      List.Forall₂ (view.ShareDevice view') supply.initiators others.initiators := by
  obtain rfl := Option.some.inj (one.walked.symm.trans other.walked)
  have same := Form.eq_of_isReadIn (by rfl) one.front other.front
  obtain rfl : revision = another := by simpa using same
  have each : List.Forall₂ (fun (record record' : GenericInitiator) =>
      record.emitted = record'.emitted ∧ view.ShareDevice view' record record')
      supply.initiators others.initiators :=
    forall₂_trans (fun _ _ _ shown shown' => shown.unique shown') one.initiators
      other.initiators.flip
  have initiators : supply.initiators.map GenericInitiator.emitted =
      others.initiators.map GenericInitiator.emitted := by
    rw [← List.forall₂_eq_eq_eq, List.forall₂_map_left_iff, List.forall₂_map_right_iff]
    exact each.imp fun _ _ both => both.1
  refine ⟨rfl, ?_, each.imp fun _ _ both => both.2⟩
  unfold emitted
  rw [one.cpuInterfaces.unique interfaceShape_isFaithful other.cpuInterfaces,
    one.translationServices.unique serviceShape_isFaithful other.translationServices,
    one.memories.unique memoryShape_isFaithful other.memories, initiators]

end Supply

theorem rebuilt_of_shows {bytes : Bytes} {records : List MemoryAffinity} {mets : List Met}
    (shows : memoryShape.Shows bytes records mets) :
    List.Forall₂ (fun record (met : Met) =>
        IsRebuilt bytes (met.offset + 8) record.baseAddress ∧
          IsRebuilt bytes (met.offset + 16) record.length)
      records (mets.filter fun met => met.type == 1) := by
  refine shows.imp fun record met found => ?_
  obtain ⟨-, -, read⟩ := found
  simp only [memoryShape, Form.IsReadIn, List.forall_mem_cons, Piece.IsReadAt] at read
  obtain ⟨-, -, -, -, baseLow, baseHigh, lengthLow, lengthHigh, -⟩ := read
  exact ⟨⟨_, _, baseLow, baseHigh, (toNat_halves _).symm⟩,
    ⟨_, _, lengthLow, lengthHigh, (toNat_halves _).symm⟩⟩

/-- **The records are read again** in a table of affinity. -/
theorem exists_decoded {view : View} {request : TableRequest} {table : Table}
    (built : (kind.build request view).result = .ok table) :
    ∃ supply : Supply, supply.IsListed view ∧
      ∃ mets, supply.IsDecoded view request.revision table.bytes mets := by
  obtain ⟨groups, mets, index, loads, walked, each⟩ :=
    TableKind.walk_ofType isRegular states_all (by decide) built
  obtain ⟨supply, listed, rfl⟩ := Supply.of_loads loads
  simp only [Supply.groups, List.forall₂_cons] at each
  obtain ⟨interfaces, services, ranges, initiators, -⟩ := each
  have memories : memoryShape.Shows table.bytes supply.memories mets :=
    Shape.shows_of_stands memoryShape_isFaithful (fun _ _ => by simp [halves, memoryShape])
      (fun _ => List.map_inj_left.mp rfl) ranges
  rw [List.forall₂_map_left_iff] at initiators
  refine ⟨supply, listed, mets, walked, ?_, ?_, ?_, memories, rebuilt_of_shows memories,
    initiators.imp fun _ _ there => isShown there⟩
  · refine TableKind.front_isReadIn isRegular built fun header same plan fields made => ?_
    cases made
    simp [Header.pieces, Piece.startsAt?, Piece.length, header.oemId.length_bytes, same]
  · exact Shape.shows_of_stands interfaceShape_isFaithful (fun _ _ => by simp [interfaceShape])
      (fun _ => List.map_inj_left.mp rfl) interfaces
  · exact Shape.shows_of_stands serviceShape_isFaithful (fun _ _ => by simp [serviceShape])
      (fun _ => List.map_inj_left.mp rfl) services

end Srat

/-! ### Configuration space -/

namespace Mcfg

/-- Where the fields of a range of configuration space stand. -/
def configSpaceForm (record : ConfigSpace) : Form :=
  [(0, .long record.baseAddress), (8, .half record.pciSegmentGroupNumber),
    (10, .byte record.startBusNumber), (11, .byte record.endBusNumber), (12, .zeros 4)]

/-- Ranges are read in a table. Nothing in front of a range says how long it is. -/
structure IsDecoded (spaces : List ConfigSpace) (revision : UInt8) (bytes : Bytes) : Prop where
  /-- The table ends with the last range. -/
  length : bytes.length = 44 + 16 * spaces.length
  /-- The revision and eight zero bytes stand in front of the ranges. -/
  front : Form.IsReadIn [(8, .byte revision), (36, .zeros 8)] bytes 0
  /-- All sixteen bytes of each range are read, and the ranges lie one behind the other. -/
  each : ∀ (number : Nat) (record : ConfigSpace), spaces[number]? = some record →
    (configSpaceForm record).Covers 0 16 ∧
      (configSpaceForm record).IsReadIn bytes (44 + 16 * number)

theorem IsDecoded.unique {spaces others : List ConfigSpace} {revision another : UInt8}
    {bytes : Bytes} (one : IsDecoded spaces revision bytes)
    (other : IsDecoded others another bytes) : revision = another ∧ spaces = others := by
  have same := Form.eq_of_isReadIn (by rfl) one.front other.front
  obtain rfl : revision = another := by simpa using same
  have count : spaces.length = others.length := by
    have lengths := one.length.symm.trans other.length
    omega
  refine ⟨rfl, List.ext_getElem count fun number inside inside' => ?_⟩
  obtain ⟨-, read⟩ := one.each number _ (List.getElem?_eq_getElem inside)
  obtain ⟨-, read'⟩ := other.each number _ (List.getElem?_eq_getElem inside')
  have forms := Form.eq_of_isReadIn (by rfl) read read'
  generalize spaces[number] = record at forms
  generalize others[number] = record' at forms
  cases record
  cases record'
  simpa [configSpaceForm] using forms

theorem configSpace_image (record : ConfigSpace) (context : Context) :
    (configSpace record).image context =
      .ok (Piece.encodeAll ((configSpaceForm record).map Prod.snd)) :=
  Node.image_of_pure (fun _ => by simp) context

/-- The ranges that a view lists are written behind the front, one after the other. -/
theorem bytes_eq {view : View} {request : TableRequest} {table : Table}
    (built : (kind.build request view).result = .ok table) :
    ∃ (spaces : List ConfigSpace) (front : Bytes), view.Lists spaces ∧ front.length = 44 ∧
      table.bytes = front ++
        Piece.encodeAll (spaces.flatMap fun record => (configSpaceForm record).map Prod.snd) := by
  obtain ⟨_, info, plan, images, fields, _, planned, drawn, made, bytes⟩ :=
    (TableKind.build_eq_ok isRegular).mp built
  obtain ⟨_, groups, loads, lies⟩ := Layout.plan_eq_ok.mp planned
  have required : (Category.ofRecords ConfigSpace "PCI configuration space"
      configSpace).asRequired.IsOf (fun _ => .ok ()) configSpace := ⟨rfl, rfl⟩
  simp only [kind, layout, List.forall₂_cons_left_iff, List.forall₂_nil_left_iff,
    Category.loads_iff required] at loads
  obtain ⟨_, _, ⟨spaces, listed, rfl, -⟩, rfl, rfl⟩ := loads
  have nodes : plan.placed.map Placed.node = spaces.map configSpace := by
    rw [lies.nodes_eq]
    simp [labelled, kind, layout, Function.comp_def]
  have each : List.Forall₂ (fun (node : Node) image =>
      node.image ⟨view, plan.index, request.revision⟩ = .ok image)
      (plan.placed.map Placed.node) images :=
    List.forall₂_map_left_iff.mpr (mapM_eq_ok.mp drawn)
  rw [nodes, List.forall₂_map_left_iff] at each
  have same : spaces.map (fun record => Piece.encodeAll ((configSpaceForm record).map Prod.snd)) =
      images := by
    rw [← List.forall₂_eq_eq_eq, List.forall₂_map_left_iff]
    exact each.imp fun record image made =>
      Except.ok.inj ((configSpace_image record _).symm.trans made)
  refine ⟨spaces, _, listed, isRegular.length_front request info made, ?_⟩
  rw [bytes, ← same, ← List.flatMap_def, Piece.encodeAll, List.flatMap_assoc]
  rfl

theorem exists_decoded {view : View} {request : TableRequest} {table : Table}
    (built : (kind.build request view).result = .ok table) :
    ∃ spaces : List ConfigSpace, view.Lists spaces ∧
      IsDecoded spaces request.revision table.bytes := by
  obtain ⟨spaces, front, listed, start, bytes⟩ := bytes_eq built
  have width : ∀ record, (Piece.encodeAll ((configSpaceForm record).map Prod.snd)).length = 16 :=
    fun _ => by simp [configSpaceForm]
  refine ⟨spaces, listed, ?_, ?_, ?_⟩
  · rw [bytes, List.length_append, start]
    rw [Piece.length_flatMap width]
  · refine TableKind.front_isReadIn isRegular built fun header same plan fields made => ?_
    cases made
    simp [Header.pieces, Piece.startsAt?, Piece.length, header.oemId.length_bytes, same]
  · intro number record here
    refine ⟨by simp [configSpaceForm, Form.Covers, Piece.length], fun field inside => ?_⟩
    have starts : ∀ field ∈ configSpaceForm record, Piece.startsAt?
        ((configSpaceForm record).map Prod.snd) field.1 = some field.2 := List.map_inj_left.mp rfl
    have known : (spaces.map fun record => (configSpaceForm record).map Prod.snd)[number]? =
        some ((configSpaceForm record).map Prod.snd) := by
      rw [List.getElem?_map, here, Option.map_some]
    have stands := Piece.standsAt_flatten (List.forall_mem_map.mpr fun record _ => width record)
      known (Piece.standsAt_of_startsAt (starts field inside))
    rw [← List.flatMap_def] at stands
    have placed := (stands.behind front).isReadAt
    rw [start, ← Nat.add_assoc, ← bytes] at placed
    exact placed

end Mcfg

/-! ### The three tables -/

/-- **Records are read back** from tables of interrupt controllers, of configuration space and of
affinity, and two views from which one table is built list the same, but for what is not written. -/
theorem builtin_decoded (one other : View) (request another : TableRequest) (table : Table) :
    ((Madt.kind.build request one).result = .ok table →
      ∃ supply : Madt.Supply, supply.IsListed one ∧
        ∃ mets, supply.IsDecoded request.revision table.bytes mets) ∧
    ((Madt.kind.build request one).result = .ok table →
      (Madt.kind.build another other).result = .ok table →
      ∃ supply others : Madt.Supply, supply.IsListed one ∧ others.IsListed other ∧
        request.revision = another.revision ∧
        supply.emitted request.revision = others.emitted another.revision) ∧
    ((Mcfg.kind.build request one).result = .ok table →
      ∃ spaces, one.Lists spaces ∧ Mcfg.IsDecoded spaces request.revision table.bytes) ∧
    ((Mcfg.kind.build request one).result = .ok table →
      (Mcfg.kind.build another other).result = .ok table →
      ∃ spaces : List ConfigSpace, one.Lists spaces ∧ other.Lists spaces ∧
        request.revision = another.revision) ∧
    ((Srat.kind.build request one).result = .ok table →
      ∃ supply : Srat.Supply, supply.IsListed one ∧
        ∃ mets, supply.IsDecoded one request.revision table.bytes mets) ∧
    ((Srat.kind.build request one).result = .ok table →
      (Srat.kind.build another other).result = .ok table →
      ∃ supply others : Srat.Supply, supply.IsListed one ∧ others.IsListed other ∧
        request.revision = another.revision ∧ supply.emitted = others.emitted ∧
        List.Forall₂ (one.ShareDevice other) supply.initiators others.initiators) := by
  refine ⟨Madt.exists_decoded, fun built built' => ?_, Mcfg.exists_decoded, fun built built' => ?_,
    Srat.exists_decoded, fun built built' => ?_⟩
  · obtain ⟨supply, listed, _, decoded⟩ := Madt.exists_decoded built
    obtain ⟨others, listed', _, decoded'⟩ := Madt.exists_decoded built'
    exact ⟨supply, others, listed, listed', decoded.unique decoded'⟩
  · obtain ⟨spaces, listed, decoded⟩ := Mcfg.exists_decoded built
    obtain ⟨others, listed', decoded'⟩ := Mcfg.exists_decoded built'
    obtain ⟨revision, rfl⟩ := decoded.unique decoded'
    exact ⟨spaces, listed, listed', revision⟩
  · obtain ⟨supply, listed, _, decoded⟩ := Srat.exists_decoded built
    obtain ⟨others, listed', _, decoded'⟩ := Srat.exists_decoded built'
    exact ⟨supply, others, listed, listed', decoded.unique decoded'⟩

/-- Records of all three tables. The interfaces are in two entries, and a range of memory starts
above four gigabytes. -/
def scattered : Store :=
  ⟨[.ofRecords .null [(default : ManagerInfo)],
    .ofRecords ⟨2⟩ [{ (default : CpuInterface) with acpiProcessorUid := 1, proximityDomain := 3 }],
    .ofRecords .null [(default : Distributor)],
    .ofRecords ⟨3⟩ [{ (default : CpuInterface) with
      acpiProcessorUid := 2, speOverflowInterrupt := 21 }],
    .ofRecords .null [(⟨0x400000000, 0, 1, 31⟩ : ConfigSpace), ⟨0x500000000, 1, 0, 255⟩],
    .ofRecords .null [(⟨7, 0x880000000, 0x180000000, 1⟩ : MemoryAffinity)]]⟩

/-- All three tables are built from these records, and the records read in them. -/
theorem builtin_decoded_scattered :
    (∃ table, (Madt.kind.build ⟨.apic, 5, .madt, 0, 0⟩ scattered.view).result = .ok table ∧
      ∃ supply : Madt.Supply, supply.IsListed scattered.view ∧
        ∃ mets, supply.IsDecoded 5 table.bytes mets) ∧
    (∃ table, (Mcfg.kind.build ⟨.mcfg, 1, .mcfg, 0, 0⟩ scattered.view).result = .ok table ∧
      ∃ spaces, scattered.view.Lists spaces ∧ Mcfg.IsDecoded spaces 1 table.bytes) ∧
    ∃ table, (Srat.kind.build ⟨.srat, 3, .srat, 0, 0⟩ scattered.view).result = .ok table ∧
      ∃ supply : Srat.Supply, supply.IsListed scattered.view ∧
        ∃ mets, supply.IsDecoded scattered.view 3 table.bytes mets := by
  obtain ⟨controllers, first⟩ : ∃ table,
      (Madt.kind.build ⟨.apic, 5, .madt, 0, 0⟩ scattered.view).result = .ok table :=
    exists_of_isOk (by decide +kernel)
  obtain ⟨spaces, second⟩ : ∃ table,
      (Mcfg.kind.build ⟨.mcfg, 1, .mcfg, 0, 0⟩ scattered.view).result = .ok table :=
    exists_of_isOk (by decide +kernel)
  obtain ⟨affinity, third⟩ : ∃ table,
      (Srat.kind.build ⟨.srat, 3, .srat, 0, 0⟩ scattered.view).result = .ok table :=
    exists_of_isOk (by decide +kernel)
  have read := builtin_decoded scattered.view scattered.view
  exact ⟨⟨controllers, first, (read _ default _).1 first⟩,
    ⟨spaces, second, (read _ default _).2.2.1 second⟩,
    affinity, third, (read _ default _).2.2.2.2.1 third⟩

end FirmwareTables
