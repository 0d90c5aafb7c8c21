/-
**The sections of a platform description.**

Nodes of the remapping table carry names, and mappings and counters refer to other nodes by those
names; everything else is what the records will hold. A section's fields are listed in its instance
of `Section`, with the names that descriptions use.
-/

import FirmwareTables.Description.Section
import FirmwareTables.Record.Affinity
import FirmwareTables.Record.Interrupt
import FirmwareTables.Record.Manager
import FirmwareTables.Record.Remapping

namespace FirmwareTables

/-- Who provides the configuration. -/
structure VendorSection where
  /-- Up to six characters that name the vendor. -/
  oemId : String
  /-- The revision of the configuration manager. -/
  revision : String
  deriving DecidableEq

/-- The vendor of a description that does not name one. -/
instance : Inhabited VendorSection := ⟨"ARMLTD", "1.1"⟩

instance : Section VendorSection where
  initial := default
  slots := [
    .field "oem_id" .text (·.oemId) fun oemId owner => { owner with oemId },
    .field "revision" .text (·.revision) fun revision owner => { owner with revision }]

instance : Section TableRequest where
  initial := default
  slots := [
    .needed (.field "signature" .signature (·.signature) fun signature owner =>
      { owner with signature }),
    .needed (.field "revision" .byte (·.revision) fun revision owner => { owner with revision }),
    .needed (.field "generator" .generator (·.generatorId) fun generatorId owner =>
      { owner with generatorId }),
    .field "oem_table_id" .long (·.oemTableId) fun oemTableId owner => { owner with oemTableId },
    .field "oem_revision" .word (·.oemRevision) fun oemRevision owner =>
      { owner with oemRevision }]

/-- A range of ids that a node hands on to another. -/
structure MappingSection where
  /-- The first id that comes in. -/
  inputBase : UInt32
  /-- The number of ids less one. -/
  numIds : UInt32
  /-- The first id that goes out. -/
  outputBase : UInt32
  /-- The name of the node that the ids go to. -/
  output : String
  /-- Flags of the mapping. -/
  flags : UInt32
  deriving DecidableEq, Inhabited

instance : Section MappingSection where
  initial := default
  slots := [
    .field "input_base" .word (·.inputBase) fun inputBase owner => { owner with inputBase },
    .field "num_ids" .word (·.numIds) fun numIds owner => { owner with numIds },
    .field "output_base" .word (·.outputBase) fun outputBase owner => { owner with outputBase },
    .field "output" .text (·.output) fun output owner => { owner with output },
    .field "flags" .word (·.flags) fun flags owner => { owner with flags }]

/-- A group of interrupt translation services. -/
structure ItsGroupSection where
  /-- The name of the node. -/
  name : String
  /-- The ids of the services. -/
  itsIds : List UInt32
  deriving DecidableEq, Inhabited

instance : Section ItsGroupSection where
  initial := default
  slots := [
    .field "name" .text (·.name) fun name owner => { owner with name },
    .words "its_ids" (·.itsIds) fun itsIds owner => { owner with itsIds }]

/-- A device with a name of its own in the namespace of objects. -/
structure NamedComponentSection where
  /-- The name of the node. -/
  name : String
  /-- The path of the device's object. -/
  objectName : String
  /-- Flags of the node. -/
  flags : UInt32
  /-- Whether the device is coherent with the caches. -/
  cacheCoherent : UInt32
  /-- Hints for the allocation of cache lines. -/
  allocationHints : UInt8
  /-- Flags of memory accesses. -/
  memoryAccessFlags : UInt8
  /-- The number of address bits. -/
  addressSizeLimit : UInt8
  /-- Where the ids of the device go. -/
  idMappings : List MappingSection
  deriving DecidableEq, Inhabited

instance : Section NamedComponentSection where
  initial := default
  slots := [
    .field "name" .text (·.name) fun name owner => { owner with name },
    .field "object_name" .text (·.objectName) fun objectName owner => { owner with objectName },
    .field "flags" .word (·.flags) fun flags owner => { owner with flags },
    .field "cache_coherent" .word (·.cacheCoherent) fun cacheCoherent owner =>
      { owner with cacheCoherent },
    .field "allocation_hints" .byte (·.allocationHints) fun allocationHints owner =>
      { owner with allocationHints },
    .field "memory_access_flags" .byte (·.memoryAccessFlags) fun memoryAccessFlags owner =>
      { owner with memoryAccessFlags },
    .field "address_size_limit" .byte (·.addressSizeLimit) fun addressSizeLimit owner =>
      { owner with addressSizeLimit },
    .parts "id_mappings" (·.idMappings) fun idMappings owner => { owner with idMappings }]

/-- A root complex. -/
structure RootComplexSection where
  /-- The name of the node. -/
  name : String
  /-- Whether the complex is coherent with the caches. -/
  cacheCoherent : UInt32
  /-- Hints for the allocation of cache lines. -/
  allocationHints : UInt8
  /-- Flags of memory accesses. -/
  memoryAccessFlags : UInt8
  /-- Whether address translation services are supported. -/
  atsAttribute : UInt32
  /-- The number of the segment. -/
  pciSegmentNumber : UInt32
  /-- The number of address bits. -/
  memoryAddressSize : UInt8
  /-- Where the ids of the complex go. -/
  idMappings : List MappingSection
  deriving DecidableEq, Inhabited

instance : Section RootComplexSection where
  initial := default
  slots := [
    .field "name" .text (·.name) fun name owner => { owner with name },
    .field "cache_coherent" .word (·.cacheCoherent) fun cacheCoherent owner =>
      { owner with cacheCoherent },
    .field "allocation_hints" .byte (·.allocationHints) fun allocationHints owner =>
      { owner with allocationHints },
    .field "memory_access_flags" .byte (·.memoryAccessFlags) fun memoryAccessFlags owner =>
      { owner with memoryAccessFlags },
    .field "ats_attribute" .word (·.atsAttribute) fun atsAttribute owner =>
      { owner with atsAttribute },
    .field "pci_segment_number" .word (·.pciSegmentNumber) fun pciSegmentNumber owner =>
      { owner with pciSegmentNumber },
    .field "memory_address_size" .byte (·.memoryAddressSize) fun memoryAddressSize owner =>
      { owner with memoryAddressSize },
    .parts "id_mappings" (·.idMappings) fun idMappings owner => { owner with idMappings }]

/-- A memory management unit of architecture version 1 or 2. -/
structure SmmuV1V2Section where
  /-- The name of the node. -/
  name : String
  /-- The address of the registers. -/
  baseAddress : UInt64
  /-- The number of bytes that the registers take. -/
  span : UInt64
  /-- The model of the unit. -/
  model : UInt32
  /-- Flags of the unit. -/
  flags : UInt32
  /-- The interrupts of the translation contexts. -/
  contextInterrupts : List SmmuInterrupt
  /-- The interrupts of the performance monitors. -/
  pmuInterrupts : List SmmuInterrupt
  /-- The global interrupt. -/
  nsgIrpt : UInt32
  /-- Flags of the global interrupt. -/
  nsgIrptFlags : UInt32
  /-- The interrupt of the configuration. -/
  nsgCfgIrpt : UInt32
  /-- Flags of the interrupt of the configuration. -/
  nsgCfgIrptFlags : UInt32
  /-- Where the ids of the unit go. -/
  idMappings : List MappingSection
  deriving DecidableEq, Inhabited

instance : Section SmmuV1V2Section where
  initial := default
  slots := [
    .field "name" .text (·.name) fun name owner => { owner with name },
    .field "base_address" .long (·.baseAddress) fun baseAddress owner =>
      { owner with baseAddress },
    .field "span" .long (·.span) fun span owner => { owner with span },
    .field "model" .word (·.model) fun model owner => { owner with model },
    .field "flags" .word (·.flags) fun flags owner => { owner with flags },
    .records "context_interrupts" (·.contextInterrupts) fun contextInterrupts owner =>
      { owner with contextInterrupts },
    .records "pmu_interrupts" (·.pmuInterrupts) fun pmuInterrupts owner =>
      { owner with pmuInterrupts },
    .field "nsg_irpt" .word (·.nsgIrpt) fun nsgIrpt owner => { owner with nsgIrpt },
    .field "nsg_irpt_flags" .word (·.nsgIrptFlags) fun nsgIrptFlags owner =>
      { owner with nsgIrptFlags },
    .field "nsg_cfg_irpt" .word (·.nsgCfgIrpt) fun nsgCfgIrpt owner =>
      { owner with nsgCfgIrpt },
    .field "nsg_cfg_irpt_flags" .word (·.nsgCfgIrptFlags) fun nsgCfgIrptFlags owner =>
      { owner with nsgCfgIrptFlags },
    .parts "id_mappings" (·.idMappings) fun idMappings owner => { owner with idMappings }]

/-- A memory management unit of architecture version 3. -/
structure SmmuV3Section where
  /-- The name of the node. -/
  name : String
  /-- The address of the registers. -/
  baseAddress : UInt64
  /-- Flags of the unit. -/
  flags : UInt32
  /-- The address of the registers for address translation operations. -/
  vatosAddress : UInt64
  /-- The model of the unit. -/
  model : UInt32
  /-- The interrupt of events. -/
  eventInterrupt : UInt32
  /-- The interrupt of page requests. -/
  priInterrupt : UInt32
  /-- The interrupt of global errors. -/
  gerrInterrupt : UInt32
  /-- The interrupt of synchronization. -/
  syncInterrupt : UInt32
  /-- The proximity domain. -/
  proximityDomain : UInt32
  /-- The mapping of the unit's own interrupts. -/
  deviceIdMappingIndex : UInt32
  /-- Where the ids of the unit go. -/
  idMappings : List MappingSection
  deriving DecidableEq, Inhabited

instance : Section SmmuV3Section where
  initial := default
  slots := [
    .field "name" .text (·.name) fun name owner => { owner with name },
    .field "base_address" .long (·.baseAddress) fun baseAddress owner =>
      { owner with baseAddress },
    .field "flags" .word (·.flags) fun flags owner => { owner with flags },
    .field "vatos_address" .long (·.vatosAddress) fun vatosAddress owner =>
      { owner with vatosAddress },
    .field "model" .word (·.model) fun model owner => { owner with model },
    .field "event_interrupt" .word (·.eventInterrupt) fun eventInterrupt owner =>
      { owner with eventInterrupt },
    .field "pri_interrupt" .word (·.priInterrupt) fun priInterrupt owner =>
      { owner with priInterrupt },
    .field "gerr_interrupt" .word (·.gerrInterrupt) fun gerrInterrupt owner =>
      { owner with gerrInterrupt },
    .field "sync_interrupt" .word (·.syncInterrupt) fun syncInterrupt owner =>
      { owner with syncInterrupt },
    .field "proximity_domain" .word (·.proximityDomain) fun proximityDomain owner =>
      { owner with proximityDomain },
    .field "device_id_mapping_index" .word (·.deviceIdMappingIndex)
      fun deviceIdMappingIndex owner => { owner with deviceIdMappingIndex },
    .parts "id_mappings" (·.idMappings) fun idMappings owner => { owner with idMappings }]

/-- A group of performance monitor counters. -/
structure PmcgSection where
  /-- The name of the node. -/
  name : String
  /-- The address of the first page of registers. -/
  baseAddress : UInt64
  /-- The interrupt on overflow. -/
  overflowInterrupt : UInt32
  /-- The address of the second page of registers. -/
  page1BaseAddress : UInt64
  /-- The name of the node that is monitored. -/
  reference : String
  /-- Where the ids of the group go. -/
  idMappings : List MappingSection
  deriving DecidableEq, Inhabited

instance : Section PmcgSection where
  initial := default
  slots := [
    .field "name" .text (·.name) fun name owner => { owner with name },
    .field "base_address" .long (·.baseAddress) fun baseAddress owner =>
      { owner with baseAddress },
    .field "overflow_interrupt" .word (·.overflowInterrupt) fun overflowInterrupt owner =>
      { owner with overflowInterrupt },
    .field "page1_base_address" .long (·.page1BaseAddress) fun page1BaseAddress owner =>
      { owner with page1BaseAddress },
    .field "reference" .text (·.reference) fun reference owner => { owner with reference },
    .parts "id_mappings" (·.idMappings) fun idMappings owner => { owner with idMappings }]

/-- A device that has an affinity. -/
inductive Device where
  /-- A device by its hardware id. -/
  | acpi (handle : AcpiHandle)
  /-- A device by its place on a bus. -/
  | pci (handle : PciHandle)
  deriving DecidableEq

instance : Inhabited Device := ⟨.acpi ⟨0, 0⟩⟩

namespace Device

/-- Reads a device of a kind, `index` being the position of its first field. -/
def ofParts? (kind : String) (parts : Parts) (index : Nat) : Option Device :=
  if kind == "acpi" then do
    let hid ← parts.required index "hid" Tree.long?
    let uid ← parts.required (index + 1) "uid" Tree.word?
    return .acpi ⟨hid, uid⟩
  else if kind == "pci" then do
    let segment ← parts.optional index "segment" 0 Tree.half?
    let bus ← parts.required (index + 1) "bus" Tree.byte?
    let device ← parts.required (index + 2) "device" Tree.byte?
    let function ← parts.required (index + 3) "function" Tree.byte?
    return .pci ⟨segment, bus, device, function⟩
  else none

/-- The number of fields of a kind of device. -/
def arity (kind : String) : Nat := if kind == "acpi" then 2 else 4

/-- Reads a device: a mapping that says its kind under `type`, or a sequence of the kind and exactly
the fields. -/
def ofTree? : Tree → Option Device
  | .mapping items => do
    let kind ← (Parts.named items).required 0 "type" Tree.text?
    ofParts? kind (.named items) 0
  | .sequence (.text kind :: items) =>
    if items.length ≤ arity kind then ofParts? kind (.placed items) 0 else none
  | _ => none

/-- Writes a device. -/
def toTree : Device → Tree
  | acpi handle => .mapping [("type", .text "acpi"), ("hid", .ofNat handle.hid.toNat),
      ("uid", .ofNat handle.uid.toNat)]
  | pci handle => .mapping [("type", .text "pci"),
      ("segment", .ofNat handle.segmentNumber.toNat), ("bus", .ofNat handle.busNumber.toNat),
      ("device", .ofNat handle.deviceNumber.toNat),
      ("function", .ofNat handle.functionNumber.toNat)]

end Device

/-- A device that initiates memory accesses. -/
structure InitiatorSection where
  /-- The proximity domain of the device. -/
  proximityDomain : UInt32
  /-- Flags of the device. -/
  flags : UInt32
  /-- The device. -/
  device : Device
  deriving DecidableEq, Inhabited

instance : Section InitiatorSection where
  initial := default
  slots := [
    .needed (.field "proximity_domain" .word (·.proximityDomain) fun proximityDomain owner =>
      { owner with proximityDomain }),
    .field "flags" .word (·.flags) fun flags owner => { owner with flags },
    ⟨"device", false,
      fun _ tree owner => (Device.ofTree? tree).map fun device => { owner with device },
      fun owner => owner.device.toTree⟩]

end FirmwareTables
