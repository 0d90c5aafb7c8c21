/-
**Records of I/O remapping.**

The six kinds of nodes between devices and interrupt translation, and the arrays that belong to
them. A node carries a token by which others refer to it; an array is stored under a token of its
own, and the node holds that token with the number of items that count.
-/

import FirmwareTables.Record.Basic

namespace FirmwareTables

/-- A group of interrupt translation services. -/
structure ItsGroup where
  /-- The token of the group. -/
  token : Token
  /-- The number of services in the group. -/
  itsIdCount : UInt32
  /-- Where the ids of the services are stored. -/
  itsIdToken : Token
  deriving DecidableEq, Inhabited

instance : Record ItsGroup where
  objectId := .make .arm 18
  fields := [⟨"token", .token⟩, ⟨"its_id_count", .word⟩, ⟨"its_id_token", .token⟩]
  optional := false
  toRow record := (record.token, record.itsIdCount, record.itsIdToken, ())
  ofRow row := ⟨row.1, row.2.1, row.2.2.1⟩
  ofRow_toRow _ := rfl
  toRow_ofRow _ := rfl

/-- A device that the namespace of the firmware names. -/
structure NamedComponent where
  /-- The token of the component. -/
  token : Token
  /-- The number of id mappings. -/
  idMappingCount : UInt32
  /-- Where the id mappings are stored. -/
  idMappingToken : Token
  /-- Flags of the component. -/
  flags : UInt32
  /-- Whether the component is cache coherent. -/
  cacheCoherent : UInt32
  /-- Hints for cache allocation. -/
  allocationHints : UInt8
  /-- How the component reaches memory. -/
  memoryAccessFlags : UInt8
  /-- The width of the addresses that the component can form. -/
  addressSizeLimit : UInt8
  /-- The path of the component in the namespace. -/
  objectName : String
  deriving DecidableEq, Inhabited

instance : Record NamedComponent where
  objectId := .make .arm 19
  fields := [⟨"token", .token⟩, ⟨"id_mapping_count", .word⟩, ⟨"id_mapping_token", .token⟩,
    ⟨"flags", .word⟩, ⟨"cache_coherent", .word⟩, ⟨"allocation_hints", .byte⟩,
    ⟨"memory_access_flags", .byte⟩, ⟨"address_size_limit", .byte⟩, ⟨"object_name", .text⟩]
  optional := false
  toRow record := (record.token, record.idMappingCount, record.idMappingToken, record.flags,
    record.cacheCoherent, record.allocationHints, record.memoryAccessFlags,
    record.addressSizeLimit, record.objectName, ())
  ofRow row := ⟨row.1, row.2.1, row.2.2.1, row.2.2.2.1, row.2.2.2.2.1, row.2.2.2.2.2.1,
    row.2.2.2.2.2.2.1, row.2.2.2.2.2.2.2.1, row.2.2.2.2.2.2.2.2.1⟩
  ofRow_toRow _ := rfl
  toRow_ofRow _ := rfl

/-- A root complex of PCI devices. -/
structure RootComplex where
  /-- The token of the root complex. -/
  token : Token
  /-- The number of id mappings. -/
  idMappingCount : UInt32
  /-- Where the id mappings are stored. -/
  idMappingToken : Token
  /-- Whether the root complex is cache coherent. -/
  cacheCoherent : UInt32
  /-- Hints for cache allocation. -/
  allocationHints : UInt8
  /-- How the root complex reaches memory. -/
  memoryAccessFlags : UInt8
  /-- Support for address translation services. -/
  atsAttribute : UInt32
  /-- The PCI segment. -/
  pciSegmentNumber : UInt32
  /-- The width of the addresses that the root complex can form. -/
  memoryAddressSize : UInt8
  deriving DecidableEq, Inhabited

instance : Record RootComplex where
  objectId := .make .arm 20
  fields := [⟨"token", .token⟩, ⟨"id_mapping_count", .word⟩, ⟨"id_mapping_token", .token⟩,
    ⟨"cache_coherent", .word⟩, ⟨"allocation_hints", .byte⟩, ⟨"memory_access_flags", .byte⟩,
    ⟨"ats_attribute", .word⟩, ⟨"pci_segment_number", .word⟩, ⟨"memory_address_size", .byte⟩]
  optional := false
  toRow record := (record.token, record.idMappingCount, record.idMappingToken,
    record.cacheCoherent, record.allocationHints, record.memoryAccessFlags, record.atsAttribute,
    record.pciSegmentNumber, record.memoryAddressSize, ())
  ofRow row := ⟨row.1, row.2.1, row.2.2.1, row.2.2.2.1, row.2.2.2.2.1, row.2.2.2.2.2.1,
    row.2.2.2.2.2.2.1, row.2.2.2.2.2.2.2.1, row.2.2.2.2.2.2.2.2.1⟩
  ofRow_toRow _ := rfl
  toRow_ofRow _ := rfl

/-- A memory management unit of the first or second version. -/
structure SmmuV1V2 where
  /-- The token of the unit. -/
  token : Token
  /-- The number of id mappings. -/
  idMappingCount : UInt32
  /-- Where the id mappings are stored. -/
  idMappingToken : Token
  /-- Where the unit lies in memory. -/
  baseAddress : UInt64
  /-- How much memory the unit takes. -/
  span : UInt64
  /-- The model of the unit. -/
  model : UInt32
  /-- Flags of the unit. -/
  flags : UInt32
  /-- The number of context interrupts. -/
  contextInterruptCount : UInt32
  /-- Where the context interrupts are stored. -/
  contextInterruptToken : Token
  /-- The number of performance interrupts. -/
  pmuInterruptCount : UInt32
  /-- Where the performance interrupts are stored. -/
  pmuInterruptToken : Token
  /-- The global interrupt. -/
  nsgIrpt : UInt32
  /-- How the global interrupt triggers. -/
  nsgIrptFlags : UInt32
  /-- The configuration access interrupt. -/
  nsgCfgIrpt : UInt32
  /-- How the configuration access interrupt triggers. -/
  nsgCfgIrptFlags : UInt32
  deriving DecidableEq, Inhabited

instance : Record SmmuV1V2 where
  objectId := .make .arm 21
  fields := [⟨"token", .token⟩, ⟨"id_mapping_count", .word⟩, ⟨"id_mapping_token", .token⟩,
    ⟨"base_address", .long⟩, ⟨"span", .long⟩, ⟨"model", .word⟩, ⟨"flags", .word⟩,
    ⟨"context_interrupt_count", .word⟩, ⟨"context_interrupt_token", .token⟩,
    ⟨"pmu_interrupt_count", .word⟩, ⟨"pmu_interrupt_token", .token⟩, ⟨"nsg_irpt", .word⟩,
    ⟨"nsg_irpt_flags", .word⟩, ⟨"nsg_cfg_irpt", .word⟩, ⟨"nsg_cfg_irpt_flags", .word⟩]
  optional := false
  toRow record := (record.token, record.idMappingCount, record.idMappingToken, record.baseAddress,
    record.span, record.model, record.flags, record.contextInterruptCount,
    record.contextInterruptToken, record.pmuInterruptCount, record.pmuInterruptToken,
    record.nsgIrpt, record.nsgIrptFlags, record.nsgCfgIrpt, record.nsgCfgIrptFlags, ())
  ofRow row := ⟨row.1, row.2.1, row.2.2.1, row.2.2.2.1, row.2.2.2.2.1, row.2.2.2.2.2.1,
    row.2.2.2.2.2.2.1, row.2.2.2.2.2.2.2.1, row.2.2.2.2.2.2.2.2.1, row.2.2.2.2.2.2.2.2.2.1,
    row.2.2.2.2.2.2.2.2.2.2.1, row.2.2.2.2.2.2.2.2.2.2.2.1, row.2.2.2.2.2.2.2.2.2.2.2.2.1,
    row.2.2.2.2.2.2.2.2.2.2.2.2.2.1, row.2.2.2.2.2.2.2.2.2.2.2.2.2.2.1⟩
  ofRow_toRow _ := rfl
  toRow_ofRow _ := rfl

/-- A memory management unit of the third version. -/
structure SmmuV3 where
  /-- The token of the unit. -/
  token : Token
  /-- The number of id mappings. -/
  idMappingCount : UInt32
  /-- Where the id mappings are stored. -/
  idMappingToken : Token
  /-- Where the unit lies in memory. -/
  baseAddress : UInt64
  /-- Flags of the unit; bit three makes the proximity domain valid. -/
  flags : UInt32
  /-- Where the address translation registers lie. -/
  vatosAddress : UInt64
  /-- The model of the unit. -/
  model : UInt32
  /-- The event queue interrupt. -/
  eventInterrupt : UInt32
  /-- The page request interrupt. -/
  priInterrupt : UInt32
  /-- The global error interrupt. -/
  gerrInterrupt : UInt32
  /-- The synchronisation interrupt. -/
  syncInterrupt : UInt32
  /-- The proximity domain of the unit. -/
  proximityDomain : UInt32
  /-- The id mapping of the unit's own interrupts. -/
  deviceIdMappingIndex : UInt32
  deriving DecidableEq, Inhabited

instance : Record SmmuV3 where
  objectId := .make .arm 22
  fields := [⟨"token", .token⟩, ⟨"id_mapping_count", .word⟩, ⟨"id_mapping_token", .token⟩,
    ⟨"base_address", .long⟩, ⟨"flags", .word⟩, ⟨"vatos_address", .long⟩, ⟨"model", .word⟩,
    ⟨"event_interrupt", .word⟩, ⟨"pri_interrupt", .word⟩, ⟨"gerr_interrupt", .word⟩,
    ⟨"sync_interrupt", .word⟩, ⟨"proximity_domain", .word⟩, ⟨"device_id_mapping_index", .word⟩]
  optional := false
  toRow record := (record.token, record.idMappingCount, record.idMappingToken, record.baseAddress,
    record.flags, record.vatosAddress, record.model, record.eventInterrupt, record.priInterrupt,
    record.gerrInterrupt, record.syncInterrupt, record.proximityDomain,
    record.deviceIdMappingIndex, ())
  ofRow row := ⟨row.1, row.2.1, row.2.2.1, row.2.2.2.1, row.2.2.2.2.1, row.2.2.2.2.2.1,
    row.2.2.2.2.2.2.1, row.2.2.2.2.2.2.2.1, row.2.2.2.2.2.2.2.2.1, row.2.2.2.2.2.2.2.2.2.1,
    row.2.2.2.2.2.2.2.2.2.2.1, row.2.2.2.2.2.2.2.2.2.2.2.1, row.2.2.2.2.2.2.2.2.2.2.2.2.1⟩
  ofRow_toRow _ := rfl
  toRow_ofRow _ := rfl

/-- A group of performance monitor counters. -/
structure Pmcg where
  /-- The token of the group. -/
  token : Token
  /-- The number of id mappings. -/
  idMappingCount : UInt32
  /-- Where the id mappings are stored. -/
  idMappingToken : Token
  /-- Where the first page of the group lies. -/
  baseAddress : UInt64
  /-- The overflow interrupt. -/
  overflowInterrupt : UInt32
  /-- Where the second page of the group lies. -/
  page1BaseAddress : UInt64
  /-- The node that the counters watch. -/
  referenceToken : Token
  deriving DecidableEq, Inhabited

instance : Record Pmcg where
  objectId := .make .arm 23
  fields := [⟨"token", .token⟩, ⟨"id_mapping_count", .word⟩, ⟨"id_mapping_token", .token⟩,
    ⟨"base_address", .long⟩, ⟨"overflow_interrupt", .word⟩, ⟨"page1_base_address", .long⟩,
    ⟨"reference_token", .token⟩]
  optional := false
  toRow record := (record.token, record.idMappingCount, record.idMappingToken, record.baseAddress,
    record.overflowInterrupt, record.page1BaseAddress, record.referenceToken, ())
  ofRow row := ⟨row.1, row.2.1, row.2.2.1, row.2.2.2.1, row.2.2.2.2.1, row.2.2.2.2.2.1,
    row.2.2.2.2.2.2.1⟩
  ofRow_toRow _ := rfl
  toRow_ofRow _ := rfl

/-- The id of an interrupt translation service in a group. -/
structure ItsIdentifier where
  /-- The id of the service. -/
  itsId : UInt32
  deriving DecidableEq, Inhabited

instance : Record ItsIdentifier where
  objectId := .make .arm 24
  fields := [⟨"its_id", .word⟩]
  optional := false
  toRow record := (record.itsId, ())
  ofRow row := ⟨row.1⟩
  ofRow_toRow _ := rfl
  toRow_ofRow _ := rfl

/-- A range of ids that a node hands on to another. -/
structure IdMapping where
  /-- The first id taken. -/
  inputBase : UInt32
  /-- The number of ids less one. -/
  numIds : UInt32
  /-- The first id handed on. -/
  outputBase : UInt32
  /-- The node to which the ids go. -/
  outputReferenceToken : Token
  /-- Whether the mapping is of a single id. -/
  flags : UInt32
  deriving DecidableEq, Inhabited

instance : Record IdMapping where
  objectId := .make .arm 25
  fields := [⟨"input_base", .word⟩, ⟨"num_ids", .word⟩, ⟨"output_base", .word⟩,
    ⟨"output_reference_token", .token⟩, ⟨"flags", .word⟩]
  optional := false
  toRow record := (record.inputBase, record.numIds, record.outputBase, record.outputReferenceToken,
    record.flags, ())
  ofRow row := ⟨row.1, row.2.1, row.2.2.1, row.2.2.2.1, row.2.2.2.2.1⟩
  ofRow_toRow _ := rfl
  toRow_ofRow _ := rfl

/-- An interrupt of a memory management unit. -/
structure SmmuInterrupt where
  /-- The interrupt. -/
  interrupt : UInt32
  /-- How the interrupt triggers. -/
  flags : UInt32
  deriving DecidableEq, Inhabited

instance : Record SmmuInterrupt where
  objectId := .make .arm 26
  fields := [⟨"interrupt", .word⟩, ⟨"flags", .word⟩]
  optional := false
  toRow record := (record.interrupt, record.flags, ())
  ofRow row := ⟨row.1, row.2.1⟩
  ofRow_toRow _ := rfl
  toRow_ofRow _ := rfl

end FirmwareTables
