/-
**Records of the interrupt controller.**

The parts of a generic interrupt controller: the interface of each processor, the distributor, the
frames for message-signalled interrupts, the redistributors and the translation services.
-/

import FirmwareTables.Record.Basic

namespace FirmwareTables

/-- The interface of one processor to the interrupt controller. -/
structure CpuInterface where
  /-- The number of the interface. -/
  cpuInterfaceNumber : UInt32
  /-- The unique id of the processor. -/
  acpiProcessorUid : UInt32
  /-- Whether the processor is enabled, and how its interrupts trigger. -/
  flags : UInt32
  /-- The version of the parking protocol. -/
  parkingProtocolVersion : UInt32
  /-- The performance interrupt. -/
  performanceInterruptGsiv : UInt32
  /-- The mailbox of a parked processor. -/
  parkedAddress : UInt64
  /-- Where the interface lies in memory. -/
  physicalBaseAddress : UInt64
  /-- Where the virtual interface lies. -/
  gicv : UInt64
  /-- Where the control block of the virtual interface lies. -/
  gich : UInt64
  /-- The maintenance interrupt of the virtual interface. -/
  vgicMaintenanceInterrupt : UInt32
  /-- Where the redistributor of the processor lies. -/
  gicrBaseAddress : UInt64
  /-- The affinity register of the processor. -/
  mpidr : UInt64
  /-- The power efficiency class. -/
  processorPowerEfficiencyClass : UInt8
  /-- The overflow interrupt of statistical profiling. -/
  speOverflowInterrupt : UInt16
  /-- The proximity domain of the processor. -/
  proximityDomain : UInt32
  /-- The clock domain of the processor. -/
  clockDomain : UInt32
  /-- Whether the affinity of the processor is enabled. -/
  affinityFlags : UInt32
  deriving DecidableEq, Inhabited

instance : Record CpuInterface where
  objectId := .make .arm 4
  fields := [⟨"cpu_interface_number", .word⟩, ⟨"acpi_processor_uid", .word⟩, ⟨"flags", .word⟩,
    ⟨"parking_protocol_version", .word⟩, ⟨"performance_interrupt_gsiv", .word⟩,
    ⟨"parked_address", .long⟩, ⟨"physical_base_address", .long⟩, ⟨"gicv", .long⟩, ⟨"gich", .long⟩,
    ⟨"vgic_maintenance_interrupt", .word⟩, ⟨"gicr_base_address", .long⟩, ⟨"mpidr", .long⟩,
    ⟨"processor_power_efficiency_class", .byte⟩, ⟨"spe_overflow_interrupt", .half⟩,
    ⟨"proximity_domain", .word⟩, ⟨"clock_domain", .word⟩, ⟨"affinity_flags", .word⟩]
  optional := true
  toRow record := (record.cpuInterfaceNumber, record.acpiProcessorUid, record.flags,
    record.parkingProtocolVersion, record.performanceInterruptGsiv, record.parkedAddress,
    record.physicalBaseAddress, record.gicv, record.gich, record.vgicMaintenanceInterrupt,
    record.gicrBaseAddress, record.mpidr, record.processorPowerEfficiencyClass,
    record.speOverflowInterrupt, record.proximityDomain, record.clockDomain, record.affinityFlags,
    ())
  ofRow row := ⟨row.1, row.2.1, row.2.2.1, row.2.2.2.1, row.2.2.2.2.1, row.2.2.2.2.2.1,
    row.2.2.2.2.2.2.1, row.2.2.2.2.2.2.2.1, row.2.2.2.2.2.2.2.2.1, row.2.2.2.2.2.2.2.2.2.1,
    row.2.2.2.2.2.2.2.2.2.2.1, row.2.2.2.2.2.2.2.2.2.2.2.1, row.2.2.2.2.2.2.2.2.2.2.2.2.1,
    row.2.2.2.2.2.2.2.2.2.2.2.2.2.1, row.2.2.2.2.2.2.2.2.2.2.2.2.2.2.1,
    row.2.2.2.2.2.2.2.2.2.2.2.2.2.2.2.1, row.2.2.2.2.2.2.2.2.2.2.2.2.2.2.2.2.1⟩
  ofRow_toRow _ := rfl
  toRow_ofRow _ := rfl

/-- The distributor of the interrupt controller. -/
structure Distributor where
  /-- Where the distributor lies in memory. -/
  physicalBaseAddress : UInt64
  /-- The version of the interrupt controller. -/
  gicVersion : UInt8
  deriving DecidableEq, Inhabited

instance : Record Distributor where
  objectId := .make .arm 5
  fields := [⟨"physical_base_address", .long⟩, ⟨"gic_version", .byte⟩]
  optional := true
  toRow record := (record.physicalBaseAddress, record.gicVersion, ())
  ofRow row := ⟨row.1, row.2.1⟩
  ofRow_toRow _ := rfl
  toRow_ofRow _ := rfl

/-- A frame for message-signalled interrupts. -/
structure MsiFrame where
  /-- The id of the frame. -/
  gicMsiFrameId : UInt32
  /-- Where the frame lies in memory. -/
  physicalBaseAddress : UInt64
  /-- Whether the interrupt range below replaces the frame's own. -/
  flags : UInt32
  /-- The number of interrupts. -/
  spiCount : UInt16
  /-- The first interrupt. -/
  spiBase : UInt16
  deriving DecidableEq, Inhabited

instance : Record MsiFrame where
  objectId := .make .arm 6
  fields := [⟨"gic_msi_frame_id", .word⟩, ⟨"physical_base_address", .long⟩, ⟨"flags", .word⟩,
    ⟨"spi_count", .half⟩, ⟨"spi_base", .half⟩]
  optional := true
  toRow record := (record.gicMsiFrameId, record.physicalBaseAddress, record.flags, record.spiCount,
    record.spiBase, ())
  ofRow row := ⟨row.1, row.2.1, row.2.2.1, row.2.2.2.1, row.2.2.2.2.1⟩
  ofRow_toRow _ := rfl
  toRow_ofRow _ := rfl

/-- A range of redistributors. -/
structure Redistributor where
  /-- Where the range starts. -/
  discoveryRangeBaseAddress : UInt64
  /-- How long the range is. -/
  discoveryRangeLength : UInt32
  deriving DecidableEq, Inhabited

instance : Record Redistributor where
  objectId := .make .arm 7
  fields := [⟨"discovery_range_base_address", .long⟩, ⟨"discovery_range_length", .word⟩]
  optional := true
  toRow record := (record.discoveryRangeBaseAddress, record.discoveryRangeLength, ())
  ofRow row := ⟨row.1, row.2.1⟩
  ofRow_toRow _ := rfl
  toRow_ofRow _ := rfl

/-- An interrupt translation service. -/
structure TranslationService where
  /-- The id of the service. -/
  gicItsId : UInt32
  /-- Where the service lies in memory. -/
  physicalBaseAddress : UInt64
  /-- The proximity domain of the service. -/
  proximityDomain : UInt32
  deriving DecidableEq, Inhabited

instance : Record TranslationService where
  objectId := .make .arm 8
  fields := [⟨"gic_its_id", .word⟩, ⟨"physical_base_address", .long⟩, ⟨"proximity_domain", .word⟩]
  optional := true
  toRow record := (record.gicItsId, record.physicalBaseAddress, record.proximityDomain, ())
  ofRow row := ⟨row.1, row.2.1, row.2.2.1⟩
  ofRow_toRow _ := rfl
  toRow_ofRow _ := rfl

end FirmwareTables
