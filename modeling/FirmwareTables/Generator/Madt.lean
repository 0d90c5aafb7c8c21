/-
**The table of interrupt controllers.**

Two zero words behind the header, then one structure for each processor interface, the distributor,
and each message frame, redistributor and translation service. Every structure starts with its
type, its length and two zero bytes. There has to be a processor interface and exactly one
distributor, and no two processor interfaces may have the same processor id.
-/

import FirmwareTables.Generator.Build
import FirmwareTables.Record.Interrupt
import FirmwareTables.Table.Duplicate

namespace FirmwareTables.Madt

/-- The earliest revision, in which the profiling interrupt has no place yet. -/
def firstRevision : UInt8 := 4

/-- A structure of a type: its type and length, two zero bytes, and its fields. -/
def structureOf (type length : UInt8) (fields : List Piece) : List Piece :=
  .byte type :: .byte length :: .zeros 2 :: fields

/-- The bytes of a processor interface. -/
def cpuInterface (record : CpuInterface) : Node :=
  .ofPieces .null 80 fun context =>
    pure <| structureOf 0x0b 80
      [.word record.cpuInterfaceNumber, .word record.acpiProcessorUid, .word record.flags,
        .word record.parkingProtocolVersion, .word record.performanceInterruptGsiv,
        .long record.parkedAddress, .long record.physicalBaseAddress, .long record.gicv,
        .long record.gich, .word record.vgicMaintenanceInterrupt, .long record.gicrBaseAddress,
        .long record.mpidr, .byte record.processorPowerEfficiencyClass, .zeros 1,
        .half (if firstRevision < context.revision then record.speOverflowInterrupt else 0)]

/-- The bytes of the distributor. -/
def distributor (record : Distributor) : Node :=
  .ofPieces .null 24 fun _ =>
    pure <| structureOf 0x0c 24
      [.word 0, .long record.physicalBaseAddress, .word 0, .byte record.gicVersion, .zeros 3]

/-- The bytes of a message frame. -/
def msiFrame (record : MsiFrame) : Node :=
  .ofPieces .null 24 fun _ =>
    pure <| structureOf 0x0d 24
      [.word record.gicMsiFrameId, .long record.physicalBaseAddress, .word record.flags,
        .half record.spiCount, .half record.spiBase]

/-- The bytes of a range of redistributors. -/
def redistributor (record : Redistributor) : Node :=
  .ofPieces .null 16 fun _ =>
    pure <| structureOf 0x0e 16
      [.long record.discoveryRangeBaseAddress, .word record.discoveryRangeLength]

/-- The bytes of a translation service. -/
def translationService (record : TranslationService) : Node :=
  .ofPieces .null 20 fun _ =>
    pure <| structureOf 0x0f 20
      [.word record.gicItsId, .long record.physicalBaseAddress, .zeros 4]

/-- No two processor interfaces have the same processor id. -/
def checkProcessors (records : List CpuInterface) : Except TableError Unit :=
  match findDuplicate? (fun left right => left.acpiProcessorUid == right.acpiProcessorUid) records
  with
  | some (first, second) =>
    let uid := (records.map CpuInterface.acpiProcessorUid).getD first 0
    .error (.invalidParameter (.sharedProcessor first second uid))
  | none => .ok ()

/-- The nodes of the table. -/
def layout : Layout where
  headerLength := 44
  limits := .usual
  categories :=
    [(Category.ofChecked CpuInterface "GICC" checkProcessors cpuInterface).asRequired,
      (Category.ofRecords Distributor "GICD" distributor).asRequired.asSingleton,
      Category.ofRecords MsiFrame "GIC MSI frame" msiFrame,
      Category.ofRecords Redistributor "GIC redistributor" redistributor,
      Category.ofRecords TranslationService "GIC ITS" translationService]

/-- The kind of the table. -/
def kind : TableKind where
  id := .madt
  description := "ACPI.STD.MADT.GENERATOR"
  signature := .apic
  revision := 5
  minRevision := firstRevision
  layout := layout
  fields _ := .ok [.word 0, .word 0]

end FirmwareTables.Madt
