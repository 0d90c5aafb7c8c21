/-
**The table of resource affinity.**

A one and eight zero bytes behind the header, then one structure for each processor interface,
translation service, range of memory and generic initiator, of which only the first have to be
there. A generic initiator carries the first handle stored under its token, in sixteen bytes.
-/

import FirmwareTables.Generator.Build
import FirmwareTables.Record.Affinity
import FirmwareTables.Record.Interrupt

namespace FirmwareTables.Srat

/-- The affinity of a processor. -/
def cpuInterface (record : CpuInterface) : Node :=
  .ofPieces .null 18 fun _ => pure
    [.byte 3, .byte 18, .word record.proximityDomain, .word record.acpiProcessorUid,
      .word record.affinityFlags, .word record.clockDomain]

/-- The affinity of a translation service. -/
def translationService (record : TranslationService) : Node :=
  .ofPieces .null 12 fun _ => pure
    [.byte 4, .byte 12, .word record.proximityDomain, .zeros 2, .word record.gicItsId]

/-- The lower and the upper half of a 64-bit number. -/
def halves (value : UInt64) : List Piece := [.word value.toUInt32, .word (value >>> 32).toUInt32]

/-- The affinity of a range of memory. -/
def memory (record : MemoryAffinity) : Node :=
  .ofPieces .null 40 fun _ => pure <|
    [.byte 1, .byte 40, .word record.proximityDomain, .zeros 2] ++ halves record.baseAddress ++
      halves record.length ++ [.zeros 4, .word record.flags, .zeros 8]

/-- The first handle of a type stored under the token of an initiator. -/
def firstHandle (α : Type) [Record α] (view : View) (record : GenericInitiator) :
    Reading TableError α := do
  match ← (view.getList α record.deviceHandleToken).mapError .repository with
  | handle :: _ => return handle
  | [] => .fail (.notFound (.handle record.deviceHandleToken))

/-- The handle of an initiator in sixteen bytes. -/
def handle (view : View) (record : GenericInitiator) : Reading TableError (List Piece) :=
  if record.deviceHandleToken.isNull then .fail (.invalidParameter .nullHandle)
  else if record.deviceHandleType = AcpiHandle.deviceType then do
    let handle ← firstHandle AcpiHandle view record
    return [.long handle.hid, .word handle.uid, .zeros 4]
  else if record.deviceHandleType = PciHandle.deviceType then do
    let handle ← firstHandle PciHandle view record
    return [.half handle.segmentNumber, .half handle.address, .zeros 12]
  else .fail (.invalidParameter (.handleType record.deviceHandleType))

/-- The affinity of a generic initiator. -/
def genericInitiator (record : GenericInitiator) : Node :=
  .ofPieces .null 32 fun context => do
    let handle ← handle context.view record
    return [.byte 5, .byte 32, .zeros 1, .byte record.deviceHandleType,
      .word record.proximityDomain] ++ handle ++ [.word record.flags, .zeros 4]

/-- The nodes of the table. -/
def layout : Layout where
  headerLength := 48
  limits := .usual
  categories :=
    [(Category.ofRecords CpuInterface "GICC affinity" cpuInterface).asRequired,
      Category.ofRecords TranslationService "GIC ITS affinity" translationService,
      Category.ofRecords MemoryAffinity "memory affinity" memory,
      Category.ofRecords GenericInitiator "generic initiator affinity" genericInitiator]

/-- The kind of the table. -/
def kind : TableKind where
  id := .srat
  description := "ACPI.STD.SRAT.GENERATOR"
  signature := .srat
  revision := 3
  minRevision := 3
  layout := layout
  fields _ := .ok [.word 1, .zeros 8]

end FirmwareTables.Srat
