/-
**The table of memory-mapped configuration space.**

Eight zero bytes behind the header, then sixteen bytes for each range of PCI configuration space, of
which there has to be one.
-/

import FirmwareTables.Generator.Build
import FirmwareTables.Record.Affinity

namespace FirmwareTables.Mcfg

/-- The bytes of a range of configuration space. -/
def configSpace (record : ConfigSpace) : Node :=
  .ofPieces .null 16 fun _ => pure
    [.long record.baseAddress, .half record.pciSegmentGroupNumber, .byte record.startBusNumber,
      .byte record.endBusNumber, .zeros 4]

/-- The nodes of the table. -/
def layout : Layout where
  headerLength := 44
  limits := .usual
  categories := [(Category.ofRecords ConfigSpace "PCI configuration space" configSpace).asRequired]

/-- The kind of the table. -/
def kind : TableKind where
  id := .mcfg
  description := "ACPI.STD.MCFG.GENERATOR"
  signature := .mcfg
  revision := 1
  minRevision := 1
  layout := layout
  fields _ := .ok [.zeros 8]

end FirmwareTables.Mcfg
