/-
**Records about the tables as a whole.**

`ManagerInfo` names the vendor and the revision of the configuration manager; its first instance
goes into the header of every table. A `TableRequest` asks for one table.
-/

import FirmwareTables.Record.Basic

namespace FirmwareTables

/-- Who provides the configuration, and in which revision. -/
structure ManagerInfo where
  /-- The revision of the configuration manager. -/
  revision : Revision
  /-- The vendor of the platform. -/
  oemId : OemId
  deriving DecidableEq

instance : Record ManagerInfo where
  objectId := .make .standard 0
  fields := [⟨"revision", .revision⟩, ⟨"oem_id", .oemId⟩]
  optional := false
  toRow info := (info.revision, info.oemId, ())
  ofRow row := ⟨row.1, row.2.1⟩
  ofRow_toRow _ := rfl
  toRow_ofRow _ := rfl

/-- What a configuration manager says of itself before a platform is described. -/
instance : Inhabited ManagerInfo := ⟨⟨.make 1 1, .zero⟩⟩

/-- A request for one table. -/
structure TableRequest where
  /-- The signature of the table. -/
  signature : Signature
  /-- The revision of the table's format. -/
  revision : UInt8
  /-- The generator to build it. -/
  generatorId : GeneratorId
  /-- The vendor's id of the table; zero asks for the usual one. -/
  oemTableId : UInt64
  /-- The vendor's revision of the table; zero asks for the usual one. -/
  oemRevision : UInt32
  deriving DecidableEq, Inhabited

instance : Record TableRequest where
  objectId := .make .standard 1
  fields := [⟨"signature", .signature⟩, ⟨"revision", .byte⟩, ⟨"generator_id", .generator⟩,
    ⟨"oem_table_id", .long⟩, ⟨"oem_revision", .word⟩]
  optional := false
  toRow request := (request.signature, request.revision, request.generatorId, request.oemTableId,
    request.oemRevision, ())
  ofRow row := ⟨row.1, row.2.1, row.2.2.1, row.2.2.2.1, row.2.2.2.2.1⟩
  ofRow_toRow _ := rfl
  toRow_ofRow _ := rfl

end FirmwareTables
