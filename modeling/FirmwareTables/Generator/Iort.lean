/-
**The table of I/O remapping.**

The number of nodes, where they start and four zero bytes behind the header, then the nodes of six
kinds. A node has a header of sixteen bytes, the fields of its kind and its arrays, id mappings
last. Each id mapping and each group of counters refers to a node of the table by its token, for
which the offset of that node is written.

An array is stored under a token of its own and has to hold at least as many items as its node
counts; only so many are written. Where id mappings or performance interrupts are counted without a
token, zeros stand in their place.
-/

import FirmwareTables.Generator.Build
import FirmwareTables.Record.Remapping

namespace FirmwareTables.Iort

/-- The kinds of nodes. -/
inductive NodeKind where
  /-- A group of translation services. -/
  | itsGroup
  /-- A device that the namespace names. -/
  | namedComponent
  /-- A root complex. -/
  | rootComplex
  /-- A memory management unit of the first or second version. -/
  | smmuV1V2
  /-- A memory management unit of the third version. -/
  | smmuV3
  /-- A group of performance counters. -/
  | pmcg
  deriving DecidableEq

namespace NodeKind

/-- The number of a kind. -/
def number : NodeKind → UInt8
  | itsGroup => 0
  | namedComponent => 1
  | rootComplex => 2
  | smmuV1V2 => 3
  | smmuV3 => 4
  | pmcg => 5

/-- The revision of the nodes of a kind. -/
def revision : NodeKind → UInt8
  | itsGroup => 0
  | namedComponent => 2
  | rootComplex => 1
  | smmuV1V2 => 0
  | smmuV3 => 2
  | pmcg => 1

/-- The name of a kind. -/
def name : NodeKind → String
  | itsGroup => "ItsGroup"
  | namedComponent => "NamedComponent"
  | rootComplex => "RootComplex"
  | smmuV1V2 => "SmmuV1V2"
  | smmuV3 => "SmmuV3"
  | pmcg => "Pmcg"

end NodeKind

/-- The length of the header of a node. -/
def nodeHeaderLength : Nat := 16

/-- The header of a node: kind, length, revision, number of id mappings and where they start. -/
def nodeHeader (kind : NodeKind) (length : Nat) (mappingCount : UInt32) (mappingsAt : Nat) :
    Except TableError (List Piece) :=
  if length ≤ 65535 then
    .ok [.byte kind.number, .half (UInt16.ofNat length), .byte kind.revision, .zeros 4,
      .word mappingCount, .word (UInt32.ofNat mappingsAt)]
  else .error (.invalidParameter (.wideNode kind.name length))

/-- The first `count` items of an array. -/
def fetchArray (α : Type) [Record α] (context : Context) (token : Token) (count : UInt32)
    (what : String) : Reading TableError (List α) := do
  let count := count.toNat
  let items ← (context.view.getList α token).mapError .repository
  if items.length < count then .fail (.notFound (.items count what token items.length))
  else return items.take count

/-- The length of id mappings. -/
def mappingsLength (count : UInt32) : Nat := 20 * count.toNat

/-- The length of interrupts. -/
def interruptsLength (count : UInt32) : Nat := 8 * count.toNat

/-- The bytes of an id mapping, its reference made an offset. -/
def idMapping (context : Context) (mapping : IdMapping) : Except TableError (List Piece) := do
  let target ← context.index.resolve mapping.outputReferenceToken
  return [.word mapping.inputBase, .word mapping.numIds, .word mapping.outputBase,
    .word (UInt32.ofNat target), .word mapping.flags]

/-- The id mappings of a node. -/
def idMappings (context : Context) (count : UInt32) (token : Token) :
    Reading TableError (List Piece) :=
  if count = 0 ∨ token.isNull then pure [.zeros (mappingsLength count)]
  else do
    let mappings ← fetchArray IdMapping context token count "ID mappings"
    return (← Reading.ofExcept (mappings.mapM (idMapping context))).flatten

/-- The interrupts of a memory management unit. -/
def interrupts (context : Context) (count : UInt32) (token : Token) :
    Reading TableError (List Piece) :=
  if count = 0 then pure []
  else do
    let items ← fetchArray SmmuInterrupt context token count "SMMU interrupts"
    return items.flatMap fun item => [.word item.interrupt, .word item.flags]

/-- The length of a group of translation services. -/
def itsGroupLength (record : ItsGroup) : Nat := nodeHeaderLength + 4 + 4 * record.itsIdCount.toNat

/-- The bytes of a group of translation services. -/
def itsGroup (record : ItsGroup) : Node :=
  .ofPieces record.token (itsGroupLength record) fun context => do
    let header ← Reading.ofExcept (nodeHeader .itsGroup (itsGroupLength record) 0 0)
    let ids ←
      if record.itsIdCount = 0 then pure []
      else fetchArray ItsIdentifier context record.itsIdToken record.itsIdCount "ITS identifiers"
    return header ++ .word record.itsIdCount :: ids.map fun item => .word item.itsId

/-- The length of a name with the zero behind it, rounded up to a multiple of four. -/
def paddedLength (name : Bytes) : Nat := (name.length + 4) / 4 * 4

/-- The octets of a component's name. -/
def componentName (record : NamedComponent) : Bytes := Utf8.encode record.objectName

/-- Where the id mappings of a component start. -/
def componentMappingsAt (record : NamedComponent) : Nat :=
  nodeHeaderLength + 13 + paddedLength (componentName record)

/-- The length of a component. -/
def componentLength (record : NamedComponent) : Nat :=
  componentMappingsAt record + mappingsLength record.idMappingCount

/-- The bytes of a component that the namespace names. -/
def namedComponent (record : NamedComponent) : Node :=
  .ofPieces record.token (componentLength record) fun context => do
    let name := componentName record
    let header ← Reading.ofExcept <| nodeHeader .namedComponent (componentLength record)
      record.idMappingCount (componentMappingsAt record)
    let mappings ← idMappings context record.idMappingCount record.idMappingToken
    return header ++
      [.word record.flags, .word record.cacheCoherent, .byte record.allocationHints, .zeros 2,
        .byte record.memoryAccessFlags, .byte record.addressSizeLimit, .bytes name,
        .zeros (paddedLength name - name.length)] ++ mappings

/-- Where the id mappings of a root complex start. -/
def rootComplexMappingsAt : Nat := nodeHeaderLength + 20

/-- The length of a root complex. -/
def rootComplexLength (record : RootComplex) : Nat :=
  rootComplexMappingsAt + mappingsLength record.idMappingCount

/-- The bytes of a root complex. -/
def rootComplex (record : RootComplex) : Node :=
  .ofPieces record.token (rootComplexLength record) fun context => do
    let header ← Reading.ofExcept <| nodeHeader .rootComplex (rootComplexLength record)
      record.idMappingCount rootComplexMappingsAt
    let mappings ← idMappings context record.idMappingCount record.idMappingToken
    return header ++
      [.word record.cacheCoherent, .byte record.allocationHints, .zeros 2,
        .byte record.memoryAccessFlags, .word record.atsAttribute, .word record.pciSegmentNumber,
        .byte record.memoryAddressSize, .zeros 3] ++ mappings

/-- Where the context interrupts of a unit start. -/
def contextInterruptsAt : Nat := nodeHeaderLength + 60

/-- Where the performance interrupts of a unit start. -/
def pmuInterruptsAt (record : SmmuV1V2) : Nat :=
  contextInterruptsAt + interruptsLength record.contextInterruptCount

/-- Where the id mappings of a unit start. -/
def unitMappingsAt (record : SmmuV1V2) : Nat :=
  pmuInterruptsAt record + interruptsLength record.pmuInterruptCount

/-- The length of a unit of the first or second version. -/
def smmuV1V2Length (record : SmmuV1V2) : Nat :=
  unitMappingsAt record + mappingsLength record.idMappingCount

/-- The bytes of a memory management unit of the first or second version. -/
def smmuV1V2 (record : SmmuV1V2) : Node :=
  .ofPieces record.token (smmuV1V2Length record) fun context => do
    let header ← Reading.ofExcept <| nodeHeader .smmuV1V2 (smmuV1V2Length record)
      record.idMappingCount (unitMappingsAt record)
    let contextInterrupts ←
      interrupts context record.contextInterruptCount record.contextInterruptToken
    let pmuInterrupts ←
      if record.pmuInterruptToken.isNull then
        pure [.zeros (interruptsLength record.pmuInterruptCount)]
      else interrupts context record.pmuInterruptCount record.pmuInterruptToken
    let mappings ← idMappings context record.idMappingCount record.idMappingToken
    return header ++
      [.long record.baseAddress, .long record.span, .word record.model, .word record.flags,
        .word 60, .word record.contextInterruptCount, .word (UInt32.ofNat contextInterruptsAt),
        .word record.pmuInterruptCount, .word (UInt32.ofNat (pmuInterruptsAt record)),
        .word record.nsgIrpt, .word record.nsgIrptFlags, .word record.nsgCfgIrpt,
        .word record.nsgCfgIrptFlags] ++ contextInterrupts ++ pmuInterrupts ++ mappings

/-- Where the id mappings of a unit of the third version start. -/
def smmuV3MappingsAt : Nat := nodeHeaderLength + 52

/-- The length of a unit of the third version. -/
def smmuV3Length (record : SmmuV3) : Nat :=
  smmuV3MappingsAt + mappingsLength record.idMappingCount

/-- The proximity domain of a unit, zero unless its flags make it valid. -/
def smmuV3Domain (record : SmmuV3) : UInt32 :=
  if record.flags &&& 8 ≠ 0 then record.proximityDomain else 0

/-- The id mapping of a unit's own interrupts, zero if all four of them are wired. -/
def smmuV3MappingIndex (record : SmmuV3) : UInt32 :=
  if record.eventInterrupt ≠ 0 ∧ record.priInterrupt ≠ 0 ∧ record.gerrInterrupt ≠ 0 ∧
      record.syncInterrupt ≠ 0 then 0
  else record.deviceIdMappingIndex

/-- The bytes of a memory management unit of the third version. -/
def smmuV3 (record : SmmuV3) : Node :=
  .ofPieces record.token (smmuV3Length record) fun context => do
    let header ← Reading.ofExcept <| nodeHeader .smmuV3 (smmuV3Length record)
      record.idMappingCount smmuV3MappingsAt
    let mappings ← idMappings context record.idMappingCount record.idMappingToken
    return header ++
      [.long record.baseAddress, .word record.flags, .zeros 4, .long record.vatosAddress,
        .word record.model, .word record.eventInterrupt, .word record.priInterrupt,
        .word record.gerrInterrupt, .word record.syncInterrupt, .word (smmuV3Domain record),
        .word (smmuV3MappingIndex record)] ++ mappings

/-- Where the id mappings of a group of counters start. -/
def pmcgMappingsAt : Nat := nodeHeaderLength + 24

/-- The length of a group of counters. -/
def pmcgLength (record : Pmcg) : Nat := pmcgMappingsAt + mappingsLength record.idMappingCount

/-- The bytes of a group of performance counters. -/
def pmcg (record : Pmcg) : Node :=
  .ofPieces record.token (pmcgLength record) fun context => do
    let header ← Reading.ofExcept <| nodeHeader .pmcg (pmcgLength record)
      record.idMappingCount pmcgMappingsAt
    let target ← Reading.ofExcept (context.index.resolve record.referenceToken)
    let mappings ← idMappings context record.idMappingCount record.idMappingToken
    return header ++
      [.long record.baseAddress, .word record.overflowInterrupt, .word (UInt32.ofNat target),
        .long record.page1BaseAddress] ++ mappings

/-- The nodes of the table. -/
def layout : Layout where
  headerLength := 48
  limits := .usual
  categories :=
    [Category.ofRecords ItsGroup "ITS group" itsGroup,
      Category.ofRecords NamedComponent "named component" namedComponent,
      Category.ofRecords RootComplex "root complex" rootComplex,
      Category.ofRecords SmmuV1V2 "SMMUv1/v2" smmuV1V2,
      Category.ofRecords SmmuV3 "SMMUv3" smmuV3,
      Category.ofRecords Pmcg "PMCG" pmcg]

/-- The number of nodes, where they start, and four zero bytes. -/
def fields (plan : Plan) : Except TableError (List Piece) :=
  if plan.nodeCount ≤ 4294967295 then
    .ok [.word (UInt32.ofNat plan.nodeCount), .word (UInt32.ofNat layout.headerLength), .zeros 4]
  else .error (.invalidParameter .manyNodes)

/-- The kind of the table. -/
def kind : TableKind where
  id := .iort
  description := "ACPI.STD.IORT.GENERATOR"
  signature := .iort
  revision := 0
  minRevision := 0
  layout := layout
  fields := fields

end FirmwareTables.Iort
