/-
**Descriptions stored.**

Populating stores a description under fresh tokens: one for every node, in the order of the nodes'
names, then one for every list of a node that is not empty, as the nodes are stored, and one for
every device handle. What was stored before a failure stays. Only an installed manager is populated.
-/

import FirmwareTables.Manager.Basic
import FirmwareTables.Platform.Validation

namespace FirmwareTables

/-- Steps that change a configuration, up to the first that fails. -/
abbrev Population := ExceptT PlatformError (StateM Configuration)

namespace Population

/-- Issues a token. -/
def newToken : Population Token := fun configuration =>
  let (token, configuration) := configuration.newToken
  (.ok token, configuration)

/-- Makes changes of the store. -/
def store (changes : Store → Progress) : Population Unit := fun configuration =>
  let progress := changes configuration.store
  (progress.outcome.result.mapError .repository, { configuration with store := progress.store })

variable {α : Type} [Record α]

/-- Stores a record. -/
def addRecord (token : Token) (record : α) : Population Unit :=
  store (Access.live.addObjects token [record])

/-- Stores records one after the other. -/
def addRecords (token : Token) (records : List α) : Population Unit :=
  store (Access.live.addObjects token records)

/-- Stores a list of a node: its length and the fresh token of the list, or the null token if the
list is empty. -/
def addList (records : List α) : Population (UInt32 × Token) := do
  if records.isEmpty then return (0, .null)
  let token ← newToken
  addRecords token records
  return (UInt32.ofNat records.length, token)

end Population

/-- The tokens of nodes by name. -/
abbrev NodeTokens := List (String × Token)

/-- The token of a node. -/
def NodeTokens.find (tokens : NodeTokens) (name : String) : Population Token :=
  match (List.find? (fun entry => entry.1 == name) tokens).map Prod.snd with
  | some token => return token
  | none => throw (.unknownReference name)

/-- Issues a token for every name. -/
def NodeTokens.issue (names : List String) : Population NodeTokens :=
  names.mapM fun name => do return (name, ← Population.newToken)

/-- Stores mappings that go to named nodes. -/
def MappingSection.addAll (tokens : NodeTokens) (mappings : List MappingSection) :
    Population (UInt32 × Token) := do
  let records ← mappings.mapM fun mapping => do
    let output ← tokens.find mapping.output
    return (⟨mapping.inputBase, mapping.numIds, mapping.outputBase, output, mapping.flags⟩ :
      IdMapping)
  Population.addList records

/-- Stores a group of interrupt translation services. -/
def ItsGroupSection.add (tokens : NodeTokens) (group : ItsGroupSection) : Population Unit := do
  let token ← tokens.find group.name
  let (itsIdCount, itsIdToken) ← Population.addList (group.itsIds.map ItsIdentifier.mk)
  Population.addRecord token ({ token, itsIdCount, itsIdToken } : ItsGroup)

/-- Stores a named component. -/
def NamedComponentSection.add (tokens : NodeTokens) (component : NamedComponentSection) :
    Population Unit := do
  let token ← tokens.find component.name
  let (idMappingCount, idMappingToken) ← MappingSection.addAll tokens component.idMappings
  Population.addRecord token ({
    token, idMappingCount, idMappingToken
    flags := component.flags
    cacheCoherent := component.cacheCoherent
    allocationHints := component.allocationHints
    memoryAccessFlags := component.memoryAccessFlags
    addressSizeLimit := component.addressSizeLimit
    objectName := component.objectName } : NamedComponent)

/-- Stores a root complex. -/
def RootComplexSection.add (tokens : NodeTokens) (complex : RootComplexSection) :
    Population Unit := do
  let token ← tokens.find complex.name
  let (idMappingCount, idMappingToken) ← MappingSection.addAll tokens complex.idMappings
  Population.addRecord token ({
    token, idMappingCount, idMappingToken
    cacheCoherent := complex.cacheCoherent
    allocationHints := complex.allocationHints
    memoryAccessFlags := complex.memoryAccessFlags
    atsAttribute := complex.atsAttribute
    pciSegmentNumber := complex.pciSegmentNumber
    memoryAddressSize := complex.memoryAddressSize } : RootComplex)

/-- Stores a memory management unit of architecture version 1 or 2. -/
def SmmuV1V2Section.add (tokens : NodeTokens) (smmu : SmmuV1V2Section) : Population Unit := do
  let token ← tokens.find smmu.name
  let (idMappingCount, idMappingToken) ← MappingSection.addAll tokens smmu.idMappings
  let (contextInterruptCount, contextInterruptToken) ←
    Population.addList smmu.contextInterrupts
  let (pmuInterruptCount, pmuInterruptToken) ← Population.addList smmu.pmuInterrupts
  Population.addRecord token ({
    token, idMappingCount, idMappingToken
    baseAddress := smmu.baseAddress
    span := smmu.span
    model := smmu.model
    flags := smmu.flags
    contextInterruptCount, contextInterruptToken, pmuInterruptCount, pmuInterruptToken
    nsgIrpt := smmu.nsgIrpt
    nsgIrptFlags := smmu.nsgIrptFlags
    nsgCfgIrpt := smmu.nsgCfgIrpt
    nsgCfgIrptFlags := smmu.nsgCfgIrptFlags } : SmmuV1V2)

/-- Stores a memory management unit of architecture version 3. -/
def SmmuV3Section.add (tokens : NodeTokens) (smmu : SmmuV3Section) : Population Unit := do
  let token ← tokens.find smmu.name
  let (idMappingCount, idMappingToken) ← MappingSection.addAll tokens smmu.idMappings
  Population.addRecord token ({
    token, idMappingCount, idMappingToken
    baseAddress := smmu.baseAddress
    flags := smmu.flags
    vatosAddress := smmu.vatosAddress
    model := smmu.model
    eventInterrupt := smmu.eventInterrupt
    priInterrupt := smmu.priInterrupt
    gerrInterrupt := smmu.gerrInterrupt
    syncInterrupt := smmu.syncInterrupt
    proximityDomain := smmu.proximityDomain
    deviceIdMappingIndex := smmu.deviceIdMappingIndex } : SmmuV3)

/-- Stores a group of performance monitor counters. -/
def PmcgSection.add (tokens : NodeTokens) (group : PmcgSection) : Population Unit := do
  let token ← tokens.find group.name
  let (idMappingCount, idMappingToken) ← MappingSection.addAll tokens group.idMappings
  let referenceToken ← tokens.find group.reference
  Population.addRecord token ({
    token, idMappingCount, idMappingToken
    baseAddress := group.baseAddress
    overflowInterrupt := group.overflowInterrupt
    page1BaseAddress := group.page1BaseAddress
    referenceToken } : Pmcg)

/-- Stores the handle of a device; its kind as a number. -/
def Device.add (token : Token) : Device → Population UInt8
  | acpi handle => do
    Population.addRecord token handle
    return AcpiHandle.deviceType
  | pci handle => do
    Population.addRecord token handle
    return PciHandle.deviceType

/-- Stores a device that initiates memory accesses. -/
def InitiatorSection.add (initiator : InitiatorSection) : Population Unit := do
  let deviceHandleToken ← Population.newToken
  let deviceHandleType ← initiator.device.add deviceHandleToken
  Population.addRecord .null ({
    proximityDomain := initiator.proximityDomain
    flags := initiator.flags
    deviceHandleType, deviceHandleToken } : GenericInitiator)

namespace Platform

/-- Puts a record about the vendor in the place of the old one. -/
def storeVendor (info : ManagerInfo) : Population Unit := fun configuration =>
  match Access.live.setObjects .null [info] configuration.store with
  | .error error => (.error (.repository error), configuration)
  | .ok store => (.ok (), { configuration with store := store })

/-- Stores the nodes of the remapping table. -/
def addNodes (platform : Platform) (tokens : NodeTokens) : Population Unit := do
  platform.itsGroups.forM (ItsGroupSection.add tokens)
  platform.namedComponents.forM (NamedComponentSection.add tokens)
  platform.rootComplexes.forM (RootComplexSection.add tokens)
  platform.smmuV1V2.forM (SmmuV1V2Section.add tokens)
  platform.smmuV3.forM (SmmuV3Section.add tokens)
  platform.pmcgs.forM (PmcgSection.add tokens)

/-- Stores a description that is consistent. -/
def addAll (platform : Platform) : Population Unit := do
  let info ← liftM platform.vendor.toInfo
  storeVendor info
  Population.addRecords .null platform.tables
  Population.addRecords .null platform.cpuInterfaces
  Population.addRecords .null platform.distributors
  Population.addRecords .null platform.msiFrames
  Population.addRecords .null platform.redistributors
  Population.addRecords .null platform.translationServices
  Population.addRecords .null platform.configSpaces
  Population.addRecords .null platform.memoryAffinities
  let tokens ← NodeTokens.issue platform.nodeNames
  platform.addNodes tokens
  platform.initiators.forM InitiatorSection.add

/-- Stores a description, if the manager is installed and the description is consistent. -/
def populate (platform : Platform) (installed : Bool) (configuration : Configuration) :
    Except PlatformError Unit × Configuration :=
  if !installed then (.error (.repository .unsupported), configuration)
  else
    match platform.validate with
    | .error error => (.error error, configuration)
    | .ok () => (platform.addAll.run).run configuration

end Platform

end FirmwareTables
