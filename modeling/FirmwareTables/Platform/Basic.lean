/-
**Platform descriptions.**

A `Platform` is what a description says: who provides it, which tables it asks for, the records of
the interrupt controller, the buses and the memory, and the nodes of the remapping table by name.
-/

import FirmwareTables.Platform.Section

namespace FirmwareTables

/-- What a description says of a platform. -/
structure Platform where
  /-- Who provides the configuration. -/
  vendor : VendorSection
  /-- The tables to build. -/
  tables : List TableRequest
  /-- The interfaces of the processors to the interrupt controller. -/
  cpuInterfaces : List CpuInterface
  /-- The distributors. -/
  distributors : List Distributor
  /-- The frames of message interrupts. -/
  msiFrames : List MsiFrame
  /-- The redistributors. -/
  redistributors : List Redistributor
  /-- The interrupt translation services. -/
  translationServices : List TranslationService
  /-- The configuration spaces. -/
  configSpaces : List ConfigSpace
  /-- The groups of interrupt translation services. -/
  itsGroups : List ItsGroupSection
  /-- The named components. -/
  namedComponents : List NamedComponentSection
  /-- The root complexes. -/
  rootComplexes : List RootComplexSection
  /-- The memory management units of architecture version 1 or 2. -/
  smmuV1V2 : List SmmuV1V2Section
  /-- The memory management units of architecture version 3. -/
  smmuV3 : List SmmuV3Section
  /-- The groups of performance monitor counters. -/
  pmcgs : List PmcgSection
  /-- The ranges of memory with an affinity. -/
  memoryAffinities : List MemoryAffinity
  /-- The devices with an affinity. -/
  initiators : List InitiatorSection
  deriving DecidableEq, Inhabited

instance : Section Platform where
  initial := default
  slots := [
    .part "manager" (·.vendor) fun vendor owner => { owner with vendor },
    .parts "tables" (·.tables) fun tables owner => { owner with tables },
    .records "gicc" (·.cpuInterfaces) fun cpuInterfaces owner => { owner with cpuInterfaces },
    .records "gicd" (·.distributors) fun distributors owner => { owner with distributors },
    .records "gic_msi_frames" (·.msiFrames) fun msiFrames owner => { owner with msiFrames },
    .records "gic_redistributors" (·.redistributors) fun redistributors owner =>
      { owner with redistributors },
    .records "gic_its" (·.translationServices) fun translationServices owner =>
      { owner with translationServices },
    .records "pci_config_spaces" (·.configSpaces) fun configSpaces owner =>
      { owner with configSpaces },
    .parts "its_groups" (·.itsGroups) fun itsGroups owner => { owner with itsGroups },
    .parts "named_components" (·.namedComponents) fun namedComponents owner =>
      { owner with namedComponents },
    .parts "root_complexes" (·.rootComplexes) fun rootComplexes owner =>
      { owner with rootComplexes },
    .parts "smmu_v1v2" (·.smmuV1V2) fun smmuV1V2 owner => { owner with smmuV1V2 },
    .parts "smmu_v3" (·.smmuV3) fun smmuV3 owner => { owner with smmuV3 },
    .parts "pmcgs" (·.pmcgs) fun pmcgs owner => { owner with pmcgs },
    .records "memory_affinity" (·.memoryAffinities) fun memoryAffinities owner =>
      { owner with memoryAffinities },
    .parts "generic_initiators" (·.initiators) fun initiators owner =>
      { owner with initiators }]

namespace Platform

/-- The names of all nodes, in order. -/
def nodeNames (platform : Platform) : List String :=
  platform.itsGroups.map (·.name) ++ platform.namedComponents.map (·.name) ++
    platform.rootComplexes.map (·.name) ++ platform.smmuV1V2.map (·.name) ++
    platform.smmuV3.map (·.name) ++ platform.pmcgs.map (·.name)

/-- The mappings of all nodes, in order. -/
def mappings (platform : Platform) : List MappingSection :=
  platform.namedComponents.flatMap (·.idMappings) ++
    platform.rootComplexes.flatMap (·.idMappings) ++ platform.smmuV1V2.flatMap (·.idMappings) ++
    platform.smmuV3.flatMap (·.idMappings) ++ platform.pmcgs.flatMap (·.idMappings)

/-- The names that mappings and then counters refer to, in order. -/
def references (platform : Platform) : List String :=
  platform.mappings.map (·.output) ++ platform.pmcgs.map (·.reference)

end Platform

end FirmwareTables
