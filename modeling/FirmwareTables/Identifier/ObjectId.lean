/-
**Ids of configuration objects.**

An object id is a word whose upper four bits select a namespace and whose other bits are an index
in it. The objects of the standard and of the Arm namespace have names; the vendor namespace is
open.
-/

import FirmwareTables.Identifier.NameError

namespace FirmwareTables

/-- Where the index of an object id counts. -/
inductive Namespace where
  /-- Objects of every platform. -/
  | standard
  /-- Objects of Arm platforms. -/
  | arm
  /-- Objects of a vendor's own. -/
  | oem
  deriving DecidableEq

namespace Namespace

/-- The four bits that select a namespace. -/
def bits : Namespace → UInt32
  | standard => 0x0
  | arm => 0x1
  | oem => 0x8

/-- The namespace that four bits select. -/
def ofBits? (bits : UInt32) : Option Namespace :=
  if bits = 0x0 then some standard
  else if bits = 0x1 then some arm
  else if bits = 0x8 then some oem
  else none

/-- The name of a namespace. -/
def name : Namespace → String
  | standard => "Standard"
  | arm => "Arm"
  | oem => "Oem"

end Namespace

/-- The id of a configuration object. -/
structure ObjectId where
  /-- The id as one word. -/
  raw : UInt32
  deriving DecidableEq, Inhabited

namespace ObjectId

/-- The names of the standard objects, by index. -/
def standardNames : List String := ["CfgMgrInfo", "AcpiTableList", "SmbiosTableList"]

/-- The names of the Arm objects, by index. -/
def armNames : List String :=
  ["Reserved", "Boot Architecture Info", "CPU Info", "Power Management Profile Info",
   "GIC CPU Interface Info", "GIC Distributor Info", "GIC MSI Frame Info",
   "GIC Redistributor Info", "GIC ITS Info", "Serial Console Port Info",
   "Serial Debug Port Info", "Generic Timer Info", "Platform GT Block Info",
   "Generic Timer Block Frame Info", "Platform Generic Watchdog",
   "PCI Configuration Space Info", "Hypervisor Vendor Id", "Fixed feature flags for FADT",
   "ITS Group", "Named Component", "Root Complex", "SMMUv1 or SMMUv2", "SMMUv3", "PMCG",
   "GIC ITS Identifier Array", "ID Mapping Array", "SMMU Interrupt Array",
   "Processor Hierarchy Info", "Cache Info", "Processor Node ID Info", "CM Object Reference",
   "Memory Affinity Info", "Device Handle Acpi", "Device Handle Pci",
   "Generic Initiator Affinity"]

/-- The id of an index in a namespace; bits above the index's twenty-eight are dropped. -/
def make (space : Namespace) (index : UInt32) : ObjectId :=
  ⟨space.bits <<< 28 ||| (index &&& 0x0fffffff)⟩

/-- The index of an id in its namespace. -/
def index (id : ObjectId) : UInt32 := id.raw &&& 0x0fffffff

/-- The namespace of an id. -/
def space (id : ObjectId) : Except NameError Namespace :=
  match Namespace.ofBits? (id.raw >>> 28) with
  | some space => .ok space
  | none => .error (.objectNamespace id.raw)

/-- The name of the object that an id stands for. -/
def name (id : ObjectId) : String :=
  match id.space with
  | .ok .standard => standardNames.getD id.index.toNat "Unknown"
  | .ok .arm => armNames.getD id.index.toNat "Unknown"
  | .ok .oem => "OEM Object"
  | .error _ => "Unknown"

/-- The text of an object id. -/
def text (id : ObjectId) : String := "0x" ++ Digits.renderPadded 16 8 id.raw.toNat

/-- The text of an object id under its type's name. -/
def debugText (id : ObjectId) : String := s!"ObjectId({id.text})"

/-- The standard object with an index, if it has a name. -/
def standard? (index : Nat) : Option ObjectId :=
  if index < standardNames.length then some (make .standard (UInt32.ofNat index)) else none

/-- The Arm object with an index, if it has a name. -/
def arm? (index : Nat) : Option ObjectId :=
  if index < armNames.length then some (make .arm (UInt32.ofNat index)) else none

/-- All objects with a name of their own, the standard ones first. -/
def named : List ObjectId :=
  (List.range standardNames.length).filterMap standard? ++
    (List.range armNames.length).filterMap arm?

end ObjectId

end FirmwareTables
