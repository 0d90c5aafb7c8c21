/-
**Records of buses and proximity.**

Where PCI configuration space lies, which memory belongs to which proximity domain, and which
devices initiate traffic on their own. A generic initiator names its device by a handle that is
stored under a token of its own.
-/

import FirmwareTables.Record.Basic

namespace FirmwareTables

/-- A range of PCI configuration space. -/
structure ConfigSpace where
  /-- Where the range lies in memory. -/
  baseAddress : UInt64
  /-- The PCI segment group. -/
  pciSegmentGroupNumber : UInt16
  /-- The first bus. -/
  startBusNumber : UInt8
  /-- The last bus. -/
  endBusNumber : UInt8
  deriving DecidableEq, Inhabited

instance : Record ConfigSpace where
  objectId := .make .arm 15
  fields := [⟨"base_address", .long⟩, ⟨"pci_segment_group_number", .half⟩,
    ⟨"start_bus_number", .byte⟩, ⟨"end_bus_number", .byte⟩]
  optional := true
  toRow record := (record.baseAddress, record.pciSegmentGroupNumber, record.startBusNumber,
    record.endBusNumber, ())
  ofRow row := ⟨row.1, row.2.1, row.2.2.1, row.2.2.2.1⟩
  ofRow_toRow _ := rfl
  toRow_ofRow _ := rfl

/-- The proximity domain of a range of memory. -/
structure MemoryAffinity where
  /-- The proximity domain. -/
  proximityDomain : UInt32
  /-- Where the range starts. -/
  baseAddress : UInt64
  /-- How long the range is. -/
  length : UInt64
  /-- Whether the range is enabled, hot-pluggable or non-volatile. -/
  flags : UInt32
  deriving DecidableEq, Inhabited

instance : Record MemoryAffinity where
  objectId := .make .arm 31
  fields := [⟨"proximity_domain", .word⟩, ⟨"base_address", .long⟩, ⟨"length", .long⟩,
    ⟨"flags", .word⟩]
  optional := true
  toRow record := (record.proximityDomain, record.baseAddress, record.length, record.flags, ())
  ofRow row := ⟨row.1, row.2.1, row.2.2.1, row.2.2.2.1⟩
  ofRow_toRow _ := rfl
  toRow_ofRow _ := rfl

/-- The proximity domain of a device. -/
structure GenericInitiator where
  /-- The proximity domain. -/
  proximityDomain : UInt32
  /-- Whether the initiator is enabled. -/
  flags : UInt32
  /-- The kind of the handle: zero for an ACPI, one for a PCI device. -/
  deviceHandleType : UInt8
  /-- Where the handle is stored. -/
  deviceHandleToken : Token
  deriving DecidableEq, Inhabited

instance : Record GenericInitiator where
  objectId := .make .arm 34
  fields := [⟨"proximity_domain", .word⟩, ⟨"flags", .word⟩, ⟨"device_handle_type", .byte⟩,
    ⟨"device_handle_token", .token⟩]
  optional := false
  toRow record := (record.proximityDomain, record.flags, record.deviceHandleType,
    record.deviceHandleToken, ())
  ofRow row := ⟨row.1, row.2.1, row.2.2.1, row.2.2.2.1⟩
  ofRow_toRow _ := rfl
  toRow_ofRow _ := rfl

/-- The handle of an ACPI device. -/
structure AcpiHandle where
  /-- The hardware id. -/
  hid : UInt64
  /-- The unique id. -/
  uid : UInt32
  deriving DecidableEq, Inhabited

instance : Record AcpiHandle where
  objectId := .make .arm 32
  fields := [⟨"hid", .long⟩, ⟨"uid", .word⟩]
  optional := false
  toRow record := (record.hid, record.uid, ())
  ofRow row := ⟨row.1, row.2.1⟩
  ofRow_toRow _ := rfl
  toRow_ofRow _ := rfl

/-- The number by which records say that a handle is of this kind. -/
def AcpiHandle.deviceType : UInt8 := 0

/-- The handle of a PCI device. -/
structure PciHandle where
  /-- The PCI segment. -/
  segmentNumber : UInt16
  /-- The bus. -/
  busNumber : UInt8
  /-- The device on the bus. -/
  deviceNumber : UInt8
  /-- The function of the device. -/
  functionNumber : UInt8
  deriving DecidableEq, Inhabited

instance : Record PciHandle where
  objectId := .make .arm 33
  fields := [⟨"segment_number", .half⟩, ⟨"bus_number", .byte⟩, ⟨"device_number", .byte⟩,
    ⟨"function_number", .byte⟩]
  optional := false
  toRow record := (record.segmentNumber, record.busNumber, record.deviceNumber,
    record.functionNumber, ())
  ofRow row := ⟨row.1, row.2.1, row.2.2.1, row.2.2.2.1⟩
  ofRow_toRow _ := rfl
  toRow_ofRow _ := rfl

/-- The number by which records say that a handle is of this kind. -/
def PciHandle.deviceType : UInt8 := 1

/-- Bus, device and function in one number; surplus bits of device and function are dropped. -/
def PciHandle.address (handle : PciHandle) : UInt16 :=
  handle.busNumber.toUInt16 <<< 8 ||| (handle.deviceNumber &&& 0x1f).toUInt16 <<< 3 |||
    (handle.functionNumber &&& 0x7).toUInt16

end FirmwareTables
