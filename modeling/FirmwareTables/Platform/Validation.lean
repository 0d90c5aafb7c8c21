/-
**Consistent descriptions.**

A description is consistent if its vendor section is well-formed, its nodes have names, all
different, and every reference is the name of a node. `Platform.validate` tells the first thing that
is wrong, in that order.
-/

import FirmwareTables.Platform.Basic
import FirmwareTables.Platform.Error

namespace FirmwareTables

/-- The bytes of at most six ASCII characters, filled up with blanks. -/
def OemId.ofText? (text : String) : Option OemId :=
  let bytes := Utf8.encode text
  if bytes.all (· < 0x80) then
    OemId.ofBytes? (bytes ++ List.replicate (6 - bytes.length) 0x20)
  else none

/-- The record about the vendor. -/
def VendorSection.toInfo (vendor : VendorSection) : Except PlatformError ManagerInfo :=
  match OemId.ofText? vendor.oemId with
  | none => .error (.invalid (.oemId vendor.oemId))
  | some oemId =>
    match Revision.read vendor.revision with
    | .error error => .error (.invalid (.revision error))
    | .ok revision => .ok ⟨revision, oemId⟩

namespace Platform

/-- Looks for a name that is blank or was seen before. -/
def checkNames (seen : List String) : List String → Except PlatformError Unit
  | [] => .ok ()
  | name :: names =>
    if name.isEmpty then .error (.invalid .unnamed)
    else if seen.contains name then .error (.duplicateName name)
    else checkNames (name :: seen) names

/-- Looks for a reference that is none of the names. -/
def checkReferences (names : List String) : List String → Except PlatformError Unit
  | [] => .ok ()
  | reference :: references =>
    if names.contains reference then checkReferences names references
    else .error (.unknownReference reference)

/-- Looks for something that is wrong with a description. -/
def validate (platform : Platform) : Except PlatformError Unit := do
  let _ ← platform.vendor.toInfo
  checkNames [] platform.nodeNames
  checkReferences platform.nodeNames platform.references

end Platform

end FirmwareTables
