/-
**Descriptions read from texts and files.**

A description is written in TOML, where sequences may hold more items than a section has fields. A
description that is read is validated too.
-/

import FirmwareTables.Platform.Validation
import FirmwareTables.Toml.Document

namespace FirmwareTables.Platform

/-- What TOML allows beyond the fields of a record. -/
def leniency : Leniency := ⟨true⟩

/-- Reads a description without validating it. -/
def ofToml (text : String) : Except PlatformError Platform :=
  match (Tree.ofToml? text).bind (Section.ofTree? Platform leniency) with
  | some platform => .ok platform
  | none => .error .malformed

/-- Reads a description and validates it. -/
def read (text : String) : Except PlatformError Platform := do
  let platform ← ofToml text
  platform.validate
  return platform

/-- Reads the description in a file and validates it. -/
def load (disk : Disk) (path : String) : Except PlatformError Platform :=
  match disk.read path with
  | .error error => .error (.disk error)
  | .ok bytes =>
    match Utf8.decode bytes with
    | .error _ => .error (.disk .notText)
    | .ok text => read text

end FirmwareTables.Platform
