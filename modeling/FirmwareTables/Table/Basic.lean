/-
**Tables and their checksum.**

A table is a byte string that starts with a header. The checksum byte of the header is chosen such
that all bytes of the table add up to zero.
-/

import FirmwareTables.Bytes.LittleEndian
import FirmwareTables.Identifier.Signature

namespace FirmwareTables

/-- The length of the header that all tables start with. -/
def headerLength : Nat := 36

/-- Where the checksum byte of a header lies. -/
def checksumOffset : Nat := 9

/-- A table. -/
structure Table where
  /-- All bytes of the table. -/
  bytes : Bytes
  deriving DecidableEq

namespace Table

/-- The number of bytes. -/
def size (table : Table) : Nat := table.bytes.length

/-- The signature in the first four bytes. -/
def signature? (table : Table) : Option Signature := (table.bytes.read32? 0).map Signature.mk

/-- The length that the header states. -/
def length? (table : Table) : Option UInt32 := table.bytes.read32? 4

/-- The checksum byte. -/
def checksum? (table : Table) : Option UInt8 := table.bytes[checksumOffset]?

/-- Whether all bytes add up to zero. -/
def isValid (table : Table) : Bool := table.bytes.sum == 0

/-- The table with the checksum byte that makes all bytes add up to zero; a table too short for a
header stays as it is. -/
def finalize (table : Table) : Table :=
  if table.size < headerLength then table
  else
    let cleared : Bytes := table.bytes.set checksumOffset 0
    ⟨cleared.set checksumOffset (0 - cleared.sum)⟩

/-- The signature and the length of a table. -/
def debugText (table : Table) : String :=
  let signature := match table.signature? with
    | some signature => s!"Some({signature.debugText})"
    | none => "None"
  s!"AcpiTable \x7b signature: {signature}, len: {Digits.decimal table.size} \x7d"

end Table

end FirmwareTables
