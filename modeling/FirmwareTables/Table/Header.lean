/-
**The header of a table.**

All tables start with the same thirty-six bytes: signature, length, revision, checksum, vendor and
maker. `Header.forRequest` fills in what a request leaves open, `Header.pieces` is the header as it
is written and `Header.parse?` reads it back.
-/

import FirmwareTables.Table.Generator
import FirmwareTables.Table.Writer

namespace FirmwareTables

/-- The header of a table. -/
structure Header where
  /-- The signature of the table. -/
  signature : Signature
  /-- The length of the whole table. -/
  length : UInt32
  /-- The revision of the table's format. -/
  revision : UInt8
  /-- The checksum byte. -/
  checksum : UInt8
  /-- The vendor of the platform. -/
  oemId : OemId
  /-- The vendor's id of the table. -/
  oemTableId : UInt64
  /-- The vendor's revision of the table. -/
  oemRevision : UInt32
  /-- Who made the table. -/
  creatorId : UInt32
  /-- The revision of the maker. -/
  creatorRevision : UInt32
  deriving DecidableEq

namespace Header

/-- The table id where a request leaves it open: four bytes of the vendor id, and the signature. -/
def usualTableId (profile : Profile) (info : ManagerInfo) : UInt64 :=
  UInt64.ofNat (Bytes.toNat (info.oemId.bytes.take 4)) ||| profile.signature.raw.toUInt64 <<< 32

/-- The header of a table of a length, its checksum still open. -/
def forRequest (profile : Profile) (request : TableRequest) (info : ManagerInfo) (length : Nat) :
    Except TableError Header :=
  if length < headerLength then .error (.invalidParameter (.shortTable length headerLength))
  else if 4294967295 < length then .error (.invalidParameter (.longTable length))
  else
    .ok {
      signature := request.signature
      length := UInt32.ofNat length
      revision := request.revision
      checksum := 0
      oemId := info.oemId
      oemTableId :=
        if request.oemTableId ≠ 0 then request.oemTableId else usualTableId profile info
      oemRevision := if request.oemRevision ≠ 0 then request.oemRevision else info.revision.raw
      creatorId := profile.creatorId
      creatorRevision := profile.creatorRevision.raw }

/-- The header as it is written. -/
def pieces (header : Header) : List Piece :=
  [.word header.signature.raw, .word header.length, .byte header.revision, .byte header.checksum,
    .bytes header.oemId.bytes, .long header.oemTableId, .word header.oemRevision,
    .word header.creatorId, .word header.creatorRevision]

/-- The header at the start of a byte string, if it is long enough. -/
def parse? (bytes : Bytes) : Option Header := do
  let oemId ← OemId.ofBytes? (← bytes.slice? 10 6)
  return {
    signature := ⟨← bytes.read32? 0⟩
    length := ← bytes.read32? 4
    revision := ← bytes[8]?
    checksum := ← bytes[checksumOffset]?
    oemId := oemId
    oemTableId := ← bytes.read64? 16
    oemRevision := ← bytes.read32? 24
    creatorId := ← bytes.read32? 28
    creatorRevision := ← bytes.read32? 32 }

end Header

end FirmwareTables
