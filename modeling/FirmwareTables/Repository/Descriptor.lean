/-
**Descriptors.**

A descriptor hands a payload over: the bytes of some instances of one object, their number, and the
token they belong to. `Descriptor.ofList` describes a list of records and `Descriptor.toList` reads
the records of a descriptor, which has to hold exactly as many as it counts.
-/

import FirmwareTables.Record.Basic
import FirmwareTables.Repository.Error

namespace FirmwareTables

/-- The largest number of instances that can be counted. -/
def maxCount : Nat := 4294967295

/-- The payload of some instances of an object. -/
structure Descriptor where
  /-- The object. -/
  id : ObjectId
  /-- The token of the instances. -/
  token : Token
  /-- The number of instances. -/
  count : UInt32
  /-- The bytes of all instances. -/
  data : Bytes
  deriving DecidableEq

namespace Descriptor

/-- The descriptor of one instance. -/
def single (id : ObjectId) (token : Token) (data : Bytes) : Descriptor := ⟨id, token, 1, data⟩

/-- The number of payload bytes. -/
def size (descriptor : Descriptor) : Nat := descriptor.data.length

/-- Whether there is no payload. -/
def isEmpty (descriptor : Descriptor) : Bool := descriptor.data.isEmpty

/-- The fields of a descriptor, its payload by size only. -/
def debugText (descriptor : Descriptor) : String :=
  s!"ObjectDescriptor \x7b object_id: {descriptor.id.debugText}, " ++
  s!"token: {descriptor.token.debugText}, count: {Digits.decimal descriptor.count.toNat}, " ++
  s!"size: {Digits.decimal descriptor.size} \x7d"

variable {α : Type} [Record α]

/-- The descriptor of a list of records. -/
def ofList (records : List α) (token : Token) : Except RepositoryError Descriptor :=
  if records.length ≤ maxCount then
    .ok ⟨Record.objectId α, token, UInt32.ofNat records.length, records.flatMap Record.encode⟩
  else .error (.invalidParameter .tooMany)

/-- Reads `remaining` records, `index` of them being read already. -/
def readRecords (id : ObjectId) (count : Nat) :
    (remaining index : Nat) → Bytes → Except RepositoryError (List α × Bytes)
  | 0, _, bytes => .ok ([], bytes)
  | remaining + 1, index, bytes =>
    match Record.decode (α := α) bytes with
    | .error error => .error (.badBufferSize id (.instance index count error))
    | .ok (record, bytes) =>
      match readRecords id count remaining (index + 1) bytes with
      | .error error => .error error
      | .ok (records, bytes) => .ok (record :: records, bytes)

/-- The records of a descriptor, if its bytes are exactly as many records as it counts. -/
def toList (descriptor : Descriptor) : Except RepositoryError (List α) := do
  let count := descriptor.count.toNat
  let (records, rest) ← readRecords descriptor.id count count 0 descriptor.data
  if rest.isEmpty then return records
  else throw (.badBufferSize descriptor.id (.trailing rest.length count))

end Descriptor

end FirmwareTables
