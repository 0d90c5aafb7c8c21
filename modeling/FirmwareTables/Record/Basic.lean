/-
**Records.**

A record type is a type of rows: it has an object id under which its records are stored, a list of
fields, and maps to and from rows that undo each other. Everything generic about records (their
bytes, their form in descriptions) goes through the row.
-/

import FirmwareTables.Identifier.ObjectId
import FirmwareTables.Record.Field

namespace FirmwareTables

/-- A type of records stored under one object id. -/
class Record (α : Type) where
  /-- The id under which records of the type are stored. -/
  objectId : ObjectId
  /-- The fields, in the order in which they are written. -/
  fields : List Field
  /-- Whether a description may leave fields out, which are then zero. -/
  optional : Bool
  /-- The values of a record. -/
  toRow : α → Row fields
  /-- The record with these values. -/
  ofRow : Row fields → α
  /-- A record is known by its values. -/
  ofRow_toRow : ∀ record, ofRow (toRow record) = record
  /-- The values of a record are those it was made of. -/
  toRow_ofRow : ∀ row, toRow (ofRow row) = row

namespace Record

variable {α : Type} [Record α]

/-- The bytes of a record. -/
def encode (record : α) : Bytes := (toRow record).encode

/-- A record read from the front of bytes, and the bytes after it. -/
def decode (bytes : Bytes) : Except ReadError (α × Bytes) := do
  let (row, rest) ← Row.decode (fields α) bytes
  return (ofRow row, rest)

end Record

end FirmwareTables
