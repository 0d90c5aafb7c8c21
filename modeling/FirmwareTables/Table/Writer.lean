/-
**Writing into a buffer.**

A writer is a buffer and a position in it. Bytes are put over the buffer at the position, zeros are
skipped, and the position can be moved anywhere inside. A step that would end past the buffer fails
and changes nothing; a buffer is finished when the position has reached its end.

What a table consists of is a list of `Piece`s: numbers, bytes and runs of zeros, each with its
length. `Writer.putAll` writes pieces up to the first that does not fit.
-/

import FirmwareTables.Table.Error

namespace FirmwareTables

/-- A part of a table. -/
inductive Piece where
  /-- An 8-bit number. -/
  | byte (value : UInt8)
  /-- A 16-bit number. -/
  | half (value : UInt16)
  /-- A 32-bit number. -/
  | word (value : UInt32)
  /-- A 64-bit number. -/
  | long (value : UInt64)
  /-- Bytes. -/
  | bytes (value : Bytes)
  /-- A run of zeros. -/
  | zeros (length : Nat)
  deriving DecidableEq

/-- The bytes of a piece. -/
def Piece.encode : Piece → Bytes
  | byte value => [value]
  | half value => Bytes.ofNat 2 value.toNat
  | word value => Bytes.ofNat 4 value.toNat
  | long value => Bytes.ofNat 8 value.toNat
  | bytes value => value
  | zeros length => Bytes.zeros length

/-- A buffer and the position of the next byte in it. -/
structure Writer where
  /-- The buffer. -/
  buffer : Bytes
  /-- The position. -/
  position : Nat
  deriving DecidableEq

namespace Writer

/-- A writer at the start of a buffer. -/
def start (buffer : Bytes) : Writer := ⟨buffer, 0⟩

/-- The number of bytes from the position to the end. -/
def remaining (writer : Writer) : Nat := writer.buffer.length - writer.position

/-- Puts bytes at the position. -/
def write (writer : Writer) (data : Bytes) : Except TableError Writer :=
  if writer.position + data.length ≤ writer.buffer.length then
    .ok ⟨writer.buffer.overwrite writer.position data, writer.position + data.length⟩
  else
    .error (.badBufferSize (.write data.length writer.position writer.buffer.length))

/-- Leaves bytes as they are. -/
def skip (writer : Writer) (length : Nat) : Except TableError Writer :=
  if writer.position + length ≤ writer.buffer.length then
    .ok ⟨writer.buffer, writer.position + length⟩
  else
    .error (.badBufferSize (.skip length writer.position writer.buffer.length))

/-- Goes to a position. -/
def seek (writer : Writer) (position : Nat) : Except TableError Writer :=
  if position ≤ writer.buffer.length then .ok ⟨writer.buffer, position⟩
  else .error (.badBufferSize (.seek position writer.buffer.length))

/-- The buffer, if the position has reached its end. -/
def finish (writer : Writer) : Except TableError Bytes :=
  if writer.position = writer.buffer.length then .ok writer.buffer
  else .error (.badBufferSize (.unfinished writer.position writer.buffer.length))

/-- Puts a piece at the position, skipping zeros. -/
def put (writer : Writer) : Piece → Except TableError Writer
  | .zeros length => writer.skip length
  | piece => writer.write piece.encode

/-- Puts pieces one after the other, up to the first that does not fit: the writer after those that
were put, and whether all were. -/
def putAll (writer : Writer) : List Piece → Writer × Except TableError Unit
  | [] => (writer, .ok ())
  | piece :: pieces =>
    match writer.put piece with
    | .ok writer => writer.putAll pieces
    | .error error => (writer, .error error)

/-- The writer after all of the pieces. -/
def putEach (writer : Writer) (pieces : List Piece) : Except TableError Writer :=
  let (writer, outcome) := writer.putAll pieces
  outcome.map fun _ => writer

end Writer

/-- A step of a writer. -/
inductive WriterStep where
  /-- Puts a piece. -/
  | put (piece : Piece)
  /-- Goes to a position. -/
  | seek (position : Nat)
  deriving DecidableEq

namespace Writer

/-- Makes one step. -/
def step (writer : Writer) : WriterStep → Except TableError Writer
  | .put piece => writer.put piece
  | .seek position => writer.seek position

/-- Makes steps one after the other, going on after those that fail: the outcome of each of them
with the writer after it. -/
def trace (writer : Writer) : List WriterStep → List (Except TableError Unit × Writer)
  | [] => []
  | step :: steps =>
    match writer.step step with
    | .ok after => (.ok (), after) :: after.trace steps
    | .error error => (.error error, writer) :: writer.trace steps

end Writer

end FirmwareTables
