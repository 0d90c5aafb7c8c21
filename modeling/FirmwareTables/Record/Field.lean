/-
**Fields, rows and their bytes.**

A record is a row of named fields, each of one kind. The bytes of a row are the bytes of its fields
one after the other: numbers are little-endian of fixed width, a text is its length as a 64-bit
number and its UTF-8 octets, and a signature or a generator id is the text that shows it. Reading
goes through the fields in the same order and hands on the bytes that are left.
-/

import FirmwareTables.Identifier.GeneratorId
import FirmwareTables.Identifier.Revision
import FirmwareTables.Identifier.Signature
import FirmwareTables.Identifier.Token

namespace FirmwareTables

/-- The six bytes that name a vendor. -/
structure OemId where
  /-- The bytes, filled up with blanks or zeros. -/
  bytes : Bytes
  /-- There are six of them. -/
  length_bytes : bytes.length = 6
  deriving DecidableEq

namespace OemId

/-- The vendor id of six zero bytes. -/
def zero : OemId := ⟨Bytes.zeros 6, rfl⟩

instance : Inhabited OemId := ⟨zero⟩

/-- Six bytes as a vendor id. -/
def ofBytes? (bytes : Bytes) : Option OemId :=
  if six : bytes.length = 6 then some ⟨bytes, six⟩ else none

end OemId

/-- What a field of a record holds. -/
inductive Kind where
  /-- An 8-bit number. -/
  | byte
  /-- A 16-bit number. -/
  | half
  /-- A 32-bit number. -/
  | word
  /-- A 64-bit number. -/
  | long
  /-- A token. -/
  | token
  /-- A revision. -/
  | revision
  /-- A vendor id. -/
  | oemId
  /-- A text. -/
  | text
  /-- A table signature. -/
  | signature
  /-- The id of a table generator. -/
  | generator
  deriving DecidableEq

/-- The values of a kind. -/
abbrev Kind.Value : Kind → Type
  | byte => UInt8
  | half => UInt16
  | word => UInt32
  | long => UInt64
  | token => Token
  | revision => Revision
  | oemId => OemId
  | text => String
  | signature => Signature
  | generator => GeneratorId

/-- A field of a record: its name and what it holds. -/
structure Field where
  /-- The name of the field in descriptions. -/
  name : String
  /-- What the field holds. -/
  kind : Kind

/-- A value for each of the fields. -/
def Row : List Field → Type
  | [] => Unit
  | field :: fields => field.kind.Value × Row fields

/-- Why bytes are no record. -/
inductive ReadError where
  /-- The bytes end inside the record. -/
  | short
  /-- The octets of a text are ill-formed. -/
  | utf8 (fault : Utf8.Fault)
  /-- A text names no signature or no generator. -/
  | name (error : NameError)
  deriving DecidableEq

/-- The words for bytes that are no record. -/
def ReadError.message : ReadError → String
  | .short => "io error: failed to fill whole buffer"
  | .utf8 fault => s!"string is not valid utf8: {fault.message}"
  | .name error => error.message

namespace Bytes

/-- The first `length` bytes and the others. -/
def split (length : Nat) (bytes : Bytes) : Except ReadError (Bytes × Bytes) :=
  if length ≤ bytes.length then .ok (bytes.take length, bytes.drop length) else .error .short

/-- A little-endian number of `width` bytes and the bytes after it. -/
def readNat (width : Nat) (bytes : Bytes) : Except ReadError (Nat × Bytes) := do
  let (digits, rest) ← bytes.split width
  return (digits.toNat, rest)

/-- A text after its length, and the bytes after it. -/
def readText (bytes : Bytes) : Except ReadError (String × Bytes) := do
  let (length, rest) ← bytes.readNat 8
  let (octets, rest) ← rest.split length
  match Utf8.decode octets with
  | .ok text => return (text, rest)
  | .error fault => throw (.utf8 fault)

/-- The bytes of a text: its length and its octets. -/
def ofText (text : String) : Bytes :=
  let octets := Utf8.encode text
  ofNat 8 octets.length ++ octets

end Bytes

namespace Kind

/-- The bytes of a value. -/
def encode : (kind : Kind) → kind.Value → Bytes
  | byte, value => [value]
  | half, value => Bytes.ofNat 2 value.toNat
  | word, value => Bytes.ofNat 4 value.toNat
  | long, value => Bytes.ofNat 8 value.toNat
  | token, value => Bytes.ofNat 8 value.raw.toNat
  | revision, value => Bytes.ofNat 4 value.raw.toNat
  | oemId, value => value.bytes
  | text, value => Bytes.ofText value
  | signature, value => Bytes.ofText value.text
  | generator, value => Bytes.ofText value.text

/-- A name read from a text. -/
def readName {α : Type} (read : String → Except NameError α) (bytes : Bytes) :
    Except ReadError (α × Bytes) := do
  let (name, rest) ← bytes.readText
  match read name with
  | .ok value => return (value, rest)
  | .error error => throw (.name error)

/-- Six bytes as a vendor id. -/
def readOemId (bytes : Bytes) : Except ReadError (OemId × Bytes) := do
  let (front, rest) ← bytes.split 6
  match OemId.ofBytes? front with
  | some value => return (value, rest)
  | none => throw .short

/-- A value read from the front of bytes, and the bytes after it. -/
def decode : (kind : Kind) → Bytes → Except ReadError (kind.Value × Bytes)
  | byte, bytes => (bytes.readNat 1).map fun (number, rest) => (UInt8.ofNat number, rest)
  | half, bytes => (bytes.readNat 2).map fun (number, rest) => (UInt16.ofNat number, rest)
  | word, bytes => (bytes.readNat 4).map fun (number, rest) => (UInt32.ofNat number, rest)
  | long, bytes => (bytes.readNat 8).map fun (number, rest) => (UInt64.ofNat number, rest)
  | token, bytes => (bytes.readNat 8).map fun (number, rest) => (⟨UInt64.ofNat number⟩, rest)
  | revision, bytes => (bytes.readNat 4).map fun (number, rest) => (⟨UInt32.ofNat number⟩, rest)
  | oemId, bytes => readOemId bytes
  | text, bytes => bytes.readText
  | signature, bytes => readName Signature.read bytes
  | generator, bytes => readName GeneratorId.read bytes

/-- The value of a field that is left out where fields may be. -/
def zero : (kind : Kind) → kind.Value
  | byte => 0
  | half => 0
  | word => 0
  | long => 0
  | token => .null
  | revision => ⟨0⟩
  | oemId => .zero
  | text => ""
  | signature => ⟨0⟩
  | generator => ⟨0⟩

end Kind

namespace Row

/-- The bytes of a row. -/
def encode : {fields : List Field} → Row fields → Bytes
  | [], () => []
  | field :: _, (value, rest) => field.kind.encode value ++ encode rest

/-- A row read from the front of bytes, and the bytes after it. -/
def decode : (fields : List Field) → Bytes → Except ReadError (Row fields × Bytes)
  | [], bytes => .ok ((), bytes)
  | field :: fields, bytes => do
    let (value, bytes) ← field.kind.decode bytes
    let (rest, bytes) ← decode fields bytes
    return ((value, rest), bytes)

end Row

end FirmwareTables
