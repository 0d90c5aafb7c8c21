/-
**Records in descriptions.**

A record is read from a mapping by the names of its fields, or from a sequence by their order. Some
types of records let fields be left out, which are then zero. Written, a record is a mapping of all
its fields.
-/

import FirmwareTables.Description.Tree
import FirmwareTables.Record.Basic

namespace FirmwareTables

/-- Reads the value of a field. -/
def Kind.ofTree? : (kind : Kind) → Tree → Option kind.Value
  | .byte => Tree.byte?
  | .half => Tree.half?
  | .word => Tree.word?
  | .long => Tree.long?
  | .token => fun tree => tree.long?.map Token.mk
  | .revision => fun tree => tree.word?.map Revision.mk
  | .oemId => fun tree => (tree.list? Tree.byte?).bind OemId.ofBytes?
  | .text => Tree.text?
  | .signature => Tree.name? Signature.read
  | .generator => Tree.name? GeneratorId.read

/-- Reads the fields of a row from the parts of a composite value, `index` fields being read
already. -/
def Row.ofParts? (optional : Bool) (parts : Parts) :
    (index : Nat) → (fields : List Field) → Option (Row fields)
  | _, [] => some ()
  | index, field :: fields => do
    let value ←
      if optional then parts.optional index field.name field.kind.zero field.kind.ofTree?
      else parts.required index field.name field.kind.ofTree?
    let rest ← ofParts? optional parts (index + 1) fields
    return (value, rest)

/-- Reads a record. -/
def Record.ofTree? (α : Type) [Record α] (leniency : Leniency) (tree : Tree) : Option α := do
  let parts ← tree.parts? leniency (fields α).length
  let row ← Row.ofParts? (optional α) parts 0 (fields α)
  return ofRow row

/-- Writes the value of a field. -/
def Kind.toTree : (kind : Kind) → kind.Value → Tree
  | .byte, value => .ofNat value.toNat
  | .half, value => .ofNat value.toNat
  | .word, value => .ofNat value.toNat
  | .long, value => .ofNat value.toNat
  | .token, value => .ofNat value.raw.toNat
  | .revision, value => .ofNat value.raw.toNat
  | .oemId, value => .sequence (value.bytes.map fun byte => .ofNat byte.toNat)
  | .text, value => .text value
  | .signature, value => .text value.text
  | .generator, value => .text value.text

/-- Writes the fields of a row. -/
def Row.toMembers : (fields : List Field) → Row fields → List (String × Tree)
  | [], () => []
  | field :: fields, (value, rest) =>
    (field.name, field.kind.toTree value) :: toMembers fields rest

/-- Writes a record. -/
def Record.toTree {α : Type} [Record α] (record : α) : Tree :=
  .mapping (Row.toMembers (fields α) (toRow record))

end FirmwareTables
