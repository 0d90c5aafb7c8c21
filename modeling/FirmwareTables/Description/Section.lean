/-
**Sections.**

A section of a description is a composite value whose fields are listed once, as slots: the name of
the field, how it is read into the section, and how it is written. `Section.ofTree?` and
`Section.toTree` go through the slots in their order.
-/

import FirmwareTables.Description.Record

namespace FirmwareTables

/-- A field of a section. -/
structure Slot (α : Type) where
  /-- The name of the field. -/
  name : String
  /-- Whether the field may be left out. -/
  optional : Bool
  /-- Reads the field into a section. -/
  read? : Leniency → Tree → α → Option α
  /-- Writes the field of a section. -/
  toTree : α → Tree

/-- A type of sections. -/
class Section (α : Type) where
  /-- The section of which nothing is read yet. -/
  initial : α
  /-- The fields in order. -/
  slots : List (Slot α)

namespace Section

/-- Reads fields from the parts of a composite value, `index` fields being read already. -/
def readSlots? {α : Type} (leniency : Leniency) (parts : Parts) :
    (index : Nat) → List (Slot α) → α → Option α
  | _, [], value => some value
  | index, slot :: slots, value => do
    let value ← match parts.find? index slot.name with
      | some tree => slot.read? leniency tree value
      | none => if slot.optional then some value else none
    readSlots? leniency parts (index + 1) slots value

/-- Reads a section. -/
def ofTree? (α : Type) [Section α] (leniency : Leniency) (tree : Tree) : Option α := do
  let slots : List (Slot α) := Section.slots
  let parts ← tree.parts? leniency slots.length
  readSlots? leniency parts 0 slots initial

/-- Writes a section. -/
def toTree {α : Type} [Section α] (value : α) : Tree :=
  .mapping (slots.map fun slot : Slot α => (slot.name, slot.toTree value))

end Section

namespace Slot

variable {α β : Type}

/-- A field that holds a value of a kind and may be left out. -/
def field (name : String) (kind : Kind) (get : α → kind.Value) (put : kind.Value → α → α) :
    Slot α :=
  ⟨name, true, fun _ tree owner => (kind.ofTree? tree).map fun value => put value owner,
    fun owner => kind.toTree (get owner)⟩

/-- The same field, which may not be left out. -/
def needed (slot : Slot α) : Slot α := { slot with optional := false }

/-- A field that holds a section and may be left out. -/
def part [Section β] (name : String) (get : α → β) (put : β → α → α) : Slot α :=
  ⟨name, true,
    fun leniency tree owner =>
      (Section.ofTree? β leniency tree).map fun value => put value owner,
    fun owner => Section.toTree (get owner)⟩

/-- A field that holds a list of sections and may be left out. -/
def parts [Section β] (name : String) (get : α → List β) (put : List β → α → α) : Slot α :=
  ⟨name, true,
    fun leniency tree owner =>
      (tree.list? (Section.ofTree? β leniency)).map fun values => put values owner,
    fun owner => .sequence ((get owner).map Section.toTree)⟩

/-- A field that holds a list of records and may be left out. -/
def records [Record β] (name : String) (get : α → List β) (put : List β → α → α) : Slot α :=
  ⟨name, true,
    fun leniency tree owner =>
      (tree.list? (Record.ofTree? β leniency)).map fun values => put values owner,
    fun owner => .sequence ((get owner).map Record.toTree)⟩

/-- A field that holds a list of 32-bit numbers and may be left out. -/
def words (name : String) (get : α → List UInt32) (put : List UInt32 → α → α) : Slot α :=
  ⟨name, true,
    fun _ tree owner => (tree.list? Tree.word?).map fun values => put values owner,
    fun owner => .sequence ((get owner).map fun word => .ofNat word.toNat)⟩

end Slot

end FirmwareTables
