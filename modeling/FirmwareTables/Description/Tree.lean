/-
**Descriptions as trees.**

Whatever notation a description is written in, it is read as a tree of numbers, texts, sequences
and mappings. The parts of a composite value go by their names in a mapping and by their order in a
sequence; whether a sequence may hold more items than there are parts is up to the notation.
-/

import FirmwareTables.Identifier.NameError

namespace FirmwareTables

/-- A description, apart from its notation. -/
inductive Tree where
  /-- Nothing. -/
  | null
  /-- A truth value. -/
  | boolean (value : Bool)
  /-- A whole number. -/
  | integer (value : Int)
  /-- A number written as a fraction, in steps of 2^-1074. -/
  | fraction (steps : Int)
  /-- An infinite number, or none at all. -/
  | notFinite
  /-- A text. -/
  | text (value : String)
  /-- Items in order. -/
  | sequence (items : List Tree)
  /-- Items by name. -/
  | mapping (items : List (String × Tree))
  deriving Inhabited

mutual

/-- Whether two trees are the same, the items of mappings in the same order. -/
def Tree.same : Tree → Tree → Bool
  | .null, .null => true
  | .boolean first, .boolean second => first == second
  | .integer first, .integer second => first == second
  | .fraction first, .fraction second => first == second
  | .notFinite, .notFinite => true
  | .text first, .text second => first == second
  | .sequence first, .sequence second => Tree.sameItems first second
  | .mapping first, .mapping second => Tree.sameMembers first second
  | _, _ => false

/-- Whether two sequences have the same items. -/
def Tree.sameItems : List Tree → List Tree → Bool
  | [], [] => true
  | item :: items, other :: others => Tree.same item other && Tree.sameItems items others
  | _, _ => false

/-- Whether two mappings have the same items in the same order. -/
def Tree.sameMembers : List (String × Tree) → List (String × Tree) → Bool
  | [], [] => true
  | (name, item) :: items, (otherName, other) :: others =>
    name == otherName && Tree.same item other && Tree.sameMembers items others
  | _, _ => false

end

instance : BEq Tree := ⟨Tree.same⟩

/-- What a notation allows beyond the fields of a record. -/
structure Leniency where
  /-- Whether a sequence may go on after the last field. -/
  surplus : Bool

/-- The parts of a composite value, by name or by position. -/
inductive Parts where
  /-- Parts that go by their names. -/
  | named (items : List (String × Tree))
  /-- Parts that go by their positions. -/
  | placed (items : List Tree)

namespace Tree

/-- The parts of a composite value of at most `arity` fields. -/
def parts? (leniency : Leniency) (arity : Nat) : Tree → Option Parts
  | mapping items => some (.named items)
  | sequence items =>
    if leniency.surplus || items.length ≤ arity then some (.placed items) else none
  | _ => none

/-- A whole number from zero up to a limit. -/
def natUpTo? (limit : Nat) : Tree → Option Nat
  | integer value => if 0 ≤ value ∧ value ≤ limit then some value.toNat else none
  | _ => none

/-- An 8-bit number. -/
def byte? (tree : Tree) : Option UInt8 := (tree.natUpTo? 255).map UInt8.ofNat

/-- A 16-bit number. -/
def half? (tree : Tree) : Option UInt16 := (tree.natUpTo? 65535).map UInt16.ofNat

/-- A 32-bit number. -/
def word? (tree : Tree) : Option UInt32 := (tree.natUpTo? 4294967295).map UInt32.ofNat

/-- A 64-bit number. -/
def long? (tree : Tree) : Option UInt64 :=
  (tree.natUpTo? 18446744073709551615).map UInt64.ofNat

/-- A text. -/
def text? : Tree → Option String
  | text value => some value
  | _ => none

/-- A text that names something. -/
def name? {α : Type} (read : String → Except NameError α) (tree : Tree) : Option α :=
  tree.text?.bind fun text => (read text).toOption

/-- The items of a sequence, all of one type. -/
def list? {α : Type} (item? : Tree → Option α) : Tree → Option (List α)
  | sequence items => items.mapM item?
  | _ => none

/-- A number that is not negative. -/
def ofNat (number : Nat) : Tree := integer number

end Tree

namespace Parts

/-- The part with a name or at a position. -/
def find? (parts : Parts) (index : Nat) (name : String) : Option Tree :=
  match parts with
  | named items => (items.find? fun item => item.1 == name).map Prod.snd
  | placed items => items[index]?

/-- Reads a part that has to be there. -/
def required {α : Type} (parts : Parts) (index : Nat) (name : String)
    (read? : Tree → Option α) : Option α :=
  (parts.find? index name).bind read?

/-- Reads a part, or takes its default if it is left out. -/
def optional {α : Type} (parts : Parts) (index : Nat) (name : String) (default : α)
    (read? : Tree → Option α) : Option α :=
  match parts.find? index name with
  | some tree => read? tree
  | none => some default

end Parts

end FirmwareTables
