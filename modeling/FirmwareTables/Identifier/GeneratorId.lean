/-
**Ids of table generators.**

A generator id is a word: the top bit marks a vendor's own generator, seven bits give the kind of
table and the low sixteen bits its number. Its text is the name of a standard table, or `oem:` and
a number, or the word in hexadecimal. Reading takes any of the three, in capitals or not.
-/

import FirmwareTables.Identifier.NameError
import FirmwareTables.Text.Blank

namespace FirmwareTables

/-- The id of a table generator. -/
structure GeneratorId where
  /-- The id as one word. -/
  raw : UInt32
  deriving DecidableEq, Inhabited

namespace GeneratorId

/-- The names of the standard tables, in the order of their numbers from one on. -/
def standardNames : List String :=
  ["raw", "fadt", "madt", "gtdt", "dbg2", "spcr", "mcfg", "iort", "pptt", "srat", "ssdt"]

/-- The name of the standard table with a number. -/
def standardName? : Nat → Option String
  | 0 => none
  | number + 1 => standardNames[number]?

/-- The standard generator of the table with a number. -/
def standard (number : UInt16) : GeneratorId := ⟨0x01000000 ||| number.toUInt32⟩

/-- The vendor generator with a number. -/
def oem (number : UInt16) : GeneratorId := ⟨0x81000000 ||| number.toUInt32⟩

/-- Whether a vendor provides the generator. -/
def isOem (id : GeneratorId) : Bool := id.raw &&& 0x80000000 != 0

/-- Whether the generator is for an ACPI table. -/
def isAcpi (id : GeneratorId) : Bool := (id.raw &&& 0x7f000000) >>> 24 == 1

/-- The number of the table. -/
def tableNumber (id : GeneratorId) : UInt16 := id.raw.toUInt16

/-- The name of the standard table that the id stands for. -/
def tableName? (id : GeneratorId) : Option String :=
  if id.isOem || !id.isAcpi then none else standardName? id.tableNumber.toNat

/-- The text of a generator id. -/
def text (id : GeneratorId) : String :=
  match id.tableName? with
  | some name => name
  | none =>
    if id.isOem then "oem:" ++ Digits.decimal id.tableNumber.toNat
    else "0x" ++ Digits.renderPadded 16 8 id.raw.toNat

/-- The text of a generator id under its type's name. -/
def debugText (id : GeneratorId) : String := s!"GeneratorId({id.text})"

/-- The id that small letters name, if they name one. -/
def ofLower? (characters : List Char) : Option GeneratorId :=
  match standardNames.findIdx? (fun name => name.toList == characters) with
  | some index => some (standard (UInt16.ofNat (index + 1)))
  | none =>
    match characters with
    | 'o' :: 'e' :: 'm' :: ':' :: digits =>
      (Digits.read? 10 65535 digits).map fun number => oem (UInt16.ofNat number)
    | '0' :: 'x' :: digits =>
      (Digits.read? 16 4294967295 digits).map fun number => ⟨UInt32.ofNat number⟩
    | _ => none

/-- Reads the text of a generator id. -/
def read (text : String) : Except NameError GeneratorId :=
  match ofLower? (Text.lowerAscii (Text.trim text.toList)) with
  | some id => .ok id
  | none => .error (.generator text)

/-- The generator of the multiple interrupt controller table. -/
def madt : GeneratorId := standard 3

/-- The generator of the memory-mapped configuration table. -/
def mcfg : GeneratorId := standard 7

/-- The generator of the I/O remapping table. -/
def iort : GeneratorId := standard 8

/-- The generator of the system resource affinity table. -/
def srat : GeneratorId := standard 10

end GeneratorId

end FirmwareTables
