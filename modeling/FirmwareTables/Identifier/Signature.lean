/-
**Table signatures.**

A signature is four bytes, kept as one little-endian word. Its text is the four characters if all
of them are graphic ASCII, else the bytes in hexadecimal; only the first form can be read back.
-/

import FirmwareTables.Bytes.Hex
import FirmwareTables.Identifier.NameError
import FirmwareTables.Text.Utf8

namespace FirmwareTables

/-- The signature of a table. -/
structure Signature where
  /-- The four bytes as a little-endian word. -/
  raw : UInt32
  deriving DecidableEq, Inhabited

namespace Signature

/-- Whether a byte is a graphic ASCII character. -/
def isGraphic (byte : UInt8) : Bool := 0x21 ≤ byte && byte ≤ 0x7e

/-- The four bytes of a signature. -/
def bytes (signature : Signature) : Bytes := Bytes.ofNat 4 signature.raw.toNat

/-- The signature with these bytes, of which the first four count. -/
def ofBytes (bytes : Bytes) : Signature := ⟨UInt32.ofNat (Bytes.toNat (bytes.take 4))⟩

/-- The text of a signature. -/
def text (signature : Signature) : String :=
  if signature.bytes.all isGraphic then
    String.ofList (signature.bytes.map fun byte => Char.ofNat byte.toNat)
  else "0x" ++ signature.bytes.hex

/-- The text of a signature under its type's name. -/
def debugText (signature : Signature) : String := s!"Signature({signature.text})"

/-- Reads four graphic ASCII characters. -/
def read (text : String) : Except NameError Signature :=
  let bytes := Utf8.encode text
  if bytes.length = 4 ∧ bytes.all isGraphic then .ok (ofBytes bytes) else .error (.signature text)

/-- The signature of the I/O remapping table, `IORT`. -/
def iort : Signature := ⟨0x54524f49⟩

/-- The signature of the memory-mapped configuration table, `MCFG`. -/
def mcfg : Signature := ⟨0x4746434d⟩

/-- The signature of the multiple interrupt controller table, `APIC`. -/
def apic : Signature := ⟨0x43495041⟩

/-- The signature of the system resource affinity table, `SRAT`. -/
def srat : Signature := ⟨0x54415253⟩

end Signature

end FirmwareTables
