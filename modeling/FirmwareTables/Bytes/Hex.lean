/-
**Hexadecimal text of byte strings.**

Two lower-case digits for each byte, in order and with nothing between them.
-/

import FirmwareTables.Bytes.LittleEndian
import FirmwareTables.Text.Digits

namespace FirmwareTables.Bytes

/-- The two hexadecimal digits of a byte. -/
def hexPair (byte : UInt8) : List Char :=
  [Digits.character (byte.toNat / 16), Digits.character (byte.toNat % 16)]

/-- The hexadecimal text of a byte string. -/
def hex (bytes : Bytes) : String := String.ofList (bytes.flatMap hexPair)

end FirmwareTables.Bytes
