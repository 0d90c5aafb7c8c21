/-
**Names that name nothing.**

The four ways in which the text or the number of an identifier can be refused, and the words for
each of them.
-/

import FirmwareTables.Text.Quoted

namespace FirmwareTables

/-- Why a text or a number is no identifier. -/
inductive NameError where
  /-- A table signature is four graphic ASCII characters. -/
  | signature (text : String)
  /-- A revision is two 16-bit numbers with a point between them. -/
  | revision (text : String)
  /-- No table generator has this name. -/
  | generator (text : String)
  /-- The upper four bits of an object id select no namespace. -/
  | objectNamespace (raw : UInt32)
  deriving DecidableEq

/-- The words for a refused identifier. -/
def NameError.message : NameError → String
  | .signature text => s!"invalid signature {Text.quoted text}: expected 4 ASCII characters"
  | .revision text => s!"invalid revision {Text.quoted text}: expected MAJOR.MINOR"
  | .generator text => s!"unknown table generator: {text}"
  | .objectNamespace raw =>
    s!"unknown namespace in object id 0x{Digits.renderPadded 16 8 raw.toNat}"

end FirmwareTables
