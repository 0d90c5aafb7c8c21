/-
**Blank characters and trimming.**

`isBlank` is the Unicode property White_Space; `trim` takes blank characters off both ends.
-/

namespace FirmwareTables.Text

/-- Whether a character has the property White_Space. -/
def isBlank (character : Char) : Bool :=
  let code := character.toNat
  (9 ≤ code && code ≤ 13) || code == 0x20 || code == 0x85 || code == 0xa0 || code == 0x1680 ||
    (0x2000 ≤ code && code ≤ 0x200a) || code == 0x2028 || code == 0x2029 || code == 0x202f ||
    code == 0x205f || code == 0x3000

/-- The characters between the first and the last one that is not blank. -/
def trim (characters : List Char) : List Char :=
  ((characters.dropWhile isBlank).reverse.dropWhile isBlank).reverse

/-- ASCII capitals made small; all other characters stay. -/
def lowerAscii (characters : List Char) : List Char := characters.map Char.toLower

end FirmwareTables.Text
