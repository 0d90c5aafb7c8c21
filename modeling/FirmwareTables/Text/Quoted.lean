/-
**Quoted text in messages.**

A text is quoted by double quotes around it. Inside, the double quote and the backslash are
written with a backslash in front, five controls by a letter or digit after a backslash, and every
other character that does not show by itself by its number in braces.
-/

import FirmwareTables.Text.Digits
import FirmwareTables.Text.Glyph

namespace FirmwareTables.Text

/-- How one character is written between quotes. -/
def escape (character : Char) : List Char :=
  match character with
  | '\x00' => ['\\', '0']
  | '\t' => ['\\', 't']
  | '\n' => ['\\', 'n']
  | '\r' => ['\\', 'r']
  | '"' => ['\\', '"']
  | '\\' => ['\\', '\\']
  | _ =>
    if isGlyph character then [character]
    else
      ['\\', 'u', '\x7b'] ++ (Digits.ofNat 16 character.toNat).map Digits.character ++ ['\x7d']

/-- A text between double quotes. -/
def quoted (text : String) : String :=
  String.ofList ('"' :: text.toList.flatMap escape ++ ['"'])

end FirmwareTables.Text
