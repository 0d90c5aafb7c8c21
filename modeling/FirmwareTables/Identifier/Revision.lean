/-
**Two-part revisions.**

A revision packs a major and a minor number of sixteen bits each into one word, major number on
top, so that revisions are ordered as their words are.
-/

import FirmwareTables.Identifier.NameError
import FirmwareTables.Text.Blank

namespace FirmwareTables

/-- A revision with a major and a minor number. -/
structure Revision where
  /-- Both numbers in one word. -/
  raw : UInt32
  deriving DecidableEq, Inhabited

namespace Revision

/-- The revision with these numbers. -/
def make (major minor : UInt16) : Revision := ⟨major.toUInt32 <<< 16 ||| minor.toUInt32⟩

/-- The major number. -/
def major (revision : Revision) : UInt16 := (revision.raw >>> 16).toUInt16

/-- The minor number. -/
def minor (revision : Revision) : UInt16 := revision.raw.toUInt16

/-- The text of a revision: both numbers with a point between them. -/
def text (revision : Revision) : String :=
  Digits.decimal revision.major.toNat ++ "." ++ Digits.decimal revision.minor.toNat

/-- The text of a revision under its type's name. -/
def debugText (revision : Revision) : String := s!"Revision({revision.text})"

/-- Reads a 16-bit number with blank characters around it. -/
def readPart? (characters : List Char) : Option UInt16 :=
  (Digits.read? 10 65535 (Text.trim characters)).map UInt16.ofNat

/-- Reads the part before the first point and the part after it. -/
def read (text : String) : Except NameError Revision :=
  let characters := text.toList
  let first := characters.takeWhile (· != '.')
  match characters.dropWhile (· != '.') with
  | [] => .error (.revision text)
  | _ :: second =>
    match readPart? first, readPart? second with
    | some major, some minor => .ok (make major minor)
    | _, _ => .error (.revision text)

end Revision

end FirmwareTables
