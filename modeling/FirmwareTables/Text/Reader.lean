/-
**Readers of characters.**

A `Reader` takes what it is for from the front of some characters and hands on the others, or finds
that the characters do not begin with it.
-/

namespace FirmwareTables

/-- A reader: what it found and the characters after it. -/
abbrev Reader (α : Type) := List Char → Option (α × List Char)

namespace Reader

/-- Takes one character. -/
def expect (wanted : Char) : Reader Unit
  | character :: rest => if character == wanted then some ((), rest) else none
  | [] => none

/-- Takes a word, character by character. -/
def word : List Char → Reader Unit
  | [], characters => some ((), characters)
  | wanted :: wants, characters => do
    let ((), rest) ← expect wanted characters
    word wants rest

/-- Reads what may be left out. -/
def optional {α : Type} (reader : Reader α) : Reader (Option α) := fun characters =>
  match reader characters with
  | some (value, rest) => some (some value, rest)
  | none => some (none, characters)

end Reader

end FirmwareTables
