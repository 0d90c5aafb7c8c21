/-
**Trees read from TOML.**

A document is a list of lines: pairs of a key and a value, headers of tables and headers of lists of
tables. A pair belongs to the table of the last header before it, or to the document itself.
`Tree.ofToml?` reads a whole text.
-/

import FirmwareTables.Toml.Value

namespace FirmwareTables.Toml

/-- What a line says. -/
inductive Line where
  /-- A key has a value. -/
  | pair (key : Key) (value : Tree)
  /-- A table begins. -/
  | table (key : Key)
  /-- The next table of a list begins. -/
  | next (key : Key)

/-- Takes the end of a line: blanks, a comment, and a line break or the end of the document. -/
def readEnd (characters : List Char) : Option (List Char) :=
  match skipComment (skipBlanks characters) with
  | [] => some []
  | rest => (readBreak rest).map Prod.snd

/-- What a line says that is neither blank nor a comment; `bound` is at least the number of
characters. -/
def readLine (bound : Nat) : Reader Line
  | '[' :: '[' :: rest => do
    let (key, rest) ← readKey bound rest
    let ((), rest) ← Reader.word [']', ']'] rest
    return (.next key, rest)
  | '[' :: rest => do
    let (key, rest) ← readKey bound rest
    let ((), rest) ← Reader.expect ']' rest
    return (.table key, rest)
  | characters => do
    let ((key, value), rest) ← readPair bound (readValue bound maxDepth) characters
    return (.pair key value, rest)

/-- The lines of a document, those left out that say nothing. -/
def readLines : (fuel : Nat) → List Char → Option (List Line)
  | 0, _ => none
  | fuel + 1, characters =>
    match skipBlanks characters with
    | [] => some []
    | first :: rest => do
      if first == '#' || first == '\n' || first == '\r' then
        readLines fuel (← readEnd (first :: rest))
      else
        let (line, rest) ← readLine fuel (first :: rest)
        let lines ← readLines fuel (← readEnd rest)
        return line :: lines

/-- Enters lines into a document, `current` being the names of the table that pairs belong to. -/
def enter : List Line → (current : List String) → Items → Option Items
  | [], _, items => some items
  | .pair key value :: lines, current, items => do
    let items ← items.changeAt .implied (fun _ items => items.insert? key value) current .explicit
    enter lines current items
  | .table key :: lines, _, items => do
    enter lines (key.path ++ [key.name]) (← items.openTable? key)
  | .next key :: lines, _, items => do
    enter lines (key.path ++ [key.name]) (← items.openNext? key)

end FirmwareTables.Toml

namespace FirmwareTables

/-- Reads a text that is a TOML document, before which a byte order mark may stand. -/
def Tree.ofToml? (text : String) : Option Tree := do
  let characters := match text.toList with
    | '\ufeff' :: rest => rest
    | characters => characters
  let lines ← Toml.readLines (characters.length + 1) characters
  let items ← Toml.enter lines [] []
  return .mapping (Toml.Items.toMembers items)

end FirmwareTables
