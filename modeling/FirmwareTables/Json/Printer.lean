/-
**Trees written as JSON.**

`Tree.render` writes a tree on one line without blanks; `Tree.renderPretty` gives every item a line
of its own, indented by two blanks for each level, and leaves empty sequences and mappings on one.
-/

import FirmwareTables.Description.Tree
import FirmwareTables.Text.Digits

namespace FirmwareTables

namespace Json

/-- How one character is written inside a text. -/
def escape (character : Char) : List Char :=
  match character with
  | '"' => ['\\', '"']
  | '\\' => ['\\', '\\']
  | '\n' => ['\\', 'n']
  | '\r' => ['\\', 'r']
  | '\t' => ['\\', 't']
  | '\x08' => ['\\', 'b']
  | '\x0c' => ['\\', 'f']
  | _ =>
    if character.toNat < 32 then
      ['\\', 'u'] ++ (Digits.renderPadded 16 4 character.toNat).toList
    else [character]

/-- A text between quotes. -/
def quote (text : String) : String := String.ofList ('"' :: text.toList.flatMap escape ++ ['"'])

/-- A whole number. -/
def renderInteger (value : Int) : String :=
  (if value < 0 then "-" else "") ++ Digits.decimal value.natAbs

/-- A line break and the indentation of a level. -/
def newLine (level : Nat) : String := String.ofList ('\n' :: List.replicate (2 * level) ' ')

end Json

namespace Tree

mutual

/-- A tree on one line. -/
def render : Tree → String
  | null => "null"
  | boolean true => "true"
  | boolean false => "false"
  | integer value => Json.renderInteger value
  | fraction steps => Json.renderInteger (steps * Nat.pow 5 1074) ++ "e-1074"
  | notFinite => "null"
  | text value => Json.quote value
  | sequence items => "[" ++ ",".intercalate (renderItems items) ++ "]"
  | mapping items => "\x7b" ++ ",".intercalate (renderMembers items) ++ "\x7d"

/-- The items of a sequence, each on one line. -/
def renderItems : List Tree → List String
  | [] => []
  | item :: items => render item :: renderItems items

/-- The items of a mapping, each on one line. -/
def renderMembers : List (String × Tree) → List String
  | [] => []
  | (name, item) :: items => (Json.quote name ++ ":" ++ render item) :: renderMembers items

end

mutual

/-- A tree on lines of their own, from a level of indentation on. -/
def prettyAt (level : Nat) : Tree → String
  | sequence [] => "[]"
  | sequence (item :: items) =>
    let separator := "," ++ Json.newLine (level + 1)
    "[" ++ Json.newLine (level + 1) ++
      separator.intercalate (prettyItems (level + 1) (item :: items)) ++ Json.newLine level ++ "]"
  | mapping [] => "\x7b\x7d"
  | mapping (item :: items) =>
    let separator := "," ++ Json.newLine (level + 1)
    "\x7b" ++ Json.newLine (level + 1) ++
      separator.intercalate (prettyMembers (level + 1) (item :: items)) ++ Json.newLine level ++
      "\x7d"
  | tree => render tree

/-- The items of a sequence at a level. -/
def prettyItems (level : Nat) : List Tree → List String
  | [] => []
  | item :: items => prettyAt level item :: prettyItems level items

/-- The items of a mapping at a level. -/
def prettyMembers (level : Nat) : List (String × Tree) → List String
  | [] => []
  | (name, item) :: items =>
    (Json.quote name ++ ": " ++ prettyAt level item) :: prettyMembers level items

end

/-- A tree on lines of their own. -/
def renderPretty (tree : Tree) : String := prettyAt 0 tree

end Tree

end FirmwareTables
