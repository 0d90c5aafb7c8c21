/-
**Trees read from JSON.**

`Tree.ofJson?` reads a whole text. The items of a mapping are put in the order of their names, and
of two with one name the latter counts.
-/

import FirmwareTables.Json.Number

namespace FirmwareTables.Json

/-- Leaves out blanks. -/
def skipBlanks (characters : List Char) : List Char :=
  characters.dropWhile fun c => c == ' ' || c == '\n' || c == '\r' || c == '\t'

/-- Four hexadecimal digits. -/
def readUnit : Reader Nat
  | a :: b :: c :: d :: rest =>
    (Digits.readDigits? 16 [a, b, c, d]).map fun unit => (unit, rest)
  | _ => none

/-- The character of an escape, after the backslash. -/
def readEscape : Reader Char
  | '"' :: rest => some ('"', rest)
  | '\\' :: rest => some ('\\', rest)
  | '/' :: rest => some ('/', rest)
  | 'b' :: rest => some ('\x08', rest)
  | 'f' :: rest => some ('\x0c', rest)
  | 'n' :: rest => some ('\n', rest)
  | 'r' :: rest => some ('\r', rest)
  | 't' :: rest => some ('\t', rest)
  | 'u' :: rest => do
    let (high, rest) ← readUnit rest
    if high < 0xd800 ∨ 0xe000 ≤ high then return (Char.ofNat high, rest)
    match rest with
    | '\\' :: 'u' :: rest =>
      let (low, rest) ← readUnit rest
      if high < 0xdc00 ∧ 0xdc00 ≤ low ∧ low < 0xe000 then
        return (Char.ofNat (0x10000 + (high - 0xd800) * 0x400 + (low - 0xdc00)), rest)
      else none
    | _ => none
  | _ => none

/-- The rest of a text after its opening quote; the characters read so far are in reverse. -/
def readTextRest : (fuel : Nat) → List Char → Reader String
  | 0, _, _ => none
  | _ + 1, _, [] => none
  | _ + 1, done, '"' :: rest => some (String.ofList done.reverse, rest)
  | fuel + 1, done, '\\' :: rest => do
    let (character, rest) ← readEscape rest
    readTextRest fuel (character :: done) rest
  | fuel + 1, done, character :: rest =>
    if character.toNat < 32 then none else readTextRest fuel (character :: done) rest

/-- A text of less than `bound` characters. -/
def readText (bound : Nat) : Reader String
  | '"' :: rest => readTextRest bound [] rest
  | _ => none

/-- Adds an item to a mapping whose items are in the order of their names, in the place of one with
its name. -/
def insertMember (name : String) (item : Tree) : List (String × Tree) → List (String × Tree)
  | [] => [(name, item)]
  | member :: members =>
    if member.1 == name then (name, item) :: members
    else if name < member.1 then (name, item) :: member :: members
    else member :: insertMember name item members

mutual

/-- A value; each character uses up fuel twice at most. -/
def readValue : (fuel : Nat) → Reader Tree
  | 0, _ => none
  | fuel + 1, characters =>
    match skipBlanks characters with
    | 'n' :: 'u' :: 'l' :: 'l' :: rest => some (.null, rest)
    | 't' :: 'r' :: 'u' :: 'e' :: rest => some (.boolean true, rest)
    | 'f' :: 'a' :: 'l' :: 's' :: 'e' :: rest => some (.boolean false, rest)
    | '"' :: rest => (readText fuel ('"' :: rest)).map fun (text, rest) => (.text text, rest)
    | '[' :: rest =>
      match skipBlanks rest with
      | ']' :: rest => some (.sequence [], rest)
      | rest => readItems fuel [] rest
    | '\x7b' :: rest =>
      match skipBlanks rest with
      | '\x7d' :: rest => some (.mapping [], rest)
      | rest => readMembers fuel [] rest
    | '-' :: rest => readNumber true rest
    | rest => readNumber false rest

/-- The rest of a sequence; the items read so far are in reverse. -/
def readItems : (fuel : Nat) → List Tree → Reader Tree
  | 0, _, _ => none
  | fuel + 1, done, characters => do
    let (item, rest) ← readValue fuel characters
    match skipBlanks rest with
    | ',' :: rest => readItems fuel (item :: done) rest
    | ']' :: rest => return (.sequence (item :: done).reverse, rest)
    | _ => none

/-- The rest of a mapping; the items read so far are in the order of their names. -/
def readMembers : (fuel : Nat) → List (String × Tree) → Reader Tree
  | 0, _, _ => none
  | fuel + 1, done, characters => do
    let (name, rest) ← readText fuel (skipBlanks characters)
    match skipBlanks rest with
    | ':' :: rest =>
      let (item, rest) ← readValue fuel rest
      match skipBlanks rest with
      | ',' :: rest => readMembers fuel (insertMember name item done) rest
      | '\x7d' :: rest => return (.mapping (insertMember name item done), rest)
      | _ => none
    | _ => none

end

end FirmwareTables.Json

namespace FirmwareTables

/-- Reads a text that is one JSON value. -/
def Tree.ofJson? (text : String) : Option Tree :=
  let characters := text.toList
  match Json.readValue (2 * characters.length + 2) characters with
  | some (tree, rest) => if (Json.skipBlanks rest).isEmpty then some tree else none
  | none => none

end FirmwareTables
