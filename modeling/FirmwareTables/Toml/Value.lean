/-
**Values in TOML.**

A value is a text, a truth value, a moment, a number, an array in brackets or a table in braces.
Arrays may go over several lines and end with a comma; tables in braces stay on one line and do not.
Arrays and tables may be nested in one another `maxDepth` deep. The readers here are given a bound,
which is at least the number of characters before them.
-/

import FirmwareTables.Toml.Moment
import FirmwareTables.Toml.Number
import FirmwareTables.Toml.Table
import FirmwareTables.Toml.Text

namespace FirmwareTables.Toml

/-- How deep values nest, and how many names a key has at most. -/
def maxDepth : Nat := 79

/-- Leaves out a comment, if there is one. -/
def skipComment : List Char → List Char
  | '#' :: rest => rest.dropWhile isPlain
  | characters => characters

/-- Leaves out blanks, line breaks and comments that a line break ends, `comment` telling whether a
comment has begun. -/
def skipLines : (comment : Bool) → List Char → Option (List Char)
  | true, [] => none
  | false, [] => some []
  | _, '\r' :: '\n' :: rest => skipLines false rest
  | true, character :: rest =>
    if character == '\n' then skipLines false rest
    else if isPlain character then skipLines true rest
    else none
  | false, character :: rest =>
    if character == '\n' || isBlank character then skipLines false rest
    else if character == '#' then skipLines true rest
    else if character == '\r' then none
    else some (character :: rest)

/-- A single name of a key. -/
def readName (bound : Nat) : Reader String
  | '"' :: rest => readLineText bound '"' ('"' :: rest)
  | '\'' :: rest => readLineText bound '\'' ('\'' :: rest)
  | characters =>
    let (name, rest) := characters.span fun c => c.isAlphanum || c == '_' || c == '-'
    if name.isEmpty then none else some (String.ofList name, rest)

/-- At most so many names between dots. -/
def readNames (bound : Nat) : (most : Nat) → Reader (List String)
  | 0, _ => none
  | most + 1, characters => do
    let (name, rest) ← readName bound (skipBlanks characters)
    match skipBlanks rest with
    | '.' :: rest =>
      let (names, rest) ← readNames bound most rest
      return (name :: names, rest)
    | rest => return ([name], rest)

/-- A key. -/
def readKey (bound : Nat) : Reader Key := fun characters => do
  let (names, rest) ← readNames bound maxDepth characters
  let name ← names.getLast?
  return (⟨names.dropLast, name⟩, rest)

/-- A key, an equals sign and a value. -/
def readPair (bound : Nat) (readValue : Reader Tree) : Reader (Key × Tree) := fun characters => do
  let (key, rest) ← readKey bound characters
  let ((), rest) ← Reader.expect '=' rest
  let (value, rest) ← readValue (skipBlanks rest)
  return ((key, value), rest)

/-- The rest of an array; the items read so far are in reverse. -/
def readItems (readValue : Reader Tree) : (fuel : Nat) → List Tree → Reader Tree
  | 0, _, _ => none
  | fuel + 1, done, characters => do
    match ← skipLines false characters with
    | ']' :: rest => return (.sequence done.reverse, rest)
    | rest =>
      let (item, rest) ← readValue rest
      match ← skipLines false rest with
      | ',' :: rest => readItems readValue fuel (item :: done) rest
      | ']' :: rest => return (.sequence (item :: done).reverse, rest)
      | _ => none

/-- The rest of a table in braces. -/
def readMembers (bound : Nat) (readValue : Reader Tree) : (fuel : Nat) → Items → Reader Tree
  | 0, _, _ => none
  | fuel + 1, done, characters => do
    let ((key, value), rest) ← readPair bound readValue characters
    let done ← done.insert? key value
    match skipBlanks rest with
    | ',' :: rest => readMembers bound readValue fuel done rest
    | '\x7d' :: rest => return (.mapping (Items.toMembers done), rest)
    | _ => none

/-- A value in which others nest to a depth. -/
def readValue (bound : Nat) : (depth : Nat) → Reader Tree
  | _, '"' :: rest =>
    (readMarked bound '"' ('"' :: rest)).map fun (text, rest) => (.text text, rest)
  | _, '\'' :: rest =>
    (readMarked bound '\'' ('\'' :: rest)).map fun (text, rest) => (.text text, rest)
  | _, 't' :: 'r' :: 'u' :: 'e' :: rest => some (.boolean true, rest)
  | _, 'f' :: 'a' :: 'l' :: 's' :: 'e' :: rest => some (.boolean false, rest)
  | depth + 1, '[' :: rest => readItems (readValue bound depth) (bound + 1) [] rest
  | depth + 1, '\x7b' :: rest =>
    match skipBlanks rest with
    | '\x7d' :: rest => some (.mapping [], rest)
    | _ => readMembers bound (readValue bound depth) (bound + 1) [] rest
  | _, characters => readMoment characters <|> readNumber characters

end FirmwareTables.Toml
