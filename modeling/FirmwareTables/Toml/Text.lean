/-
**Texts in TOML.**

A text stands between quotation marks, where a backslash escapes, or between apostrophes, where
nothing does. Three of either mark enclose a text of several lines: a line break right after the
opening is left out, every other one counts as a line feed, and up to two marks may stand right
before the closing three.
-/

import FirmwareTables.Text.Digits
import FirmwareTables.Text.Reader

namespace FirmwareTables.Toml

/-- Whether a character may stand for itself in texts and comments: control characters other than
the tab may not. -/
def isPlain (character : Char) : Bool :=
  character == '\t' || (32 ≤ character.toNat && character.toNat != 127)

/-- Whether a character is a blank within a line. -/
def isBlank (character : Char) : Bool := character == ' ' || character == '\t'

/-- Leaves out blanks. -/
def skipBlanks (characters : List Char) : List Char := characters.dropWhile isBlank

/-- Leaves out blanks and line breaks. -/
def skipSpace : List Char → List Char
  | [] => []
  | '\r' :: '\n' :: rest => skipSpace rest
  | character :: rest =>
    if isBlank character || character == '\n' then skipSpace rest else character :: rest

/-- Takes a line break. -/
def readBreak : Reader Unit
  | '\n' :: rest => some ((), rest)
  | '\r' :: '\n' :: rest => some ((), rest)
  | _ => none

/-- The character whose code is spelled by `width` hexadecimal digits. -/
def readCode (width : Nat) : Reader Char := fun characters => do
  let digits := characters.take width
  if digits.length < width then none
  let code ← Digits.readDigits? 16 digits
  if code.isValidChar then return (Char.ofNat code, characters.drop width) else none

/-- The character of an escape, after the backslash. -/
def readEscape : Reader Char
  | 'b' :: rest => some ('\x08', rest)
  | 't' :: rest => some ('\t', rest)
  | 'n' :: rest => some ('\n', rest)
  | 'f' :: rest => some ('\x0c', rest)
  | 'r' :: rest => some ('\r', rest)
  | '"' :: rest => some ('"', rest)
  | '\\' :: rest => some ('\\', rest)
  | 'u' :: rest => readCode 4 rest
  | 'U' :: rest => readCode 8 rest
  | _ => none

/-- The rest of a text on one line, up to its closing mark; the characters read so far are in
reverse. -/
def readLineRest (mark : Char) : (fuel : Nat) → List Char → Reader String
  | 0, _, _ => none
  | _ + 1, _, [] => none
  | fuel + 1, done, character :: rest => do
    if character == mark then return (String.ofList done.reverse, rest)
    else if mark == '"' && character == '\\' then
      let (escaped, rest) ← readEscape rest
      readLineRest mark fuel (escaped :: done) rest
    else if isPlain character then readLineRest mark fuel (character :: done) rest
    else none

/-- Leaves out a line break after a backslash, and the blanks and line breaks around it. -/
def readFold (characters : List Char) : Option (List Char) :=
  (readBreak (skipBlanks characters)).map fun ((), rest) => skipSpace rest

/-- The rest of a text on several lines, up to its closing marks; the characters read so far are in
reverse. -/
def readLinesRest (mark : Char) : (fuel : Nat) → List Char → Reader String
  | 0, _, _ => none
  | _ + 1, _, [] => none
  | fuel + 1, done, character :: rest => do
    if character == mark then
      let marks := (character :: rest).takeWhile (· == mark)
      let inside := if marks.length < 3 then marks.length else min (marks.length - 3) 2
      let done := List.replicate inside mark ++ done
      if marks.length < 3 then
        readLinesRest mark fuel done ((character :: rest).drop inside)
      else return (String.ofList done.reverse, (character :: rest).drop (inside + 3))
    else if mark == '"' && character == '\\' then
      match readFold rest with
      | some rest => readLinesRest mark fuel done rest
      | none =>
        let (escaped, rest) ← readEscape rest
        readLinesRest mark fuel (escaped :: done) rest
    else if isPlain character then readLinesRest mark fuel (character :: done) rest
    else
      let ((), rest) ← readBreak (character :: rest)
      readLinesRest mark fuel ('\n' :: done) rest

/-- A text of at most `bound` characters on one line between two marks. -/
def readLineText (bound : Nat) (mark : Char) : Reader String := fun characters => do
  let ((), rest) ← Reader.expect mark characters
  readLineRest mark (bound + 1) [] rest

/-- A text of at most `bound` characters on several lines between three marks and three. -/
def readLinesText (bound : Nat) (mark : Char) : Reader String := fun characters => do
  let ((), rest) ← Reader.word [mark, mark, mark] characters
  let (_, rest) ← Reader.optional readBreak rest
  readLinesRest mark (bound + 1) [] rest

/-- A text of at most `bound` characters between marks of one kind. -/
def readMarked (bound : Nat) (mark : Char) : Reader String := fun characters =>
  if (Reader.word [mark, mark, mark] characters).isSome then readLinesText bound mark characters
  else readLineText bound mark characters

end FirmwareTables.Toml
