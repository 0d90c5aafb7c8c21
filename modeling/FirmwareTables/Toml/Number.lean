/-
**Numbers in TOML.**

A whole number is decimal with an optional sign, or in base 16, 8 or 2 after `0x`, `0o` or `0b`, and
has to fit 64 bits with a sign. A fraction has decimal places, a power of ten or both, and is
refused if it is infinite, unless it has a minus sign. Between two digits there may be an
underscore, and a decimal number has no leading zeros.
-/

import FirmwareTables.Description.Fraction
import FirmwareTables.Description.Tree
import FirmwareTables.Text.Reader

namespace FirmwareTables.Toml

/-- The digits of a base that follow a first one, underscores between them left out. -/
def readMoreDigits (base : Nat) : Reader (List Char)
  | [] => some ([], [])
  | '_' :: digit :: rest =>
    if (Digits.valueIn? base digit).isSome then
      (readMoreDigits base rest).map fun (digits, rest) => (digit :: digits, rest)
    else none
  | character :: rest =>
    if (Digits.valueIn? base character).isSome then
      (readMoreDigits base rest).map fun (digits, rest) => (character :: digits, rest)
    else if character == '_' then none
    else some ([], character :: rest)

/-- At least one digit of a base. -/
def readDigits (base : Nat) : Reader (List Char)
  | '_' :: _ => none
  | characters => (readMoreDigits base characters).filter fun found => !found.1.isEmpty

/-- The number of some digits of a base, together with the characters after them. -/
def readNat (base : Nat) : Reader Nat := fun characters => do
  let (digits, rest) ← readDigits base characters
  let number ← Digits.readDigits? base digits
  return (number, rest)

/-- The digits of a decimal number before its point: a zero, or digits that do not begin with
one. -/
def readWhole : Reader (List Char)
  | '0' :: rest => some (['0'], rest)
  | characters => readDigits 10 characters

/-- Whether there is a minus sign, after an optional sign. -/
def readSign : List Char → Bool × List Char
  | '-' :: rest => (true, rest)
  | '+' :: rest => (false, rest)
  | characters => (false, characters)

/-- A whole number that fits 64 bits with a sign. -/
def wholeNumber (value : Int) : Option Tree :=
  if -9223372036854775808 ≤ value ∧ value ≤ 9223372036854775807 then some (.integer value)
  else none

/-- The decimal places after a point, if there is one. -/
def readPlaces : Reader (Option (List Char))
  | '.' :: rest => (readDigits 10 rest).map fun (digits, rest) => (some digits, rest)
  | characters => some (none, characters)

/-- The power of ten after its letter. -/
def readPower (characters : List Char) : Option (Option Int × List Char) := do
  let (negative, rest) := readSign characters
  let (size, rest) ← readNat 10 rest
  return (some (if negative then -(size : Int) else size), rest)

/-- A power of ten, if there is one. -/
def readExponent : Reader (Option Int)
  | 'e' :: rest => readPower rest
  | 'E' :: rest => readPower rest
  | characters => some (none, characters)

/-- A decimal number. -/
def readDecimal : Reader Tree := fun characters => do
  let (negative, rest) := readSign characters
  let (whole, rest) ← readWhole rest
  let (places, rest) ← readPlaces rest
  let (exponent, rest) ← readExponent rest
  let size ← Digits.readDigits? 10 (whole ++ places.getD [])
  let signed (size : Nat) : Int := if negative then -size else size
  if places.isNone && exponent.isNone then
    let number ← wholeNumber (signed size)
    return (number, rest)
  else
    match Fraction.ofDecimal? size (exponent.getD 0 - (places.getD []).length) with
    | some steps => return (.fraction (signed steps), rest)
    | none => if negative then return (.notFinite, rest) else none

/-- A whole number in a base, after the sign of the base. -/
def readInBase (base : Nat) : Reader Tree := fun characters => do
  let (number, rest) ← readNat base characters
  let number ← wholeNumber number
  return (number, rest)

/-- A word for a number that is infinite or none at all, after an optional sign. -/
def readNotFinite : Reader Tree := fun characters => do
  let (_, rest) := readSign characters
  let ((), rest) ← Reader.word ['i', 'n', 'f'] rest <|> Reader.word ['n', 'a', 'n'] rest
  return (.notFinite, rest)

/-- A number. -/
def readNumber : Reader Tree
  | '0' :: 'x' :: rest => readInBase 16 rest
  | '0' :: 'o' :: rest => readInBase 8 rest
  | '0' :: 'b' :: rest => readInBase 2 rest
  | characters => readNotFinite characters <|> readDecimal characters

end FirmwareTables.Toml
