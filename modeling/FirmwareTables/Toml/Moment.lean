/-
**Dates and times in TOML.**

A moment is a date, a time of day, or a date and a time between which a blank or the letter `T`
stands and after which an offset from universal time may follow. It is read as a mapping of one item
that no description has a place for.
-/

import FirmwareTables.Description.Tree
import FirmwareTables.Text.Reader

namespace FirmwareTables.Toml

/-- A number of exactly `width` decimal digits within bounds. -/
def readPart (width least greatest : Nat) : Reader Nat := fun characters => do
  let digits := characters.take width
  if digits.length < width then none
  let number ← Digits.readDigits? 10 digits
  if least ≤ number ∧ number ≤ greatest then return (number, characters.drop width) else none

/-- Whether a year has a 29th of February. -/
def isLeap (year : Nat) : Bool := year % 4 == 0 && (year % 100 != 0 || year % 400 == 0)

/-- The number of days in a month. -/
def daysIn (year month : Nat) : Nat :=
  if month = 2 then if isLeap year then 29 else 28
  else if month = 4 ∨ month = 6 ∨ month = 9 ∨ month = 11 then 30
  else 31

/-- A date. -/
def readDate : Reader Unit := fun characters => do
  let (year, rest) ← readPart 4 0 9999 characters
  let ((), rest) ← Reader.expect '-' rest
  let (month, rest) ← readPart 2 1 12 rest
  let ((), rest) ← Reader.expect '-' rest
  let (_, rest) ← readPart 2 1 (daysIn year month) rest
  return ((), rest)

/-- Hours and minutes. -/
def readHour : Reader Unit := fun characters => do
  let (_, rest) ← readPart 2 0 23 characters
  let ((), rest) ← Reader.expect ':' rest
  let (_, rest) ← readPart 2 0 59 rest
  return ((), rest)

/-- The places of a second. -/
def readSecondPlaces : Reader Unit := fun characters => do
  let ((), rest) ← Reader.expect '.' characters
  let (digits, rest) := rest.span Char.isDigit
  if digits.isEmpty then none else return ((), rest)

/-- A time of day. -/
def readTime : Reader Unit := fun characters => do
  let ((), rest) ← readHour characters
  let ((), rest) ← Reader.expect ':' rest
  let (_, rest) ← readPart 2 0 60 rest
  let (_, rest) ← Reader.optional readSecondPlaces rest
  return ((), rest)

/-- An offset from universal time. -/
def readOffset : Reader Unit
  | 'Z' :: rest => some ((), rest)
  | 'z' :: rest => some ((), rest)
  | '+' :: rest => readHour rest
  | '-' :: rest => readHour rest
  | _ => none

/-- A time of day after a date. -/
def readTimeOfDate : Reader Unit
  | separator :: rest => do
    if separator != 'T' && separator != 't' && separator != ' ' then none
    let ((), rest) ← readTime rest
    let (_, rest) ← Reader.optional readOffset rest
    return ((), rest)
  | [] => none

/-- A date with an optional time of day. -/
def readDateTime : Reader Unit := fun characters => do
  let ((), rest) ← readDate characters
  let (_, rest) ← Reader.optional readTimeOfDate rest
  return ((), rest)

/-- A moment. -/
def readMoment : Reader Tree := fun characters => do
  let ((), rest) ← readDateTime characters <|> readTime characters
  let written := characters.take (characters.length - rest.length)
  return (.mapping [("moment", .text (String.ofList written))], rest)

end FirmwareTables.Toml
