/-
**Numbers in JSON.**

A number without a point and a power of ten is whole, unless it is out of the range of 64 bits or a
negative zero; any other number is a fraction. Of the digits of a fraction those count that make a
number of 64 bits. The fraction nearest to this number is brought to its power of ten by `scale?`,
in one rounded product or quotient as a rule, and is refused if it is infinite.
-/

import FirmwareTables.Description.Fraction
import FirmwareTables.Description.Tree
import FirmwareTables.Text.Reader

namespace FirmwareTables.Json

/-- A run of decimal digits, at least one. -/
def readDigits : Reader (List Char) := fun characters =>
  let (digits, rest) := characters.span Char.isDigit
  if digits.isEmpty then none else some (digits, rest)

/-- The digits before the point: a zero, or digits that do not begin with one. -/
def readWhole : Reader (List Char)
  | '0' :: rest => some (['0'], rest)
  | characters => readDigits characters

/-- The digits after the point, if there is one. -/
def readPlaces : Reader (Option (List Char))
  | '.' :: rest => (readDigits rest).map fun (digits, rest) => (some digits, rest)
  | characters => some (none, characters)

/-- The digits of a power of ten after an optional sign. -/
def readSignedPower (characters : List Char) : Option (Option Int × List Char) := do
  let (negative, rest) := match characters with
    | '-' :: rest => (true, rest)
    | '+' :: rest => (false, rest)
    | _ => (false, characters)
  let (digits, rest) ← readDigits rest
  let size : Int ← (Digits.readDigits? 10 digits).map Int.ofNat
  return (some (if negative then -size else size), rest)

/-- A power of ten, if there is one. -/
def readPower : Reader (Option Int)
  | 'e' :: rest => readSignedPower rest
  | 'E' :: rest => readSignedPower rest
  | characters => some (none, characters)

/-- A number continued by digits as long as it fits 64 bits, and the digits that are left. -/
def continueNumber : (number : Nat) → (digits : List Char) → Nat × List Char
  | number, [] => (number, [])
  | number, digit :: digits =>
    let longer := number * 10 + (Digits.value? digit).getD 0
    if longer ≤ 18446744073709551615 then continueNumber longer digits
    else (number, digit :: digits)

/-- A fraction over a power of ten, by quotients of 308 places at most. -/
def lower (steps places : Nat) : Nat :=
  if steps = 0 then 0
  else if places ≤ 308 then Fraction.quotient steps (Fraction.powerOfTen places)
  else lower (Fraction.quotient steps (Fraction.powerOfTen 308)) (places - 308)
termination_by places

/-- A fraction times a power of ten, unless it is infinite. -/
def scale? (steps : Nat) : (power : Int) → Option Nat
  | .ofNat power =>
    if steps = 0 then some 0
    else if 308 < power then none
    else
      let product := Fraction.product steps (Fraction.powerOfTen power)
      if product < Fraction.limit then some product else none
  | .negSucc power => some (lower steps (power + 1))

/-- Whether a whole number is taken as it is. -/
def isWhole (negative : Bool) (size : Nat) : Bool :=
  !negative || (decide (0 < size) && decide (size ≤ 9223372036854775808))

/-- A number after its sign. -/
def readNumber (negative : Bool) : Reader Tree := fun characters => do
  let (whole, rest) ← readWhole characters
  let (places, rest) ← readPlaces rest
  let (power, rest) ← readPower rest
  let signed (size : Nat) : Int := if negative then -size else size
  let (size, surplus) := continueNumber 0 whole
  if places.isNone && power.isNone && surplus.isEmpty && isWhole negative size then
    return (.integer (signed size), rest)
  let places := places.getD []
  let (size, unread) := continueNumber size places
  let power := power.getD 0 + surplus.length + unread.length - places.length
  let steps ← scale? (Fraction.ofNat size) power
  return (.fraction (signed steps), rest)

end FirmwareTables.Json
