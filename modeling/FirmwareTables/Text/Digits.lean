/-
**Numbers as digits.**

`Digits.render base number` is the shortest spelling of a number in a base up to sixteen, most
significant digit first, with lower-case letters above nine; `Digits.renderPadded` puts zeros in
front up to a width. `Digits.read?` reads a spelling with an optional plus sign and refuses what
lies above a limit, so that the bound of a machine word is part of reading.
-/

namespace FirmwareTables.Digits

/-- The digits of a number, most significant first; zero has one digit. -/
def ofNat (base number : Nat) : List Nat :=
  if number < base ∨ base < 2 then [number] else ofNat base (number / base) ++ [number % base]
termination_by number
decreasing_by
  rename_i large
  exact Nat.div_lt_self (by omega) (by omega)

/-- The number spelled by digits, most significant first. -/
def toNat (base : Nat) (digits : List Nat) : Nat :=
  digits.foldl (fun value digit => value * base + digit) 0

/-- The character of a digit below sixteen. -/
def character (digit : Nat) : Char :=
  if digit < 10 then Char.ofNat (digit + 48) else Char.ofNat (digit + 87)

/-- The value of a digit character, letters of either case counting from ten. -/
def value? (character : Char) : Option Nat :=
  let code := character.toNat
  if 48 ≤ code ∧ code ≤ 57 then some (code - 48)
  else if 97 ≤ code ∧ code ≤ 102 then some (code - 87)
  else if 65 ≤ code ∧ code ≤ 70 then some (code - 55)
  else none

/-- The value of a digit character in a base. -/
def valueIn? (base : Nat) (character : Char) : Option Nat :=
  (value? character).filter (· < base)

/-- The shortest spelling of a number. -/
def render (base number : Nat) : String := String.ofList ((ofNat base number).map character)

/-- The spelling of a number with zeros in front up to `width` characters. -/
def renderPadded (base width number : Nat) : String :=
  let digits := (ofNat base number).map character
  String.ofList (List.replicate (width - digits.length) '0' ++ digits)

/-- The decimal spelling of a number. -/
def decimal (number : Nat) : String := render 10 number

/-- The hexadecimal spelling of a number, without a sign of the base. -/
def hexadecimal (number : Nat) : String := render 16 number

/-- The number spelled by characters that are all digits of the base, at least one of them. -/
def readDigits? (base : Nat) (characters : List Char) : Option Nat :=
  if characters.isEmpty then none
  else (characters.mapM (valueIn? base)).map (toNat base)

/-- Reads digits after an optional plus sign, up to and including `limit`. -/
def read? (base limit : Nat) (characters : List Char) : Option Nat :=
  let digits := match characters with
    | '+' :: rest => rest
    | _ => characters
  (readDigits? base digits).filter (· ≤ limit)

theorem toNat_append (base : Nat) (digits : List Nat) (last : Nat) :
    toNat base (digits ++ [last]) = toNat base digits * base + last := by
  simp [toNat]

/-- The digits of a number spell that number. -/
theorem toNat_ofNat (base number : Nat) : toNat base (ofNat base number) = number := by
  fun_induction ofNat base number with
  | case1 => simp [toNat]
  | case2 number large ih =>
    rw [toNat_append, ih, Nat.mul_comm]
    exact Nat.div_add_mod number base

end FirmwareTables.Digits
