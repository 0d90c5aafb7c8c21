/-
**Fractions of double precision.**

A fraction that is not negative is a whole number of the smallest steps, 2^-1074 each, with at most
53 binary digits before the zeros at its end; from `limit` on it is infinite. Two fractions are the
same exactly if they are the same number of steps.

* `nearest` rounds a quotient of steps: of two fractions that are equally near it takes the one
  whose last binary digit is zero;
* `product` and `quotient` round the exact product and the exact quotient;
* `ofDecimal?` rounds a number times a power of ten, unless it is infinite.
-/

import FirmwareTables.Text.Digits

namespace FirmwareTables.Fraction

/-- The number of steps in one. -/
def one : Nat := Nat.pow 2 1074

/-- The first number of steps that is infinite. -/
def limit : Nat := Nat.pow 2 2098

/-- A quotient rounded to the nearest whole number, a half to the even one. -/
def roundQuotient (numerator denominator : Nat) : Nat :=
  let quotient := numerator / denominator
  let doubled := 2 * (numerator % denominator)
  if denominator < doubled ∨ doubled = denominator ∧ quotient % 2 = 1 then quotient + 1
  else quotient

/-- The fraction nearest to a quotient of steps. -/
def nearest (numerator denominator : Nat) : Nat :=
  let spacing := Nat.pow 2 ((numerator / denominator).log2 - 52)
  roundQuotient numerator (denominator * spacing) * spacing

/-- The product of two fractions. -/
def product (first second : Nat) : Nat := nearest (first * second) one

/-- The quotient of two fractions. -/
def quotient (first second : Nat) : Nat := nearest (first * one) second

/-- The fraction nearest to a whole number. -/
def ofNat (number : Nat) : Nat := nearest (number * one) 1

/-- The fraction nearest to a power of ten. -/
def powerOfTen (power : Nat) : Nat := ofNat (Nat.pow 10 power)

/-- The fraction nearest to a number times a power of ten, unless it is infinite. -/
def ofDecimal? (number : Nat) (power : Int) : Option Nat :=
  let places := (Digits.ofNat 10 number).length + power
  if number = 0 ∨ places < -330 then some 0
  else if 320 < places then none
  else
    let steps := match power with
      | .ofNat power => nearest (number * Nat.pow 10 power * one) 1
      | .negSucc power => nearest (number * one) (Nat.pow 10 (power + 1))
    if steps < limit then some steps else none

end FirmwareTables.Fraction
