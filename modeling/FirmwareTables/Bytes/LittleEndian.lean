/-
**Byte strings and little-endian numbers.**

A byte string is a list of bytes. `Bytes.ofNat width number` spells a number in exactly `width`
bytes, least significant first, and `Bytes.toNat` reads a number back.

* `length_ofNat`: the spelling has the stated width;
* `toNat_ofNat`: reading back gives the number modulo `capacity width`;
* `ofNat_toNat`: every byte string is the spelling of the number it reads as;
* `toNat_lt`: a byte string reads as a number below the capacity of its length.
-/

namespace FirmwareTables

/-- A string of bytes, first byte first. -/
abbrev Bytes := List UInt8

namespace Bytes

/-- A run of zero bytes. -/
def zeros (length : Nat) : Bytes := List.replicate length 0

/-- How many numbers `width` bytes can spell. -/
def capacity : (width : Nat) → Nat
  | 0 => 1
  | width + 1 => 256 * capacity width

/-- The `width` little-endian bytes of a number; higher bytes are dropped. -/
def ofNat : (width number : Nat) → Bytes
  | 0, _ => []
  | width + 1, number => UInt8.ofNat (number % 256) :: ofNat width (number / 256)

/-- The number whose little-endian bytes are given. -/
def toNat : Bytes → Nat
  | [] => 0
  | byte :: rest => byte.toNat + 256 * toNat rest

@[simp] theorem length_zeros (length : Nat) : (zeros length).length = length := by
  simp [zeros]

@[simp] theorem length_ofNat (width number : Nat) : (ofNat width number).length = width := by
  induction width generalizing number with
  | zero => rfl
  | succ width ih => simp [ofNat, ih]

theorem toNat_ofNat (width number : Nat) : toNat (ofNat width number) = number % capacity width := by
  induction width generalizing number with
  | zero => simp [ofNat, toNat, capacity, Nat.mod_one]
  | succ width ih =>
    have small : number % 256 % 2 ^ 8 = number % 256 :=
      Nat.mod_eq_of_lt (by simpa using Nat.mod_lt number (by decide : 0 < 256))
    rw [ofNat, toNat, ih, UInt8.toNat_ofNat', small, capacity, Nat.mod_mul]

theorem ofNat_toNat (bytes : Bytes) : ofNat bytes.length (toNat bytes) = bytes := by
  induction bytes with
  | nil => rfl
  | cons byte rest ih =>
    have bound : byte.toNat < 256 := byte.toNat_lt
    rw [List.length_cons, ofNat, toNat]
    congr 1
    · rw [Nat.add_mul_mod_self_left, Nat.mod_eq_of_lt bound, UInt8.ofNat_toNat]
    · rw [Nat.add_mul_div_left _ _ (by decide), Nat.div_eq_of_lt bound, Nat.zero_add, ih]

theorem toNat_lt (bytes : Bytes) : toNat bytes < capacity bytes.length := by
  induction bytes with
  | nil => simp [toNat, capacity]
  | cons byte rest ih =>
    have bound : byte.toNat < 256 := byte.toNat_lt
    rw [toNat, List.length_cons, capacity]
    omega

/-- The slice of `length` bytes from `offset` on, if the byte string reaches that far. -/
def slice? (bytes : Bytes) (offset length : Nat) : Option Bytes :=
  if offset + length ≤ bytes.length then some ((bytes.drop offset).take length) else none

/-- The little-endian number of `width` bytes at `offset`, if the byte string reaches that far. -/
def read? (bytes : Bytes) (offset width : Nat) : Option Nat :=
  (bytes.slice? offset width).map toNat

/-- The 16-bit number at `offset`. -/
def read16? (bytes : Bytes) (offset : Nat) : Option UInt16 :=
  (bytes.read? offset 2).map UInt16.ofNat

/-- The 32-bit number at `offset`. -/
def read32? (bytes : Bytes) (offset : Nat) : Option UInt32 :=
  (bytes.read? offset 4).map UInt32.ofNat

/-- The 64-bit number at `offset`. -/
def read64? (bytes : Bytes) (offset : Nat) : Option UInt64 :=
  (bytes.read? offset 8).map UInt64.ofNat

/-- Puts `patch` over the bytes from `offset` on. -/
def overwrite (bytes : Bytes) (offset : Nat) (patch : Bytes) : Bytes :=
  bytes.take offset ++ patch ++ bytes.drop (offset + patch.length)

theorem length_overwrite {bytes patch : Bytes} {offset : Nat}
    (fits : offset + patch.length ≤ bytes.length) :
    (bytes.overwrite offset patch).length = bytes.length := by
  simp [overwrite]
  omega

/-- The sum of all bytes modulo 256. -/
def sum (bytes : Bytes) : UInt8 := bytes.foldl (· + ·) 0

end Bytes

end FirmwareTables
