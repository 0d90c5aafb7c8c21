/-
**Text as UTF-8.**

`encode` gives the octets of a text, `decode` reads octets back and says of ill-formed ones where
the first fault lies. A fault is either an octet sequence that no character has, with the number
of octets that already rule it out, or the end of the octets inside a character.

* `decode_encode`: what is written is read back;
* `encode_of_decode`: only what is written is read.
-/

import FirmwareTables.Bytes.LittleEndian

namespace FirmwareTables.Utf8

/-- The first place where octets stop being text. -/
structure Fault where
  /-- The number of octets before the faulty character. -/
  index : Nat
  /-- The number of octets that rule a character out, or none if more octets could complete one. -/
  length : Option Nat
  deriving DecidableEq, Inhabited

/-- The number of continuation octets that a first octet calls for, and the range of the first of
them; none if no character starts with the octet. -/
def shape? (first : UInt8) : Option (Nat × UInt8 × UInt8) :=
  if first < 0x80 then some (0, 0x80, 0xbf)
  else if 0xc2 ≤ first && first ≤ 0xdf then some (1, 0x80, 0xbf)
  else if first == 0xe0 then some (2, 0xa0, 0xbf)
  else if first == 0xed then some (2, 0x80, 0x9f)
  else if 0xe1 ≤ first && first ≤ 0xef then some (2, 0x80, 0xbf)
  else if first == 0xf0 then some (3, 0x90, 0xbf)
  else if 0xf1 ≤ first && first ≤ 0xf3 then some (3, 0x80, 0xbf)
  else if first == 0xf4 then some (3, 0x80, 0x8f)
  else none

/-- Reads continuation octets, `seen` octets of the character being read already: the number of
octets of the whole character, or the length of a fault. -/
def continuations : (needed seen : Nat) → (low high : UInt8) → Bytes → Except (Option Nat) Nat
  | 0, seen, _, _, _ => .ok seen
  | _ + 1, _, _, _, [] => .error none
  | needed + 1, seen, low, high, octet :: rest =>
    if low ≤ octet && octet ≤ high then continuations needed (seen + 1) 0x80 0xbf rest
    else .error (some seen)

/-- The number of octets of the first character, or the length of the fault there. -/
def firstCharacter (first : UInt8) (rest : Bytes) : Except (Option Nat) Nat :=
  match shape? first with
  | some (needed, low, high) => continuations needed 1 low high rest
  | none => .error (some 1)

/-- Looks for the first fault, `skip` octets of the last character still to pass by. -/
def faultFrom (index skip : Nat) : Bytes → Option Fault
  | [] => none
  | octet :: rest =>
    match skip with
    | skip + 1 => faultFrom (index + 1) skip rest
    | 0 =>
      match firstCharacter octet rest with
      | .ok length => faultFrom (index + 1) (length - 1) rest
      | .error length => some ⟨index, length⟩

/-- The first fault of octets, if they are no text. -/
def fault? (octets : Bytes) : Option Fault := faultFrom 0 0 octets

/-- The octets of a text. -/
def encode (text : String) : Bytes := text.toByteArray.data.toList

/-- The text of octets, or their first fault. -/
def decode (octets : Bytes) : Except Fault String :=
  match String.fromUTF8? ⟨octets.toArray⟩ with
  | some text => .ok text
  | none => .error ((fault? octets).getD default)

theorem decode_encode (text : String) : decode (encode text) = .ok text := by
  have read : String.fromUTF8? ⟨(encode text).toArray⟩ = some text := by
    simp only [encode, Array.toArray_toList]
    unfold String.fromUTF8?
    exact dif_pos text.isValidUTF8
  simp only [decode, read]

theorem encode_of_decode {octets : Bytes} {text : String} (read : decode octets = .ok text) :
    encode text = octets := by
  unfold decode String.fromUTF8? at read
  split at read
  · rename_i found
    split at found
    · cases found
      cases read
      rfl
    · cases found
  · cases read

/-- The words for a fault. -/
def Fault.message (fault : Fault) : String :=
  match fault.length with
  | some length => s!"invalid utf-8 sequence of {length} bytes from index {fault.index}"
  | none => s!"incomplete utf-8 byte sequence from index {fault.index}"

end FirmwareTables.Utf8
