/-
**Forms.**

A form says which pieces stand at which distance from the start of a structure. A reader who knows
the form reads each of its fields at a fixed place, whatever was written before it: a form is
`IsReadIn` bytes if reading at each of its places gives the piece that the form has there.

* `standsAt_of_startsAt`: pieces written one after the other stand where the lengths of those
  before them say;
* `standsAt_flatten`: groups of pieces of one width stand at multiples of this width;
* `StandsAt.isReadAt`: what stands somewhere is read there.
-/

import FirmwareTables.Proofs.Table.Walk

namespace FirmwareTables

theorem Bytes.inside_of_slice? {bytes part : Bytes} {offset length : Nat}
    (there : bytes.slice? offset length = some part) :
    offset + length ≤ bytes.length ∧ part = (bytes.drop offset).take length := by
  unfold slice? at there
  split at there
  · rename_i inside
    cases there
    exact ⟨inside, rfl⟩
  · cases there

/-- A slice stands between the bytes before it and those behind it. -/
theorem Bytes.apart_of_slice? {bytes part : Bytes} {offset length : Nat}
    (there : bytes.slice? offset length = some part) :
    bytes = bytes.take offset ++ (part ++ bytes.drop (offset + length)) ∧
      (bytes.take offset).length = offset ∧ part.length = length := by
  obtain ⟨inside, rfl⟩ := inside_of_slice? there
  refine ⟨?_, ?_, ?_⟩
  · rw [← List.drop_drop, List.take_append_drop, List.take_append_drop]
  · rw [List.length_take]
    omega
  · rw [List.length_take, List.length_drop]
    omega

namespace Piece

/-! ### Where pieces stand -/

/-- The bytes of a piece stand at a place. -/
def StandsAt (bytes : Bytes) (place : Nat) (piece : Piece) : Prop :=
  bytes.slice? place piece.encode.length = some piece.encode

namespace StandsAt

variable {bytes : Bytes} {place : Nat} {piece : Piece}

theorem behind (front : Bytes) (stands : StandsAt bytes place piece) :
    StandsAt (front ++ bytes) (front.length + place) piece :=
  (Bytes.slice?_append front bytes place _).trans stands

theorem before (rest : Bytes) (stands : StandsAt bytes place piece) :
    StandsAt (bytes ++ rest) place piece :=
  (Bytes.slice?_append_of_le rest (Bytes.inside_of_slice? stands).1).trans stands

end StandsAt

theorem standsAt_first (piece : Piece) (rest : Bytes) : StandsAt (piece.encode ++ rest) 0 piece :=
  @Bytes.slice?_middle [] piece.encode rest 0 _ rfl rfl

/-- The number of bytes of a piece. -/
def length : Piece → Nat
  | byte _ => 1
  | half _ => 2
  | word _ => 4
  | long _ => 8
  | bytes value => value.length
  | zeros length => length

theorem length_encode (piece : Piece) : piece.encode.length = piece.length := by
  cases piece <;> simp [length]

/-- The piece that starts at a place, if pieces are written one after the other. -/
def startsAt? : List Piece → Nat → Option Piece
  | [], _ => none
  | piece :: pieces, place =>
    if place = 0 then some piece
    else if piece.length ≤ place then startsAt? pieces (place - piece.length)
    else none

/-- **Pieces written one after the other** stand where those before them end. -/
theorem standsAt_of_startsAt {pieces : List Piece} {place : Nat} {piece : Piece}
    (starts : startsAt? pieces place = some piece) : StandsAt (encodeAll pieces) place piece := by
  induction pieces generalizing place with
  | nil => cases starts
  | cons first pieces ih =>
    unfold startsAt? at starts
    split at starts
    · rename_i front
      cases starts
      rw [front]
      exact standsAt_first _ _
    split at starts
    · rename_i later
      have stands := (ih starts).behind first.encode
      rwa [length_encode, Nat.add_sub_cancel' later] at stands
    · cases starts

/-- **Groups of one width** stand at multiples of this width. -/
theorem standsAt_flatten {groups : List (List Piece)} {width : Nat}
    (each : ∀ group ∈ groups, (encodeAll group).length = width) {number : Nat}
    {group : List Piece} (here : groups[number]? = some group) {place : Nat} {piece : Piece}
    (stands : StandsAt (encodeAll group) place piece) :
    StandsAt (encodeAll groups.flatten) (width * number + place) piece := by
  induction groups generalizing number with
  | nil => cases here
  | cons first groups ih =>
    rw [List.flatten_cons, encodeAll_append]
    cases number with
    | zero =>
      cases here
      rw [Nat.mul_zero, Nat.zero_add]
      exact stands.before _
    | succ number =>
      have behind := (ih (fun other inside => each other (List.mem_cons_of_mem _ inside))
        here).behind (encodeAll first)
      rw [each first List.mem_cons_self] at behind
      have same : width * (number + 1) + place = width + (width * number + place) := by
        rw [Nat.mul_succ]
        omega
      rw [same]
      exact behind

/-! ### Reading them -/

/-- Reading at a place gives the value of a piece. -/
def IsReadAt (bytes : Bytes) (place : Nat) : Piece → Prop
  | .byte value => bytes.read? place 1 = some value.toNat
  | .half value => bytes.read? place 2 = some value.toNat
  | .word value => bytes.read? place 4 = some value.toNat
  | .long value => bytes.read? place 8 = some value.toNat
  | .bytes value => bytes.slice? place value.length = some value
  | .zeros length => bytes.slice? place length = some (Bytes.zeros length)

/-- **What stands at a place is read there.** -/
theorem StandsAt.isReadAt {bytes : Bytes} {place : Nat} {piece : Piece}
    (stands : StandsAt bytes place piece) : piece.IsReadAt bytes place := by
  have read : ∀ {width number : Nat}, number < Bytes.capacity width →
      bytes.slice? place width = some (Bytes.ofNat width number) →
      bytes.read? place width = some number := by
    intro width number small there
    unfold Bytes.read?
    rw [there, Option.map_some, Bytes.toNat_ofNat, Nat.mod_eq_of_lt small]
  unfold StandsAt at stands
  cases piece with
  | byte value =>
    refine read value.toNat_lt ?_
    rw [Bytes.ofNat, Bytes.ofNat, Nat.mod_eq_of_lt value.toNat_lt, UInt8.ofNat_toNat]
    exact stands
  | half value =>
    rw [length_encode_half] at stands
    exact read value.toNat_lt stands
  | word value =>
    rw [length_encode_word] at stands
    exact read value.toNat_lt stands
  | long value =>
    rw [length_encode_long] at stands
    exact read value.toNat_lt stands
  | bytes value => exact stands
  | zeros length =>
    rw [encode_zeros, Bytes.length_zeros] at stands
    exact stands

end Piece

/-! ### Forms -/

/-- The pieces of a structure, each with its distance from the start. -/
abbrev Form := List (Nat × Piece)

/-- Reading at the places of a form gives its pieces. -/
def Form.IsReadIn (form : Form) (bytes : Bytes) (start : Nat) : Prop :=
  ∀ field ∈ form, field.2.IsReadAt bytes (start + field.1)

/-- Pieces stand where they start, also between other bytes. -/
theorem Form.isReadIn_of_startsAt {form : Form} {pieces : List Piece} (before after : Bytes)
    (starts : ∀ field ∈ form, Piece.startsAt? pieces field.1 = some field.2) :
    form.IsReadIn (before ++ (Piece.encodeAll pieces ++ after)) before.length :=
  fun field inside =>
    (((Piece.standsAt_of_startsAt (starts field inside)).before after).behind before).isReadAt

end FirmwareTables
