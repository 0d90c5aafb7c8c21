/-
**Pieces on a blank buffer.**

`Piece.encodeAll` is what a list of pieces amounts to. Written from a position on behind which the
buffer is still zero, pieces that fit leave exactly these bytes there and zeros behind
(`putEach_blank`): skipping a run of zeros and writing one come to the same. Hence pieces that have
the length of a blank buffer become its contents (`putEach_fill`), and whatever a writer does, its
buffer keeps its length (`length_putEach`). Bytes put over others are known position by position
(`getElem?_overwrite`).
-/

import FirmwareTables.Proofs.Outcome
import FirmwareTables.Table.Writer

namespace FirmwareTables

/-! ### Byte strings -/

namespace Bytes

theorem zeros_add (first second : Nat) : zeros (first + second) = zeros first ++ zeros second := by
  unfold zeros
  rw [List.replicate_add]

theorem zeros_split {part whole : Nat} (within : part ≤ whole) :
    zeros whole = zeros part ++ zeros (whole - part) := by
  rw [← zeros_add, Nat.add_sub_cancel' within]

/-- Bytes put over the start of what follows `front`. -/
theorem overwrite_append {front old new rest : Bytes} (same : new.length = old.length) :
    (front ++ (old ++ rest)).overwrite front.length new = front ++ (new ++ rest) := by
  unfold overwrite
  rw [List.take_left, same, ← List.append_assoc front old rest, ← List.length_append,
    List.drop_left, List.append_assoc]

variable {bytes patch : Bytes} {offset position : Nat}

/-- **Every byte under a patch** is one of the patch, and every other one is as it was. -/
theorem getElem?_overwrite (fits : offset + patch.length ≤ bytes.length) (position : Nat) :
    (bytes.overwrite offset patch)[position]? =
      (if offset ≤ position then patch[position - offset]? else none).or bytes[position]? := by
  have front : (bytes.take offset).length = offset := by
    rw [List.length_take]
    omega
  unfold overwrite
  rw [List.append_assoc]
  by_cases before : position < offset
  · rw [List.getElem?_append_left (by omega), List.getElem?_take_of_lt before,
      if_neg (Nat.not_le.mpr before), Option.none_or]
  rw [List.getElem?_append_right (by omega), front, if_pos (Nat.le_of_not_lt before)]
  by_cases within : position - offset < patch.length
  · rw [List.getElem?_append_left within, List.getElem?_eq_getElem within, Option.some_or]
  · rw [List.getElem?_append_right (by omega), List.getElem?_drop,
      List.getElem?_eq_none (Nat.le_of_not_lt within), Option.none_or]
    congr 1
    omega

/-- A patch changes nothing outside of itself. -/
theorem getElem?_overwrite_of_outside (fits : offset + patch.length ≤ bytes.length)
    (outside : ¬ (offset ≤ position ∧ position < offset + patch.length)) :
    (bytes.overwrite offset patch)[position]? = bytes[position]? := by
  rw [getElem?_overwrite fits]
  split
  · rw [List.getElem?_eq_none (by omega), Option.none_or]
  · exact Option.none_or

end Bytes

/-! ### What pieces amount to -/

namespace Piece

/-- The bytes of pieces, one after the other. -/
def encodeAll (pieces : List Piece) : Bytes := pieces.flatMap encode

@[simp] theorem encodeAll_nil : encodeAll [] = [] := rfl

@[simp] theorem encodeAll_cons (piece : Piece) (pieces : List Piece) :
    encodeAll (piece :: pieces) = piece.encode ++ encodeAll pieces := rfl

@[simp] theorem encodeAll_append (first second : List Piece) :
    encodeAll (first ++ second) = encodeAll first ++ encodeAll second :=
  List.flatMap_append

/-- Pieces made from some items, as many bytes for each of them. -/
theorem length_flatMap {α : Type} {items : List α} {pieces : α → List Piece} {width : Nat}
    (each : ∀ item, (encodeAll (pieces item)).length = width) :
    (encodeAll (items.flatMap pieces)).length = width * items.length := by
  induction items with
  | nil => rfl
  | cons item items ih =>
    rw [List.flatMap_cons, encodeAll_append, List.length_append, each, ih, List.length_cons,
      Nat.mul_succ, Nat.add_comm]

@[simp] theorem encode_byte (value : UInt8) : (byte value).encode = [value] := rfl

@[simp] theorem length_encode_half (value : UInt16) : (half value).encode.length = 2 :=
  Bytes.length_ofNat 2 _

@[simp] theorem length_encode_word (value : UInt32) : (word value).encode.length = 4 :=
  Bytes.length_ofNat 4 _

@[simp] theorem length_encode_long (value : UInt64) : (long value).encode.length = 8 :=
  Bytes.length_ofNat 8 _

@[simp] theorem encode_bytes (value : Bytes) : (bytes value).encode = value := rfl

@[simp] theorem encode_zeros (length : Nat) : (zeros length).encode = Bytes.zeros length := rfl

end Piece

/-! ### Writing them -/

namespace Writer

theorem putEach_nil (writer : Writer) : writer.putEach [] = .ok writer := rfl

theorem putEach_cons (writer : Writer) (piece : Piece) (pieces : List Piece) :
    writer.putEach (piece :: pieces) = writer.put piece >>= fun after => after.putEach pieces := by
  unfold putEach
  rw [putAll]
  cases writer.put piece <;> rfl

/-- A piece put where the buffer is blank. -/
theorem put_blank (front : Bytes) {room : Nat} {piece : Piece}
    (fits : piece.encode.length ≤ room) :
    (Writer.mk (front ++ Bytes.zeros room) front.length).put piece =
      .ok ⟨front ++ piece.encode ++ Bytes.zeros (room - piece.encode.length),
        (front ++ piece.encode).length⟩ := by
  have inside : front.length + piece.encode.length ≤ (front ++ Bytes.zeros room).length := by
    rw [List.length_append, Bytes.length_zeros]
    omega
  have apart := Bytes.zeros_split fits
  have written : (front ++ Bytes.zeros room).overwrite front.length piece.encode =
      front ++ piece.encode ++ Bytes.zeros (room - piece.encode.length) := by
    rw [apart, Bytes.overwrite_append (by rw [Bytes.length_zeros]), List.append_assoc]
  cases piece with
  | zeros length =>
    rw [Piece.encode_zeros, Bytes.length_zeros] at inside apart ⊢
    show skip _ length = _
    unfold skip
    rw [if_pos inside, List.length_append, Bytes.length_zeros, List.append_assoc, ← apart]
  | byte | half | word | long | bytes =>
    show write _ _ = _
    unfold write
    rw [if_pos inside, written, List.length_append]

/-- **Pieces put where the buffer is blank** leave their bytes, and zeros behind them. -/
theorem putEach_blank (front : Bytes) {room : Nat} {pieces : List Piece}
    (fits : (Piece.encodeAll pieces).length ≤ room) :
    (Writer.mk (front ++ Bytes.zeros room) front.length).putEach pieces =
      .ok ⟨front ++ Piece.encodeAll pieces ++ Bytes.zeros (room - (Piece.encodeAll pieces).length),
        (front ++ Piece.encodeAll pieces).length⟩ := by
  induction pieces generalizing front room with
  | nil => simp [putEach_nil]
  | cons piece pieces ih =>
    rw [Piece.encodeAll_cons, List.length_append] at fits
    rw [putEach_cons, put_blank front (by omega)]
    refine (ih _ (by omega)).trans ?_
    simp only [Piece.encodeAll_cons, List.length_append, List.append_assoc, Nat.sub_sub]

/-- **Pieces of the length of a blank buffer** become its contents. -/
theorem putEach_fill {pieces : List Piece} {size : Nat}
    (exact : (Piece.encodeAll pieces).length = size) :
    (Writer.start (Bytes.zeros size)).putEach pieces >>= finish = .ok (Piece.encodeAll pieces) := by
  have put := putEach_blank [] (Nat.le_of_eq exact)
  rw [exact, Nat.sub_self] at put
  simp only [List.nil_append, List.length_nil] at put
  unfold start
  rw [put]
  show finish _ = _
  unfold finish
  simp [Bytes.zeros]

/-! ### The length of the buffer -/

theorem length_write {writer after : Writer} {data : Bytes} (done : writer.write data = .ok after) :
    after.buffer.length = writer.buffer.length := by
  unfold write at done
  split at done
  · rename_i inside
    cases done
    exact Bytes.length_overwrite inside
  · cases done

theorem length_put {writer after : Writer} {piece : Piece} (done : writer.put piece = .ok after) :
    after.buffer.length = writer.buffer.length := by
  cases piece with
  | zeros length =>
    change writer.skip length = .ok after at done
    unfold skip at done
    split at done
    · cases done
      rfl
    · cases done
  | byte | half | word | long | bytes => exact length_write done

theorem length_putEach {writer after : Writer} {pieces : List Piece}
    (done : writer.putEach pieces = .ok after) : after.buffer.length = writer.buffer.length := by
  induction pieces generalizing writer with
  | nil =>
    cases done
    rfl
  | cons piece pieces ih =>
    rw [putEach_cons] at done
    obtain ⟨middle, first, rest⟩ := bind_eq_ok.mp done
    rw [ih rest, length_put first]

end Writer

end FirmwareTables
