/-
**Headers are written and read back.**

Writing a header at the start of a buffer and reading it from there undo each other. A header that
fits is written as it is, and everything behind it stays (`Header.IsWritten`); every byte string
with room for a header starts with one (`Header.exists_pieces`). Where there is no room, writing
stops in front of the first field that would end outside, and the fields before it stand where they
belong (`Header.IsCutShort`).

* `Writer.putAll_within`, `Writer.putAll_beyond`: pieces put over a buffer, as far as they fit;
* `headers_reread`: both directions, and every length.
-/

import FirmwareTables.Proofs.Table.Checksum

namespace FirmwareTables

/-! ### Pieces put over a buffer -/

/-- A piece that is written, and not left as it is. -/
def Piece.IsSolid : Piece → Prop
  | .zeros _ => False
  | _ => True

namespace Writer

variable {front old : Bytes} {piece : Piece} {pieces : List Piece}

/-- A writer that stands behind `front` and has put `data` over the first of the bytes there. -/
def past (front old data : Bytes) : Writer :=
  ⟨front ++ data ++ old.drop data.length, (front ++ data).length⟩

theorem past_nil (front old : Bytes) : past front old [] = ⟨front ++ old, front.length⟩ := by
  unfold past
  rw [List.append_nil]
  rfl

/-- What is put next goes over the bytes that are left. -/
theorem past_append (front old first second : Bytes) :
    past (front ++ first) (old.drop first.length) second = past front old (first ++ second) := by
  unfold past
  rw [List.drop_drop, List.append_assoc front, @List.length_append _ first second]

theorem length_past {data : Bytes} (fits : data.length ≤ old.length) :
    (past front old data).buffer.length = (front ++ old).length := by
  simp only [past, List.length_append, List.length_drop]
  omega

/-- A piece put over a buffer with room for it. -/
theorem put_within (solid : piece.IsSolid) (fits : piece.length ≤ old.length) :
    (past front old []).put piece = .ok (past front old piece.encode) := by
  have size := piece.length_encode
  have inside : front.length + piece.encode.length ≤ (front ++ old).length := by
    rw [List.length_append]
    omega
  have written : (front ++ old).overwrite front.length piece.encode =
      front ++ piece.encode ++ old.drop piece.encode.length := by
    conv_lhs => rw [← List.take_append_drop piece.length old]
    rw [Bytes.overwrite_append, List.append_assoc, size]
    rw [size, List.length_take, Nat.min_eq_left fits]
  rw [past_nil]
  cases piece with
  | zeros length => cases solid
  | byte | half | word | long | bytes =>
    show write _ _ = _
    unfold write
    rw [if_pos inside, written, past, List.length_append]

/-- A piece is refused by a buffer without room for it. -/
theorem put_beyond (solid : piece.IsSolid) (lacks : old.length < piece.length) :
    (past front old []).put piece =
      .error (.badBufferSize (.write piece.length front.length (front ++ old).length)) := by
  have size := piece.length_encode
  have outside : ¬ front.length + piece.encode.length ≤ (front ++ old).length := by
    rw [List.length_append]
    omega
  rw [past_nil]
  cases piece with
  | zeros length => cases solid
  | byte | half | word | long | bytes =>
    show write _ _ = _
    unfold write
    rw [if_neg outside, size]

/-- **Pieces put over a buffer with room for them** stand there, and what is behind them stays. -/
theorem putAll_within (front : Bytes) (solid : ∀ piece ∈ pieces, piece.IsSolid)
    (fits : (Piece.encodeAll pieces).length ≤ old.length) :
    (past front old []).putAll pieces = (past front old (Piece.encodeAll pieces), .ok ()) := by
  -- What a piece has left behind joins the front for those that follow.
  induction pieces generalizing front old with
  | nil => rfl
  | cons piece pieces ih =>
    obtain ⟨first, others⟩ := List.forall_mem_cons.mp solid
    rw [Piece.encodeAll_cons, List.length_append] at fits
    have size := piece.length_encode
    have rest := @ih (old.drop piece.encode.length) (front ++ piece.encode) others
      (by rw [List.length_drop]; omega)
    rw [past_append, past_append, List.append_nil] at rest
    unfold putAll
    rw [put_within first (by omega)]
    exact rest

/-- **Pieces put over a buffer without room for all of them** stand there up to the first that does
not fit. -/
theorem putAll_beyond (front : Bytes) (solid : ∀ piece ∈ pieces, piece.IsSolid)
    (lacks : old.length < (Piece.encodeAll pieces).length) :
    ∃ before piece behind, pieces = before ++ piece :: behind ∧
      (Piece.encodeAll before).length ≤ old.length ∧
      old.length < (Piece.encodeAll before).length + piece.length ∧
      (past front old []).putAll pieces = (past front old (Piece.encodeAll before),
        .error (.badBufferSize (.write piece.length (front ++ Piece.encodeAll before).length
          (front ++ old).length))) := by
  induction pieces generalizing front old with
  | nil => cases lacks
  | cons piece pieces ih =>
    obtain ⟨first, others⟩ := List.forall_mem_cons.mp solid
    have size := piece.length_encode
    by_cases fits : piece.length ≤ old.length
    · rw [Piece.encodeAll_cons, List.length_append] at lacks
      obtain ⟨before, other, behind, split, within, beyond, put⟩ :=
        @ih (old.drop piece.encode.length) (front ++ piece.encode) others
          (by rw [List.length_drop]; omega)
      have kept : (front ++ piece.encode ++ old.drop piece.encode.length).length =
          (front ++ old).length := length_past (by omega)
      rw [past_append, past_append, List.append_nil, List.append_assoc front, kept] at put
      rw [List.length_drop] at within beyond
      refine ⟨piece :: before, other, behind, by rw [split, List.cons_append], ?_, ?_, ?_⟩
      · rw [Piece.encodeAll_cons, List.length_append]
        omega
      · rw [Piece.encodeAll_cons, List.length_append]
        omega
      · unfold putAll
        rw [put_within first fits]
        exact put
    · have lacking := Nat.lt_of_not_le fits
      refine ⟨[], piece, pieces, rfl, Nat.zero_le _, ?_, ?_⟩
      · rwa [Piece.encodeAll_nil, List.length_nil, Nat.zero_add]
      · unfold putAll
        rw [put_beyond first lacking, Piece.encodeAll_nil, List.append_nil]

end Writer

/-! ### Every byte string is a spelling -/

/-- Bytes start with the spelling of a number of any width that they have. -/
theorem Bytes.exists_ofNat {bytes : Bytes} {width : Nat} (room : width ≤ bytes.length) :
    ∃ number rest, number < capacity width ∧ bytes = ofNat width number ++ rest ∧
      bytes.length = width + rest.length := by
  have size : (bytes.take width).length = width := by
    rw [List.length_take, Nat.min_eq_left room]
  refine ⟨toNat (bytes.take width), bytes.drop width, ?_, ?_, ?_⟩
  · have small := toNat_lt (bytes.take width)
    rwa [size] at small
  · have spelled := ofNat_toNat (bytes.take width)
    rw [size] at spelled
    rw [spelled, List.take_append_drop]
  · rw [List.length_drop]
    omega

namespace Piece

theorem exists_word (bytes : Bytes) (room : 4 ≤ bytes.length) :
    ∃ value rest, bytes = (word value).encode ++ rest ∧ bytes.length = 4 + rest.length := by
  obtain ⟨number, rest, small, same, size⟩ := Bytes.exists_ofNat room
  refine ⟨UInt32.ofNat number, rest, ?_, size⟩
  rw [encode, UInt32.toNat_ofNat_of_lt' small]
  exact same

theorem exists_long (bytes : Bytes) (room : 8 ≤ bytes.length) :
    ∃ value rest, bytes = (long value).encode ++ rest ∧ bytes.length = 8 + rest.length := by
  obtain ⟨number, rest, small, same, size⟩ := Bytes.exists_ofNat room
  refine ⟨UInt64.ofNat number, rest, ?_, size⟩
  rw [encode, UInt64.toNat_ofNat_of_lt' small]
  exact same

end Piece

namespace Header

/-- **Every byte string with room for a header** starts with one. -/
theorem exists_pieces {bytes : Bytes} (room : FirmwareTables.headerLength ≤ bytes.length) :
    ∃ (header : Header) (rest : Bytes), bytes = Piece.encodeAll header.pieces ++ rest := by
  unfold FirmwareTables.headerLength at room
  obtain ⟨signature, bytes, rfl, size⟩ := Piece.exists_word bytes (by omega)
  obtain ⟨length, bytes, rfl, size⟩ := Piece.exists_word bytes (by omega)
  obtain ⟨revision, bytes, rfl⟩ := List.exists_cons_of_length_pos (l := bytes) (by omega)
  obtain ⟨checksum, bytes, rfl⟩ := List.exists_cons_of_length_pos (l := bytes) (by
    rw [List.length_cons] at size
    omega)
  simp only [List.length_cons] at size
  have six : (bytes.take 6).length = 6 := by
    rw [List.length_take]
    omega
  obtain ⟨tableId, rest, split, size⟩ := Piece.exists_long (bytes.drop 6) (by
    rw [List.length_drop]
    omega)
  rw [List.length_drop] at size
  obtain ⟨oemRevision, rest, rfl, size⟩ := Piece.exists_word rest (by omega)
  obtain ⟨creatorId, rest, rfl, size⟩ := Piece.exists_word rest (by omega)
  obtain ⟨creatorRevision, rest, rfl, size⟩ := Piece.exists_word rest (by omega)
  refine ⟨⟨⟨signature⟩, length, revision, checksum, ⟨bytes.take 6, six⟩, tableId, oemRevision,
    creatorId, creatorRevision⟩, rest, ?_⟩
  conv_lhs => rw [← List.take_append_drop 6 bytes, split]
  simp only [pieces, Piece.encodeAll_cons, Piece.encodeAll_nil, Piece.encode_byte,
    Piece.encode_bytes, List.append_assoc, List.cons_append, List.nil_append]

/-- **No header is read** where there is no room for one. -/
theorem parse?_of_short {bytes : Bytes} (short : bytes.length < FirmwareTables.headerLength) :
    parse? bytes = none := by
  have none : bytes.read32? 32 = none := by
    unfold FirmwareTables.headerLength at short
    unfold Bytes.read32? Bytes.read? Bytes.slice?
    rw [if_neg (by omega)]
    rfl
  cases read : parse? bytes with
  | none => rfl
  | some header =>
    unfold parse? at read
    simp only [none, Option.bind_eq_bind, Option.bind_none, Option.bind_fun_none] at read
    cases read

end Header

/-! ### Forms that go on without a gap -/

namespace Form

/-- Pieces one after the other, from a place on. -/
def inRow : Nat → List Piece → Form
  | _, [] => []
  | place, piece :: pieces => (place, piece) :: inRow (place + piece.length) pieces

theorem take_inRow (place count : Nat) (pieces : List Piece) :
    (inRow place pieces).take count = inRow place (pieces.take count) := by
  induction pieces generalizing place count with
  | nil => rw [inRow, List.take_nil, List.take_nil, inRow]
  | cons piece pieces ih =>
    cases count with
    | zero => rfl
    | succ count => rw [inRow, List.take_succ_cons, List.take_succ_cons, inRow, ih]

/-- **Pieces one after the other** are read where they stand. -/
theorem isReadIn_inRow (front : Bytes) (pieces : List Piece) (rest : Bytes) :
    (inRow front.length pieces).IsReadIn (front ++ Piece.encodeAll pieces ++ rest) 0 := by
  induction pieces generalizing front with
  | nil => exact fun _ absurd => nomatch absurd
  | cons piece pieces ih =>
    have tail := ih (front ++ piece.encode)
    rw [List.length_append, piece.length_encode, List.append_assoc front,
      ← Piece.encodeAll_cons] at tail
    refine List.forall_mem_cons.mpr ⟨?_, tail⟩
    rw [Piece.encodeAll_cons, List.append_assoc, List.append_assoc, Nat.zero_add]
    exact ((Piece.standsAt_first piece _).behind front).isReadAt

end Form

namespace Header

/-- The fields of a header follow each other without a gap. -/
theorem form_eq (header : Header) : header.form = Form.inRow 0 header.pieces := by
  simp only [form, pieces, Form.inRow, Piece.length, header.oemId.length_bytes]

theorem isSolid_pieces (header : Header) : ∀ piece ∈ header.pieces, piece.IsSolid := by
  simp only [pieces, List.forall_mem_cons]
  exact ⟨trivial, trivial, trivial, trivial, trivial, trivial, trivial, trivial, trivial,
    List.forall_mem_nil _⟩

/-! ### Writing a header -/

/-- A writer has put a header at the start of a buffer. -/
structure IsWritten (header : Header) (buffer : Bytes) (writer : Writer) : Prop where
  /-- It stands behind the header. -/
  position : writer.position = FirmwareTables.headerLength
  /-- The buffer has the length that it had. -/
  length : writer.buffer.length = buffer.length
  /-- Nothing behind the header has changed. -/
  behind : writer.buffer.drop FirmwareTables.headerLength =
    buffer.drop FirmwareTables.headerLength
  /-- The header is read back. -/
  read : parse? writer.buffer = some header

/-- A writer has put the first `count` fields of a header at the start of a buffer, in which there
was no room for the next of them. -/
structure IsCutShort (header : Header) (buffer : Bytes) (count : Nat) (field : Piece)
    (writer : Writer) : Prop where
  /-- There is a next field. -/
  next : header.pieces[count]? = some field
  /-- The writer stands behind the fields that it has put. -/
  position : writer.position = (Piece.encodeAll (header.pieces.take count)).length
  /-- The next field would end outside. -/
  outside : writer.position ≤ buffer.length ∧ buffer.length < writer.position + field.length
  /-- Each of the fields that were put is read where it belongs. -/
  fields : Form.IsReadIn (header.form.take count) writer.buffer 0
  /-- The buffer has the length that it had. -/
  length : writer.buffer.length = buffer.length
  /-- Nothing behind these fields has changed. -/
  behind : writer.buffer.drop writer.position = buffer.drop writer.position

variable {buffer : Bytes}

/-- **A header is written** where there is room for it. -/
theorem exists_written (room : FirmwareTables.headerLength ≤ buffer.length) (header : Header) :
    ∃ writer, (Writer.start buffer).putAll header.pieces = (writer, .ok ()) ∧
      writer.buffer = Piece.encodeAll header.pieces ++ buffer.drop FirmwareTables.headerLength ∧
      header.IsWritten buffer writer := by
  have size := header.length_pieces
  have fits : (Piece.encodeAll header.pieces).length ≤ buffer.length := by rwa [size]
  have put := Writer.putAll_within [] header.isSolid_pieces fits
  rw [Writer.past_nil] at put
  have whole : (Writer.past [] buffer (Piece.encodeAll header.pieces)).buffer =
      Piece.encodeAll header.pieces ++ buffer.drop FirmwareTables.headerLength := by
    rw [Writer.past, size, List.nil_append]
  refine ⟨_, put, whole, size, Writer.length_past fits, ?_, ?_⟩
  · rw [whole, List.drop_left' size]
  · rw [whole]
    exact header.parse?_pieces _

/-- **A header is cut short** where there is no room for it. -/
theorem exists_cutShort (short : buffer.length < FirmwareTables.headerLength) (header : Header) :
    ∃ count field writer, (Writer.start buffer).putAll header.pieces =
        (writer, .error (.badBufferSize (.write field.length writer.position buffer.length))) ∧
      header.IsCutShort buffer count field writer := by
  have lacks : buffer.length < (Piece.encodeAll header.pieces).length := by
    rwa [header.length_pieces]
  obtain ⟨before, field, behind, split, within, beyond, put⟩ :=
    Writer.putAll_beyond [] header.isSolid_pieces lacks
  rw [Writer.past_nil] at put
  have first : header.pieces.take before.length = before := by
    rw [split, List.take_left]
  have fields := Form.isReadIn_inRow [] before (buffer.drop (Piece.encodeAll before).length)
  refine ⟨before.length, field, _, put, ?_, ?_, ⟨within, beyond⟩, ?_, Writer.length_past within, ?_⟩
  · rw [split, List.getElem?_append_right (Nat.le_refl _), Nat.sub_self]
    rfl
  · rw [first]
    rfl
  · rw [form_eq, Form.take_inRow, first]
    exact fields
  · exact List.drop_left

/-- What becomes of headers in a buffer. -/
structure AreReread (buffer : Bytes) : Prop where
  /-- Where there is room, every header is written, and read back. -/
  written : FirmwareTables.headerLength ≤ buffer.length → ∀ header : Header,
    ∃ writer, (Writer.start buffer).putAll header.pieces = (writer, .ok ()) ∧
      header.IsWritten buffer writer
  /-- Where there is room, some header is read, and writing it, wherever there is room, gives the
  bytes that it was read from. -/
  read : FirmwareTables.headerLength ≤ buffer.length → ∃ header, parse? buffer = some header ∧
    ∀ other : Bytes, FirmwareTables.headerLength ≤ other.length →
      ∃ writer, (Writer.start other).putAll header.pieces = (writer, .ok ()) ∧
        writer.buffer.take FirmwareTables.headerLength = buffer.take FirmwareTables.headerLength
  /-- Where there is no room, none is read. -/
  unread : buffer.length < FirmwareTables.headerLength → parse? buffer = none
  /-- Where there is no room, every header is cut short. -/
  cut : buffer.length < FirmwareTables.headerLength → ∀ header : Header,
    ∃ count field writer, (Writer.start buffer).putAll header.pieces =
        (writer, .error (.badBufferSize (.write field.length writer.position buffer.length))) ∧
      header.IsCutShort buffer count field writer

/-- **Writing and reading headers undo each other**, and stop where there is no room. -/
theorem headers_reread (buffer : Bytes) : AreReread buffer where
  written room header := by
    obtain ⟨writer, put, _, written⟩ := exists_written room header
    exact ⟨writer, put, written⟩
  read room := by
    obtain ⟨header, rest, rfl⟩ := exists_pieces room
    refine ⟨header, header.parse?_pieces rest, fun other enough => ?_⟩
    obtain ⟨writer, put, whole, _⟩ := exists_written enough header
    refine ⟨writer, put, ?_⟩
    rw [whole, List.take_left' header.length_pieces, List.take_left' header.length_pieces]
  unread := parse?_of_short
  cut := exists_cutShort

end Header

end FirmwareTables
