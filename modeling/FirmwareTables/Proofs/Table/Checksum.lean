/-
**Headers and checksums.**

The byte sum of a table is taken modulo 256. With its checksum closed it is zero (`sum_finalize`),
and closing it again changes nothing (`finalize_finalize`). A header that is written in front of a
table is read back field by field (`parse?_pieces`), also with the checksum byte that closes the
table (`set_checksum`).
-/

import FirmwareTables.Proofs.Table.Forms
import FirmwareTables.Table.Header

namespace FirmwareTables

/-! ### Byte sums -/

namespace Bytes

/-- The sum of all bytes. -/
def total : Bytes → Nat
  | [] => 0
  | byte :: rest => byte.toNat + total rest

theorem foldl_add (start : UInt8) (bytes : Bytes) :
    bytes.foldl (· + ·) start = start + bytes.sum := by
  unfold sum
  induction bytes generalizing start with
  | nil => exact (UInt8.add_zero start).symm
  | cons byte rest ih =>
    rw [List.foldl_cons, List.foldl_cons, ih, ih (0 + byte), UInt8.zero_add, UInt8.add_assoc]

theorem sum_cons (byte : UInt8) (rest : Bytes) : sum (byte :: rest) = byte + rest.sum := by
  show rest.foldl (· + ·) (0 + byte) = byte + rest.sum
  rw [UInt8.zero_add, foldl_add]

theorem sum_append (front back : Bytes) : sum (front ++ back) = front.sum + back.sum := by
  induction front with
  | nil => exact (UInt8.zero_add _).symm
  | cons byte front ih => rw [List.cons_append, sum_cons, sum_cons, ih, UInt8.add_assoc]

/-- The byte sum is the sum of all bytes modulo 256. -/
theorem toNat_sum (bytes : Bytes) : bytes.sum.toNat = bytes.total % 256 := by
  induction bytes with
  | nil => rfl
  | cons byte rest ih =>
    rw [sum_cons, UInt8.toNat_add, ih, total]
    omega

/-- A number that is read is read as the number of its width that it is. -/
theorem read16?_of_read? {bytes : Bytes} {place : Nat} {value : UInt16}
    (read : bytes.read? place 2 = some value.toNat) : bytes.read16? place = some value := by
  unfold read16?
  rw [read, Option.map_some, UInt16.ofNat_toNat]

theorem read32?_of_read? {bytes : Bytes} {place : Nat} {value : UInt32}
    (read : bytes.read? place 4 = some value.toNat) : bytes.read32? place = some value := by
  unfold read32?
  rw [read, Option.map_some, UInt32.ofNat_toNat]

theorem read64?_of_read? {bytes : Bytes} {place : Nat} {value : UInt64}
    (read : bytes.read? place 8 = some value.toNat) : bytes.read64? place = some value := by
  unfold read64?
  rw [read, Option.map_some, UInt64.ofNat_toNat]

/-- A byte counts as what it is, whatever stood in its place. -/
theorem sum_set {bytes : Bytes} {place : Nat} (inside : place < bytes.length) (byte : UInt8) :
    sum (bytes.set place byte) = byte + sum (bytes.set place 0) := by
  rw [List.set_eq_take_append_cons_drop, List.set_eq_take_append_cons_drop, if_pos inside,
    if_pos inside, sum_append, sum_append, sum_cons, sum_cons, UInt8.zero_add, ← UInt8.add_assoc,
    UInt8.add_comm _ byte, UInt8.add_assoc]

end Bytes

/-! ### Closing the checksum -/

namespace Table

variable {table : Table}

/-- The byte that closes the checksum. -/
def closing (table : Table) : UInt8 := 0 - Bytes.sum (table.bytes.set checksumOffset 0)

theorem finalize_eq (long : headerLength ≤ table.size) :
    table.finalize = ⟨table.bytes.set checksumOffset table.closing⟩ := by
  unfold finalize
  rw [if_neg (Nat.not_lt.mpr long)]
  dsimp only
  rw [List.set_set]
  rfl

theorem size_finalize (long : headerLength ≤ table.size) : table.finalize.size = table.size := by
  rw [finalize_eq long]
  exact List.length_set

/-- **All bytes of a closed table** add up to zero. -/
theorem sum_finalize (long : headerLength ≤ table.size) : Bytes.sum table.finalize.bytes = 0 := by
  have inside : checksumOffset < table.bytes.length := Nat.lt_of_lt_of_le (by decide) long
  rw [finalize_eq long, Bytes.sum_set inside, closing, UInt8.sub_add_cancel]

/-- **Closing a closed table** changes nothing. -/
theorem finalize_finalize (long : headerLength ≤ table.size) :
    table.finalize.finalize = table.finalize := by
  have still : headerLength ≤ table.finalize.size := by rwa [size_finalize long]
  rw [finalize_eq still]
  unfold closing
  rw [finalize_eq long]
  dsimp only
  rw [List.set_set, List.set_set]
  rfl

/-- Only the checksum byte changes. -/
theorem getElem?_finalize (long : headerLength ≤ table.size) {place : Nat}
    (other : place ≠ checksumOffset) : table.finalize.bytes[place]? = table.bytes[place]? := by
  rw [finalize_eq long]
  exact List.getElem?_set_ne other.symm

/-- Closing the checksum only touches the front. -/
theorem bytes_finalize {front body : Bytes} (bytes : table.bytes = front ++ body)
    (long : headerLength ≤ front.length) :
    table.finalize.bytes = front.set checksumOffset table.closing ++ body := by
  have size : headerLength ≤ table.size := by
    unfold size
    rw [bytes, List.length_append]
    exact Nat.le_trans long (Nat.le_add_right _ _)
  rw [finalize_eq size, bytes]
  exact List.set_append_left _ _ (Nat.lt_of_lt_of_le (by decide) long)

end Table

/-! ### Headers -/

namespace Header

variable (header : Header) (rest : Bytes)

/-- A header has the length that all headers have. -/
@[simp] theorem length_pieces :
    (Piece.encodeAll header.pieces).length = FirmwareTables.headerLength := by
  simp [pieces, header.oemId.length_bytes, FirmwareTables.headerLength]

/-- The same header with another checksum byte. -/
def withChecksum (header : Header) (byte : UInt8) : Header := { header with checksum := byte }

/-- Writing the checksum byte is writing the header with this checksum. -/
theorem set_checksum (byte : UInt8) :
    (Piece.encodeAll header.pieces ++ rest).set checksumOffset byte =
      Piece.encodeAll (header.withChecksum byte).pieces ++ rest := rfl

/-- Where the fields of a header stand. -/
def form (header : Header) : Form :=
  [(0, .word header.signature.raw), (4, .word header.length), (8, .byte header.revision),
    (9, .byte header.checksum), (10, .bytes header.oemId.bytes), (16, .long header.oemTableId),
    (24, .word header.oemRevision), (28, .word header.creatorId),
    (32, .word header.creatorRevision)]

theorem form_startsAt : ∀ field ∈ header.form,
    Piece.startsAt? header.pieces field.1 = some field.2 := by
  have six := header.oemId.length_bytes
  simp [form, pieces, Piece.startsAt?, Piece.length, six]

theorem isReadIn (rest : Bytes) :
    header.form.IsReadIn (Piece.encodeAll header.pieces ++ rest) 0 := by
  intro field inside
  rw [Nat.zero_add]
  exact ((Piece.standsAt_of_startsAt (header.form_startsAt field inside)).before rest).isReadAt

/-- **A header is read back** as it was written. -/
theorem parse?_pieces : parse? (Piece.encodeAll header.pieces ++ rest) = some header := by
  have read := header.isReadIn rest
  simp only [Form.IsReadIn, form, List.forall_mem_cons, Nat.zero_add] at read
  obtain ⟨signature, length, -, -, oemId, oemTableId, oemRevision, creatorId, creatorRevision, -⟩ :=
    read
  have vendor : (Piece.encodeAll header.pieces ++ rest).slice? 10 6 = some header.oemId.bytes := by
    rw [← header.oemId.length_bytes]
    exact oemId
  have named : OemId.ofBytes? header.oemId.bytes = some header.oemId :=
    dif_pos header.oemId.length_bytes
  have version : (Piece.encodeAll header.pieces ++ rest)[8]? = some header.revision := rfl
  have checksum : (Piece.encodeAll header.pieces ++ rest)[checksumOffset]? = some header.checksum :=
    rfl
  unfold parse?
  rw [vendor, Bytes.read32?_of_read? signature, Bytes.read32?_of_read? length, version, checksum,
    Bytes.read64?_of_read? oemTableId, Bytes.read32?_of_read? oemRevision,
    Bytes.read32?_of_read? creatorId, Bytes.read32?_of_read? creatorRevision]
  show (OemId.ofBytes? header.oemId.bytes >>= _) = _
  rw [named]
  rfl

end Header

end FirmwareTables
