/-
**What the names of generators and tables say.**

The text of a generator id is always read back (`GeneratorId.read_text`), but as its `canonical` id:
the text of a vendor's generator says nothing of the kind of table, and that of a standard table
nothing of the bits between kind and number. So the same id comes back exactly for ids that are
canonical, and two ids have one text exactly if they have one canonical id (`text_eq_text_iff`). A
signature that can be read is read back as it is (`Signature.read_text`).
-/

import FirmwareTables.Identifier.GeneratorId
import FirmwareTables.Identifier.Signature
import FirmwareTables.Proofs.Text.Spellings

namespace FirmwareTables

namespace GeneratorId

/-! ### Kinds and numbers -/

/-- Only the mask counts where the number has no bits. -/
theorem and_mask (kind : UInt32) (number : UInt16) {mask : UInt32} (apart : 0xffff &&& mask = 0) :
    (kind ||| number.toUInt32) &&& mask = kind &&& mask := by
  -- A number of sixteen bits is what is left of it under sixteen ones.
  have low : number.toUInt32 &&& 0xffff = number.toUInt32 := by
    refine UInt32.toNat_inj.mp ?_
    rw [UInt32.toNat_and, UInt16.toNat_toUInt32]
    exact (Nat.and_two_pow_sub_one_eq_mod number.toNat 16).trans (Nat.mod_eq_of_lt number.toNat_lt)
  have none : number.toUInt32 &&& mask = 0 := by
    rw [← low, UInt32.and_assoc, apart, UInt32.and_zero]
  refine UInt32.toNat_inj.mp ?_
  have zero := congrArg UInt32.toNat none
  rw [UInt32.toNat_and] at zero
  rw [UInt32.toNat_and, UInt32.toNat_or, Nat.and_or_distrib_right, zero, UInt32.toNat_and]
  exact Nat.or_zero _

theorem isOem_standard (number : UInt16) : (standard number).isOem = false := by
  unfold standard isOem
  rw [and_mask _ number (by decide)]
  rfl

theorem isAcpi_standard (number : UInt16) : (standard number).isAcpi = true := by
  unfold standard isAcpi
  rw [and_mask _ number (by decide)]
  rfl

theorem isOem_oem (number : UInt16) : (oem number).isOem = true := by
  unfold oem isOem
  rw [and_mask _ number (by decide)]
  rfl

theorem tableNumber_standard (number : UInt16) : (standard number).tableNumber = number := by
  unfold standard tableNumber
  rw [UInt32.toUInt16_or, UInt16.toUInt16_toUInt32]
  exact UInt16.zero_or

theorem tableNumber_oem (number : UInt16) : (oem number).tableNumber = number := by
  unfold oem tableNumber
  rw [UInt32.toUInt16_or, UInt16.toUInt16_toUInt32]
  exact UInt16.zero_or

theorem tableName?_standard (number : UInt16) :
    (standard number).tableName? = standardName? number.toNat := by
  unfold tableName?
  rw [isOem_standard, isAcpi_standard, tableNumber_standard]
  rfl

theorem tableName?_oem (number : UInt16) : (oem number).tableName? = none := by
  unfold tableName?
  rw [isOem_oem]
  rfl

/-! ### The id that a text stands for -/

/-- The id that the text of an id stands for. -/
def canonical (id : GeneratorId) : GeneratorId :=
  if id.tableName?.isSome then standard id.tableNumber
  else if id.isOem then oem id.tableNumber
  else id

theorem tableName?_eq_some {id : GeneratorId} {name : String} (named : id.tableName? = some name) :
    standardName? id.tableNumber.toNat = some name := by
  unfold tableName? at named
  split at named
  · cases named
  · exact named

/-- **An id and its canonical id have the same text.** -/
theorem text_canonical (id : GeneratorId) : id.canonical.text = id.text := by
  unfold canonical
  cases named : id.tableName? with
  | some name =>
    show (standard id.tableNumber).text = _
    unfold text
    rw [tableName?_standard, tableName?_eq_some named, named]
  | none =>
    show (if id.isOem then oem id.tableNumber else id).text = _
    cases vendor : id.isOem with
    | true =>
      show (oem id.tableNumber).text = _
      unfold text
      rw [tableName?_oem, named, isOem_oem, vendor, tableNumber_oem]
      rfl
    | false => rfl

/-! ### Reading a text -/

/-- The names of standard tables are read as these. -/
theorem read_standardName {number : Nat} {name : String} (known : standardName? number = some name) :
    read name = .ok (standard (UInt16.ofNat number)) := by
  -- There are few names, so each of them is read once and for all.
  have all : ∀ place : Fin standardNames.length,
      ofLower? (Text.lowerAscii (Text.trim standardNames[place].toList)) =
        some (standard (UInt16.ofNat (place + 1))) := by
    decide +kernel
  cases number with
  | zero => cases known
  | succ place =>
    obtain ⟨inside, rfl⟩ := List.getElem?_eq_some_iff.mp known
    have spelled : ofLower? (Text.lowerAscii (Text.trim standardNames[place].toList)) = _ :=
      all ⟨place, inside⟩
    unfold read
    rw [spelled]

theorem findIdx?_standardNames {first : Char} {rest : List Char}
    (other : ∀ name ∈ standardNames, name.toList.head? ≠ some first) :
    standardNames.findIdx? (fun name => name.toList == first :: rest) = none := by
  refine List.findIdx?_eq_none_iff.mpr fun name inside => beq_eq_false_iff_ne.mpr fun same => ?_
  refine other name inside ?_
  rw [same]
  rfl

theorem ofLower?_oem (digits : List Char) :
    ofLower? ('o' :: 'e' :: 'm' :: ':' :: digits) =
      (Digits.read? 10 65535 digits).map fun number => oem (UInt16.ofNat number) := by
  unfold ofLower?
  rw [findIdx?_standardNames (by decide)]
  rfl

theorem ofLower?_raw (digits : List Char) :
    ofLower? ('0' :: 'x' :: digits) =
      (Digits.read? 16 4294967295 digits).map fun number => ⟨UInt32.ofNat number⟩ := by
  unfold ofLower?
  rw [findIdx?_standardNames (by decide)]
  rfl

/-- Digits behind small characters without blanks are read as what both stand for. -/
theorem read_prefixed {base : Nat} (most : base ≤ 16) {sign : String}
    (plain : sign.toList.all fun one => !Text.isBlank one && one.toLower == one) {digits : List Nat}
    (below : ∀ digit ∈ digits, digit < base) {id : GeneratorId}
    (known : ofLower? (sign.toList ++ digits.map Digits.character) = some id) :
    read (sign ++ String.ofList (digits.map Digits.character)) = .ok id := by
  have characters : ∀ one ∈ sign.toList ++ digits.map Digits.character,
      Text.isBlank one = false ∧ one.toLower = one := by
    intro one inside
    rcases List.mem_append.mp inside with inside | inside
    · have both := Bool.and_eq_true_iff.mp (List.all_eq_true.mp plain one inside)
      exact ⟨(Bool.not_eq_true' _).mp both.1, eq_of_beq both.2⟩
    · obtain ⟨digit, member, rfl⟩ := List.mem_map.mp inside
      obtain ⟨_, _, ink, small, _⟩ :=
        Digits.value?_character digit (Nat.lt_of_lt_of_le (below digit member) most)
      exact ⟨ink, small⟩
  unfold read
  rw [String.toList_append, String.toList_ofList,
    Text.trim_eq fun one inside => (characters one inside).1,
    Text.lowerAscii_eq fun one inside => (characters one inside).2, known]

/-- The number of a vendor's generator is read back. -/
theorem read_oem (number : UInt16) :
    read ("oem:" ++ Digits.decimal number.toNat) = .ok (oem number) := by
  have below := Digits.ofNat_lt (by decide : 2 ≤ 10) number.toNat
  have within : Digits.toNat 10 (Digits.ofNat 10 number.toNat) ≤ 65535 := by
    rw [Digits.toNat_ofNat]
    exact Nat.le_of_lt_succ number.toNat_lt
  refine read_prefixed (by decide) (by decide) below ?_
  refine (ofLower?_oem ((Digits.ofNat 10 number.toNat).map Digits.character)).trans ?_
  rw [Digits.read?_spelling (by decide) (Digits.ofNat_ne_nil 10 _) below within,
    Digits.toNat_ofNat, Option.map_some, UInt16.ofNat_toNat]

/-- The digits of a word, with zeros in front. -/
def padded (number : Nat) : List Nat :=
  List.replicate (8 - (Digits.ofNat 16 number).length) 0 ++ Digits.ofNat 16 number

theorem renderPadded_eq (number : Nat) :
    Digits.renderPadded 16 8 number = String.ofList ((padded number).map Digits.character) := by
  have zero : Digits.character 0 = '0' := rfl
  unfold Digits.renderPadded padded
  dsimp only
  rw [List.map_append, List.map_replicate, zero, List.length_map]

theorem below_padded (number : Nat) : ∀ digit ∈ padded number, digit < 16 := by
  intro digit inside
  rcases List.mem_append.mp inside with inside | inside
  · rw [List.eq_of_mem_replicate inside]
    decide
  · exact Digits.ofNat_lt (by decide) number digit inside

theorem length_padded (raw : UInt32) : (padded raw.toNat).length = 8 := by
  have few := @Digits.length_ofNat_le 16 (by decide) raw.toNat 7 raw.toNat_lt
  unfold padded
  rw [List.length_append, List.length_replicate, Nat.sub_add_cancel few]

/-- A word in hexadecimal is read back. -/
theorem read_raw (raw : UInt32) :
    read ("0x" ++ Digits.renderPadded 16 8 raw.toNat) = .ok ⟨raw⟩ := by
  have same : Digits.toNat 16 (padded raw.toNat) = raw.toNat := by
    unfold padded
    rw [Digits.toNat_zeros, Digits.toNat_ofNat]
  have within : Digits.toNat 16 (padded raw.toNat) ≤ 4294967295 := by
    rw [same]
    exact Nat.le_of_lt_succ raw.toNat_lt
  have some : padded raw.toNat ≠ [] :=
    List.append_ne_nil_of_right_ne_nil _ (Digits.ofNat_ne_nil 16 _)
  rw [renderPadded_eq]
  refine read_prefixed (by decide) (by decide) (below_padded _) ?_
  refine (ofLower?_raw ((padded raw.toNat).map Digits.character)).trans ?_
  rw [Digits.read?_spelling (by decide) some (below_padded _) within, same, Option.map_some,
    UInt32.ofNat_toNat]

/-- **The text of an id is read as its canonical id.** -/
theorem read_text (id : GeneratorId) : read id.text = .ok id.canonical := by
  unfold text canonical
  cases named : id.tableName? with
  | some name =>
    have read := read_standardName (tableName?_eq_some named)
    rw [UInt16.ofNat_toNat] at read
    exact read
  | none =>
    cases vendor : id.isOem with
    | true => exact read_oem id.tableNumber
    | false => exact read_raw id.raw

theorem length_prefixed {base : Nat} (most : base ≤ 16) {sign : String} {digits : List Nat}
    (below : ∀ digit ∈ digits, digit < base) :
    (Utf8.encode (sign ++ String.ofList (digits.map Digits.character))).length =
      (Utf8.encode sign).length + digits.length := by
  have ascii : ∀ one ∈ digits.map Digits.character, one.toNat < 128 := by
    intro one inside
    obtain ⟨digit, member, rfl⟩ := List.mem_map.mp inside
    exact (Digits.value?_character digit
      (Nat.lt_of_lt_of_le (below digit member) most)).2.2.2.2
  rw [Utf8.encode_append, List.length_append, Utf8.encode_ascii ascii, List.length_map,
    List.length_map]

theorem length_text (id : GeneratorId) : (Utf8.encode id.text).length ≤ 10 := by
  unfold text
  cases named : id.tableName? with
  | some name =>
    have all : ∀ name ∈ standardNames, (Utf8.encode name).length ≤ 10 := by decide
    have known := tableName?_eq_some named
    cases place : id.tableNumber.toNat with
    | zero =>
      rw [place] at known
      cases known
    | succ number =>
      rw [place] at known
      exact all name (List.mem_of_getElem? known)
  | none =>
    cases vendor : id.isOem with
    | true =>
      have few := @Digits.length_ofNat_le 10 (by decide) id.tableNumber.toNat 4
        (Nat.lt_trans id.tableNumber.toNat_lt (by decide))
      refine Nat.le_trans (Nat.le_of_eq (length_prefixed (by decide)
        (Digits.ofNat_lt (by decide : 2 ≤ 10) _))) ?_
      exact Nat.add_le_add (by decide : (Utf8.encode "oem:").length ≤ 5) few
    | false =>
      show (Utf8.encode ("0x" ++ Digits.renderPadded 16 8 id.raw.toNat)).length ≤ 10
      rw [renderPadded_eq, length_prefixed (by decide) (below_padded _), length_padded]
      decide

/-- **Two ids have one text** exactly if they stand for one id. -/
theorem text_eq_text_iff {one other : GeneratorId} :
    one.text = other.text ↔ one.canonical = other.canonical := by
  constructor
  · intro same
    have first := one.read_text
    rw [same, other.read_text] at first
    exact (Except.ok.inj first).symm
  · intro same
    rw [← one.text_canonical, same, other.text_canonical]

theorem canonical_canonical (id : GeneratorId) : id.canonical.canonical = id.canonical :=
  text_eq_text_iff.mp id.text_canonical

end GeneratorId

/-! ### Signatures -/

namespace Signature

theorem bytes_ofBytes {bytes : Bytes} (four : bytes.length = 4) :
    (ofBytes bytes).bytes = bytes := by
  have small : bytes.toNat < UInt32.size := by
    have bound := Bytes.toNat_lt bytes
    rw [four] at bound
    exact bound
  unfold ofBytes Signature.bytes
  rw [List.take_of_length_le (Nat.le_of_eq four)]
  dsimp only
  rw [UInt32.toNat_ofNat', Nat.mod_eq_of_lt small, ← four, Bytes.ofNat_toNat]

theorem ofBytes_bytes (signature : Signature) : ofBytes signature.bytes = signature := by
  have four : signature.bytes.length = 4 := Bytes.length_ofNat 4 _
  have small : signature.raw.toNat < Bytes.capacity 4 := signature.raw.toNat_lt
  unfold ofBytes
  rw [List.take_of_length_le (Nat.le_of_eq four)]
  unfold Signature.bytes
  rw [Bytes.toNat_ofNat, Nat.mod_eq_of_lt small, UInt32.ofNat_toNat]

theorem graphic_of_read {text : String} {signature : Signature}
    (done : read text = .ok signature) : signature.bytes.all isGraphic = true := by
  unfold read at done
  dsimp only at done
  split at done
  · rename_i spelled
    cases done
    rw [bytes_ofBytes spelled.1]
    exact spelled.2
  · cases done

/-- The octets of a graphic signature are its bytes. -/
theorem encode_text {signature : Signature} (graphic : signature.bytes.all isGraphic = true) :
    Utf8.encode signature.text = signature.bytes := by
  have below : ∀ byte ∈ signature.bytes, byte.toNat < 128 := by
    intro byte inside
    have within := List.all_eq_true.mp graphic byte inside
    unfold isGraphic at within
    have most := of_decide_eq_true (Bool.and_eq_true_iff.mp within).2
    exact Nat.lt_of_le_of_lt (UInt8.le_iff_toNat_le.mp most) (by decide)
  have character : ∀ byte ∈ signature.bytes, (Char.ofNat byte.toNat).toNat = byte.toNat := by
    intro byte inside
    have valid : byte.toNat.isValidChar := .inl (Nat.lt_trans (below byte inside) (by decide))
    unfold Char.ofNat
    rw [dif_pos valid]
    rfl
  unfold text
  rw [if_pos graphic, Utf8.encode_ascii, List.map_map]
  · refine (List.map_congr_left fun byte inside => ?_).trans (List.map_id _)
    show UInt8.ofNat (Char.ofNat byte.toNat).toNat = byte
    rw [character byte inside, UInt8.ofNat_toNat]
  · intro one inside
    obtain ⟨byte, member, rfl⟩ := List.mem_map.mp inside
    rw [character byte member]
    exact below byte member

/-- **The text of a graphic signature is read back.** -/
theorem read_text {signature : Signature} (graphic : signature.bytes.all isGraphic = true) :
    read signature.text = .ok signature := by
  unfold read
  dsimp only
  rw [encode_text graphic, if_pos ⟨Bytes.length_ofNat 4 _, graphic⟩, ofBytes_bytes]

end Signature

end FirmwareTables
