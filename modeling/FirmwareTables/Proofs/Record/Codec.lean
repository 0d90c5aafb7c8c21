/-
**Reading records back.**

A value `IsReadable` if its bytes can be read: a text has to be short enough for its length to fit
64 bits, and a signature or a generator id has to be what its own text names. Everything else always
is (`Record.areReadable`). What is readable is read back, and the bytes behind it stay
(`Kind.decode_encode`, `Row.decode_encode`, `Record.decode_encode`); hence a descriptor of readable
records holds exactly these (`Descriptor.toList_flatMap`).
-/

import FirmwareTables.Proofs.Outcome
import FirmwareTables.Repository.Descriptor

namespace FirmwareTables

/-! ### Values -/

namespace Bytes

theorem split_append (front rest : Bytes) :
    (front ++ rest).split front.length = .ok (front, rest) := by
  unfold split
  rw [if_pos (by rw [List.length_append]; omega), List.take_left, List.drop_left]

theorem readNat_append {width number : Nat} (small : number < capacity width) (rest : Bytes) :
    (ofNat width number ++ rest).readNat width = .ok (number, rest) := by
  have apart := split_append (ofNat width number) rest
  rw [length_ofNat] at apart
  unfold readNat
  rw [apart]
  show Except.ok (toNat (ofNat width number), rest) = _
  rw [toNat_ofNat, Nat.mod_eq_of_lt small]

theorem readText_append {text : String} (short : (Utf8.encode text).length < capacity 8)
    (rest : Bytes) : (ofText text ++ rest).readText = .ok (text, rest) := by
  unfold ofText readText
  dsimp only
  rw [List.append_assoc, readNat_append short]
  show ((Utf8.encode text ++ rest).split (Utf8.encode text).length >>= _) = _
  rw [split_append]
  dsimp only [bind, Except.bind]
  rw [Utf8.decode_encode]
  rfl

end Bytes

namespace Kind

/-- The bytes of a value can be read. -/
def IsReadable : (kind : Kind) → kind.Value → Prop
  | text, value => (Utf8.encode value).length < Bytes.capacity 8
  | signature, value =>
    (Utf8.encode value.text).length < Bytes.capacity 8 ∧ Signature.read value.text = .ok value
  | generator, value =>
    (Utf8.encode value.text).length < Bytes.capacity 8 ∧ GeneratorId.read value.text = .ok value
  | _, _ => True

/-- All values of a kind can be read, whatever they are. -/
def IsFixed : Kind → Bool
  | text | signature | generator => false
  | _ => true

theorem readName_append {α : Type} {read : String → Except NameError α} {name : String} {value : α}
    (short : (Utf8.encode name).length < Bytes.capacity 8) (known : read name = .ok value)
    (rest : Bytes) : readName read (Bytes.ofText name ++ rest) = .ok (value, rest) := by
  unfold readName
  rw [Bytes.readText_append short]
  dsimp only [bind, Except.bind]
  rw [known]
  rfl

theorem readOemId_append (value : OemId) (rest : Bytes) :
    readOemId (value.bytes ++ rest) = .ok (value, rest) := by
  have apart := Bytes.split_append value.bytes rest
  have same : OemId.ofBytes? value.bytes = some value := dif_pos value.length_bytes
  rw [value.length_bytes] at apart
  unfold readOemId
  rw [apart]
  dsimp only [bind, Except.bind]
  rw [same]
  rfl

/-- **A readable value is read back**, and the bytes behind it stay. -/
theorem decode_encode {kind : Kind} {value : kind.Value} (readable : kind.IsReadable value)
    (rest : Bytes) : kind.decode (kind.encode value ++ rest) = .ok (value, rest) := by
  cases kind with
  | byte =>
    show Except.ok (UInt8.ofNat (Bytes.toNat [value]), rest) = _
    rw [Bytes.toNat, Bytes.toNat, Nat.mul_zero, Nat.add_zero, UInt8.ofNat_toNat]
  | half =>
    have small : value.toNat < Bytes.capacity 2 := value.toNat_lt
    refine (congrArg (Except.map fun (read : Nat × Bytes) => (UInt16.ofNat read.1, read.2))
      (Bytes.readNat_append small rest)).trans ?_
    show Except.ok (UInt16.ofNat value.toNat, rest) = _
    rw [UInt16.ofNat_toNat]
  | word =>
    have small : value.toNat < Bytes.capacity 4 := value.toNat_lt
    refine (congrArg (Except.map fun (read : Nat × Bytes) => (UInt32.ofNat read.1, read.2))
      (Bytes.readNat_append small rest)).trans ?_
    show Except.ok (UInt32.ofNat value.toNat, rest) = _
    rw [UInt32.ofNat_toNat]
  | long =>
    have small : value.toNat < Bytes.capacity 8 := value.toNat_lt
    refine (congrArg (Except.map fun (read : Nat × Bytes) => (UInt64.ofNat read.1, read.2))
      (Bytes.readNat_append small rest)).trans ?_
    show Except.ok (UInt64.ofNat value.toNat, rest) = _
    rw [UInt64.ofNat_toNat]
  | token =>
    have small : value.raw.toNat < Bytes.capacity 8 := value.raw.toNat_lt
    refine (congrArg (Except.map fun (read : Nat × Bytes) => (Token.mk (UInt64.ofNat read.1), read.2))
      (Bytes.readNat_append small rest)).trans ?_
    show Except.ok (Token.mk (UInt64.ofNat value.raw.toNat), rest) = _
    rw [UInt64.ofNat_toNat]
  | revision =>
    have small : value.raw.toNat < Bytes.capacity 4 := value.raw.toNat_lt
    refine (congrArg (Except.map fun (read : Nat × Bytes) => (Revision.mk (UInt32.ofNat read.1), read.2))
      (Bytes.readNat_append small rest)).trans ?_
    show Except.ok (Revision.mk (UInt32.ofNat value.raw.toNat), rest) = _
    rw [UInt32.ofNat_toNat]
  | oemId => exact readOemId_append value rest
  | text => exact Bytes.readText_append readable rest
  | signature => exact readName_append readable.1 readable.2 rest
  | generator => exact readName_append readable.1 readable.2 rest

end Kind

/-! ### Records -/

/-- All values of a row can be read. -/
def Row.IsReadable : {fields : List Field} → Row fields → Prop
  | [], () => True
  | field :: _, (value, rest) => field.kind.IsReadable value ∧ IsReadable rest

theorem Row.isReadable {fields : List Field} (fixed : ∀ field ∈ fields, field.kind.IsFixed = true)
    (row : Row fields) : row.IsReadable := by
  induction fields with
  | nil => exact trivial
  | cons field fields ih =>
    obtain ⟨value, values⟩ := row
    refine ⟨?_, ih (fun other inside => fixed other (List.mem_cons_of_mem _ inside)) values⟩
    have here := fixed field List.mem_cons_self
    cases field with
    | mk name kind =>
      cases kind with
      | text | signature | generator => cases here
      | byte | half | word | long | token | revision | oemId => exact trivial

theorem Row.decode_encode {fields : List Field} {row : Row fields} (readable : row.IsReadable)
    (rest : Bytes) : Row.decode fields (row.encode ++ rest) = .ok (row, rest) := by
  induction fields with
  | nil => rfl
  | cons field fields ih =>
    obtain ⟨value, values⟩ := row
    obtain ⟨here, behind⟩ := readable
    show Row.decode (field :: fields) (field.kind.encode value ++ Row.encode values ++ rest) = _
    unfold Row.decode
    rw [List.append_assoc, Kind.decode_encode here]
    show (Row.decode fields (Row.encode values ++ rest) >>= _) = _
    rw [ih behind]
    rfl

namespace Record

variable {α : Type} [Record α]

/-- All values of a record can be read. -/
def IsReadable (record : α) : Prop := (toRow record).IsReadable

/-- Records without texts and names can be read. -/
theorem areReadable (fixed : ∀ field ∈ fields α, field.kind.IsFixed = true) (records : List α) :
    ∀ record ∈ records, IsReadable record :=
  fun record _ => Row.isReadable fixed (toRow record)

/-- **A readable record is read back**, and the bytes behind it stay. -/
theorem decode_encode {record : α} (readable : IsReadable record) (rest : Bytes) :
    decode (encode record ++ rest) = .ok (record, rest) := by
  unfold decode encode
  rw [Row.decode_encode readable]
  show Except.ok (ofRow (toRow record), rest) = _
  rw [ofRow_toRow]

end Record

/-- A type of records that a repository carries. -/
structure Carrier where
  /-- The type of the records. -/
  Item : Type
  /-- How the records are stored. -/
  [record : Record Item]

namespace Carrier

attribute [instance] Carrier.record

/-- The id under which the records are stored. -/
def objectId (carrier : Carrier) : ObjectId := Record.objectId carrier.Item

end Carrier

/-! ### Lists of records -/

namespace Descriptor

variable {α : Type} [Record α]

theorem readRecords_flatMap {records : List α}
    (readable : ∀ record ∈ records, Record.IsReadable record) (id : ObjectId) (count index : Nat)
    (rest : Bytes) :
    readRecords id count records.length index (records.flatMap Record.encode ++ rest) =
      .ok (records, rest) := by
  induction records generalizing index with
  | nil => rfl
  | cons record records ih =>
    have here := readable record List.mem_cons_self
    have behind := ih (fun other inside => readable other (List.mem_cons_of_mem _ inside)) (index + 1)
    rw [List.length_cons, List.flatMap_cons, List.append_assoc]
    unfold readRecords
    rw [Record.decode_encode here]
    dsimp only
    rw [behind]

/-- **A descriptor of readable records holds exactly these.** -/
theorem toList_flatMap {records : List α}
    (readable : ∀ record ∈ records, Record.IsReadable record) (few : records.length ≤ maxCount)
    (id : ObjectId) (token : Token) :
    (Descriptor.mk id token (UInt32.ofNat records.length)
      (records.flatMap Record.encode)).toList = .ok records := by
  have count : (UInt32.ofNat records.length).toNat = records.length := by
    rw [UInt32.toNat_ofNat']
    exact Nat.mod_eq_of_lt (Nat.lt_succ_of_le few)
  have read := readRecords_flatMap readable id records.length 0 []
  rw [List.append_nil] at read
  unfold toList
  dsimp only
  rw [count, read]
  rfl

end Descriptor

end FirmwareTables
