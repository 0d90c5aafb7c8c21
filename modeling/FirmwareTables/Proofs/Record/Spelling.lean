/-
**Records have one spelling.**

Reading undoes writing (`Record.decode_encode`); for fields of most kinds writing also undoes
reading. A number is spelled in a fixed width, and a text by its length and its octets, so that what
is read is spelled by exactly the bytes that were read (`Kind.encode_of_decode`). Only signatures
and generator ids can be named in more than one way. A descriptor whose records can be read is
therefore the descriptor of these records and of no others (`Descriptor.data_of_toList`).
-/

import FirmwareTables.Proofs.Layout.Instances
import FirmwareTables.Proofs.Record.Codec

namespace FirmwareTables

/-! ### Values -/

namespace Bytes

theorem split_eq_ok {bytes front rest : Bytes} {length : Nat}
    (done : bytes.split length = .ok (front, rest)) :
    front.length = length ∧ bytes = front ++ rest := by
  unfold split at done
  split at done
  · cases done
    exact ⟨by rw [List.length_take]; omega, (List.take_append_drop length bytes).symm⟩
  · cases done

/-- A number that is read is spelled by the bytes that were read. -/
theorem ofNat_of_readNat {bytes rest : Bytes} {width number : Nat}
    (done : bytes.readNat width = .ok (number, rest)) :
    number < capacity width ∧ bytes = ofNat width number ++ rest := by
  unfold readNat at done
  obtain ⟨⟨digits, behind⟩, apart, made⟩ := bind_eq_ok.mp done
  cases made
  obtain ⟨same, rfl⟩ := split_eq_ok apart
  rw [← same]
  exact ⟨toNat_lt digits, by rw [ofNat_toNat]⟩

/-- A text that is read is spelled by the bytes that were read. -/
theorem ofText_of_readText {bytes rest : Bytes} {text : String}
    (done : bytes.readText = .ok (text, rest)) :
    (Utf8.encode text).length < capacity 8 ∧ bytes = ofText text ++ rest := by
  unfold readText at done
  obtain ⟨⟨length, behind⟩, first, others⟩ := bind_eq_ok.mp done
  obtain ⟨⟨octets, tail⟩, second, made⟩ := bind_eq_ok.mp others
  dsimp only at made
  cases read : Utf8.decode octets with
  | error fault =>
    rw [read] at made
    cases made
  | ok decoded =>
    rw [read] at made
    cases made
    obtain ⟨small, rfl⟩ := ofNat_of_readNat first
    obtain ⟨same, rfl⟩ := split_eq_ok second
    unfold ofText
    dsimp only
    rw [Utf8.encode_of_decode read, same, List.append_assoc]
    exact ⟨small, rfl⟩

end Bytes

namespace Kind

/-- Every value of the kind has one spelling only. -/
def hasOneSpelling : Kind → Bool
  | signature => false
  | generator => false
  | _ => true

/-- A number of some width, read as a value that it is known by. -/
theorem encode_of_readNat {α : Type} (width : Nat) (number : α → Nat) {make : Nat → α}
    {bytes rest : Bytes} {value : α} (known : ∀ digits < Bytes.capacity width,
      number (make digits) = digits)
    (done : (bytes.readNat width).map (fun (read : Nat × Bytes) => (make read.1, read.2)) =
      .ok (value, rest)) : bytes = Bytes.ofNat width (number value) ++ rest := by
  cases read : bytes.readNat width with
  | error error =>
    rw [read] at done
    cases done
  | ok pair =>
    rw [read] at done
    cases done
    obtain ⟨small, same⟩ := Bytes.ofNat_of_readNat read
    rw [known _ small]
    exact same

/-- **What is read is spelled by what was read**, and could be read again. -/
theorem encode_of_decode {kind : Kind} (one : kind.hasOneSpelling) {bytes rest : Bytes}
    {value : kind.Value} (done : kind.decode bytes = .ok (value, rest)) :
    kind.IsReadable value ∧ bytes = kind.encode value ++ rest := by
  cases kind with
  | byte =>
    refine ⟨trivial, ?_⟩
    have same := encode_of_readNat 1 UInt8.toNat
      (fun digits small => UInt8.toNat_ofNat_of_lt' small) done
    rw [same]
    show Bytes.ofNat 1 value.toNat ++ rest = [value] ++ rest
    rw [Bytes.ofNat, Bytes.ofNat, Nat.mod_eq_of_lt value.toNat_lt, UInt8.ofNat_toNat]
  | half =>
    exact ⟨trivial, encode_of_readNat 2 UInt16.toNat
      (fun digits small => UInt16.toNat_ofNat_of_lt' small) done⟩
  | word =>
    exact ⟨trivial, encode_of_readNat 4 UInt32.toNat
      (fun digits small => UInt32.toNat_ofNat_of_lt' small) done⟩
  | long =>
    exact ⟨trivial, encode_of_readNat 8 UInt64.toNat
      (fun digits small => UInt64.toNat_ofNat_of_lt' small) done⟩
  | token =>
    exact ⟨trivial, encode_of_readNat 8 (fun token : Token => token.raw.toNat)
      (fun digits small => UInt64.toNat_ofNat_of_lt' small) done⟩
  | revision =>
    exact ⟨trivial, encode_of_readNat 4 (fun revision : Revision => revision.raw.toNat)
      (fun digits small => UInt32.toNat_ofNat_of_lt' small) done⟩
  | oemId =>
    refine ⟨trivial, ?_⟩
    unfold decode readOemId at done
    obtain ⟨⟨front, behind⟩, apart, others⟩ := bind_eq_ok.mp done
    obtain ⟨six, same⟩ := Bytes.split_eq_ok apart
    have made : OemId.ofBytes? front = some ⟨front, six⟩ := dif_pos six
    dsimp only at others
    rw [made] at others
    cases others
    exact same
  | text => exact Bytes.ofText_of_readText done
  | signature => cases one
  | generator => cases one

end Kind

/-! ### Records -/

/-- Fields of which every value has one spelling only. -/
def HaveOneSpelling (fields : List Field) : Prop := ∀ field ∈ fields, field.kind.hasOneSpelling

instance (fields : List Field) : Decidable (HaveOneSpelling fields) :=
  inferInstanceAs (Decidable (∀ field ∈ fields, field.kind.hasOneSpelling = true))

/-- What can always be read is never spelled in two ways. -/
theorem haveOneSpelling_of_isFixed {fields : List Field}
    (fixed : ∀ field ∈ fields, field.kind.IsFixed = true) : HaveOneSpelling fields := by
  intro field inside
  have here := fixed field inside
  cases field with
  | mk name kind => cases kind <;> first | rfl | cases here

theorem Row.encode_of_decode {fields : List Field} (one : HaveOneSpelling fields)
    {bytes rest : Bytes} {row : Row fields} (done : Row.decode fields bytes = .ok (row, rest)) :
    row.IsReadable ∧ bytes = row.encode ++ rest := by
  induction fields generalizing bytes with
  | nil =>
    cases done
    exact ⟨trivial, rfl⟩
  | cons field fields ih =>
    obtain ⟨first, others⟩ := List.forall_mem_cons.mp one
    unfold Row.decode at done
    obtain ⟨⟨value, behind⟩, here, done⟩ := bind_eq_ok.mp done
    obtain ⟨⟨values, tail⟩, there, done⟩ := bind_eq_ok.mp done
    cases done
    obtain ⟨readable, rfl⟩ := Kind.encode_of_decode first here
    obtain ⟨allReadable, rfl⟩ := ih others there
    exact ⟨⟨readable, allReadable⟩, (List.append_assoc _ _ _).symm⟩

variable {α : Type} [Record α]

theorem Record.encode_of_decode (one : HaveOneSpelling (Record.fields α)) {bytes rest : Bytes}
    {record : α} (done : Record.decode bytes = .ok (record, rest)) :
    Record.IsReadable record ∧ bytes = Record.encode record ++ rest := by
  unfold Record.decode at done
  obtain ⟨⟨row, behind⟩, read, done⟩ := bind_eq_ok.mp done
  cases done
  unfold Record.IsReadable Record.encode
  rw [Record.toRow_ofRow]
  exact Row.encode_of_decode one read

namespace Descriptor

theorem data_of_readRecords (one : HaveOneSpelling (Record.fields α)) {id : ObjectId}
    {count remaining index : Nat} {bytes rest : Bytes} {records : List α}
    (done : readRecords id count remaining index bytes = .ok (records, rest)) :
    (∀ record ∈ records, Record.IsReadable record) ∧
      bytes = records.flatMap Record.encode ++ rest := by
  induction remaining generalizing index bytes records with
  | zero =>
    cases done
    exact ⟨List.forall_mem_nil _, rfl⟩
  | succ remaining ih =>
    unfold readRecords at done
    split at done
    · cases done
    rename_i record behind read
    split at done
    · cases done
    rename_i others tail rest
    cases done
    obtain ⟨here, rfl⟩ := Record.encode_of_decode one read
    obtain ⟨there, rfl⟩ := ih rest
    refine ⟨List.forall_mem_cons.mpr ⟨here, there⟩, ?_⟩
    rw [List.flatMap_cons, List.append_assoc]

/-- **Records that are read from a descriptor** are those that it was made of. -/
theorem data_of_toList (one : HaveOneSpelling (Record.fields α)) {descriptor : Descriptor}
    {records : List α} (done : descriptor.toList = .ok records) :
    (∀ record ∈ records, Record.IsReadable record) ∧
      descriptor.data = records.flatMap Record.encode := by
  rw [toList_eq] at done
  obtain ⟨⟨read, rest⟩, made, done⟩ := bind_eq_ok.mp done
  dsimp only at done
  split at done
  · rename_i empty
    cases done
    obtain ⟨readable, same⟩ := data_of_readRecords one made
    rw [List.isEmpty_iff.mp empty, List.append_nil] at same
    exact ⟨readable, same⟩
  · cases done

end Descriptor

end FirmwareTables
