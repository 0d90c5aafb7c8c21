/-
**The codec of records is exact.**

A descriptor `Holds` records if it counts them and its payload is their bytes, one after the other.
Where every value has one spelling, reading a descriptor gives the records that it holds, and fails
over the size of the payload if it holds none (`toList_eq_ok`, `isRefused_of_not_holds`).

What a descriptor holds is settled by its payload alone, even if the count is not known:

* `eq_of_flatMap_append`: of two equally long lists neither spells the start of the other, unless
  they are the same;
* `flatMap_encode_injective`: as no record is spelled by nothing, the length need not be known.

So a payload that is cut off, extended or counted differently is refused (`exact_recordTypes`).
-/

import FirmwareTables.Proofs.Record.Spelling
import FirmwareTables.Proofs.Repository.Typed

namespace FirmwareTables

/-! ### No record is spelled by nothing -/

theorem Kind.encode_ne_nil {kind : Kind} (value : kind.Value) : kind.encode value ≠ [] := by
  have number : ∀ width number rest, Bytes.ofNat (width + 1) number ++ rest ≠ [] :=
    fun _ _ _ => List.cons_ne_nil _ _
  have plain : ∀ width number, Bytes.ofNat (width + 1) number ≠ [] :=
    fun _ _ => List.cons_ne_nil _ _
  cases kind with
  | byte => exact List.cons_ne_nil _ _
  | half | word | long | token | revision => exact plain _ _
  | oemId =>
    refine List.ne_nil_of_length_pos ?_
    show 0 < value.bytes.length
    rw [value.length_bytes]
    decide
  | text | signature | generator => exact number _ _ _

section

variable {α : Type} [Record α] {records others : List α}

theorem Record.encode_ne_nil (filled : Record.fields α ≠ []) (record : α) :
    Record.encode record ≠ [] := by
  have row : ∀ {fields : List Field}, fields ≠ [] → ∀ row : Row fields, row.encode ≠ [] := by
    rintro (_ | ⟨field, fields⟩) some row
    · exact absurd rfl some
    · exact List.append_ne_nil_of_left_ne_nil (Kind.encode_ne_nil row.1) _
  exact row filled (Record.toRow record)

/-! ### A payload settles what it spells -/

/-- **Of two equally long lists** neither spells the start of the other. -/
theorem Record.eq_of_flatMap_append (readable : ∀ record ∈ records, Record.IsReadable record)
    (others_readable : ∀ record ∈ others, Record.IsReadable record)
    (same : records.length = others.length) {rest behind : Bytes}
    (equal : records.flatMap Record.encode ++ rest = others.flatMap Record.encode ++ behind) :
    records = others ∧ rest = behind := by
  -- Both are what is read when so many records are read from the same bytes.
  have one := Descriptor.readRecords_flatMap readable (Record.objectId α) 0 0 rest
  have other := Descriptor.readRecords_flatMap others_readable (Record.objectId α) 0 0 behind
  rw [equal, same, other] at one
  cases one
  exact ⟨rfl, rfl⟩

/-- **Different lists are spelled differently**, whatever their lengths. -/
theorem Record.flatMap_encode_injective (filled : Record.fields α ≠ [])
    (readable : ∀ record ∈ records, Record.IsReadable record)
    (others_readable : ∀ record ∈ others, Record.IsReadable record)
    (equal : records.flatMap Record.encode = others.flatMap Record.encode) : records = others := by
  have shorter : ∀ {records others : List α}, (∀ record ∈ records, Record.IsReadable record) →
      (∀ record ∈ others, Record.IsReadable record) → records.length ≤ others.length →
      records.flatMap Record.encode = others.flatMap Record.encode → records = others := by
    intro records others readable others_readable less equal
    have split : records.flatMap Record.encode ++ [] =
        (others.take records.length).flatMap Record.encode ++
          (others.drop records.length).flatMap Record.encode := by
      rw [List.append_nil, ← List.flatMap_append, List.take_append_drop, equal]
    obtain ⟨front, none⟩ := eq_of_flatMap_append readable
      (fun record inside => others_readable record (List.mem_of_mem_take inside))
      (List.length_take_of_le less).symm split
    have nothing : others.drop records.length = [] := by
      refine List.eq_nil_iff_forall_not_mem.mpr fun record inside => ?_
      exact encode_ne_nil filled record (List.flatMap_eq_nil_iff.mp none.symm record inside)
    rw [front, ← List.append_nil (others.take records.length), ← nothing, List.take_append_drop]
  rcases Nat.le_total records.length others.length with less | less
  · exact shorter readable others_readable less equal
  · exact (shorter others_readable readable less equal.symm).symm

/-! ### Descriptors -/

namespace Descriptor

/-- A descriptor is that of some records. -/
structure Holds (descriptor : Descriptor) (records : List α) : Prop where
  /-- They are as many as it counts. -/
  count : descriptor.count.toNat = records.length
  /-- Its payload is their bytes, one after the other. -/
  data : descriptor.data = records.flatMap Record.encode
  /-- Their texts are not too long for their bytes to say how long they are. -/
  readable : ∀ record ∈ records, Record.IsReadable record

/-- The payload of a descriptor is refused over its size. -/
def IsRefused (α : Type) [Record α] (descriptor : Descriptor) : Prop :=
  ∃ mismatch, descriptor.toList (α := α) = .error (.badBufferSize descriptor.id mismatch)

variable {descriptor : Descriptor}

/-- **What is read from a descriptor** is what it holds. -/
theorem toList_eq_ok (one : HaveOneSpelling (Record.fields α)) :
    descriptor.toList = .ok records ↔ descriptor.Holds records := by
  constructor
  · intro done
    obtain ⟨readable, data⟩ := data_of_toList one done
    exact ⟨(length_toList done).symm, data, readable⟩
  · intro holds
    have few : records.length ≤ maxCount := by
      rw [← holds.count]
      exact Nat.le_of_lt_succ descriptor.count.toNat_lt
    have read := toList_flatMap holds.readable few descriptor.id descriptor.token
    rwa [← holds.count, UInt32.ofNat_toNat, ← holds.data] at read

theorem isRefused_of_not_holds (one : HaveOneSpelling (Record.fields α))
    (none : ∀ records : List α, ¬ descriptor.Holds records) : descriptor.IsRefused α := by
  cases done : descriptor.toList (α := α) with
  | ok records => exact absurd ((toList_eq_ok one).mp done) (none records)
  | error error =>
    obtain ⟨mismatch, rfl⟩ := toList_error done
    exact ⟨mismatch, done⟩

theorem counts_of_ofList {token : Token} (made : ofList records token = .ok descriptor) :
    descriptor.count.toNat = records.length ∧
      descriptor.data = records.flatMap Record.encode := by
  unfold ofList at made
  split at made
  · rename_i few
    cases made
    refine ⟨?_, rfl⟩
    show (UInt32.ofNat records.length).toNat = records.length
    rw [UInt32.toNat_ofNat']
    exact Nat.mod_eq_of_lt (Nat.lt_succ_of_le few)
  · cases made

/-- Records that can be counted have a descriptor, which holds them. -/
theorem holds_of_ofList {token : Token} (readable : ∀ record ∈ records, Record.IsReadable record)
    (made : ofList records token = .ok descriptor) : descriptor.Holds records :=
  ⟨(counts_of_ofList made).1, (counts_of_ofList made).2, readable⟩

/-- **Records are read back** from their descriptor. -/
theorem toList_of_ofList {token : Token} (readable : ∀ record ∈ records, Record.IsReadable record)
    (made : ofList records token = .ok descriptor) : descriptor.toList = .ok records := by
  unfold ofList at made
  split at made
  · rename_i few
    cases made
    exact toList_flatMap readable few _ _
  · cases made

theorem exists_ofList (few : records.length ≤ maxCount) (token : Token) :
    ∃ descriptor, ofList records token = .ok descriptor :=
  ⟨_, if_pos few⟩

end Descriptor

end

/-! ### All types of records -/

/-- The codec of a type of records is a bijection between lists of them and what it accepts. -/
structure Record.IsExact (α : Type) [Record α] : Prop where
  /-- A list is described, and read back from its descriptor. -/
  roundTrip : ∀ records : List α, (∀ record ∈ records, IsReadable record) →
    records.length ≤ maxCount → ∀ token, ∃ descriptor,
      Descriptor.ofList records token = .ok descriptor ∧ descriptor.toList = .ok records
  /-- Of any descriptor, as many records are read as it counts, and these are described by its
  payload; or it is refused. -/
  accepted : ∀ descriptor : Descriptor,
    (∃ records : List α, descriptor.toList = .ok records ∧
        records.length = descriptor.count.toNat ∧ ∀ token, ∃ again,
          Descriptor.ofList records token = .ok again ∧ again.data = descriptor.data) ∨
      descriptor.IsRefused α
  /-- A payload that is cut off anywhere is refused. -/
  truncated : ∀ (records : List α) token descriptor, (∀ record ∈ records, IsReadable record) →
    Descriptor.ofList records token = .ok descriptor → ∀ front, front <+: descriptor.data →
      front ≠ descriptor.data → ({ descriptor with data := front } : Descriptor).IsRefused α
  /-- So is one behind which there are other bytes. -/
  extended : ∀ (records : List α) token descriptor, (∀ record ∈ records, IsReadable record) →
    Descriptor.ofList records token = .ok descriptor → ∀ rest, rest ≠ [] →
      ({ descriptor with data := descriptor.data ++ rest } : Descriptor).IsRefused α
  /-- No other number of records has the same payload. -/
  recounted : ∀ (records : List α) token descriptor, (∀ record ∈ records, IsReadable record) →
    Descriptor.ofList records token = .ok descriptor → ∀ count, count ≠ descriptor.count →
      ({ descriptor with count := count } : Descriptor).IsRefused α
  /-- Payloads put together are read as both lists, if these can be counted together. -/
  joined : ∀ (first second : List α) token another one other,
    (∀ record ∈ first ++ second, IsReadable record) → (first ++ second).length ≤ maxCount →
    Descriptor.ofList first token = .ok one → Descriptor.ofList second another = .ok other →
      ({ one with count := one.count + other.count, data := one.data ++ other.data } :
        Descriptor).toList = .ok (first ++ second)

/-- **Records of one spelling each**, none of them spelled by nothing, have an exact codec. -/
theorem Record.isExact {α : Type} [Record α] (one : HaveOneSpelling (Record.fields α))
    (filled : Record.fields α ≠ []) : Record.IsExact α where
  roundTrip records readable few token := by
    obtain ⟨descriptor, made⟩ := Descriptor.exists_ofList few token
    exact ⟨descriptor, made, Descriptor.toList_of_ofList readable made⟩
  accepted descriptor := by
    cases done : descriptor.toList (α := α) with
    | error error =>
      obtain ⟨mismatch, rfl⟩ := Descriptor.toList_error done
      exact .inr ⟨mismatch, done⟩
    | ok records =>
      have holds := (Descriptor.toList_eq_ok one).mp done
      have few : records.length ≤ maxCount := by
        rw [← holds.count]
        exact Nat.le_of_lt_succ descriptor.count.toNat_lt
      exact .inl ⟨records, rfl, holds.count.symm, fun token => ⟨_, if_pos few, holds.data.symm⟩⟩
  truncated records token descriptor readable made front part strict := by
    have whole := Descriptor.holds_of_ofList readable made
    refine Descriptor.isRefused_of_not_holds one fun others holds => ?_
    obtain ⟨back, split⟩ := part
    have same : others.length = records.length := holds.count.symm.trans whole.count
    have equal : others.flatMap encode ++ back = records.flatMap encode ++ [] := by
      rw [← holds.data, List.append_nil, ← whole.data]
      exact split
    obtain ⟨_, rfl⟩ := eq_of_flatMap_append holds.readable readable same equal
    exact strict (by rw [← split, List.append_nil])
  extended records token descriptor readable made rest some := by
    have whole := Descriptor.holds_of_ofList readable made
    refine Descriptor.isRefused_of_not_holds one fun others holds => ?_
    have same : others.length = records.length := holds.count.symm.trans whole.count
    have equal : others.flatMap encode ++ [] = records.flatMap encode ++ rest := by
      rw [← holds.data, List.append_nil, ← whole.data]
    exact some (eq_of_flatMap_append holds.readable readable same equal).2.symm
  recounted records token descriptor readable made count other := by
    have whole := Descriptor.holds_of_ofList readable made
    refine Descriptor.isRefused_of_not_holds one fun others holds => ?_
    have same : others = records := flatMap_encode_injective filled holds.readable readable
      (holds.data.symm.trans whole.data)
    refine other (UInt32.toNat_inj.mp ?_)
    rw [whole.count, ← same]
    exact holds.count
  joined first second token another one' other readable few made made' := by
    obtain ⟨front, back⟩ := List.forall_mem_append.mp readable
    have left := Descriptor.holds_of_ofList front made
    have right := Descriptor.holds_of_ofList back made'
    refine (Descriptor.toList_eq_ok one).mpr ⟨?_, ?_, readable⟩
    · rw [List.length_append] at few ⊢
      show (one'.count + other.count).toNat = _
      rw [UInt32.toNat_add, left.count, right.count]
      exact Nat.mod_eq_of_lt (Nat.lt_succ_of_le few)
    · show one'.data ++ other.data = _
      rw [left.data, right.data, List.flatMap_append]

/-- **The codec of every type of records is exact**, but for that of requests for tables. -/
theorem exact_recordTypes : ∀ carrier ∈ recordTypes, Record.IsExact carrier.Item := by
  have all : ∀ carrier ∈ recordTypes, HaveOneSpelling (Record.fields carrier.Item) ∧
      Record.fields carrier.Item ≠ [] := by
    unfold recordTypes
    simp only [List.forall_mem_cons]
    decide
  intro carrier known
  exact Record.isExact (all carrier known).1 (all carrier known).2

/-- Two components, one of them with the name `é`. -/
def namedTwice : List NamedComponent :=
  [{ (default : NamedComponent) with objectName := "\\_SB.A" },
    { (default : NamedComponent) with objectName := "é" }]

/-- Components with names of different lengths are read back; their payload without its last byte is
refused. -/
theorem exact_recordTypes_components :
    (⟨NamedComponent⟩ : Carrier) ∈ recordTypes ∧
      ∃ descriptor, Descriptor.ofList namedTwice ⟨7⟩ = .ok descriptor ∧
        descriptor.toList = .ok namedTwice ∧
        ({ descriptor with data := descriptor.data.dropLast } : Descriptor).IsRefused
          NamedComponent := by
  have known : (⟨NamedComponent⟩ : Carrier) ∈ recordTypes := by simp [recordTypes]
  have exact := exact_recordTypes ⟨NamedComponent⟩ known
  have readable : ∀ record ∈ namedTwice, Record.IsReadable record := by
    have short : ∀ record ∈ namedTwice,
        (Utf8.encode record.objectName).length < Bytes.capacity 8 := by decide +kernel
    exact fun record inside => ⟨trivial, trivial, trivial, trivial, trivial, trivial, trivial,
      trivial, short record inside, trivial⟩
  obtain ⟨descriptor, made, read⟩ := exact.roundTrip namedTwice readable (by decide) ⟨7⟩
  refine ⟨known, descriptor, made, read,
    exact.truncated _ _ descriptor readable made _ (List.dropLast_prefix _) ?_⟩
  rw [(Descriptor.holds_of_ofList readable made).data]
  decide +kernel

end FirmwareTables
