/-
**Requests, as they are read again.**

A request is stored with the texts of its names. The text of a generator id is read as its canonical
id, which on words is `GeneratorId.canonicalRaw`; the text of a signature is read only if it is
graphic (`Signature.read_text_of_not_graphic`). So a request with a graphic signature is read
back but for its generator, `TableRequest.reread`; one with any other is not read at all, and
neither is any list that holds it (`decode_encode_requests`).
-/

import FirmwareTables.Proofs.Identifier.Naming
import FirmwareTables.Proofs.Record.Exactness

namespace FirmwareTables

/-! ### Ids as words -/

namespace GeneratorId

/-- The word of a canonical id. A vendor's generator keeps its number only, and so does the one of a
standard table, of the first kind and with a name for its number. -/
def canonicalRaw (raw : UInt32) : UInt32 :=
  if raw &&& 0x80000000 ≠ 0 then 0x81000000 ||| (raw &&& 0xffff)
  else if raw >>> 24 &&& 0x7f = 1 ∧ (standardName? (raw &&& 0xffff).toNat).isSome then
    0x01000000 ||| (raw &&& 0xffff)
  else raw

theorem toUInt32_tableNumber (id : GeneratorId) : id.tableNumber.toUInt32 = id.raw &&& 0xffff := by
  refine UInt32.toNat_inj.mp ?_
  unfold tableNumber
  rw [UInt16.toNat_toUInt32, UInt32.toNat_toUInt16, UInt32.toNat_and]
  exact (Nat.and_two_pow_sub_one_eq_mod id.raw.toNat 16).symm

theorem isAcpi_iff {id : GeneratorId} : id.isAcpi = true ↔ id.raw >>> 24 &&& 0x7f = 1 := by
  have shifted : (id.raw &&& 0x7f000000) >>> 24 = id.raw >>> 24 &&& 0x7f := by
    rw [UInt32.shiftRight_and]
    rfl
  unfold isAcpi
  rw [shifted, beq_iff_eq]

theorem canonical_eq (id : GeneratorId) : id.canonical = ⟨canonicalRaw id.raw⟩ := by
  have number : id.tableNumber.toNat = (id.raw &&& 0xffff).toNat := by
    rw [← id.toUInt32_tableNumber, UInt16.toNat_toUInt32]
  unfold canonical canonicalRaw tableName? standard oem
  rw [id.toUInt32_tableNumber, number]
  by_cases vendor : id.raw &&& 0x80000000 = 0
  · have own : id.isOem = false := by
      unfold isOem
      rw [vendor]
      rfl
    by_cases acpi : id.isAcpi = true
    · simp [own, acpi, vendor, isAcpi_iff.mp acpi]
      split <;> rfl
    · have kind := mt isAcpi_iff.mpr acpi
      simp [own, Bool.eq_false_iff.mpr acpi, vendor, kind]
  · have own : id.isOem = true := bne_iff_ne.mpr vendor
    simp [own, vendor]

end GeneratorId

/-! ### Signatures -/

theorem Bytes.length_encode_hex (bytes : Bytes) :
    (Utf8.encode bytes.hex).length = 2 * bytes.length := by
  have ascii : ∀ one ∈ bytes.flatMap hexPair, one.toNat < 128 := by
    intro one inside
    obtain ⟨byte, _, digit⟩ := List.mem_flatMap.mp inside
    have low := Nat.mod_lt byte.toNat (by decide : 0 < 16)
    have high : byte.toNat / 16 < 16 := Nat.div_lt_of_lt_mul byte.toNat_lt
    simp only [hexPair, List.mem_cons, List.not_mem_nil, or_false] at digit
    rcases digit with rfl | rfl
    · exact (Digits.value?_character _ high).2.2.2.2
    · exact (Digits.value?_character _ low).2.2.2.2
  unfold hex
  rw [Utf8.encode_ascii ascii, List.length_map]
  clear ascii
  induction bytes with
  | nil => rfl
  | cons byte bytes ih =>
    rw [List.flatMap_cons, List.length_append, ih, List.length_cons]
    show 2 + 2 * bytes.length = _
    omega

namespace Signature

theorem length_text_of_not_graphic {signature : Signature}
    (other : signature.bytes.all isGraphic ≠ true) : (Utf8.encode signature.text).length = 10 := by
  unfold text
  rw [if_neg other, Utf8.encode_append, List.length_append, Bytes.length_encode_hex]
  unfold bytes
  rw [Bytes.length_ofNat]
  decide

theorem length_text (signature : Signature) :
    (Utf8.encode signature.text).length < Bytes.capacity 8 := by
  by_cases graphic : signature.bytes.all isGraphic = true
  · rw [encode_text graphic]
    unfold bytes
    rw [Bytes.length_ofNat]
    decide
  · rw [length_text_of_not_graphic graphic]
    decide

/-- **The text of any other signature is refused.** It is in hexadecimal, and so too long. -/
theorem read_text_of_not_graphic {signature : Signature}
    (other : signature.bytes.all isGraphic ≠ true) :
    read signature.text = .error (.signature signature.text) := by
  refine if_neg ?_
  rintro ⟨four, _⟩
  rw [length_text_of_not_graphic other] at four
  omega

end Signature

/-! ### Requests -/

namespace TableRequest

/-- A request after it was stored and read again. -/
def reread (request : TableRequest) : TableRequest :=
  { request with generatorId := request.generatorId.canonical }

/-- The four bytes of the signature are graphic. -/
def IsGraphic (request : TableRequest) : Prop :=
  request.signature.bytes.all Signature.isGraphic = true

variable {request : TableRequest} {requests : List TableRequest}

theorem encode_reread (request : TableRequest) :
    Record.encode request.reread = Record.encode request := by
  have name : Kind.generator.encode request.generatorId.canonical =
      Kind.generator.encode request.generatorId :=
    congrArg Bytes.ofText request.generatorId.text_canonical
  show _ ++ (_ ++ (Kind.generator.encode request.generatorId.canonical ++ _)) = _
  rw [name]
  rfl

/-- **What is stored of a request with a graphic signature can be read.** -/
theorem isReadable_reread (graphic : request.IsGraphic) : Record.IsReadable request.reread := by
  have generator : (Utf8.encode request.generatorId.canonical.text).length < Bytes.capacity 8 :=
    Nat.lt_of_le_of_lt (GeneratorId.length_text _) (by decide)
  have known : GeneratorId.read request.generatorId.canonical.text =
      .ok request.generatorId.canonical := by
    rw [GeneratorId.read_text, GeneratorId.canonical_canonical]
  exact ⟨⟨request.signature.length_text, Signature.read_text graphic⟩, trivial, ⟨generator, known⟩,
    trivial, trivial, trivial⟩

/-- **A request with a graphic signature is read back** but for its generator. -/
theorem decode_encode (graphic : request.IsGraphic) (rest : Bytes) :
    Record.decode (Record.encode request ++ rest) = .ok (request.reread, rest) := by
  rw [← encode_reread]
  exact Record.decode_encode (isReadable_reread graphic) rest

/-- **Any other request is not read**, as its signature is not. -/
theorem decode_encode_of_not_graphic (other : ¬ request.IsGraphic) (rest : Bytes) :
    Record.decode (α := TableRequest) (Record.encode request ++ rest) =
      .error (.name (.signature request.signature.text)) := by
  have name : ∀ behind, Kind.signature.decode (Bytes.ofText request.signature.text ++ behind) =
      .error (.name (.signature request.signature.text)) := by
    intro behind
    show Kind.readName Signature.read _ = _
    unfold Kind.readName
    rw [Bytes.readText_append request.signature.length_text]
    dsimp only [bind, Except.bind]
    rw [Signature.read_text_of_not_graphic other]
    rfl
  unfold Record.decode Record.encode
  show (Row.decode (⟨"signature", .signature⟩ :: _)
    ((Bytes.ofText request.signature.text ++ _) ++ rest) >>= _) = _
  unfold Row.decode
  rw [List.append_assoc, name]
  rfl

theorem flatMap_reread (requests : List TableRequest) :
    (requests.map reread).flatMap Record.encode = requests.flatMap Record.encode := by
  rw [List.flatMap_map]
  simp only [encode_reread]

theorem ofList_reread (requests : List TableRequest) (token : Token) :
    Descriptor.ofList (requests.map reread) token = Descriptor.ofList requests token := by
  unfold Descriptor.ofList
  rw [List.length_map, flatMap_reread]

/-- **Requests with graphic signatures are read back** but for their generators. -/
theorem toList_of_graphic {token : Token} {descriptor : Descriptor}
    (graphic : ∀ request ∈ requests, request.IsGraphic)
    (made : Descriptor.ofList requests token = .ok descriptor) :
    descriptor.toList = .ok (requests.map reread) := by
  rw [← ofList_reread] at made
  refine Descriptor.toList_of_ofList (fun request inside => ?_) made
  obtain ⟨declared, member, rfl⟩ := List.mem_map.mp inside
  exact isReadable_reread (graphic declared member)

/-- A list that holds a request without a graphic signature is not read. -/
theorem readRecords_refused (other : ∃ request ∈ requests, ¬ request.IsGraphic) (id : ObjectId)
    (count index : Nat) (rest : Bytes) :
    ∃ mismatch, Descriptor.readRecords (α := TableRequest) id count requests.length index
      (requests.flatMap Record.encode ++ rest) = .error (.badBufferSize id mismatch) := by
  -- Reading goes on to the first such request.
  induction requests generalizing index with
  | nil =>
    obtain ⟨_, inside, _⟩ := other
    cases inside
  | cons first requests ih =>
    rw [List.length_cons, List.flatMap_cons, List.append_assoc]
    unfold Descriptor.readRecords
    by_cases graphic : first.IsGraphic
    · rw [decode_encode graphic]
      obtain ⟨request, inside, bad⟩ := other
      rcases List.mem_cons.mp inside with rfl | inside
      · exact absurd graphic bad
      · obtain ⟨mismatch, refused⟩ := ih ⟨request, inside, bad⟩ (index + 1)
        dsimp only
        rw [refused]
        exact ⟨mismatch, rfl⟩
    · rw [decode_encode_of_not_graphic graphic]
      exact ⟨_, rfl⟩

theorem isRefused_of_not_graphic {token : Token} {descriptor : Descriptor}
    (inside : request ∈ requests) (other : ¬ request.IsGraphic)
    (made : Descriptor.ofList requests token = .ok descriptor) :
    descriptor.IsRefused TableRequest := by
  obtain ⟨count, data⟩ := Descriptor.counts_of_ofList made
  obtain ⟨mismatch, refused⟩ := readRecords_refused ⟨request, inside, other⟩ descriptor.id
    requests.length 0 []
  refine ⟨mismatch, ?_⟩
  unfold Descriptor.toList
  rw [count, data, ← List.append_nil (requests.flatMap Record.encode)]
  dsimp only
  rw [refused]
  rfl

end TableRequest

/-! ### What texts keep -/

/-- What the text of a generator id tells of its word. -/
structure GeneratorId.TextForm (raw : UInt32) : Prop where
  /-- What is read back is the canonical word. -/
  read : GeneratorId.read (GeneratorId.mk raw).text = .ok ⟨canonicalRaw raw⟩
  /-- The word itself comes back only if it is canonical. -/
  same : GeneratorId.read (GeneratorId.mk raw).text = .ok ⟨raw⟩ ↔ raw = canonicalRaw raw
  /-- This word is canonical itself. -/
  again : canonicalRaw (canonicalRaw raw) = canonicalRaw raw
  /-- Two words have the same text exactly if their canonical words are the same. -/
  apart : ∀ other, (GeneratorId.mk raw).text = (GeneratorId.mk other).text ↔
    canonicalRaw raw = canonicalRaw other

/-- What the stored form of a request tells of it. -/
structure TableRequest.StoredForm (request : TableRequest) : Prop where
  /-- The request can always be stored. -/
  described : ∀ token, ∃ descriptor, Descriptor.ofList [request] token = .ok descriptor
  /-- It can be read exactly if all bytes of the signature are graphic. -/
  readable : ∀ token descriptor, Descriptor.ofList [request] token = .ok descriptor →
    ((∃ requests : List TableRequest, descriptor.toList = .ok requests) ↔ request.IsGraphic)
  /-- Then only the word of the generator may be another. -/
  read : ∀ token descriptor, Descriptor.ofList [request] token = .ok descriptor →
    request.IsGraphic → descriptor.toList = .ok [{ request with
      generatorId := ⟨GeneratorId.canonicalRaw request.generatorId.raw⟩ }]
  /-- Otherwise it is refused, and so is any list that holds the request. -/
  refused : ¬ request.IsGraphic → ∀ requests token descriptor, request ∈ requests →
    Descriptor.ofList requests token = .ok descriptor → descriptor.IsRefused TableRequest

theorem GeneratorId.textForm (raw : UInt32) : TextForm raw := by
  have read : ∀ raw, GeneratorId.read (GeneratorId.mk raw).text = .ok ⟨canonicalRaw raw⟩ := by
    intro raw
    rw [read_text, canonical_eq]
  have again := canonical_canonical ⟨raw⟩
  rw [canonical_eq, canonical_eq] at again
  refine ⟨read raw, ?_, congrArg GeneratorId.raw again, fun other => ?_⟩
  · rw [read, Except.ok.injEq, GeneratorId.mk.injEq]
    exact eq_comm
  · rw [text_eq_text_iff, canonical_eq, canonical_eq, GeneratorId.mk.injEq]

theorem TableRequest.storedForm (request : TableRequest) : request.StoredForm where
  described token := by
    have few : [request].length ≤ maxCount := (by decide : 1 ≤ maxCount)
    exact Descriptor.exists_ofList few token
  readable token descriptor made := by
    constructor
    · rintro ⟨requests, done⟩
      by_contra other
      obtain ⟨_, refused⟩ := isRefused_of_not_graphic List.mem_cons_self other made
      rw [done] at refused
      cases refused
    · intro graphic
      exact ⟨_, toList_of_graphic (List.forall_mem_singleton.mpr graphic) made⟩
  read token descriptor made graphic := by
    rw [← GeneratorId.canonical_eq]
    exact toList_of_graphic (List.forall_mem_singleton.mpr graphic) made
  refused other requests token descriptor inside made :=
    isRefused_of_not_graphic inside other made

/-- **What texts keep of ids and requests.** -/
theorem decode_encode_requests :
    (∀ raw, GeneratorId.TextForm raw) ∧ ∀ request : TableRequest, request.StoredForm :=
  ⟨GeneratorId.textForm, TableRequest.storedForm⟩

end FirmwareTables
