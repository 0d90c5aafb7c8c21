/-
**The records behind the nodes of the remapping table.**

A `Source` is a record of any of the six kinds. Whatever its kind, its node is a header of sixteen
bytes, the fields of the kind and the id mappings, in this order (`image_eq`), and these parts fill
the node exactly: `length_fields` and `length_idMappings`. The sizes stated for a node and the bytes
written for it thereby agree in every branch, with arrays, without them and with zeros in their
place.
-/

import FirmwareTables.Generator.Iort
import FirmwareTables.Proofs.Layout.Filling
import FirmwareTables.Proofs.Table.Walk

namespace FirmwareTables.Iort

/-- A record that becomes a node. -/
inductive Source where
  /-- A group of translation services. -/
  | itsGroup (record : ItsGroup)
  /-- A device that the namespace names. -/
  | namedComponent (record : NamedComponent)
  /-- A root complex. -/
  | rootComplex (record : RootComplex)
  /-- A memory management unit of the first or second version. -/
  | smmuV1V2 (record : SmmuV1V2)
  /-- A memory management unit of the third version. -/
  | smmuV3 (record : SmmuV3)
  /-- A group of performance counters. -/
  | pmcg (record : Pmcg)

namespace Source

/-- The kind of the node. -/
def kind : Source → NodeKind
  | itsGroup _ => .itsGroup
  | namedComponent _ => .namedComponent
  | rootComplex _ => .rootComplex
  | smmuV1V2 _ => .smmuV1V2
  | smmuV3 _ => .smmuV3
  | pmcg _ => .pmcg

/-- The name of the node's category. -/
def category : Source → String
  | itsGroup _ => "ITS group"
  | namedComponent _ => "named component"
  | rootComplex _ => "root complex"
  | smmuV1V2 _ => "SMMUv1/v2"
  | smmuV3 _ => "SMMUv3"
  | pmcg _ => "PMCG"

/-- The node. -/
def node : Source → Node
  | itsGroup record => Iort.itsGroup record
  | namedComponent record => Iort.namedComponent record
  | rootComplex record => Iort.rootComplex record
  | smmuV1V2 record => Iort.smmuV1V2 record
  | smmuV3 record => Iort.smmuV3 record
  | pmcg record => Iort.pmcg record

/-- The token by which others refer to the node. -/
def token : Source → Token
  | itsGroup record => record.token
  | namedComponent record => record.token
  | rootComplex record => record.token
  | smmuV1V2 record => record.token
  | smmuV3 record => record.token
  | pmcg record => record.token

/-- The number of id mappings, of which groups of translation services have none. -/
def mappingCount : Source → UInt32
  | itsGroup _ => 0
  | namedComponent record => record.idMappingCount
  | rootComplex record => record.idMappingCount
  | smmuV1V2 record => record.idMappingCount
  | smmuV3 record => record.idMappingCount
  | pmcg record => record.idMappingCount

/-- The token under which the id mappings are stored. -/
def mappingToken : Source → Token
  | itsGroup _ => .null
  | namedComponent record => record.idMappingToken
  | rootComplex record => record.idMappingToken
  | smmuV1V2 record => record.idMappingToken
  | smmuV3 record => record.idMappingToken
  | pmcg record => record.idMappingToken

/-- Where the id mappings of the node start. -/
def mappingsAt : Source → Nat
  | itsGroup record => itsGroupLength record
  | namedComponent record => componentMappingsAt record
  | rootComplex _ => rootComplexMappingsAt
  | smmuV1V2 record => unitMappingsAt record
  | smmuV3 _ => smmuV3MappingsAt
  | pmcg _ => pmcgMappingsAt

/-- Where the header says that the id mappings start. -/
def statedMappingsAt : Source → Nat
  | itsGroup _ => 0
  | source => source.mappingsAt

theorem stated_eq {source : Source} (counted : source.mappingCount ≠ 0) :
    source.statedMappingsAt = source.mappingsAt := by
  cases source with
  | itsGroup record => exact absurd rfl counted
  | namedComponent | rootComplex | smmuV1V2 | smmuV3 | pmcg => rfl

/-- The length of the node. -/
def length (source : Source) : Nat := source.mappingsAt + mappingsLength source.mappingCount

@[simp] theorem token_node (source : Source) : source.node.token = source.token := by
  cases source <;> rfl

@[simp] theorem size_node (source : Source) : source.node.size = .ok source.length := by
  cases source <;> rfl

/-- Every node has at least its header and four bytes more. -/
theorem le_length (source : Source) : 20 ≤ source.length := by
  cases source <;>
    simp only [length, mappingsAt, itsGroupLength, componentMappingsAt, rootComplexMappingsAt,
      unitMappingsAt, pmuInterruptsAt, contextInterruptsAt, smmuV3MappingsAt, pmcgMappingsAt,
      nodeHeaderLength] <;> omega

/-! ### The parts of a node -/

/-- The ids of a group, which are looked up as soon as they are counted. -/
def itsIds (context : Context) (record : ItsGroup) : Except TableError (List ItsIdentifier) :=
  if record.itsIdCount = 0 then .ok []
  else
    (fetchArray ItsIdentifier context record.itsIdToken record.itsIdCount "ITS identifiers").result

/-- The performance interrupts of a unit, zeros if they have no token. -/
def pmuInterrupts (context : Context) (record : SmmuV1V2) : Except TableError (List Piece) :=
  if record.pmuInterruptToken.isNull then .ok [.zeros (interruptsLength record.pmuInterruptCount)]
  else (interrupts context record.pmuInterruptCount record.pmuInterruptToken).result

/-- The fields between the header and the id mappings. -/
def fields (context : Context) : Source → Except TableError (List Piece)
  | itsGroup record => do
    let ids ← itsIds context record
    return .word record.itsIdCount :: ids.map fun item => .word item.itsId
  | namedComponent record =>
    .ok [.word record.flags, .word record.cacheCoherent, .byte record.allocationHints, .zeros 2,
      .byte record.memoryAccessFlags, .byte record.addressSizeLimit, .bytes (componentName record),
      .zeros (paddedLength (componentName record) - (componentName record).length)]
  | rootComplex record =>
    .ok [.word record.cacheCoherent, .byte record.allocationHints, .zeros 2,
      .byte record.memoryAccessFlags, .word record.atsAttribute, .word record.pciSegmentNumber,
      .byte record.memoryAddressSize, .zeros 3]
  | smmuV1V2 record => do
    let contextInterrupts ←
      (interrupts context record.contextInterruptCount record.contextInterruptToken).result
    let pmuInterrupts ← pmuInterrupts context record
    return [.long record.baseAddress, .long record.span, .word record.model, .word record.flags,
      .word 60, .word record.contextInterruptCount, .word (UInt32.ofNat contextInterruptsAt),
      .word record.pmuInterruptCount, .word (UInt32.ofNat (pmuInterruptsAt record)),
      .word record.nsgIrpt, .word record.nsgIrptFlags, .word record.nsgCfgIrpt,
      .word record.nsgCfgIrptFlags] ++ contextInterrupts ++ pmuInterrupts
  | smmuV3 record =>
    .ok [.long record.baseAddress, .word record.flags, .zeros 4, .long record.vatosAddress,
      .word record.model, .word record.eventInterrupt, .word record.priInterrupt,
      .word record.gerrInterrupt, .word record.syncInterrupt, .word (smmuV3Domain record),
      .word (smmuV3MappingIndex record)]
  | pmcg record => do
    let target ← context.index.resolve record.referenceToken
    return [.long record.baseAddress, .word record.overflowInterrupt, .word (UInt32.ofNat target),
      .long record.page1BaseAddress]

/-- The header of the node. -/
def header (source : Source) : List Piece :=
  [.byte source.kind.number, .half (UInt16.ofNat source.length), .byte source.kind.revision,
    .zeros 4, .word source.mappingCount, .word (UInt32.ofNat source.statedMappingsAt)]

/-- The bytes of the node, part by part. -/
def parts (context : Context) (source : Source) : Except TableError Bytes := do
  let header ←
    nodeHeader source.kind source.length source.mappingCount source.statedMappingsAt
  let fields ← source.fields context
  let mappings ← (idMappings context source.mappingCount source.mappingToken).result
  return Piece.encodeAll (header ++ fields ++ mappings)

theorem nodeHeader_eq {source : Source} (fits : source.length ≤ 65535) :
    nodeHeader source.kind source.length source.mappingCount source.statedMappingsAt =
      .ok source.header := by
  unfold nodeHeader
  rw [if_pos fits]
  rfl

@[simp] theorem length_header (source : Source) :
    (Piece.encodeAll source.header).length = nodeHeaderLength := by
  simp [header, nodeHeaderLength]

end Source

/-! ### The arrays -/

section

variable {α : Type} [Record α] {context : Context} {token : Token} {count : UInt32} {what : String}

theorem fetchArray_eq_ok {items : List α} :
    (fetchArray α context token count what).result = .ok items ↔
      ∃ stored, (context.view.getList α token).result = .ok stored ∧ count.toNat ≤ stored.length ∧
        items = stored.take count.toNat := by
  unfold fetchArray
  simp only [Reading.result_bind, bind_eq_ok, Reading.result_mapError, mapError_eq_ok]
  refine exists_congr fun stored => and_congr_right fun _ => ?_
  split
  · exact ⟨nofun, fun ⟨enough, _⟩ => by omega⟩
  · exact ⟨fun done => ⟨by omega, (Except.ok.inj done).symm⟩, fun ⟨_, same⟩ => by rw [same]; rfl⟩

theorem length_fetchArray {items : List α}
    (done : (fetchArray α context token count what).result = .ok items) :
    items.length = count.toNat := by
  obtain ⟨stored, _, enough, rfl⟩ := fetchArray_eq_ok.mp done
  rw [List.length_take, Nat.min_eq_left enough]

end

theorem idMapping_eq_ok {context : Context} {mapping : IdMapping} {pieces : List Piece} :
    idMapping context mapping = .ok pieces ↔
      ∃ target, context.index.resolve mapping.outputReferenceToken = .ok target ∧
        pieces = [.word mapping.inputBase, .word mapping.numIds, .word mapping.outputBase,
          .word (UInt32.ofNat target), .word mapping.flags] := by
  unfold idMapping
  rw [bind_eq_ok]
  exact exists_congr fun _ => and_congr_right fun _ =>
    ⟨fun done => (Except.ok.inj done).symm, fun same => by rw [same]; rfl⟩

/-- Id mappings that are counted and stored. -/
theorem idMappings_eq_ok {context : Context} {count : UInt32} {token : Token}
    {pieces : List Piece} (counted : count ≠ 0) (named : token.isNull = false) :
    (idMappings context count token).result = .ok pieces ↔
      ∃ stored : List IdMapping, (context.view.getList IdMapping token).result = .ok stored ∧
        count.toNat ≤ stored.length ∧
        ∃ made, List.Forall₂ (fun mapping pieces => idMapping context mapping = .ok pieces)
          (stored.take count.toNat) made ∧ pieces = made.flatten := by
  unfold idMappings
  rw [if_neg (by rw [named]; simp [counted])]
  simp only [Reading.result_bind, bind_eq_ok, fetchArray_eq_ok, Reading.result_ofExcept,
    mapM_eq_ok, Reading.result_pure, Except.ok.injEq]
  constructor
  · rintro ⟨items, ⟨stored, listed, enough, rfl⟩, made, resolved, done⟩
    exact ⟨stored, listed, enough, made, resolved, done.symm⟩
  · rintro ⟨stored, listed, enough, made, resolved, same⟩
    exact ⟨_, ⟨stored, listed, enough, rfl⟩, made, resolved, same.symm⟩

/-- Id mappings that are not counted, or counted without a token. -/
theorem idMappings_of_null {context : Context} {count : UInt32} {token : Token}
    (absent : count = 0 ∨ token.isNull) :
    (idMappings context count token).result = .ok [.zeros (mappingsLength count)] := by
  unfold idMappings
  rw [if_pos absent]
  rfl

theorem length_mappings {context : Context} {mappings : List IdMapping} {made : List (List Piece)}
    (resolved : List.Forall₂ (fun mapping pieces => idMapping context mapping = .ok pieces)
      mappings made) :
    (Piece.encodeAll made.flatten).length = 20 * mappings.length := by
  induction resolved with
  | nil => rfl
  | cons here _ ih =>
    obtain ⟨target, _, rfl⟩ := idMapping_eq_ok.mp here
    rw [List.flatten_cons, Piece.encodeAll_append, List.length_append, ih, List.length_cons]
    simp only [Piece.encodeAll_cons, Piece.encodeAll_nil, List.length_append,
      Piece.length_encode_word, List.length_nil]
    omega

/-- Id mappings fill the room that their number takes. -/
theorem length_idMappings {context : Context} {count : UInt32} {token : Token}
    {pieces : List Piece} (done : (idMappings context count token).result = .ok pieces) :
    (Piece.encodeAll pieces).length = mappingsLength count := by
  by_cases absent : count = 0 ∨ token.isNull
  · rw [idMappings_of_null absent] at done
    cases done
    simp
  · rw [not_or, Bool.not_eq_true] at absent
    obtain ⟨stored, _, enough, made, resolved, rfl⟩ := (idMappings_eq_ok absent.1 absent.2).mp done
    rw [length_mappings resolved, List.length_take, Nat.min_eq_left enough]
    rfl

theorem length_interrupts {context : Context} {count : UInt32} {token : Token}
    {pieces : List Piece} (done : (interrupts context count token).result = .ok pieces) :
    (Piece.encodeAll pieces).length = interruptsLength count := by
  unfold interrupts at done
  split at done
  · rename_i absent
    cases done
    rw [absent]
    rfl
  · simp only [Reading.result_bind, bind_eq_ok] at done
    obtain ⟨items, fetched, done⟩ := done
    cases done
    have each : ∀ item : SmmuInterrupt,
        (Piece.encodeAll [.word item.interrupt, .word item.flags]).length = 8 := fun _ => by simp
    rw [Piece.length_flatMap each, length_fetchArray fetched]
    rfl

/-! ### The bytes of a node -/

namespace Source

theorem length_itsIds {context : Context} {record : ItsGroup} {ids : List ItsIdentifier}
    (done : itsIds context record = .ok ids) : ids.length = record.itsIdCount.toNat := by
  unfold itsIds at done
  split at done
  · rename_i absent
    cases done
    rw [absent]
    rfl
  · exact length_fetchArray done

theorem length_pmuInterrupts {context : Context} {record : SmmuV1V2} {pieces : List Piece}
    (done : pmuInterrupts context record = .ok pieces) :
    (Piece.encodeAll pieces).length = interruptsLength record.pmuInterruptCount := by
  unfold pmuInterrupts at done
  split at done
  · cases done
    simp
  · exact length_interrupts done

/-- **The fields of a node** reach from its header to its id mappings. -/
theorem length_fields {context : Context} {source : Source} {pieces : List Piece}
    (done : source.fields context = .ok pieces) :
    nodeHeaderLength + (Piece.encodeAll pieces).length = source.mappingsAt := by
  cases source with
  | itsGroup record =>
    obtain ⟨ids, fetched, done⟩ := bind_eq_ok.mp done
    cases done
    have each : ∀ item : ItsIdentifier, (Piece.encodeAll [.word item.itsId]).length = 4 :=
      fun _ => by simp
    rw [Piece.encodeAll_cons, List.length_append, Piece.length_encode_word, List.map_eq_flatMap,
      Piece.length_flatMap each, length_itsIds fetched, ← Nat.add_assoc]
    rfl
  | namedComponent record =>
    cases done
    have room : (componentName record).length ≤ paddedLength (componentName record) := by
      unfold paddedLength
      omega
    simp [mappingsAt, componentMappingsAt, nodeHeaderLength]
    omega
  | rootComplex record =>
    cases done
    simp [mappingsAt, rootComplexMappingsAt, nodeHeaderLength]
  | smmuV1V2 record =>
    obtain ⟨contextInterrupts, first, done⟩ := bind_eq_ok.mp done
    obtain ⟨pmuInterrupts, second, done⟩ := bind_eq_ok.mp done
    cases done
    rw [Piece.encodeAll_append, Piece.encodeAll_append, List.length_append, List.length_append,
      length_interrupts first, length_pmuInterrupts second]
    simp only [Piece.encodeAll_cons, Piece.encodeAll_nil, List.length_append, List.length_nil,
      Piece.length_encode_long, Piece.length_encode_word]
    rw [mappingsAt, unitMappingsAt, pmuInterruptsAt, contextInterruptsAt, ← Nat.add_assoc,
      ← Nat.add_assoc]
  | smmuV3 record =>
    cases done
    simp [mappingsAt, smmuV3MappingsAt, nodeHeaderLength]
  | pmcg record =>
    obtain ⟨target, _, done⟩ := bind_eq_ok.mp done
    cases done
    simp [mappingsAt, pmcgMappingsAt, nodeHeaderLength]

/-- **The parts of a node** that is within 16 bits. -/
theorem parts_eq_ok {context : Context} {source : Source} {bytes : Bytes} :
    source.parts context = .ok bytes ↔
      source.length ≤ 65535 ∧ ∃ fields mappings, source.fields context = .ok fields ∧
        (idMappings context source.mappingCount source.mappingToken).result = .ok mappings ∧
        bytes = Piece.encodeAll (source.header ++ (fields ++ mappings)) := by
  unfold parts
  simp only [bind_eq_ok, List.append_assoc]
  constructor
  · rintro ⟨header, stated, fields, filled, mappings, mapped, done⟩
    have fits : source.length ≤ 65535 := by
      by_contra wide
      unfold nodeHeader at stated
      rw [if_neg wide] at stated
      cases stated
    rw [nodeHeader_eq fits] at stated
    cases stated
    exact ⟨fits, fields, mappings, filled, mapped, (Except.ok.inj done).symm⟩
  · rintro ⟨fits, fields, mappings, filled, mapped, rfl⟩
    exact ⟨source.header, nodeHeader_eq fits, fields, filled, mappings, mapped, rfl⟩

theorem length_parts {context : Context} {source : Source} {bytes : Bytes}
    (done : source.parts context = .ok bytes) : bytes.length = source.length := by
  obtain ⟨_, fields, mappings, filled, mapped, rfl⟩ := parts_eq_ok.mp done
  have middle := length_fields filled
  have back := length_idMappings mapped
  rw [Piece.encodeAll_append, Piece.encodeAll_append, List.length_append, List.length_append,
    length_header, back, Source.length]
  omega

/-- A node states its kind and its length. -/
theorem states_parts {context : Context} {source : Source} {bytes : Bytes}
    (done : source.parts context = .ok bytes) :
    LengthForm.long.States source.kind.number bytes := by
  have length := length_parts done
  obtain ⟨fits, fields, mappings, _, _, rfl⟩ := parts_eq_ok.mp done
  rw [header, List.cons_append, List.cons_append, Piece.encodeAll_cons, Piece.encodeAll_cons,
    Piece.encode_byte, List.singleton_append] at length ⊢
  refine LengthForm.states_long ?_ fits
  rw [List.length_cons, List.length_append, Piece.length_encode_half] at length
  omega

/-- A node of pieces that amount to its parts. -/
theorem image_of_pieces {source : Source} {pieces : Context → Reading TableError (List Piece)}
    (made : source.node = .ofPieces source.token source.length pieces)
    (same : ∀ context, Piece.encodeAll <$> (pieces context).result = source.parts context)
    (context : Context) : source.node.image context = source.parts context := by
  rw [made]
  exact Node.ofPieces_image_eq same (fun _ _ => length_parts) context

/-- **The image of a node** is its header, its fields and its id mappings. -/
theorem image_eq (source : Source) :
    ∀ context, source.node.image context = source.parts context := by
  cases source with
  | itsGroup record =>
    refine image_of_pieces rfl fun context => ?_
    unfold parts fields itsIds
    simp only [Reading.result_bind, Reading.result_ofExcept, map_bind, bind_assoc]
    refine bind_congr fun header => ?_
    by_cases absent : record.itsIdCount = 0
    · rw [if_pos absent, if_pos absent, absent]
      show Except.ok _ = Except.ok _
      simp [mappingCount, mappingsLength, Bytes.zeros]
    · rw [if_neg absent, if_neg absent, Reading.result_bind, map_bind]
      refine bind_congr fun ids => ?_
      show Except.ok _ = Except.ok _
      simp [mappingCount, mappingsLength, Bytes.zeros]
  | namedComponent record =>
    refine image_of_pieces rfl fun context => ?_
    simp only [Reading.result_bind, Reading.result_ofExcept, Reading.result_pure, map_bind]
    rfl
  | rootComplex record =>
    refine image_of_pieces rfl fun context => ?_
    simp only [Reading.result_bind, Reading.result_ofExcept, Reading.result_pure, map_bind]
    rfl
  | smmuV1V2 record =>
    refine image_of_pieces rfl fun context => ?_
    unfold parts fields pmuInterrupts
    simp only [Reading.result_bind, Reading.result_ofExcept, map_bind, bind_assoc]
    refine bind_congr fun header => bind_congr fun contextInterrupts => ?_
    by_cases unnamed : record.pmuInterruptToken.isNull
    · rw [if_pos unnamed, if_pos unnamed]
      simp only [pure_bind, Reading.result_bind, map_bind, List.append_assoc]
      rfl
    · rw [if_neg unnamed, if_neg unnamed]
      simp only [pure_bind, Reading.result_bind, map_bind, List.append_assoc]
      rfl
  | smmuV3 record =>
    refine image_of_pieces rfl fun context => ?_
    simp only [Reading.result_bind, Reading.result_ofExcept, Reading.result_pure, map_bind]
    rfl
  | pmcg record =>
    refine image_of_pieces rfl fun context => ?_
    unfold parts fields
    simp only [Reading.result_bind, Reading.result_ofExcept, map_bind, bind_assoc]
    rfl

end Source

end FirmwareTables.Iort
