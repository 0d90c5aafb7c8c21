/-
**Reading the remapping table back.**

A reader who walks over the table finds in each node what its record says. The numbers of a record
stand at fixed distances from the start of the node, which `Source.form` lists kind by kind; the
name of a component follows as text with one to four zeros behind it; the arrays lie one behind the
other and end with the node, and an array with a token holds the first records stored under it
(`HoldsArray`). The proximity domain and the mapping index of a unit of the third version are read
as its flags and interrupts allow.

* `form_startsAt`: the form of a node against the pieces that are written for it;
* `holdsArray`: the items of an array against the records stored;
* `build_readBack`: the table as a whole.
-/

import FirmwareTables.Proofs.Iort.References
import FirmwareTables.Proofs.Repository.Finding
import FirmwareTables.Proofs.Table.Forms

namespace FirmwareTables.Iort

/-! ### The forms of nodes and items -/

/-- The numbers of a node, each at its distance from the start of the node. -/
def Source.form (source : Source) : Form :=
  [(0, .byte source.kind.number), (3, .byte source.kind.revision), (4, .zeros 4),
    (8, .word source.mappingCount)] ++
  match source with
  | .itsGroup record => [(16, .word record.itsIdCount)]
  | .namedComponent record =>
    [(16, .word record.flags), (20, .word record.cacheCoherent), (24, .byte record.allocationHints),
      (25, .zeros 2), (27, .byte record.memoryAccessFlags), (28, .byte record.addressSizeLimit)]
  | .rootComplex record =>
    [(16, .word record.cacheCoherent), (20, .byte record.allocationHints), (21, .zeros 2),
      (23, .byte record.memoryAccessFlags), (24, .word record.atsAttribute),
      (28, .word record.pciSegmentNumber), (32, .byte record.memoryAddressSize), (33, .zeros 3)]
  | .smmuV1V2 record =>
    [(16, .long record.baseAddress), (24, .long record.span), (32, .word record.model),
      (36, .word record.flags), (40, .word 60), (44, .word record.contextInterruptCount),
      (48, .word 76), (52, .word record.pmuInterruptCount),
      (56, .word (UInt32.ofNat (76 + 8 * record.contextInterruptCount.toNat))),
      (60, .word record.nsgIrpt), (64, .word record.nsgIrptFlags), (68, .word record.nsgCfgIrpt),
      (72, .word record.nsgCfgIrptFlags)]
  | .smmuV3 record =>
    [(16, .long record.baseAddress), (24, .word record.flags), (28, .zeros 4),
      (32, .long record.vatosAddress), (40, .word record.model), (44, .word record.eventInterrupt),
      (48, .word record.priInterrupt), (52, .word record.gerrInterrupt),
      (56, .word record.syncInterrupt),
      (60, .word (if record.flags &&& 8 ≠ 0 then record.proximityDomain else 0)),
      (64, .word (if record.eventInterrupt ≠ 0 ∧ record.priInterrupt ≠ 0 ∧
        record.gerrInterrupt ≠ 0 ∧ record.syncInterrupt ≠ 0 then 0
        else record.deviceIdMappingIndex))]
  | .pmcg record =>
    [(16, .long record.baseAddress), (24, .word record.overflowInterrupt),
      (32, .long record.page1BaseAddress)]

/-- The id of a translation service in the array of its group. -/
def serviceForm (record : ItsIdentifier) : Form := [(0, .word record.itsId)]

/-- An interrupt in an array of its unit. -/
def interruptForm (record : SmmuInterrupt) : Form :=
  [(0, .word record.interrupt), (4, .word record.flags)]

/-- An id mapping in the array of its node, apart from its reference. -/
def mappingForm (record : IdMapping) : Form :=
  [(0, .word record.inputBase), (4, .word record.numIds), (8, .word record.outputBase),
    (16, .word record.flags)]

/-! ### What is read of a node -/

/-- An array that has items and a token holds the first records stored under the token, each in so
many bytes and in its form. -/
def HoldsArray {α : Type} [Record α] (view : View) (bytes : Bytes) (start width : Nat)
    (count : UInt32) (token : Token) (form : α → Form) : Prop :=
  count ≠ 0 → token.isNull = false →
    ∃ stored : List α, (view.getList α token).result = .ok stored ∧
      ∀ item < count.toNat, ∃ record, stored[item]? = some record ∧
        (form record).IsReadIn bytes (start + width * item)

/-- What a reader finds where a node is met. -/
structure IsReadBack (view : View) (bytes : Bytes) (source : Source) (met : Met) : Prop where
  /-- The numbers of the record stand at their places. -/
  form : source.form.IsReadIn bytes met.offset
  /-- The ids of a group reach from byte 20 to the end of the node. -/
  services : ∀ record, source = .itsGroup record →
    HoldsArray view bytes (met.offset + 20) 4 record.itsIdCount record.itsIdToken serviceForm ∧
      met.length = 20 + 4 * record.itsIdCount.toNat
  /-- The name of a component starts at byte 29, and one to four zeros lie between the name and the
  id mappings. -/
  name : ∀ record, source = .namedComponent record → ∃ padding, 1 ≤ padding ∧ padding ≤ 4 ∧
    let name := Utf8.encode record.objectName
    bytes.slice? (met.offset + 29) name.length = some name ∧
      bytes.slice? (met.offset + (29 + name.length)) padding = some (Bytes.zeros padding) ∧
      bytes.read? (met.offset + 12) 4 = some (29 + name.length + padding)
  /-- The context interrupts of a unit start at byte 76, and its performance interrupts and its id
  mappings follow one behind the other. -/
  interrupts : ∀ record, source = .smmuV1V2 record →
    let pmuInterruptsAt := 76 + 8 * record.contextInterruptCount.toNat
    HoldsArray view bytes (met.offset + 76) 8 record.contextInterruptCount
        record.contextInterruptToken interruptForm ∧
      HoldsArray view bytes (met.offset + pmuInterruptsAt) 8 record.pmuInterruptCount
        record.pmuInterruptToken interruptForm ∧
      bytes.read? (met.offset + 12) 4 =
        some (pmuInterruptsAt + 8 * record.pmuInterruptCount.toNat)
  /-- The id mappings of all other nodes but groups reach from where the header says to the end of
  the node. -/
  mappings : source.kind ≠ .itsGroup → ∃ mappingsAt,
    bytes.read? (met.offset + 12) 4 = some mappingsAt ∧
      HoldsArray view bytes (met.offset + mappingsAt) 20 source.mappingCount source.mappingToken
        mappingForm ∧
      met.length = mappingsAt + 20 * source.mappingCount.toNat

/-! ### Numbers -/

section

variable {context : Context} {source : Source} {image : Bytes}

/-- **The numbers of a record** are written where its form has them. -/
theorem form_startsAt {fields mappings : List Piece} (filled : source.fields context = .ok fields) :
    ∀ field ∈ source.form,
      Piece.startsAt? (source.header ++ (fields ++ mappings)) field.1 = some field.2 := by
  cases source with
  | itsGroup record =>
    obtain ⟨ids, _, done⟩ := bind_eq_ok.mp filled
    cases done
    exact List.map_inj_left.mp rfl
  | namedComponent record | rootComplex record | smmuV3 record =>
    cases filled
    exact List.map_inj_left.mp rfl
  | smmuV1V2 record =>
    obtain ⟨contextInterrupts, _, done⟩ := bind_eq_ok.mp filled
    obtain ⟨pmuInterrupts, _, done⟩ := bind_eq_ok.mp done
    cases done
    exact List.map_inj_left.mp rfl
  | pmcg record =>
    obtain ⟨target, _, done⟩ := bind_eq_ok.mp filled
    cases done
    exact List.map_inj_left.mp rfl

end

/-! ### Arrays -/

section

variable {α : Type} [Record α] {view : View} {count : UInt32} {token : Token} {form : α → Form}
  {width : Nat}

/-- Pieces have a width and start as a form has them. -/
def Fills (width : Nat) (form : Form) (pieces : List Piece) : Prop :=
  (Piece.encodeAll pieces).length = width ∧
    ∀ field ∈ form, Piece.startsAt? pieces field.1 = some field.2

/-- **The items of an array** stand one behind the other, as they are stored. -/
theorem holdsArray {stored : List α} (listed : (view.getList α token).result = .ok stored)
    (enough : count.toNat ≤ stored.length) {groups : List (List Piece)}
    (filled : List.Forall₂ (fun record => Fills width (form record)) (stored.take count.toNat)
      groups) {before : Bytes} {start : Nat} (front : before.length = start) (after : Bytes) :
    HoldsArray view (before ++ (Piece.encodeAll groups.flatten ++ after)) start width count token
      form := by
  intro _ _
  refine ⟨stored, listed, fun item below => ?_⟩
  have inside : item < stored.length := Nat.lt_of_lt_of_le below enough
  have known : stored[item]? = some stored[item] := List.getElem?_eq_getElem inside
  have kept : (stored.take count.toNat)[item]? = some stored[item] := by
    rw [List.getElem?_take_of_lt below, known]
  have each : ∀ group ∈ groups, (Piece.encodeAll group).length = width := by
    intro group member
    obtain ⟨_, _, fills⟩ := exists_of_forall₂ filled.flip member
    exact fills.1
  obtain ⟨group, here, _, starts⟩ := getElem?_of_forall₂ filled kept
  refine ⟨stored[item], known, fun field member => ?_⟩
  have stands := Piece.standsAt_flatten each here (Piece.standsAt_of_startsAt (starts field member))
  have placed := ((stands.before after).behind before).isReadAt
  rw [front, ← Nat.add_assoc] at placed
  exact placed

/-- The items of an array that is fetched and written item by item. -/
theorem holdsArray_fetched {context : Context} {what : String} {items : List α}
    (fetched : (fetchArray α context token count what).result = .ok items)
    {pieces : α → List Piece} (fills : ∀ record, Fills width (form record) (pieces record))
    {before : Bytes} {start : Nat} (front : before.length = start) (after : Bytes) :
    HoldsArray context.view (before ++ (Piece.encodeAll (items.flatMap pieces) ++ after)) start
      width count token form := by
  obtain ⟨stored, listed, enough, rfl⟩ := fetchArray_eq_ok.mp fetched
  have filled : List.Forall₂ (fun record => Fills width (form record)) (stored.take count.toNat)
      ((stored.take count.toNat).map pieces) :=
    List.forall₂_map_right_iff.mpr (List.forall₂_same.mpr fun record _ => fills record)
  rw [List.flatMap_def]
  exact holdsArray listed enough filled front after

end

section

variable {context : Context} {count : UInt32} {token : Token} {pieces : List Piece}
  {before : Bytes} {start : Nat}

theorem serviceForm_fills (record : ItsIdentifier) :
    Fills 4 (serviceForm record) [.word record.itsId] :=
  ⟨by simp, List.map_inj_left.mp rfl⟩

theorem interruptForm_fills (record : SmmuInterrupt) :
    Fills 8 (interruptForm record) [.word record.interrupt, .word record.flags] :=
  ⟨by simp, List.map_inj_left.mp rfl⟩

theorem mappingForm_fills {record : IdMapping} (done : idMapping context record = .ok pieces) :
    Fills 20 (mappingForm record) pieces := by
  obtain ⟨target, _, rfl⟩ := idMapping_eq_ok.mp done
  exact ⟨by simp, List.map_inj_left.mp rfl⟩

theorem services_holdsArray {record : ItsGroup} {ids : List ItsIdentifier}
    (done : Source.itsIds context record = .ok ids) (front : before.length = start)
    (after : Bytes) :
    HoldsArray context.view
      (before ++ (Piece.encodeAll (ids.map fun item => .word item.itsId) ++ after)) start 4
      record.itsIdCount record.itsIdToken serviceForm := by
  intro counted
  unfold Source.itsIds at done
  rw [if_neg counted] at done
  rw [List.map_eq_flatMap]
  exact holdsArray_fetched done serviceForm_fills front after counted

theorem interrupts_holdsArray (done : (interrupts context count token).result = .ok pieces)
    (front : before.length = start) (after : Bytes) :
    HoldsArray context.view (before ++ (Piece.encodeAll pieces ++ after)) start 8 count token
      interruptForm := by
  intro counted
  unfold interrupts at done
  rw [if_neg counted, Reading.result_bind, bind_eq_ok] at done
  obtain ⟨items, fetched, done⟩ := done
  cases done
  exact holdsArray_fetched fetched interruptForm_fills front after counted

theorem pmuInterrupts_holdsArray {record : SmmuV1V2}
    (done : Source.pmuInterrupts context record = .ok pieces) (front : before.length = start)
    (after : Bytes) :
    HoldsArray context.view (before ++ (Piece.encodeAll pieces ++ after)) start 8
      record.pmuInterruptCount record.pmuInterruptToken interruptForm := by
  intro counted named
  unfold Source.pmuInterrupts at done
  rw [named, if_neg Bool.false_ne_true] at done
  exact interrupts_holdsArray done front after counted named

theorem mappings_holdsArray (done : (idMappings context count token).result = .ok pieces)
    (front : before.length = start) (after : Bytes) :
    HoldsArray context.view (before ++ (Piece.encodeAll pieces ++ after)) start 20 count token
      mappingForm := by
  intro counted named
  obtain ⟨stored, listed, enough, made, resolved, rfl⟩ := (idMappings_eq_ok counted named).mp done
  exact holdsArray listed enough (resolved.imp fun _ _ => mappingForm_fills) front after counted
    named

end

/-! ### Nodes -/

theorem Source.statedMappingsAt_le (source : Source) : source.statedMappingsAt ≤ source.length := by
  cases source with
  | itsGroup record => exact Nat.zero_le _
  | namedComponent | rootComplex | smmuV1V2 | smmuV3 | pmcg => exact Nat.le_add_right _ _

section

variable {context : Context} {source : Source} {image : Bytes}

/-- Where the id mappings start is read from the header. -/
theorem read_mappingsAt (done : source.parts context = .ok image) (before after : Bytes) :
    (before ++ (image ++ after)).read? (before.length + 12) 4 = some source.statedMappingsAt := by
  obtain ⟨fits, fields, mappings, _, _, rfl⟩ := Source.parts_eq_ok.mp done
  have starts : Piece.startsAt? (source.header ++ (fields ++ mappings)) 12 =
      some (.word (UInt32.ofNat source.statedMappingsAt)) := rfl
  have small : source.statedMappingsAt < 4294967296 := by
    have := source.statedMappingsAt_le
    omega
  have read := (((Piece.standsAt_of_startsAt starts).before after).behind before).isReadAt
  refine Eq.trans read ?_
  rw [UInt32.toNat_ofNat', Nat.mod_eq_of_lt small]

/-- The ids of a group are read back. -/
theorem read_services {record : ItsGroup} (done : (Source.itsGroup record).parts context = .ok image)
    (before after : Bytes) :
    HoldsArray context.view (before ++ (image ++ after)) (before.length + 20) 4 record.itsIdCount
        record.itsIdToken serviceForm ∧
      image.length = 20 + 4 * record.itsIdCount.toNat := by
  refine ⟨?_, Source.length_parts done⟩
  obtain ⟨_, fields, mappings, filled, _, rfl⟩ := Source.parts_eq_ok.mp done
  obtain ⟨ids, fetched, filled⟩ := bind_eq_ok.mp filled
  cases filled
  have apart : before ++ (Piece.encodeAll ((Source.itsGroup record).header ++
        (.word record.itsIdCount :: (ids.map fun item => .word item.itsId) ++ mappings)) ++ after) =
      (before ++ Piece.encodeAll ((Source.itsGroup record).header ++ [.word record.itsIdCount])) ++
        (Piece.encodeAll (ids.map fun item => .word item.itsId) ++
          (Piece.encodeAll mappings ++ after)) := by
    simp
  rw [apart]
  refine services_holdsArray fetched ?_ _
  simp [nodeHeaderLength]

/-- The name of a component is read back. -/
theorem read_name {record : NamedComponent}
    (done : (Source.namedComponent record).parts context = .ok image) (before after : Bytes) :
    ∃ padding, 1 ≤ padding ∧ padding ≤ 4 ∧
      let name := Utf8.encode record.objectName
      (before ++ (image ++ after)).slice? (before.length + 29) name.length = some name ∧
        (before ++ (image ++ after)).slice? (before.length + (29 + name.length)) padding =
          some (Bytes.zeros padding) ∧
        (before ++ (image ++ after)).read? (before.length + 12) 4 =
          some (29 + name.length + padding) := by
  have stated := read_mappingsAt done before after
  obtain ⟨_, fields, mappings, filled, _, rfl⟩ := Source.parts_eq_ok.mp done
  cases filled
  have least : 1 ≤ paddedLength (componentName record) - (componentName record).length := by
    unfold paddedLength
    omega
  have most : paddedLength (componentName record) - (componentName record).length ≤ 4 := by
    unfold paddedLength
    omega
  refine ⟨_, least, most, ?_, ?_, ?_⟩
  · have starts : Piece.startsAt? ((Source.namedComponent record).header ++ ([.word record.flags,
        .word record.cacheCoherent, .byte record.allocationHints, .zeros 2,
        .byte record.memoryAccessFlags, .byte record.addressSizeLimit,
        .bytes (componentName record), .zeros (paddedLength (componentName record) -
          (componentName record).length)] ++ mappings)) 29 =
        some (.bytes (componentName record)) := rfl
    exact (((Piece.standsAt_of_startsAt starts).before after).behind before).isReadAt
  · have apart : before ++ (Piece.encodeAll ((Source.namedComponent record).header ++
          ([.word record.flags, .word record.cacheCoherent, .byte record.allocationHints, .zeros 2,
            .byte record.memoryAccessFlags, .byte record.addressSizeLimit,
            .bytes (componentName record), .zeros (paddedLength (componentName record) -
              (componentName record).length)] ++ mappings)) ++ after) =
        (before ++ Piece.encodeAll ((Source.namedComponent record).header ++
          [.word record.flags, .word record.cacheCoherent, .byte record.allocationHints, .zeros 2,
            .byte record.memoryAccessFlags, .byte record.addressSizeLimit,
            .bytes (componentName record)])) ++
          (Bytes.zeros (paddedLength (componentName record) - (componentName record).length) ++
            (Piece.encodeAll mappings ++ after)) := by
      simp
    rw [apart]
    refine Bytes.slice?_middle _ ?_ (Bytes.length_zeros _)
    simp [nodeHeaderLength, componentName]
    omega
  · rw [stated]
    refine congrArg some ?_
    change nodeHeaderLength + 13 + paddedLength (componentName record) =
      29 + (componentName record).length +
        (paddedLength (componentName record) - (componentName record).length)
    unfold nodeHeaderLength
    omega

/-- The fields of a unit are sixty bytes of numbers and its interrupts. -/
theorem unitFields_eq_ok {record : SmmuV1V2} {fields : List Piece}
    (filled : (Source.smmuV1V2 record).fields context = .ok fields) :
    ∃ numbers contextInterrupts pmuInterrupts, (Piece.encodeAll numbers).length = 60 ∧
      (interrupts context record.contextInterruptCount record.contextInterruptToken).result =
        .ok contextInterrupts ∧
      Source.pmuInterrupts context record = .ok pmuInterrupts ∧
      fields = numbers ++ contextInterrupts ++ pmuInterrupts := by
  obtain ⟨contextInterrupts, first, filled⟩ := bind_eq_ok.mp filled
  obtain ⟨pmuInterrupts, second, filled⟩ := bind_eq_ok.mp filled
  refine ⟨_, contextInterrupts, pmuInterrupts, ?_, first, second, (Except.ok.inj filled).symm⟩
  simp

/-- The interrupts of a unit are read back. -/
theorem read_interrupts {record : SmmuV1V2}
    (done : (Source.smmuV1V2 record).parts context = .ok image) (before after : Bytes) :
    let pmuInterruptsAt := 76 + 8 * record.contextInterruptCount.toNat
    HoldsArray context.view (before ++ (image ++ after)) (before.length + 76) 8
        record.contextInterruptCount record.contextInterruptToken interruptForm ∧
      HoldsArray context.view (before ++ (image ++ after)) (before.length + pmuInterruptsAt) 8
        record.pmuInterruptCount record.pmuInterruptToken interruptForm ∧
      (before ++ (image ++ after)).read? (before.length + 12) 4 =
        some (pmuInterruptsAt + 8 * record.pmuInterruptCount.toNat) := by
  have stated := read_mappingsAt done before after
  obtain ⟨_, fields, mappings, filled, _, rfl⟩ := Source.parts_eq_ok.mp done
  obtain ⟨numbers, contextInterrupts, pmuInterrupts, room, first, second, rfl⟩ :=
    unitFields_eq_ok filled
  have width := length_interrupts first
  unfold interruptsLength at width
  refine ⟨?_, ?_, stated⟩
  · have apart : before ++ (Piece.encodeAll ((Source.smmuV1V2 record).header ++
          (numbers ++ contextInterrupts ++ pmuInterrupts ++ mappings)) ++ after) =
        (before ++ Piece.encodeAll ((Source.smmuV1V2 record).header ++ numbers)) ++
          (Piece.encodeAll contextInterrupts ++
            (Piece.encodeAll (pmuInterrupts ++ mappings) ++ after)) := by
      simp
    rw [apart]
    refine interrupts_holdsArray first ?_ _
    simp [nodeHeaderLength, room]
  · have apart : before ++ (Piece.encodeAll ((Source.smmuV1V2 record).header ++
          (numbers ++ contextInterrupts ++ pmuInterrupts ++ mappings)) ++ after) =
        (before ++ Piece.encodeAll ((Source.smmuV1V2 record).header ++
          (numbers ++ contextInterrupts))) ++
          (Piece.encodeAll pmuInterrupts ++ (Piece.encodeAll mappings ++ after)) := by
      simp
    rw [apart]
    refine pmuInterrupts_holdsArray second ?_ _
    simp only [List.length_append, Piece.encodeAll_append, Source.length_header, nodeHeaderLength,
      room, width]
    omega

/-- The id mappings of a node are read back. -/
theorem read_mappings (done : source.parts context = .ok image) (before after : Bytes) :
    HoldsArray context.view (before ++ (image ++ after)) (before.length + source.mappingsAt) 20
        source.mappingCount source.mappingToken mappingForm ∧
      image.length = source.mappingsAt + 20 * source.mappingCount.toNat := by
  refine ⟨?_, Source.length_parts done⟩
  obtain ⟨_, fields, mappings, filled, mapped, rfl⟩ := Source.parts_eq_ok.mp done
  have apart : before ++ (Piece.encodeAll (source.header ++ (fields ++ mappings)) ++ after) =
      (before ++ Piece.encodeAll (source.header ++ fields)) ++
        (Piece.encodeAll mappings ++ after) := by
    simp
  rw [apart]
  refine mappings_holdsArray mapped ?_ _
  rw [List.length_append, Piece.encodeAll_append, List.length_append, Source.length_header,
    Source.length_fields filled]

/-- **A node that stands in bytes** is read back there. -/
theorem isReadBack (done : source.parts context = .ok image) (before after : Bytes)
    (type : UInt8) :
    IsReadBack context.view (before ++ (image ++ after)) source
      ⟨before.length, type, image.length⟩ where
  form := by
    obtain ⟨_, fields, mappings, filled, _, rfl⟩ := Source.parts_eq_ok.mp done
    exact Form.isReadIn_of_startsAt before after (form_startsAt filled)
  services record same := by
    cases same
    exact read_services done before after
  name record same := by
    cases same
    exact read_name done before after
  interrupts record same := by
    cases same
    exact read_interrupts done before after
  mappings other := by
    have stated : source.statedMappingsAt = source.mappingsAt := by
      cases source with
      | itsGroup record => exact absurd rfl other
      | namedComponent | rootComplex | smmuV1V2 | smmuV3 | pmcg => rfl
    have read := read_mappingsAt done before after
    rw [stated] at read
    exact ⟨source.mappingsAt, read, read_mappings done before after⟩

end

/-! ### The table as a whole -/

section

variable {sources : List Source} {plan : Plan} {images : List Bytes} {context : Context}
  {front : Bytes}

/-- What holds of every image where it stands holds of all nodes that are met. -/
theorem forall₂_mets (fits : Fits sources plan)
    (drawn : List.Forall₂ (fun source image => source.parts context = .ok image) sources images)
    (start : front.length = layout.headerLength) {holds : Source → Met → Prop}
    (each : ∀ source met image, source.parts context = .ok image →
      (front ++ images.flatten).slice? met.offset met.length = some image → holds source met) :
    List.Forall₂ holds sources (mets sources plan) := by
  have same : sources.length = (mets sources plan).length := by
    have lengths : (mets sources plan).map Met.length = sources.map Source.length :=
      map_mets fits fun _ _ => rfl
    have counts := congrArg List.length lengths
    rw [List.length_map, List.length_map] at counts
    exact counts.symm
  refine List.forall₂_iff_get.mpr ⟨same, fun number inside within => ?_⟩
  have here : sources[number]? = some (sources.get ⟨number, inside⟩) :=
    List.getElem?_eq_getElem inside
  have there : (mets sources plan)[number]? = some ((mets sources plan).get ⟨number, within⟩) :=
    List.getElem?_eq_getElem within
  obtain ⟨image, made, stands⟩ := slice?_parts fits drawn start here there
  exact each _ _ image made stands

/-- Every node that is met is read back. -/
theorem forall_isReadBack (fits : Fits sources plan)
    (drawn : List.Forall₂ (fun source image => source.parts context = .ok image) sources images)
    (start : front.length = layout.headerLength) :
    List.Forall₂ (IsReadBack context.view (front ++ images.flatten)) sources
      (mets sources plan) := by
  refine forall₂_mets fits drawn start fun source met image made stands => ?_
  obtain ⟨bytes, offset, length⟩ := Bytes.apart_of_slice? stands
  have read := isReadBack made ((front ++ images.flatten).take met.offset)
    ((front ++ images.flatten).drop (met.offset + met.length)) met.type
  rw [← bytes, offset, length] at read
  exact read

end

/-- **The remapping table decodes back to the records.** Whatever a view holds and whatever is
requested: if a table is built, then a walk over it from byte 48 on meets one node for each of the
records listed, in their order, and where the node is met a reader finds all numbers of its record,
its name and its arrays. -/
theorem build_readBack (view : View) (request : TableRequest) (table : Table) :
    (kind.build request view).result = .ok table →
      ∃ (inventory : Inventory) (mets : List Met), inventory.IsListed view ∧
        LengthForm.long.walk table.bytes 48 = some mets ∧
        List.Forall₂ (IsReadBack view table.bytes) inventory.sources mets := by
  intro built
  obtain ⟨_, info, inventory, plan, images, _, listed, fits, drawn, bytes⟩ := build_eq_ok.mp built
  have start := isRegular.length_front request info (fields_eq fits)
  rw [bytes]
  exact ⟨inventory, mets inventory.sources plan, listed, walk_mets fits drawn start,
    forall_isReadBack fits drawn start⟩

/-- A group of translation services, a component with a mapping to it and a unit that counts two of
its three interrupts. -/
def furnished : Store :=
  ⟨[Entry.ofRecords ⟨1⟩ [(⟨⟨1⟩, 1, ⟨2⟩⟩ : ItsGroup)],
    Entry.ofRecords ⟨2⟩ [(⟨7⟩ : ItsIdentifier)],
    Entry.ofRecords ⟨3⟩ [({ (default : NamedComponent) with
      token := ⟨3⟩, idMappingCount := 1, idMappingToken := ⟨4⟩, objectName := "ETH0" })],
    Entry.ofRecords ⟨4⟩ [(⟨0, 15, 32, ⟨1⟩, 1⟩ : IdMapping)],
    Entry.ofRecords ⟨5⟩ [({ (default : SmmuV1V2) with
      token := ⟨5⟩, contextInterruptCount := 2, contextInterruptToken := ⟨6⟩,
      pmuInterruptCount := 1, pmuInterruptToken := ⟨7⟩ })],
    Entry.ofRecords ⟨6⟩ [(⟨40, 1⟩ : SmmuInterrupt), ⟨41, 1⟩, ⟨42, 1⟩],
    Entry.ofRecords ⟨7⟩ [(⟨50, 0⟩ : SmmuInterrupt)],
    Entry.ofRecords .null [(default : ManagerInfo)]]⟩

/-- The table of a component, a unit and a group is read back. -/
theorem build_readBack_furnished : ∃ table,
    (kind.build ⟨.iort, 0, .iort, 0, 0⟩ furnished.view).result = .ok table ∧
      ∃ (inventory : Inventory) (mets : List Met), inventory.IsListed furnished.view ∧
        LengthForm.long.walk table.bytes 48 = some mets ∧
        List.Forall₂ (IsReadBack furnished.view table.bytes) inventory.sources mets := by
  cases built : (kind.build ⟨.iort, 0, .iort, 0, 0⟩ furnished.view).result with
  | ok table => exact ⟨table, rfl, build_readBack furnished.view _ table built⟩
  | error error =>
    have fine : (kind.build ⟨.iort, 0, .iort, 0, 0⟩ furnished.view).result.isOk := by
      decide +kernel
    rw [built] at fine
    cases fine

end FirmwareTables.Iort
