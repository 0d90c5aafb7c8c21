/-
**Arrays that are counted without a token.**

A node counts the items of its arrays and says under which token they are stored. To a reader of the
repository the null token stands for any token, so what is written for an array that is counted but
has no token depends on its writer (`Trailing.filling`): zeros stand in the place of performance
interrupts and of id mappings, while the ids of a group and the context interrupts of a unit are the
first records that are stored under their object id, whatever token they belong to.

* `slice?_arrays`: the arrays in the image of a node;
* `build_untagged`: the arrays in two tables, where no more is different than records of other
  tokens;
* `build_untagged_stray`: an id that is stored for something else gets into a group without a token.
-/

import FirmwareTables.Proofs.Iort.Contents
import FirmwareTables.Proofs.Repository.Holding

namespace FirmwareTables

/-! ### Stores that differ in tagged entries -/

namespace Store

/-- Stores have the same entries apart from those under an id that have a token. -/
def AgreeUntagged (id : ObjectId) (one other : Store) : Prop :=
  (one.entries.filter fun entry => entry.id != id || entry.token.isNull) =
    other.entries.filter fun entry => entry.id != id || entry.token.isNull

variable {one other : Store} {id : ObjectId}

/-- Under all other ids, the same is found. -/
theorem AgreeUntagged.found_eq (agree : AgreeUntagged id one other) {object : ObjectId}
    (apart : object ≠ id) (token : Token) : one.found object token = other.found object token := by
  have kept : ∀ store : Store, store.found object token =
      (store.entries.filter fun entry => entry.id != id || entry.token.isNull).filter
        (Entry.isFound object token) := by
    intro store
    unfold found
    rw [List.filter_filter]
    refine List.filter_congr fun entry _ => ?_
    cases here : entry.isFound object token with
    | false => rfl
    | true =>
      have own : entry.id = object := eq_of_beq (Bool.and_eq_true_iff.mp here).1
      rw [own, bne_iff_ne.mpr apart]
      rfl
  rw [kept, kept, agree]

/-- A list of records depends on nothing but what is found. -/
theorem lists_of_found_eq {α : Type} [Record α] {records : List α}
    (same : one.found (Record.objectId α) .null = other.found (Record.objectId α) .null)
    (lists : one.view.Lists records) : other.view.Lists records := by
  have got : one.get (Record.objectId α) .null = other.get (Record.objectId α) .null := by
    unfold get
    rw [same]
  unfold View.Lists at lists ⊢
  rw [countOnly_view, getList_view] at lists ⊢
  rw [← got]
  exact lists

end Store

namespace Iort

/-! ### The arrays of a node -/

/-- What the items of an array are. -/
inductive ArrayKind where
  /-- Ids of translation services. -/
  | services
  /-- Interrupts of a unit. -/
  | interrupts
  /-- Id mappings. -/
  | mappings

namespace ArrayKind

/-- The object that the items are stored as. -/
def id : ArrayKind → ObjectId
  | services => Record.objectId ItsIdentifier
  | interrupts => Record.objectId SmmuInterrupt
  | mappings => Record.objectId IdMapping

/-- The number of bytes of an item. -/
def width : ArrayKind → Nat
  | services => 4
  | interrupts => 8
  | mappings => 20

end ArrayKind

/-- An array of a node. -/
structure Trailing where
  /-- What its items are. -/
  kind : ArrayKind
  /-- Where it starts in the node. -/
  start : Nat
  /-- The number of its items. -/
  count : UInt32
  /-- The token under which they are stored. -/
  token : Token
  /-- Whether its writer looks at the token before it reads the items. -/
  isGuarded : Bool

namespace Trailing

/-- The number of bytes of an array. -/
def length (array : Trailing) : Nat := array.kind.width * array.count.toNat

/-- Items are counted, but not under which token they are stored. -/
def IsUntagged (array : Trailing) : Prop := array.count ≠ 0 ∧ array.token = .null

/-- What is written for an array without a token. -/
def filling (store : Store) (array : Trailing) : Bytes :=
  if array.isGuarded then Bytes.zeros array.length
  else (store.payload array.kind.id).take array.length

theorem filling_guarded {array : Trailing} (guarded : array.isGuarded = true) (store : Store) :
    array.filling store = Bytes.zeros array.length :=
  if_pos guarded

end Trailing

namespace Source

/-- The arrays of a node, in order. -/
def trailingArrays : Source → List Trailing
  | itsGroup record => [⟨.services, 20, record.itsIdCount, record.itsIdToken, false⟩]
  | smmuV1V2 record =>
    [⟨.interrupts, 76, record.contextInterruptCount, record.contextInterruptToken, false⟩,
      ⟨.interrupts, 76 + 8 * record.contextInterruptCount.toNat, record.pmuInterruptCount,
        record.pmuInterruptToken, true⟩,
      ⟨.mappings, unitMappingsAt record, record.idMappingCount, record.idMappingToken, true⟩]
  | source =>
    [⟨.mappings, source.mappingsAt, source.mappingCount, source.mappingToken, true⟩]

end Source

/-! ### Where items are written -/

section

variable {context : Context} {store : Store} {count : UInt32}

/-- The first records of an array are the first bytes of what is stored. -/
theorem take_payload {α : Type} [Record α] (spelled : HaveOneSpelling (Record.fields α))
    {width : Nat} (each : ∀ record : α, (Record.encode record).length = width)
    (shown : context.view = store.view) {what : String} {items : List α}
    (fetched : (fetchArray α context .null count what).result = .ok items) :
    items.flatMap Record.encode =
      (store.payload (Record.objectId α)).take (width * count.toNat) := by
  obtain ⟨stored, listed, enough, rfl⟩ := fetchArray_eq_ok.mp fetched
  rw [shown] at listed
  have front : ((stored.take count.toNat).flatMap Record.encode).length = width * count.toNat := by
    rw [List.length_flatMap, List.map_congr_left fun record _ => each record, List.map_const',
      List.sum_replicate_nat, List.length_take, Nat.min_eq_left enough, Nat.mul_comm]
  have apart : stored.flatMap Record.encode = (stored.take count.toNat).flatMap Record.encode ++
      (stored.drop count.toNat).flatMap Record.encode := by
    rw [← List.flatMap_append, List.take_append_drop]
  rw [Store.payload_of_getList spelled listed, apart, ← front]
  exact List.take_left.symm

theorem interrupts_payload (counted : count ≠ 0) (shown : context.view = store.view)
    {pieces : List Piece} (done : (interrupts context count .null).result = .ok pieces) :
    Piece.encodeAll pieces =
      (store.payload (Record.objectId SmmuInterrupt)).take (8 * count.toNat) := by
  unfold interrupts at done
  rw [if_neg counted, Reading.result_bind, bind_eq_ok] at done
  obtain ⟨items, fetched, done⟩ := done
  cases done
  have each : ∀ item : SmmuInterrupt, (Record.encode item).length = 8 := fun _ => rfl
  rw [← take_payload (by decide) each shown fetched]
  unfold Piece.encodeAll
  rw [List.flatMap_assoc]
  rfl

theorem services_payload {record : ItsGroup} (counted : record.itsIdCount ≠ 0)
    (unnamed : record.itsIdToken = .null) (shown : context.view = store.view)
    {ids : List ItsIdentifier} (done : Source.itsIds context record = .ok ids) :
    Piece.encodeAll (ids.map fun item => .word item.itsId) =
      (store.payload (Record.objectId ItsIdentifier)).take (4 * record.itsIdCount.toNat) := by
  unfold Source.itsIds at done
  rw [if_neg counted, unnamed] at done
  have each : ∀ item : ItsIdentifier, (Record.encode item).length = 4 := fun _ => rfl
  rw [← take_payload (by decide) each shown done]
  unfold Piece.encodeAll
  rw [List.flatMap_map]
  rfl

end

/-! ### The image of a node -/

section

variable {context : Context} {store : Store} {source : Source} {image : Bytes}

/-- Zeros stand in the place of id mappings without a token. -/
theorem slice?_mappings (done : source.parts context = .ok image)
    (unnamed : source.mappingToken = .null) :
    image.slice? source.mappingsAt (20 * source.mappingCount.toNat) =
      some (Bytes.zeros (20 * source.mappingCount.toNat)) := by
  obtain ⟨_, fields, mappings, filled, mapped, rfl⟩ := Source.parts_eq_ok.mp done
  rw [unnamed, idMappings_of_null (.inr rfl)] at mapped
  cases mapped
  have front : (Piece.encodeAll (source.header ++ fields)).length = source.mappingsAt := by
    rw [Piece.encodeAll_append, List.length_append, Source.length_header,
      Source.length_fields filled]
  have apart : Piece.encodeAll (source.header ++
        (fields ++ [.zeros (mappingsLength source.mappingCount)])) =
      Piece.encodeAll (source.header ++ fields) ++
        (Bytes.zeros (20 * source.mappingCount.toNat) ++ []) := by
    simp [mappingsLength]
  rw [apart]
  exact Bytes.slice?_middle [] front (Bytes.length_zeros _)

theorem slice?_services {record : ItsGroup}
    (done : (Source.itsGroup record).parts context = .ok image) (counted : record.itsIdCount ≠ 0)
    (unnamed : record.itsIdToken = .null) (shown : context.view = store.view) :
    image.slice? 20 (4 * record.itsIdCount.toNat) =
      some ((store.payload (Record.objectId ItsIdentifier)).take
        (4 * record.itsIdCount.toNat)) := by
  obtain ⟨_, fields, mappings, filled, _, rfl⟩ := Source.parts_eq_ok.mp done
  obtain ⟨ids, fetched, filled⟩ := bind_eq_ok.mp filled
  cases filled
  have apart : Piece.encodeAll ((Source.itsGroup record).header ++
        (.word record.itsIdCount :: (ids.map fun item => .word item.itsId) ++ mappings)) =
      Piece.encodeAll ((Source.itsGroup record).header ++ [.word record.itsIdCount]) ++
        (Piece.encodeAll (ids.map fun item => .word item.itsId) ++ Piece.encodeAll mappings) := by
    simp
  rw [apart, ← services_payload counted unnamed shown fetched]
  refine Bytes.slice?_middle _ (by simp [nodeHeaderLength]) ?_
  have each : ∀ item : ItsIdentifier, (Piece.encodeAll [.word item.itsId]).length = 4 :=
    fun _ => by simp
  rw [List.map_eq_flatMap, Piece.length_flatMap each, Source.length_itsIds fetched]

theorem slice?_contextInterrupts {record : SmmuV1V2}
    (done : (Source.smmuV1V2 record).parts context = .ok image)
    (counted : record.contextInterruptCount ≠ 0) (unnamed : record.contextInterruptToken = .null)
    (shown : context.view = store.view) :
    image.slice? 76 (8 * record.contextInterruptCount.toNat) =
      some ((store.payload (Record.objectId SmmuInterrupt)).take
        (8 * record.contextInterruptCount.toNat)) := by
  obtain ⟨_, fields, mappings, filled, _, rfl⟩ := Source.parts_eq_ok.mp done
  obtain ⟨numbers, contextInterrupts, pmuInterrupts, room, first, _, rfl⟩ := unitFields_eq_ok filled
  rw [unnamed] at first
  have apart : Piece.encodeAll ((Source.smmuV1V2 record).header ++
        (numbers ++ contextInterrupts ++ pmuInterrupts ++ mappings)) =
      Piece.encodeAll ((Source.smmuV1V2 record).header ++ numbers) ++
        (Piece.encodeAll contextInterrupts ++ Piece.encodeAll (pmuInterrupts ++ mappings)) := by
    simp
  rw [apart, ← interrupts_payload counted shown first]
  exact Bytes.slice?_middle _ (by simp [nodeHeaderLength, room]) (length_interrupts first)

/-- Zeros stand in the place of performance interrupts without a token. -/
theorem slice?_pmuInterrupts {record : SmmuV1V2}
    (done : (Source.smmuV1V2 record).parts context = .ok image)
    (unnamed : record.pmuInterruptToken = .null) :
    image.slice? (76 + 8 * record.contextInterruptCount.toNat)
        (8 * record.pmuInterruptCount.toNat) =
      some (Bytes.zeros (8 * record.pmuInterruptCount.toNat)) := by
  obtain ⟨_, fields, mappings, filled, _, rfl⟩ := Source.parts_eq_ok.mp done
  obtain ⟨numbers, contextInterrupts, pmuInterrupts, room, first, second, rfl⟩ :=
    unitFields_eq_ok filled
  unfold Source.pmuInterrupts at second
  rw [unnamed] at second
  cases second
  have width := length_interrupts first
  unfold interruptsLength at width
  have apart : Piece.encodeAll ((Source.smmuV1V2 record).header ++ (numbers ++ contextInterrupts ++
        [.zeros (interruptsLength record.pmuInterruptCount)] ++ mappings)) =
      Piece.encodeAll ((Source.smmuV1V2 record).header ++ (numbers ++ contextInterrupts)) ++
        (Bytes.zeros (8 * record.pmuInterruptCount.toNat) ++ Piece.encodeAll mappings) := by
    simp [interruptsLength]
  rw [apart]
  refine Bytes.slice?_middle _ ?_ (Bytes.length_zeros _)
  simp only [List.length_append, Piece.encodeAll_append, Source.length_header, nodeHeaderLength,
    room, width]
  omega

/-- **The arrays in the image of a node** that are counted without a token. -/
theorem slice?_arrays (shown : context.view = store.view)
    (done : source.parts context = .ok image) :
    ∀ array ∈ source.trailingArrays, array.IsUntagged →
      image.slice? array.start array.length = some (array.filling store) := by
  cases source with
  -- The ids of a group and the context interrupts are read in spite of the null token.
  | itsGroup record =>
    unfold Source.trailingArrays
    rw [List.forall_mem_singleton]
    rintro ⟨counted, unnamed⟩
    exact slice?_services done counted unnamed shown
  | smmuV1V2 record =>
    unfold Source.trailingArrays
    rw [List.forall_mem_cons, List.forall_mem_cons, List.forall_mem_singleton]
    refine ⟨?_, ?_, ?_⟩
    · rintro ⟨counted, unnamed⟩
      exact slice?_contextInterrupts done counted unnamed shown
    · rintro ⟨_, unnamed⟩
      exact slice?_pmuInterrupts done unnamed
    · rintro ⟨_, unnamed⟩
      exact slice?_mappings done unnamed
  | namedComponent | rootComplex | smmuV3 | pmcg =>
    unfold Source.trailingArrays
    rw [List.forall_mem_singleton]
    rintro ⟨_, unnamed⟩
    exact slice?_mappings done unnamed

end

/-! ### Two tables -/

/-- The objects that nodes are stored as. -/
def nodeObjects : List ObjectId :=
  [Record.objectId ItsGroup, Record.objectId NamedComponent, Record.objectId RootComplex,
    Record.objectId SmmuV1V2, Record.objectId SmmuV3, Record.objectId Pmcg]

theorem ArrayKind.not_mem_nodeObjects (kind : ArrayKind) : kind.id ∉ nodeObjects := by
  cases kind <;> decide

/-- The nodes of both stores are the same. -/
theorem Inventory.IsListed.of_agree {one other : Store} {kind : ArrayKind} {inventory : Inventory}
    (agree : Store.AgreeUntagged kind.id one other) (listed : inventory.IsListed one.view) :
    inventory.IsListed other.view := by
  have same : ∀ id ∈ nodeObjects, one.found id .null = other.found id .null := fun id inside =>
    agree.found_eq (fun here => kind.not_mem_nodeObjects (here ▸ inside)) .null
  simp only [nodeObjects, List.forall_mem_cons] at same
  obtain ⟨itsGroups, namedComponents, rootComplexes, smmuV1V2s, smmuV3s, pmcgs, -⟩ := same
  exact ⟨Store.lists_of_found_eq itsGroups listed.itsGroups,
    Store.lists_of_found_eq namedComponents listed.namedComponents,
    Store.lists_of_found_eq rootComplexes listed.rootComplexes,
    Store.lists_of_found_eq smmuV1V2s listed.smmuV1V2s,
    Store.lists_of_found_eq smmuV3s listed.smmuV3s, Store.lists_of_found_eq pmcgs listed.pmcgs⟩

/-- The arrays without a token in a table, node by node. -/
theorem forall_filled {sources : List Source} {plan : Plan} {images : List Bytes}
    {context : Context} {front : Bytes} {store : Store} (fits : Fits sources plan)
    (drawn : List.Forall₂ (fun source image => source.parts context = .ok image) sources images)
    (start : front.length = layout.headerLength) (shown : context.view = store.view) :
    List.Forall₂ (fun source met => ∀ array ∈ source.trailingArrays, array.IsUntagged →
      (front ++ images.flatten).slice? (met.offset + array.start) array.length =
        some (array.filling store)) sources (mets sources plan) := by
  refine forall₂_mets fits drawn start fun source met image made stands array inside untagged => ?_
  have written := slice?_arrays shown made array inside untagged
  rw [Bytes.slice?_slice stands (Bytes.inside_of_slice? written).1, written]

/-- What two tables have where an array is counted without a token. -/
structure Trailing.IsCompared (array : Trailing) (one other : Store) (bytes others : Bytes)
    (place : Nat) : Prop where
  /-- One table has what is written for the array with one store. -/
  first : bytes.slice? place array.length = some (array.filling one)
  /-- The other has what is written for it with the other store. -/
  second : others.slice? place array.length = some (array.filling other)
  /-- Both are the same if the writer of the array looks at the token. -/
  guarded : array.isGuarded = true →
    bytes.slice? place array.length = others.slice? place array.length

/-- **Arrays without a token.** Whatever is requested: if two stores are the same apart from entries
with a token under the object id of a kind of arrays, and a table is built from each of them, then
both tables have the same nodes at the same places. Where a node counts items of such an array and
has no token for them, each table has what its store makes of it: zeros if the writer of the array
looks at the token, and else the first bytes of all that is stored under the object id. -/
theorem build_untagged (changed : ArrayKind) (one other : Store) (request : TableRequest)
    (first second : Table) (agree : Store.AgreeUntagged changed.id one other)
    (built : (kind.build request one.view).result = .ok first)
    (again : (kind.build request other.view).result = .ok second) :
    ∃ (inventory : Inventory) (mets : List Met), inventory.IsListed one.view ∧
      inventory.IsListed other.view ∧ LengthForm.long.walk first.bytes 48 = some mets ∧
      LengthForm.long.walk second.bytes 48 = some mets ∧
      List.Forall₂ (fun source met => ∀ array ∈ source.trailingArrays, array.kind = changed →
        array.IsUntagged →
          array.IsCompared one other first.bytes second.bytes (met.offset + array.start))
        inventory.sources mets := by
  obtain ⟨_, info, inventory, plan, images, _, listed, fits, drawn, bytes⟩ := build_eq_ok.mp built
  obtain ⟨_, info', inventory', plan', images', _, listed', fits', drawn', bytes'⟩ :=
    build_eq_ok.mp again
  -- Nodes are all that planning looks at, and both stores have the same.
  have both := listed.of_agree agree
  obtain rfl := both.unique listed'
  obtain rfl : plan = plan' := Except.ok.inj
    ((plan_eq_ok.mpr ⟨inventory, listed, fits⟩).symm.trans
      (plan_eq_ok.mpr ⟨inventory, listed, fits'⟩))
  have start := isRegular.length_front request info (fields_eq fits)
  have start' := isRegular.length_front request info' (fields_eq fits)
  rw [bytes, bytes']
  refine ⟨inventory, mets inventory.sources plan, listed, both, walk_mets fits drawn start,
    walk_mets fits drawn' start', ?_⟩
  refine (forall_filled fits drawn start rfl).mp (fun source met each filled array inside _
    untagged => ?_) (forall_filled fits drawn' start' rfl)
  have one_eq := each array inside untagged
  have other_eq := filled array inside untagged
  refine ⟨one_eq, other_eq, fun guarded => ?_⟩
  rw [one_eq, other_eq, array.filling_guarded guarded, array.filling_guarded guarded]

/-- A group that counts an id without a token, and an id that is stored for something else. -/
def stray (service : UInt32) : Store :=
  ⟨[Entry.ofRecords ⟨1⟩ [(⟨⟨1⟩, 1, .null⟩ : ItsGroup)],
    Entry.ofRecords ⟨2⟩ [(⟨service⟩ : ItsIdentifier)],
    Entry.ofRecords .null [(default : ManagerInfo)]]⟩

theorem agree_stray (one other : UInt32) :
    Store.AgreeUntagged ArrayKind.services.id (stray one) (stray other) := by
  rfl

def strayNodes : Inventory := ⟨[⟨⟨1⟩, 1, .null⟩], [], [], [], [], []⟩

theorem isListed_stray (service : UInt32) : strayNodes.IsListed (stray service).view where
  itsGroups := Store.lists_of_finds ⟨[(⟨1⟩, [⟨⟨1⟩, 1, .null⟩])], rfl, by decide, rfl⟩
    (Record.areReadable (by decide) _) (by decide)
  namedComponents := ⟨rfl, absurd rfl⟩
  rootComplexes := ⟨rfl, absurd rfl⟩
  smmuV1V2s := ⟨rfl, absurd rfl⟩
  smmuV3s := ⟨rfl, absurd rfl⟩
  pmcgs := ⟨rfl, absurd rfl⟩

/-- The table of such a store. -/
def strayTable (service : UInt32) : Table :=
  match (kind.build ⟨.iort, 0, .iort, 0, 0⟩ (stray service).view).result with
  | .ok table => table
  | .error _ => ⟨[]⟩

/-- What `build_untagged` says of a group without a token. -/
theorem build_untagged_services :
    Store.AgreeUntagged ArrayKind.services.id (stray 0) (stray 7) ∧
      (kind.build ⟨.iort, 0, .iort, 0, 0⟩ (stray 0).view).result = .ok (strayTable 0) ∧
      (kind.build ⟨.iort, 0, .iort, 0, 0⟩ (stray 7).view).result = .ok (strayTable 7) ∧
      ∃ (inventory : Inventory) (mets : List Met), inventory.IsListed (stray 0).view ∧
        inventory.IsListed (stray 7).view ∧
        LengthForm.long.walk (strayTable 0).bytes 48 = some mets ∧
        LengthForm.long.walk (strayTable 7).bytes 48 = some mets ∧
        List.Forall₂ (fun source met => ∀ array ∈ source.trailingArrays, array.kind = .services →
          array.IsUntagged → array.IsCompared (stray 0) (stray 7) (strayTable 0).bytes
            (strayTable 7).bytes (met.offset + array.start)) inventory.sources mets := by
  have built : (kind.build ⟨.iort, 0, .iort, 0, 0⟩ (stray 0).view).result =
      .ok (strayTable 0) := by
    decide +kernel
  have again : (kind.build ⟨.iort, 0, .iort, 0, 0⟩ (stray 7).view).result =
      .ok (strayTable 7) := by
    decide +kernel
  exact ⟨agree_stray 0 7, built, again,
    build_untagged .services (stray 0) (stray 7) _ _ _ (agree_stray 0 7) built again⟩

/-- **An id of something else** gets into a group that has no token for its ids: the bytes of the
array are others where another id is stored with a token. -/
theorem build_untagged_stray :
    Store.AgreeUntagged ArrayKind.services.id (stray 0) (stray 7) ∧
      (kind.build ⟨.iort, 0, .iort, 0, 0⟩ (stray 0).view).result = .ok (strayTable 0) ∧
      (kind.build ⟨.iort, 0, .iort, 0, 0⟩ (stray 7).view).result = .ok (strayTable 7) ∧
      ∃ source array, strayNodes.sources = [source] ∧ source.trailingArrays = [array] ∧
        strayNodes.IsListed (stray 0).view ∧ strayNodes.IsListed (stray 7).view ∧
        array.kind = .services ∧ array.IsUntagged ∧
        LengthForm.long.walk (strayTable 0).bytes 48 = some [⟨48, 0, 24⟩] ∧
        LengthForm.long.walk (strayTable 7).bytes 48 = some [⟨48, 0, 24⟩] ∧
        (strayTable 0).bytes.slice? (48 + array.start) array.length = some [0, 0, 0, 0] ∧
        (strayTable 7).bytes.slice? (48 + array.start) array.length = some [7, 0, 0, 0] := by
  refine ⟨agree_stray 0 7, by decide +kernel, by decide +kernel, .itsGroup ⟨⟨1⟩, 1, .null⟩,
    ⟨.services, 20, 1, .null, false⟩, rfl, rfl, isListed_stray 0, isListed_stray 7, rfl, ?_⟩
  exact ⟨⟨by decide, rfl⟩, by decide +kernel, by decide +kernel, by decide +kernel,
    by decide +kernel⟩

end Iort

end FirmwareTables
