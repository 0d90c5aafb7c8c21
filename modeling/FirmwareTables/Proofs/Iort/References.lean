/-
**References between the nodes of the remapping table.**

Id mappings and groups of counters refer to nodes by token. The `carrier?` of a token is the first
source that carries it; nothing carries the null token. In a table that is built every reference
that counts leads to the node of its carrier, wherever the two nodes lie (`IsLinked`), and a table
is built exactly if the request, the vendor's record and the plan are in order and every source
finds all it refers to (`IsComplete`).

* `resolve_eq_ok`: the places fixed by the plan are those of the carriers;
* `mapping_at`: where the bytes of an id mapping stand in its array;
* `build_references`: both directions.
-/

import FirmwareTables.Proofs.Iort.Inventory
import FirmwareTables.Proofs.Layout.Walking

namespace FirmwareTables.Iort

/-- The first source that carries a token. -/
def carrier? (sources : List Source) (token : Token) : Option Nat :=
  if token.isNull then none else sources.findIdx? fun source => source.token == token

theorem carrier?_isSome {sources : List Source} {token : Token} (some : token.isNull = false)
    (carried : ∃ source ∈ sources, source.token = token) : (carrier? sources token).isSome := by
  obtain ⟨source, inside, same⟩ := carried
  unfold carrier?
  rw [some, if_neg Bool.false_ne_true, List.findIdx?_isSome]
  exact List.any_eq_true.mpr ⟨source, inside, beq_iff_eq.mpr same⟩

theorem carrier?_eq_some {sources : List Source} {token : Token} {number : Nat}
    (found : carrier? sources token = some number) :
    ∃ source, sources[number]? = some source ∧ source.token = token := by
  unfold carrier? at found
  split at found
  · cases found
  · obtain ⟨inside, same, _⟩ := List.findIdx?_eq_some_iff_getElem.mp found
    exact ⟨_, List.getElem?_eq_getElem inside, eq_of_beq same⟩

/-- A number in a table is the offset of the first node that carries a token. -/
def PointsTo (bytes : Bytes) (sources : List Source) (mets : List Met) (place : Nat)
    (token : Token) : Prop :=
  ∃ number target, carrier? sources token = some number ∧ mets[number]? = some target ∧
    (bytes.read32? place).map UInt32.toNat = some target.offset

/-- Every reference that counts leads to the first node that carries its token. -/
structure IsLinked (view : View) (bytes : Bytes) (sources : List Source) (mets : List Met) :
    Prop where
  /-- Each id mapping that is counted, of a node with a token for them. -/
  mappings : ∀ (number : Nat) source met, sources[number]? = some source →
    mets[number]? = some met → source.mappingCount ≠ 0 → source.mappingToken.isNull = false →
    ∃ stored : List IdMapping, (view.getList IdMapping source.mappingToken).result = .ok stored ∧
      ∀ item < source.mappingCount.toNat, ∃ mapping, stored[item]? = some mapping ∧
        PointsTo bytes sources mets (met.offset + (source.mappingsAt + (20 * item + 12)))
          mapping.outputReferenceToken
  /-- Each group of counters. -/
  counters : ∀ (number : Nat) record met, sources[number]? = some (.pmcg record) →
    mets[number]? = some met → PointsTo bytes sources mets (met.offset + 28) record.referenceToken

/-- A view stores at least as many items of an array as are counted. -/
def HasItems (α : Type) [Record α] (view : View) (token : Token) (count : UInt32) : Prop :=
  ∃ stored : List α, (view.getList α token).result = .ok stored ∧ count.toNat ≤ stored.length

namespace Source

/-- The arrays of a source other than its id mappings are there. -/
def HasArrays (view : View) : Source → Prop
  | itsGroup record =>
    record.itsIdCount ≠ 0 → HasItems ItsIdentifier view record.itsIdToken record.itsIdCount
  | smmuV1V2 record =>
    (record.contextInterruptCount ≠ 0 →
      HasItems SmmuInterrupt view record.contextInterruptToken record.contextInterruptCount) ∧
    (record.pmuInterruptCount ≠ 0 → record.pmuInterruptToken.isNull = false →
      HasItems SmmuInterrupt view record.pmuInterruptToken record.pmuInterruptCount)
  | _ => True

/-- The token that a group of counters refers to. -/
def reference? : Source → Option Token
  | pmcg record => some record.referenceToken
  | _ => none

/-- A source finds all that it refers to. -/
structure IsComplete (view : View) (sources : List Source) (source : Source) : Prop where
  /-- Its arrays are there. -/
  arrays : source.HasArrays view
  /-- Its id mappings are there, and each that counts refers to a node. -/
  mappings : source.mappingCount ≠ 0 → source.mappingToken.isNull = false →
    ∃ stored : List IdMapping, (view.getList IdMapping source.mappingToken).result = .ok stored ∧
      source.mappingCount.toNat ≤ stored.length ∧
      ∀ mapping ∈ stored.take source.mappingCount.toNat,
        (carrier? sources mapping.outputReferenceToken).isSome
  /-- If it is a group of counters, it refers to a node. -/
  reference : ∀ token ∈ source.reference?, (carrier? sources token).isSome

end Source

/-! ### Resolving -/

section

variable {sources : List Source} {plan : Plan} {token : Token}

/-- **A token is resolved** to the place of its carrier. -/
theorem resolve_eq_ok (fits : Fits sources plan) {offset : Nat} :
    plan.index.resolve token = .ok offset ↔
      ∃ number place, carrier? sources token = some number ∧
        plan.placed[number]? = some place ∧ place.entry.offset = offset := by
  have tokens : (plan.index.findIdx? fun entry => entry.token == token) =
      sources.findIdx? fun source => source.token == token := by
    have same := congrArg (fun tokens => tokens.findIdx? (· == token)) fits.2.tokens_eq
    simp only [List.findIdx?_map, Function.comp_def, Source.token_node] at same
    rw [Plan.index, List.findIdx?_map]
    exact same
  rw [Index.resolve_eq_ok, tokens]
  unfold carrier? Plan.index
  simp only [List.getElem?_map, Option.map_eq_some_iff]
  constructor
  · rintro ⟨named, number, _, found, ⟨place, here, rfl⟩, rfl⟩
    exact ⟨number, place, by rw [named]; exact found, here, rfl⟩
  · rintro ⟨number, place, found, here, rfl⟩
    cases null : token.isNull with
    | true =>
      rw [null] at found
      cases found
    | false =>
      rw [null] at found
      exact ⟨rfl, number, _, found, ⟨place, here, rfl⟩, rfl⟩

/-- A token can be resolved exactly if something carries it. -/
theorem exists_resolve (fits : Fits sources plan) :
    (∃ offset, plan.index.resolve token = .ok offset) ↔ (carrier? sources token).isSome := by
  rw [Option.isSome_iff_exists]
  constructor
  · rintro ⟨offset, resolved⟩
    obtain ⟨number, _, found, _⟩ := (resolve_eq_ok fits).mp resolved
    exact ⟨number, found⟩
  · rintro ⟨number, found⟩
    obtain ⟨source, here, _⟩ := carrier?_eq_some found
    have inside := (List.getElem?_eq_some_iff.mp here).1
    rw [← fits.length_eq] at inside
    exact ⟨_, (resolve_eq_ok fits).mpr
      ⟨number, _, found, List.getElem?_eq_getElem inside, rfl⟩⟩

end

/-! ### What has to be there -/

section

variable {context : Context} {sources : List Source} {plan : Plan}

theorem exists_fetchArray {α : Type} [Record α] {token : Token} {count : UInt32} {what : String} :
    (∃ items, (fetchArray α context token count what).result = .ok items) ↔
      HasItems α context.view token count := by
  simp only [fetchArray_eq_ok]
  constructor
  · rintro ⟨_, stored, listed, enough, _⟩
    exact ⟨stored, listed, enough⟩
  · rintro ⟨stored, listed, enough⟩
    exact ⟨_, stored, listed, enough, rfl⟩

theorem exists_interrupts {token : Token} {count : UInt32} :
    (∃ pieces, (interrupts context count token).result = .ok pieces) ↔
      (count ≠ 0 → HasItems SmmuInterrupt context.view token count) := by
  unfold interrupts
  by_cases absent : count = 0
  · rw [if_pos absent]
    exact ⟨fun _ counted => absurd absent counted, fun _ => ⟨_, rfl⟩⟩
  · rw [if_neg absent, ← exists_fetchArray]
    simp only [Reading.result_bind, bind_eq_ok]
    constructor
    · rintro ⟨_, items, fetched, _⟩ _
      exact ⟨items, fetched⟩
    · intro found
      obtain ⟨items, fetched⟩ := found absent
      exact ⟨_, items, fetched, rfl⟩

theorem exists_itsIds {record : ItsGroup} :
    (∃ ids, Source.itsIds context record = .ok ids) ↔
      (record.itsIdCount ≠ 0 →
        HasItems ItsIdentifier context.view record.itsIdToken record.itsIdCount) := by
  unfold Source.itsIds
  by_cases absent : record.itsIdCount = 0
  · rw [if_pos absent]
    exact ⟨fun _ counted => absurd absent counted, fun _ => ⟨_, rfl⟩⟩
  · rw [if_neg absent, exists_fetchArray]
    exact ⟨fun found _ => found, fun found => found absent⟩

theorem exists_pmuInterrupts {record : SmmuV1V2} :
    (∃ pieces, Source.pmuInterrupts context record = .ok pieces) ↔
      (record.pmuInterruptCount ≠ 0 → record.pmuInterruptToken.isNull = false →
        HasItems SmmuInterrupt context.view record.pmuInterruptToken
          record.pmuInterruptCount) := by
  unfold Source.pmuInterrupts
  cases unnamed : record.pmuInterruptToken.isNull with
  | true => exact ⟨fun _ _ named => (nomatch named), fun _ => ⟨_, rfl⟩⟩
  | false =>
    rw [if_neg Bool.false_ne_true, exists_interrupts]
    exact ⟨fun found counted _ => found counted, fun found counted => found counted rfl⟩

theorem exists_idMappings (fits : Fits sources plan) (same : context.index = plan.index)
    {count : UInt32} {token : Token} :
    (∃ pieces, (idMappings context count token).result = .ok pieces) ↔
      (count ≠ 0 → token.isNull = false →
        ∃ stored : List IdMapping, (context.view.getList IdMapping token).result = .ok stored ∧
          count.toNat ≤ stored.length ∧
          ∀ mapping ∈ stored.take count.toNat,
            (carrier? sources mapping.outputReferenceToken).isSome) := by
  by_cases absent : count = 0 ∨ token.isNull
  · rw [idMappings_of_null absent]
    refine ⟨fun _ counted named => ?_, fun _ => ⟨_, rfl⟩⟩
    rcases absent with absent | absent
    · exact False.elim (counted absent)
    · rw [named] at absent
      cases absent
  · rw [not_or, Bool.not_eq_true] at absent
    have each : ∀ mapping, (∃ pieces, idMapping context mapping = .ok pieces) ↔
        (carrier? sources mapping.outputReferenceToken).isSome := by
      intro mapping
      rw [← exists_resolve fits, ← same]
      simp only [idMapping_eq_ok]
      constructor
      · rintro ⟨_, target, resolved, _⟩
        exact ⟨target, resolved⟩
      · rintro ⟨target, resolved⟩
        exact ⟨_, target, resolved, rfl⟩
    simp only [idMappings_eq_ok absent.1 absent.2, ← each, ← exists_forall₂]
    constructor
    · rintro ⟨_, stored, listed, enough, made, resolved, _⟩ _ _
      exact ⟨stored, listed, enough, made, resolved⟩
    · intro found
      obtain ⟨stored, listed, enough, made, resolved⟩ := found absent.1 absent.2
      exact ⟨_, stored, listed, enough, made, resolved, rfl⟩

theorem exists_fields (fits : Fits sources plan) (same : context.index = plan.index)
    {source : Source} :
    (∃ pieces, source.fields context = .ok pieces) ↔
      source.HasArrays context.view ∧
        ∀ token ∈ source.reference?, (carrier? sources token).isSome := by
  cases source with
  | itsGroup record =>
    have arrays : (Source.itsGroup record).HasArrays context.view ↔
        ∃ ids, Source.itsIds context record = .ok ids := exists_itsIds.symm
    rw [arrays]
    unfold Source.fields
    simp only [bind_eq_ok]
    constructor
    · rintro ⟨_, ids, fetched, _⟩
      exact ⟨⟨ids, fetched⟩, fun _ absurd => nomatch absurd⟩
    · rintro ⟨⟨ids, fetched⟩, _⟩
      exact ⟨_, ids, fetched, rfl⟩
  | smmuV1V2 record =>
    have arrays : (Source.smmuV1V2 record).HasArrays context.view ↔
        (∃ pieces, (interrupts context record.contextInterruptCount
          record.contextInterruptToken).result = .ok pieces) ∧
        ∃ pieces, Source.pmuInterrupts context record = .ok pieces := by
      rw [exists_interrupts, exists_pmuInterrupts]
      rfl
    rw [arrays]
    unfold Source.fields
    simp only [bind_eq_ok]
    constructor
    · rintro ⟨_, first, fetched, second, filled, _⟩
      exact ⟨⟨⟨first, fetched⟩, ⟨second, filled⟩⟩, fun _ absurd => nomatch absurd⟩
    · rintro ⟨⟨⟨first, fetched⟩, ⟨second, filled⟩⟩, _⟩
      exact ⟨_, first, fetched, second, filled, rfl⟩
  | pmcg record =>
    have reference : (∀ token ∈ (Source.pmcg record).reference?,
        (carrier? sources token).isSome) ↔ (carrier? sources record.referenceToken).isSome := by
      unfold Source.reference?
      exact ⟨fun all => all _ rfl, fun found _ here => by cases here; exact found⟩
    rw [reference, ← exists_resolve fits, ← same]
    unfold Source.fields Source.HasArrays
    simp only [bind_eq_ok]
    constructor
    · rintro ⟨_, target, resolved, _⟩
      exact ⟨trivial, target, resolved⟩
    · rintro ⟨_, target, resolved⟩
      exact ⟨_, target, resolved, rfl⟩
  | namedComponent | rootComplex | smmuV3 =>
    exact ⟨fun _ => ⟨trivial, fun _ absurd => nomatch absurd⟩, fun _ => ⟨_, rfl⟩⟩

/-- **A node can be written** exactly if its source finds all that it refers to. -/
theorem exists_parts (fits : Fits sources plan) (same : context.index = plan.index)
    {source : Source} (short : source.length ≤ 65535) :
    (∃ image, source.parts context = .ok image) ↔ source.IsComplete context.view sources := by
  have filled := @exists_fields _ _ _ fits same source
  have mapped := @exists_idMappings _ _ _ fits same source.mappingCount
    source.mappingToken
  simp only [Source.parts_eq_ok]
  constructor
  · rintro ⟨_, _, fields, mappings, first, second, _⟩
    obtain ⟨arrays, reference⟩ := filled.mp ⟨fields, first⟩
    exact ⟨arrays, mapped.mp ⟨mappings, second⟩, reference⟩
  · intro complete
    obtain ⟨fields, first⟩ := filled.mpr ⟨complete.arrays, complete.reference⟩
    obtain ⟨mappings, second⟩ := mapped.mpr complete.mappings
    exact ⟨_, short, fields, mappings, first, second, rfl⟩

end

/-! ### Where a reference is written -/

/-- The offset of an id mapping stands behind those before it and three words of its own. -/
theorem mapping_at {context : Context} {mappings : List IdMapping} {made : List (List Piece)}
    (resolved : List.Forall₂ (fun mapping pieces => idMapping context mapping = .ok pieces)
      mappings made) {item : Nat} {mapping : IdMapping} (here : mappings[item]? = some mapping) :
    ∃ target before behind, context.index.resolve mapping.outputReferenceToken = .ok target ∧
      before.length = 20 * item + 12 ∧
      Piece.encodeAll made.flatten =
        before ++ ((Piece.word (UInt32.ofNat target)).encode ++ behind) := by
  induction resolved generalizing item with
  | nil => cases here
  | @cons first pieces mappings made done _ ih =>
    obtain ⟨target, found, rfl⟩ := idMapping_eq_ok.mp done
    rw [List.flatten_cons, Piece.encodeAll_append]
    cases item with
    | zero =>
      cases here
      refine ⟨target,
        Piece.encodeAll [.word mapping.inputBase, .word mapping.numIds, .word mapping.outputBase],
        Piece.encodeAll [.word mapping.flags] ++ Piece.encodeAll made.flatten, found, by simp, ?_⟩
      simp
    | succ item =>
      obtain ⟨other, before, behind, reached, length, same⟩ := ih here
      refine ⟨other, Piece.encodeAll [.word first.inputBase, .word first.numIds,
        .word first.outputBase, .word (UInt32.ofNat target), .word first.flags] ++ before, behind,
        reached, ?_, ?_⟩
      · rw [List.length_append, length]
        simp only [Piece.encodeAll_cons, Piece.encodeAll_nil, List.length_append,
          Piece.length_encode_word, List.length_nil]
        omega
      · rw [same, List.append_assoc]

/-- Each id mapping of a node has the offset of the node that it refers to. -/
theorem read_mapping {context : Context} {source : Source} {bytes : Bytes}
    (done : source.parts context = .ok bytes) (counted : source.mappingCount ≠ 0)
    (named : source.mappingToken.isNull = false) :
    ∃ stored : List IdMapping,
      (context.view.getList IdMapping source.mappingToken).result = .ok stored ∧
      ∀ item < source.mappingCount.toNat, ∃ mapping target, stored[item]? = some mapping ∧
        context.index.resolve mapping.outputReferenceToken = .ok target ∧
        bytes.read32? (source.mappingsAt + (20 * item + 12)) = some (UInt32.ofNat target) := by
  obtain ⟨_, fields, mappings, filled, mapped, rfl⟩ := Source.parts_eq_ok.mp done
  obtain ⟨stored, listed, enough, made, resolved, rfl⟩ := (idMappings_eq_ok counted named).mp mapped
  refine ⟨stored, listed, fun item below => ?_⟩
  have inside : item < stored.length := Nat.lt_of_lt_of_le below enough
  have known : stored[item]? = some stored[item] := List.getElem?_eq_getElem inside
  have kept : (stored.take source.mappingCount.toNat)[item]? = some stored[item] := by
    rw [List.getElem?_take_of_lt below, known]
  obtain ⟨target, before, behind, found, length, same⟩ := mapping_at resolved kept
  refine ⟨_, target, known, found, ?_⟩
  have front := Source.length_fields filled
  rw [← List.append_assoc, Piece.encodeAll_append, same, ← List.append_assoc]
  refine Bytes.read32?_middle _ behind _ ?_
  rw [List.length_append, Piece.encodeAll_append, List.length_append, Source.length_header, length,
    front]

/-- The header of a node says how many id mappings there are and where they start. -/
theorem read_header {context : Context} {source : Source} {bytes : Bytes}
    (done : source.parts context = .ok bytes) :
    bytes.read32? 8 = some source.mappingCount ∧
      bytes.read32? 12 = some (UInt32.ofNat source.statedMappingsAt) := by
  obtain ⟨_, fields, mappings, _, _, rfl⟩ := Source.parts_eq_ok.mp done
  have count : Piece.encodeAll (source.header ++ (fields ++ mappings)) =
      Piece.encodeAll [.byte source.kind.number, .half (UInt16.ofNat source.length),
        .byte source.kind.revision, .zeros 4] ++ ((Piece.word source.mappingCount).encode ++
          Piece.encodeAll (.word (UInt32.ofNat source.statedMappingsAt) ::
            (fields ++ mappings))) := by
    simp [Source.header]
  have start : Piece.encodeAll (source.header ++ (fields ++ mappings)) =
      Piece.encodeAll [.byte source.kind.number, .half (UInt16.ofNat source.length),
        .byte source.kind.revision, .zeros 4, .word source.mappingCount] ++
          ((Piece.word (UInt32.ofNat source.statedMappingsAt)).encode ++
            Piece.encodeAll (fields ++ mappings)) := by
    simp [Source.header]
  constructor
  · rw [count]
    exact Bytes.read32?_middle _ _ _ (by simp)
  · rw [start]
    exact Bytes.read32?_middle _ _ _ (by simp)

/-- A group of counters has the offset of the node that it refers to. -/
theorem read_reference {context : Context} {record : Pmcg} {bytes : Bytes}
    (done : (Source.pmcg record).parts context = .ok bytes) :
    ∃ target, context.index.resolve record.referenceToken = .ok target ∧
      bytes.read32? 28 = some (UInt32.ofNat target) := by
  obtain ⟨_, fields, mappings, filled, _, rfl⟩ := Source.parts_eq_ok.mp done
  obtain ⟨target, found, filled⟩ := bind_eq_ok.mp filled
  cases filled
  refine ⟨target, found, ?_⟩
  have apart : Piece.encodeAll ((Source.pmcg record).header ++
      ([.long record.baseAddress, .word record.overflowInterrupt, .word (UInt32.ofNat target),
        .long record.page1BaseAddress] ++ mappings)) =
      Piece.encodeAll ((Source.pmcg record).header ++
          [.long record.baseAddress, .word record.overflowInterrupt]) ++
        ((Piece.word (UInt32.ofNat target)).encode ++
          Piece.encodeAll (.long record.page1BaseAddress :: mappings)) := by
    simp
  rw [apart]
  refine Bytes.read32?_middle _ _ _ ?_
  rw [Piece.encodeAll_append, List.length_append, Source.length_header]
  simp [nodeHeaderLength]

/-! ### The table as a whole -/

/-- The structures of a planned table. -/
def mets (sources : List Source) (plan : Plan) : List Met :=
  List.zipWith (fun source (place : Placed) =>
    ⟨place.entry.offset, source.kind.number, place.entry.size⟩) sources plan.placed

section

variable {sources : List Source} {plan : Plan} {images : List Bytes} {context : Context}
  {front : Bytes}

theorem mets_at {number : Nat} {source : Source} {place : Placed}
    (first : sources[number]? = some source) (second : plan.placed[number]? = some place) :
    (mets sources plan)[number]? =
      some ⟨place.entry.offset, source.kind.number, place.entry.size⟩ := by
  unfold mets
  rw [List.getElem?_zipWith, first, second]

/-- What the structures of a table have in common with their sources. -/
theorem map_mets {β : Type} (fits : Fits sources plan) {pick : Met → β} {value : Source → β}
    (agree : ∀ source offset, pick ⟨offset, source.kind.number, source.length⟩ = value source) :
    (mets sources plan).map pick = sources.map value := by
  refine List.ext_getElem? fun number => ?_
  rw [List.getElem?_map, List.getElem?_map]
  cases here : sources[number]? with
  | none =>
    have absent : (mets sources plan)[number]? = none := by
      unfold mets
      rw [List.getElem?_zipWith, here]
    rw [absent]
    rfl
  | some source =>
    obtain ⟨place, known, _, size⟩ := fits.place_at here
    rw [mets_at here known, size, Option.map_some, Option.map_some, agree]

/-- A walk over the table meets the nodes of all sources. -/
theorem walk_mets (fits : Fits sources plan)
    (drawn : List.Forall₂ (fun source image => source.parts context = .ok image) sources images)
    (start : front.length = layout.headerLength) :
    LengthForm.long.walk (front ++ images.flatten) layout.headerLength =
      some (mets sources plan) := by
  have places := mapM_eq_ok.mp (fits.images_eq.trans (mapM_eq_ok.mpr drawn))
  have states : List.Forall₂ (fun type image => LengthForm.long.States type image)
      (sources.map fun source => source.kind.number) images := by
    rw [List.forall₂_map_left_iff]
    exact drawn.imp fun _ _ => Source.states_parts
  rw [fits.2.walk fits.keepsLength places states start, mets, List.zipWith_map_left]

/-- What stands where a structure is met are the parts of its source. -/
theorem slice?_parts (fits : Fits sources plan)
    (drawn : List.Forall₂ (fun source image => source.parts context = .ok image) sources images)
    (start : front.length = layout.headerLength) {number : Nat} {source : Source} {met : Met}
    (here : sources[number]? = some source) (there : (mets sources plan)[number]? = some met) :
    ∃ image, source.parts context = .ok image ∧
      (front ++ images.flatten).slice? met.offset met.length = some image := by
  have places := mapM_eq_ok.mp (fits.images_eq.trans (mapM_eq_ok.mpr drawn))
  obtain ⟨place, known, node, _⟩ := fits.place_at here
  rw [mets_at here known] at there
  cases there
  obtain ⟨image, made, stands⟩ := fits.2.slice?_image fits.keepsLength places start known
  rw [node, source.image_eq] at made
  exact ⟨image, made, stands⟩

theorem pointsTo (fits : Fits sources plan) {bytes : Bytes} {place target : Nat} {token : Token}
    (resolved : plan.index.resolve token = .ok target)
    (read : bytes.read32? place = some (UInt32.ofNat target)) :
    PointsTo bytes sources (mets sources plan) place token := by
  obtain ⟨number, entry, found, here, rfl⟩ := (resolve_eq_ok fits).mp resolved
  have inside := (List.getElem?_eq_some_iff.mp here).1
  rw [fits.length_eq] at inside
  have limit := (fits.2.entry_eq entry (List.mem_of_getElem? here)).2.2.2
  have small : entry.entry.offset < 4294967296 := by
    change _ ≤ 4294967295 at limit
    omega
  refine ⟨number, _, found, mets_at (List.getElem?_eq_getElem inside) here, ?_⟩
  rw [read, Option.map_some, UInt32.toNat_ofNat', Nat.mod_eq_of_lt small]

/-- **Every reference leads to its carrier.** -/
theorem isLinked (fits : Fits sources plan) (same : context.index = plan.index)
    (drawn : List.Forall₂ (fun source image => source.parts context = .ok image) sources images)
    (start : front.length = layout.headerLength) :
    IsLinked context.view (front ++ images.flatten) sources (mets sources plan) where
  mappings number source met here there counted named := by
    obtain ⟨image, made, stands⟩ := slice?_parts fits drawn start here there
    obtain ⟨stored, listed, each⟩ := read_mapping made counted named
    refine ⟨stored, listed, fun item below => ?_⟩
    obtain ⟨mapping, target, inside, resolved, written⟩ := each item below
    rw [same] at resolved
    exact ⟨mapping, inside, pointsTo fits resolved (Bytes.read32?_slice stands written)⟩
  counters number record met here there := by
    obtain ⟨image, made, stands⟩ := slice?_parts fits drawn start here there
    obtain ⟨target, resolved, written⟩ := read_reference made
    rw [same] at resolved
    exact pointsTo fits resolved (Bytes.read32?_slice stands written)

end

/-- A table is built exactly if every record finds all that it refers to. -/
theorem exists_build {view : View} {request : TableRequest} :
    (∃ table, (kind.build request view).result = .ok table) ↔
      kind.checkRequest request = .ok () ∧
        (∃ info, (view.getObject ManagerInfo).result = .ok info) ∧
        (∃ plan, (layout.plan view).result = .ok plan) ∧
        ∃ inventory : Inventory, inventory.IsListed view ∧
          ∀ source ∈ inventory.sources, source.IsComplete view inventory.sources := by
  constructor
  · rintro ⟨table, built⟩
    obtain ⟨accepted, info, inventory, plan, images, read, listed, fits, drawn, _⟩ :=
      build_eq_ok.mp built
    refine ⟨accepted, ⟨info, read⟩, ⟨plan, plan_eq_ok.mpr ⟨inventory, listed, fits⟩⟩, inventory,
      listed, fun source inside => ?_⟩
    obtain ⟨image, made⟩ := exists_forall₂.mp ⟨images, drawn⟩ source inside
    exact (exists_parts fits rfl (fits.short inside)).mp ⟨image, made⟩
  · rintro ⟨accepted, ⟨info, read⟩, ⟨plan, planned⟩, inventory, listed, complete⟩
    obtain ⟨other, again, fits⟩ := plan_eq_ok.mp planned
    obtain rfl := listed.unique again
    have each : ∀ source ∈ inventory.sources, ∃ image,
        source.parts ⟨view, plan.index, request.revision⟩ = .ok image := fun source inside =>
      (exists_parts fits rfl (fits.short inside)).mpr (complete source inside)
    obtain ⟨images, drawn⟩ := exists_forall₂.mpr each
    exact ⟨⟨_⟩, build_eq_ok.mpr
      ⟨accepted, info, inventory, plan, images, read, listed, fits, drawn, rfl⟩⟩

/-- **References of the remapping table are sound and complete.** A table that is built is one whose
nodes, met one after the other from byte 48 on, are those of the records listed, and in which every
reference that counts leads to the first node that carries its token. A table is built exactly if
the request is accepted, the vendor's record is read, the nodes are planned and every record finds
all that it refers to; a record that does not makes the build fail. -/
theorem build_references (view : View) (request : TableRequest) :
    (∀ table, (kind.build request view).result = .ok table →
      ∃ (inventory : Inventory) (mets : List Met), inventory.IsListed view ∧
        LengthForm.long.walk table.bytes 48 = some mets ∧
        mets.map Met.type = inventory.sources.map (fun source => source.kind.number) ∧
        mets.map Met.length = inventory.sources.map Source.length ∧
        IsLinked view table.bytes inventory.sources mets) ∧
    ((∃ table, (kind.build request view).result = .ok table) ↔
      kind.checkRequest request = .ok () ∧
        (∃ info, (view.getObject ManagerInfo).result = .ok info) ∧
        (∃ plan, (layout.plan view).result = .ok plan) ∧
        ∃ inventory : Inventory, inventory.IsListed view ∧
          ∀ source ∈ inventory.sources, source.IsComplete view inventory.sources) ∧
    (∀ inventory : Inventory, inventory.IsListed view → ∀ source ∈ inventory.sources,
      ¬ source.IsComplete view inventory.sources →
        ∃ error, (kind.build request view).result = .error error) := by
  refine ⟨fun table built => ?_, exists_build, fun inventory listed source inside missing => ?_⟩
  · obtain ⟨_, info, inventory, plan, images, _, listed, fits, drawn, bytes⟩ :=
      build_eq_ok.mp built
    have start := isRegular.length_front request info (fields_eq fits)
    rw [bytes]
    exact ⟨inventory, mets inventory.sources plan, listed, walk_mets fits drawn start,
      map_mets fits fun _ _ => rfl, map_mets fits fun _ _ => rfl, isLinked fits rfl drawn start⟩
  · cases built : (kind.build request view).result with
    | error error => exact ⟨error, rfl⟩
    | ok table =>
      obtain ⟨_, _, _, other, again, complete⟩ := exists_build.mp ⟨table, built⟩
      obtain rfl := listed.unique again
      exact absurd (complete source inside) missing

end FirmwareTables.Iort
