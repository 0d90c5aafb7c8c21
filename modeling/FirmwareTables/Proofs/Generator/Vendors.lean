/-
**What is said about the vendor stays in the header.**

Eighteen bytes of a table say who provides it (`VendorData`): the vendor's id, the vendor's id of
the table and the vendor's revision of it. They come from the record about the vendor and from the
request, and nothing else of a table does: neither how many nodes there are, nor how long they are
and where they lie, nor what goes wrong with them. Two builds that differ in the vendor only end in
the same error, or in two tables that differ in these bytes only and, once their checksums are
closed, in the checksum byte.

* `Table.differInVendor_of_around`: two tables with the same bytes around these;
* `TableKind.build_eq_around`, `TableKind.around_agree`: what a build does with the record about the
  vendor, and all the rest of it;
* `builtin_vendors`: two builds by any of the built-in generators.
-/

import FirmwareTables.Proofs.Generator.Finished
import FirmwareTables.Proofs.Generator.Reads

namespace FirmwareTables

/-! ### Views that differ in one object -/

/-- Views that show the same of all objects but one. -/
def View.AgreeBut (id : ObjectId) (one other : View) : Prop :=
  ∀ ids : List ObjectId, id ∉ ids → Agree ids one other

/-- Stores that differ only in the entries of one object. -/
theorem Store.agreeBut {id : ObjectId} {store later : Store}
    (same : ∀ object ≠ id, store.only object = later.only object) :
    View.AgreeBut id store.view later.view := by
  intro ids foreign
  refine Access.live_isLocal.agree fun object inside => same object ?_
  rintro rfl
  exact foreign inside

/-! ### What a header says about the vendor -/

/-- A number that fits is told by its bytes. -/
theorem Bytes.eq_of_ofNat {width first second : Nat} (small : first < capacity width)
    (less : second < capacity width) (same : ofNat width first = ofNat width second) :
    first = second := by
  calc first = toNat (ofNat width first) := by rw [toNat_ofNat, Nat.mod_eq_of_lt small]
    _ = toNat (ofNat width second) := by rw [same]
    _ = second := by rw [toNat_ofNat, Nat.mod_eq_of_lt less]

/-- What the header of a table says about the vendor. -/
structure VendorData where
  /-- The vendor of the platform. -/
  oemId : OemId
  /-- The vendor's id of the table. -/
  oemTableId : UInt64
  /-- The vendor's revision of the table. -/
  oemRevision : UInt32
  deriving DecidableEq

namespace VendorData

/-- What is said in answer to a request, where the record about the vendor fills in what the request
leaves open. -/
def stated (profile : Profile) (request : TableRequest) (info : ManagerInfo) : VendorData where
  oemId := info.oemId
  oemTableId :=
    if request.oemTableId ≠ 0 then request.oemTableId else Header.usualTableId profile info
  oemRevision := if request.oemRevision ≠ 0 then request.oemRevision else info.revision.raw

/-- What is said, as it is written. -/
def encode (data : VendorData) : Bytes :=
  Piece.encodeAll [.bytes data.oemId.bytes, .long data.oemTableId, .word data.oemRevision]

theorem length_encode (data : VendorData) : data.encode.length = 18 := by
  simp [encode, data.oemId.length_bytes]

/-- What is written tells what is said. -/
theorem encode_injective {one other : VendorData} (same : one.encode = other.encode) :
    one = other := by
  obtain ⟨⟨bytes, six⟩, table, revision⟩ := one
  obtain ⟨⟨bytes', six'⟩, table', revision'⟩ := other
  simp only [encode, Piece.encodeAll_cons, Piece.encodeAll_nil, List.append_nil] at same
  obtain ⟨ids, same⟩ := List.append_inj same (six.trans six'.symm)
  obtain ⟨tables, revisions⟩ := List.append_inj same (by simp)
  obtain rfl : bytes = bytes' := ids
  rw [UInt64.toNat.inj (Bytes.eq_of_ofNat table.toNat_lt table'.toNat_lt tables),
    UInt32.toNat.inj (Bytes.eq_of_ofNat revision.toNat_lt revision'.toNat_lt revisions)]

end VendorData

/-- Two tables differ in what they say about the vendor, and nowhere else. -/
structure Table.DifferInVendor (one other : VendorData) (table later : Table) : Prop where
  /-- They are equally long. -/
  size : table.size = later.size
  /-- Each says its own about the vendor. -/
  stated : table.bytes.slice? 10 18 = some one.encode ∧ later.bytes.slice? 10 18 = some other.encode
  /-- All other bytes are the same. -/
  elsewhere : ∀ place, place < 10 ∨ 28 ≤ place → table.bytes[place]? = later.bytes[place]?
  /-- With their checksums closed, the checksum byte may differ as well. -/
  closed : ∀ place ≠ checksumOffset, place < 10 ∨ 28 ≤ place →
    table.finalize.bytes[place]? = later.finalize.bytes[place]?
  /-- They are the same if they say the same about the vendor, and only then. -/
  equal : table = later ↔ one = other

/-- How two builds end whose tables say different things about the vendor. -/
inductive VendorData.EndAlike (one other : VendorData) :
    Except TableError Table → Except TableError Table → Prop where
  /-- They fail over the same. -/
  | failed (error : TableError) : VendorData.EndAlike one other (.error error) (.error error)
  /-- They give tables that differ in nothing else. -/
  | built {table later : Table} (differ : Table.DifferInVendor one other table later) :
    VendorData.EndAlike one other (.ok table) (.ok later)

/-! ### Tables around what is said about the vendor -/

/-- **Tables with the same bytes around what they say about the vendor** differ in this only. -/
theorem Table.differInVendor_of_around {one other : VendorData} {table later : Table}
    {start rest : Bytes} (ahead : start.length = 10) (long : headerLength ≤ table.size)
    (bytes : table.bytes = start ++ (one.encode ++ rest))
    (others : later.bytes = start ++ (other.encode ++ rest)) :
    DifferInVendor one other table later := by
  have size : table.size = later.size := by
    unfold Table.size
    rw [bytes, others, List.length_append, List.length_append, List.length_append,
      List.length_append, one.length_encode, other.length_encode]
  have elsewhere : ∀ place, place < 10 ∨ 28 ≤ place →
      table.bytes[place]? = later.bytes[place]? := by
    intro place outside
    rw [bytes, others]
    rcases outside with before | behind
    · rw [List.getElem?_append_left (by omega), List.getElem?_append_left (by omega)]
    · have past (data : VendorData) :
          (start ++ (data.encode ++ rest))[place]? = rest[place - 28]? := by
        have width := data.length_encode
        rw [List.getElem?_append_right (by omega), List.getElem?_append_right (by omega), ahead,
          width, Nat.sub_sub]
      rw [past, past]
  refine ⟨size, ⟨?_, ?_⟩, elsewhere, fun place other outside => ?_, ?_, ?_⟩
  · rw [bytes]
    exact Bytes.slice?_middle rest ahead one.length_encode
  · rw [others]
    exact Bytes.slice?_middle rest ahead other.length_encode
  · rw [Table.getElem?_finalize long other, Table.getElem?_finalize (size ▸ long) other]
    exact elsewhere place outside
  -- The bytes around cancel, and what is left of equal tables tells what they say.
  · rintro rfl
    have same := List.append_cancel_left (bytes.symm.trans others)
    exact VendorData.encode_injective (List.append_cancel_right same)
  · rintro rfl
    rw [← others] at bytes
    exact congrArg Table.mk bytes

/-! ### Builds of a kind of table -/

namespace TableKind

/-- The header up to what it says about the vendor. -/
def ahead (request : TableRequest) (plan : Plan) : Bytes :=
  Piece.encodeAll [.word request.signature.raw, .word (UInt32.ofNat plan.totalLength),
    .byte request.revision, .byte 0]

/-- The rest of the front: who made the table, and the fields of its kind. -/
def behind (kind : TableKind) (fields : List Piece) : Bytes :=
  Piece.encodeAll (.word kind.creatorId :: .word kind.creatorRevision.raw :: fields)

/-- What stands in a table before and behind what it says about the vendor. -/
def around (kind : TableKind) (request : TableRequest) (view : View) :
    Except TableError (Bytes × Bytes) := do
  kind.checkRequest request
  let plan ← (kind.layout.plan view).result
  let images ← plan.placed.mapM fun place =>
    place.node.image ⟨view, plan.index, request.revision⟩
  let fields ← kind.fields plan
  return (ahead request plan, kind.behind fields ++ images.flatten)

variable {kind : TableKind} {request requested : TableRequest} {ids : List ObjectId}
  {view one other : View} {info later : ManagerInfo} {others rest : List ManagerInfo}

theorem front_eq (kind : TableKind) (request : TableRequest) (info : ManagerInfo) (plan : Plan)
    (fields : List Piece) : kind.front request info plan fields = ahead request plan ++
      ((VendorData.stated kind.toProfile request info).encode ++ kind.behind fields) := by
  unfold front ahead behind VendorData.encode
  simp only [Piece.encodeAll_append, Header.pieces, Piece.encodeAll_cons, Piece.encodeAll_nil,
    List.append_assoc, List.append_nil]
  rfl

/-- **The record about the vendor** has no part in a build but for what is said about the vendor. -/
theorem build_eq_around (regular : kind.IsRegular)
    (read : (view.getList ManagerInfo .null).result = .ok (info :: others)) :
    (kind.build request view).result = (fun parts => ⟨parts.1 ++
      ((VendorData.stated kind.toProfile request info).encode ++ parts.2)⟩) <$>
        kind.around request view := by
  have first :
      ((view.getObject ManagerInfo).mapError TableError.repository).result = pure info := by
    rw [Reading.result_mapError, View.getObject_eq_ok.mpr ⟨others, read⟩]
    rfl
  have bytes (plan : Plan) (fields : List Piece) (images : List Bytes) :
      kind.front request info plan fields ++ images.flatten = ahead request plan ++
        ((VendorData.stated kind.toProfile request info).encode ++
          (kind.behind fields ++ images.flatten)) := by
    rw [front_eq, List.append_assoc, List.append_assoc]
  rw [build_eq regular, first]
  unfold around
  simp only [pure_bind, map_bind, map_pure, bytes]

theorem length_around {parts : Bytes × Bytes} (done : kind.around request view = .ok parts) :
    parts.1.length = 10 ∧ 8 ≤ parts.2.length := by
  unfold around at done
  obtain ⟨_, _, done⟩ := bind_eq_ok.mp done
  obtain ⟨plan, _, done⟩ := bind_eq_ok.mp done
  obtain ⟨images, _, done⟩ := bind_eq_ok.mp done
  obtain ⟨fields, _, done⟩ := bind_eq_ok.mp done
  cases done
  constructor
  · simp [ahead]
  · simp only [behind, Piece.encodeAll_cons, List.length_append, Piece.length_encode_word]
    omega

/-- **The rest of the build** is the same wherever what it reads is. -/
theorem around_agree (reads : ∀ category ∈ kind.layout.categories, category.ReadsOnly ids)
    (agree : View.Agree ids one other) (generator : request.generatorId = requested.generatorId)
    (signature : request.signature = requested.signature)
    (revision : request.revision = requested.revision) :
    kind.around request one = kind.around requested other := by
  have checked : kind.checkRequest request = kind.checkRequest requested := by
    unfold Profile.checkRequest
    rw [generator, signature, revision]
  have start (plan : Plan) : ahead request plan = ahead requested plan := by
    unfold ahead
    rw [signature, revision]
  have planned := kind.layout.plan_agree agree
    (fun category inside => (reads category inside).counted)
    fun category inside => (reads category inside).loaded one other agree
  have drawn (plan : Plan) (made : (kind.layout.plan other).result = .ok plan) :
      (plan.placed.mapM fun place => place.node.image ⟨one, plan.index, requested.revision⟩) =
        plan.placed.mapM fun place =>
          place.node.image ⟨other, plan.index, requested.revision⟩ := by
    refine mapM_congr fun place inside => ?_
    obtain ⟨category, member, nodes, load, here⟩ := Layout.mem_placed made inside
    exact ((reads category member).nodes other nodes load place.node here).image_eq agree _ _
  unfold around
  rw [checked, planned, revision]
  refine bind_congr fun _ => ?_
  cases made : (kind.layout.plan other).result with
  | error error => rfl
  | ok plan =>
    show (plan.placed.mapM _ >>= _ : Except TableError (Bytes × Bytes)) = plan.placed.mapM _ >>= _
    simp only [drawn plan made, start]

/-- **Two builds that differ in the vendor only**, of a table whose nodes do not read the record
about the vendor. -/
theorem build_endAlike (regular : kind.IsRegular)
    (reads : ∀ category ∈ kind.layout.categories, category.ReadsOnly ids)
    (agree : View.Agree ids one other)
    (read : (one.getList ManagerInfo .null).result = .ok (info :: others))
    (again : (other.getList ManagerInfo .null).result = .ok (later :: rest))
    (generator : request.generatorId = requested.generatorId)
    (signature : request.signature = requested.signature)
    (revision : request.revision = requested.revision) :
    VendorData.EndAlike (.stated kind.toProfile request info)
      (.stated kind.toProfile requested later)
      (kind.build request one).result (kind.build requested other).result := by
  rw [build_eq_around regular read, build_eq_around regular again,
    around_agree reads agree generator signature revision]
  cases made : kind.around requested other with
  | error error => exact .failed error
  | ok parts =>
    obtain ⟨ten, eight⟩ := length_around made
    refine .built (Table.differInVendor_of_around ten ?_ rfl rfl)
    unfold Table.size
    simp only [List.length_append, VendorData.length_encode]
    unfold headerLength
    omega

end TableKind

/-! ### The built-in generators -/

/-- The record about the vendor is not among the objects that the nodes of a built-in kind read. -/
theorem builtinReads_foreign : ∀ pair ∈ builtinReads,
    Record.objectId ManagerInfo ∉ pair.1.layout.categories.map Category.id ++ pair.2 := by
  decide

/-- **Nothing of a table depends on the vendor but what it says about the vendor.** Two views that
differ in the records about the vendor only, and two requests that differ in what the vendor may
choose only, lead to the same error or to tables that differ in nothing else. -/
theorem builtin_vendors {generator : Generator} (inside : generator ∈ Registry.builtin.generators)
    {one other : View} (agree : View.AgreeBut (Record.objectId ManagerInfo) one other)
    {info later : ManagerInfo} {others rest : List ManagerInfo}
    (read : (one.getList ManagerInfo .null).result = .ok (info :: others))
    (again : (other.getList ManagerInfo .null).result = .ok (later :: rest))
    {request requested : TableRequest} (id : request.generatorId = requested.generatorId)
    (signature : request.signature = requested.signature)
    (revision : request.revision = requested.revision) :
    VendorData.EndAlike (.stated generator.toProfile request info)
      (.stated generator.toProfile requested later)
      (generator.build request one).result (generator.build requested other).result := by
  have known : generator ∈ builtinReads.map fun pair => pair.1.generator := inside
  obtain ⟨⟨kind, references⟩, member, rfl⟩ := List.mem_map.mp known
  have regular : kind.IsRegular := by
    refine builtinKinds_regular kind ?_
    have listed : kind ∈ builtinReads.map Prod.fst := List.mem_map_of_mem member
    exact listed
  refine TableKind.build_endAlike regular (fun category among => ?_)
    (agree _ (builtinReads_foreign _ member)) read again id signature revision
  exact builtinReads_categories _ member _ (List.subset_append_right _ _) category among
    (List.mem_append_left _ (List.mem_map_of_mem among))

/-- An interface and a distributor, and records about the vendor. -/
def Store.provided (vendors : List ManagerInfo) : Store :=
  ⟨[.ofRecords .null vendors, .ofRecords .null [(default : CpuInterface)],
    .ofRecords .null [(default : Distributor)]]⟩

/-- Who provides the store shows in the records about the vendor only. -/
theorem Store.provided_agreeBut (vendors others : List ManagerInfo) :
    View.AgreeBut (Record.objectId ManagerInfo) (provided vendors).view (provided others).view := by
  refine Store.agreeBut fun object apart => ?_
  have foreign (vendors : List ManagerInfo) :
      ¬ Entry.isOf object (.ofRecords .null vendors) = true :=
    fun own => apart (eq_of_beq own).symm
  unfold only provided
  rw [List.filter_cons_of_neg (foreign vendors), List.filter_cons_of_neg (foreign others)]

/-- A vendor that is not the default one. -/
def ManagerInfo.second : ManagerInfo := ⟨.make 2 0, ⟨[1, 2, 3, 4, 5, 6], rfl⟩⟩

/-- For the second vendor another id of the table and another revision of it are requested: both
tables are built, and they are different. -/
theorem builtin_vendors_provided :
    ∃ table later,
      (Madt.kind.generator.build ⟨.apic, 5, .madt, 0, 0⟩
        (Store.provided [default]).view).result = .ok table ∧
      (Madt.kind.generator.build ⟨.apic, 5, .madt, 7, 9⟩
        (Store.provided [.second, default]).view).result = .ok later ∧
      Table.DifferInVendor ⟨.zero, 0x4349504100000000, 0x10001⟩ ⟨ManagerInfo.second.oemId, 7, 9⟩
        table later ∧ table ≠ later := by
  have inside : Madt.kind.generator ∈ Registry.builtin.generators := .tail _ (.tail _ (.head _))
  have read : ((Store.provided [default]).view.getList ManagerInfo .null).result =
      .ok [default] := by
    decide +kernel
  have again : ((Store.provided [.second, default]).view.getList ManagerInfo .null).result =
      .ok [.second, default] := by
    decide +kernel
  obtain ⟨table, built⟩ : ∃ table, (Madt.kind.generator.build ⟨.apic, 5, .madt, 0, 0⟩
      (Store.provided [default]).view).result = .ok table :=
    exists_of_isOk (by decide +kernel)
  obtain ⟨later, rebuilt⟩ : ∃ later, (Madt.kind.generator.build ⟨.apic, 5, .madt, 7, 9⟩
      (Store.provided [.second, default]).view).result = .ok later :=
    exists_of_isOk (by decide +kernel)
  have ends := @builtin_vendors _ inside _ _ (Store.provided_agreeBut _ _) _ _ _ _ read again
    ⟨.apic, 5, .madt, 0, 0⟩ ⟨.apic, 5, .madt, 7, 9⟩ rfl rfl rfl
  rw [built, rebuilt] at ends
  cases ends with
  | built differ => exact ⟨table, later, built, rebuilt, differ, mt differ.equal.mp (by decide)⟩

end FirmwareTables
