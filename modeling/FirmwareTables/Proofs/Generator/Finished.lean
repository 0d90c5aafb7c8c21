/-
**Finished tables.**

Whatever the repository holds, a table that the registry of built-in generators returns is well
formed (`Registry.IsFinished`): it is what the generator requested has built, with its checksum
closed; all its bytes add up to zero modulo 256; its header is read back as the request and the
vendor's record have it, and states the length of the table; and only this generator takes it back.

* `TableKind.built_front`: a built table starts with its header, the checksum still open;
* `Header.isHeading_filled`: what this header says;
* `builtin_delivers`: the tables that are built one by one and all together.
-/

import FirmwareTables.Proofs.Generator.Registered
import FirmwareTables.Proofs.Table.Checksum

namespace FirmwareTables

/-! ### The front of a built table -/

/-- The first record of a type is the first of those under the null token. -/
theorem View.getObject_eq_ok {α : Type} [Record α] {view : View} {record : α} :
    (view.getObject α).result = .ok record ↔
      ∃ others, (view.getList α .null).result = .ok (record :: others) := by
  unfold getObject
  rw [Reading.result_bind, bind_eq_ok]
  constructor
  · rintro ⟨records, listed, first⟩
    cases records with
    | nil => cases first
    | cons record others =>
      cases first
      exact ⟨others, listed⟩
  · rintro ⟨others, listed⟩
    exact ⟨record :: others, listed, rfl⟩

namespace TableKind

variable {kind : TableKind} {request : TableRequest} {view : View} {table : Table}

/-- **A built table starts with its header**, in which the length of the table is stated. -/
theorem built_front (regular : kind.IsRegular)
    (built : (kind.build request view).result = .ok table) :
    ∃ info others body, (view.getList ManagerInfo .null).result = .ok (info :: others) ∧
      table.bytes = Piece.encodeAll (Header.filled kind.toProfile request info table.size).pieces ++
        body ∧ headerLength ≤ table.size ∧ table.size ≤ 4294967295 := by
  obtain ⟨_, info, plan, images, fields, read, planned, drawn, filled, bytes⟩ :=
    (build_eq_ok regular).mp built
  obtain ⟨others, listed⟩ := View.getObject_eq_ok.mp read
  obtain ⟨_, groups, _, lies⟩ := Layout.plan_eq_ok.mp planned
  obtain ⟨_, long, short⟩ := regular.plan_bounds planned
  have size : table.size = plan.totalLength := by
    unfold Table.size
    rw [bytes, List.length_append, regular.length_front request info filled]
    exact lies.length_images (regular.keepsLength planned) (mapM_eq_ok.mp drawn)
  rw [size]
  refine ⟨info, others, Piece.encodeAll fields ++ images.flatten, listed, ?_, long, short⟩
  rw [bytes, front, Piece.encodeAll_append, List.append_assoc]

end TableKind

/-- The usual id of a table has four bytes of the vendor's id in its lower half and the signature in
its upper half. -/
theorem Header.toNat_usualTableId (profile : Profile) (info : ManagerInfo) :
    (usualTableId profile info).toNat =
      Bytes.toNat (info.oemId.bytes.take 4) + 4294967296 * profile.signature.raw.toNat := by
  have four : (info.oemId.bytes.take 4).length = 4 := by
    rw [List.length_take, info.oemId.length_bytes]
    rfl
  have low : Bytes.toNat (info.oemId.bytes.take 4) < 2 ^ 32 := by
    have bound := Bytes.toNat_lt (info.oemId.bytes.take 4)
    rw [four] at bound
    exact bound
  have high : profile.signature.raw.toNat < 2 ^ 32 := profile.signature.raw.toNat_lt
  unfold usualTableId
  rw [UInt64.toNat_or, UInt64.toNat_shiftLeft, UInt64.toNat_ofNat', UInt32.toNat_toUInt64,
    Nat.mod_eq_of_lt (Nat.lt_trans low (by decide))]
  have shift : (32 : UInt64).toNat % 64 = 32 := rfl
  have whole : profile.signature.raw.toNat <<< 32 < 2 ^ 64 := by
    rw [Nat.shiftLeft_eq]
    omega
  rw [shift, Nat.mod_eq_of_lt whole, Nat.or_comm, ← Nat.shiftLeft_add_eq_or_of_lt low,
    Nat.shiftLeft_eq]
  omega

/-! ### What a table says of itself -/

/-- What the header of a table says, in answer to a request to a generator. -/
structure Header.IsHeading (header : Header) (profile : Profile) (request : TableRequest)
    (info : ManagerInfo) (size : Nat) : Prop where
  /-- The signature is the one requested. -/
  signature : header.signature = request.signature
  /-- The length is that of the table. -/
  length : header.length.toNat = size
  /-- The revision is the one requested. -/
  revision : header.revision = request.revision
  /-- The vendor's id comes from the first record about the vendor. -/
  oemId : header.oemId = info.oemId
  /-- An id of the table that is requested is taken. -/
  tableId : request.oemTableId ≠ 0 → header.oemTableId = request.oemTableId
  /-- Otherwise the id has four bytes of the vendor's id below the signature. -/
  usualTableId : request.oemTableId = 0 → header.oemTableId.toNat =
    Bytes.toNat (info.oemId.bytes.take 4) + 4294967296 * request.signature.raw.toNat
  /-- A revision of the vendor that is requested is taken. -/
  oemRevision : request.oemRevision ≠ 0 → header.oemRevision = request.oemRevision
  /-- Otherwise it is the raw one of the record about the vendor. -/
  usualRevision : request.oemRevision = 0 → header.oemRevision = info.revision.raw
  /-- The maker is that of the generator. -/
  creatorId : header.creatorId = profile.creatorId
  /-- So is the revision of the maker. -/
  creatorRevision : header.creatorRevision = profile.creatorRevision.raw

theorem Header.isHeading_filled {profile : Profile} {request : TableRequest} {info : ManagerInfo}
    {size : Nat} (narrow : size ≤ 4294967295) (own : request.signature = profile.signature)
    (checksum : UInt8) :
    ((filled profile request info size).withChecksum checksum).IsHeading profile request info
      size where
  signature := rfl
  length := by
    show (UInt32.ofNat size).toNat = size
    rw [UInt32.toNat_ofNat']
    exact Nat.mod_eq_of_lt (Nat.lt_succ_of_le narrow)
  revision := rfl
  oemId := rfl
  tableId given := if_pos given
  usualTableId none := by
    have usual : (if request.oemTableId ≠ 0 then request.oemTableId
        else Header.usualTableId profile info) = Header.usualTableId profile info :=
      if_neg (not_not_intro none)
    show UInt64.toNat (if request.oemTableId ≠ 0 then _ else _) = _
    rw [usual, Header.toNat_usualTableId, own]
  oemRevision given := if_pos given
  usualRevision none := if_neg (not_not_intro none)
  creatorId := rfl
  creatorRevision := rfl

/-- A table says its signature. -/
theorem Header.signature?_pieces (header : Header) (rest : Bytes) :
    (Table.mk (Piece.encodeAll header.pieces ++ rest)).signature? = some header.signature := by
  have read : (Piece.encodeAll header.pieces ++ rest).read? 0 4 =
      some header.signature.raw.toNat := header.isReadIn rest (0, _) List.mem_cons_self
  unfold Table.signature?
  rw [Bytes.read32?_of_read? read]
  rfl

namespace Profile

variable {profile : Profile} {table : Table} {signature : Signature}

/-- A table with the signature of a generator is taken back. -/
theorem takeBack_of_own (long : headerLength ≤ table.size)
    (own : table.signature? = some profile.signature) : profile.takeBack table = .ok () := by
  unfold takeBack
  rw [if_neg (Nat.not_lt.mpr long), if_neg (not_not_intro own)]

/-- A table with another signature is not. -/
theorem takeBack_of_foreign (long : headerLength ≤ table.size)
    (named : table.signature? = some signature) (foreign : signature ≠ profile.signature) :
    profile.takeBack table =
      .error (.invalidParameter (.foreignTable profile.signature (some signature))) := by
  unfold takeBack
  rw [if_neg (Nat.not_lt.mpr long), named, if_pos fun same => foreign (Option.some.inj same)]

end Profile

/-! ### The built-in generators -/

namespace Registry

theorem find?_builtin :
    ∀ kind ∈ builtinKinds, builtin.find? kind.id = some kind.generator := by
  simp only [builtinKinds, List.forall_mem_cons]
  exact ⟨rfl, rfl, rfl, rfl, List.forall_mem_nil _⟩

/-- Different generators build tables with different signatures. -/
theorem signature_ne : ∀ one ∈ builtin.generators, ∀ other ∈ builtin.generators,
    other.id ≠ one.id → one.signature ≠ other.signature := by
  decide

/-- All generators have one maker. -/
theorem maker_builtin : ∀ generator ∈ builtin.generators,
    generator.creatorId = 0x484d5241 ∧ generator.creatorRevision = .make 1 0 := by
  decide

/-- What a table is like that is returned for a request, `raw` being what the generator built. -/
structure IsFinished (request : TableRequest) (view : View) (generator : Generator)
    (raw table : Table) : Prop where
  /-- The generator is the one with the id requested. -/
  found : builtin.find? request.generatorId = some generator
  /-- It builds tables with the signature requested. -/
  signature : generator.signature = request.signature
  /-- It builds them in the revision requested. -/
  revision : generator.minRevision ≤ request.revision ∧ request.revision ≤ generator.revision
  /-- Its table is the one returned, but for the checksum byte. -/
  built : (generator.build request view).result = .ok raw
  /-- This byte was zero. -/
  blank : raw.checksum? = some 0
  /-- The tables are equally long. -/
  size : table.size = raw.size
  /-- All other bytes are the same. -/
  elsewhere : ∀ place ≠ checksumOffset, table.bytes[place]? = raw.bytes[place]?
  /-- All bytes add up to zero modulo 256. -/
  sum : Bytes.total table.bytes % 256 = 0
  /-- The table counts as valid. -/
  valid : table.isValid
  /-- The header is read back as it was requested. -/
  heading : ∃ info others header, (view.getList ManagerInfo .null).result = .ok (info :: others) ∧
    Header.parse? table.bytes = some header ∧
      header.IsHeading generator.toProfile request info table.size
  /-- The maker is ARMH, in revision 1.0. -/
  maker : generator.creatorId = 0x484d5241 ∧ generator.creatorRevision = .make 1 0
  /-- Closing the checksum again changes nothing. -/
  closed : table.finalize = table
  /-- The generator takes the table back. -/
  accepted : generator.takeBack table = .ok ()
  /-- The other generators do not. -/
  refused : ∀ other ∈ builtin.generators, other.id ≠ generator.id → other.takeBack table =
    .error (.invalidParameter (.foreignTable other.signature (some request.signature)))

/-- **A table that a generator has built** is finished by closing its checksum. -/
theorem isFinished_finalize {request : TableRequest} {view : View} {kind : TableKind} {raw : Table}
    (inside : kind ∈ builtinKinds) (built : (kind.build request view).result = .ok raw) :
    IsFinished request view kind.generator raw raw.finalize := by
  have regular := builtinKinds_regular kind inside
  obtain ⟨checked, _⟩ := (TableKind.build_eq_ok regular).mp built
  obtain ⟨id, signature, low, high⟩ := Profile.checkRequest_eq_ok.mp checked
  obtain ⟨info, others, body, listed, bytes, long, narrow⟩ := TableKind.built_front regular built
  have member : kind.generator ∈ builtin.generators := List.mem_map_of_mem inside
  have size := Table.size_finalize long
  have still : headerLength ≤ raw.finalize.size := by rwa [size]
  have sum := Table.sum_finalize long
  have whole : raw.finalize.bytes = Piece.encodeAll
      ((Header.filled kind.toProfile request info raw.size).withChecksum raw.closing).pieces ++
        body := by
    rw [Table.finalize_eq long]
    dsimp only
    conv_lhs => rw [bytes]
    rw [Header.set_checksum]
  have named : raw.finalize.signature? = some request.signature := by
    have written := Header.signature?_pieces
      ((Header.filled kind.toProfile request info raw.size).withChecksum raw.closing) body
    rw [← whole] at written
    exact written
  exact {
    found := by
      rw [id]
      exact find?_builtin kind inside
    signature := signature.symm
    revision := ⟨low, high⟩
    built := built
    blank := by
      unfold Table.checksum?
      rw [bytes]
      rfl
    size := size
    elsewhere := fun place other => Table.getElem?_finalize long other
    sum := by
      rw [← Bytes.toNat_sum, sum]
      rfl
    valid := by
      unfold Table.isValid
      rw [sum]
      rfl
    heading := by
      refine ⟨info, others,
        (Header.filled kind.toProfile request info raw.size).withChecksum raw.closing, listed, ?_,
        ?_⟩
      · rw [whole]
        exact Header.parse?_pieces _ body
      · rw [size]
        exact Header.isHeading_filled narrow signature raw.closing
    maker := maker_builtin _ member
    closed := Table.finalize_finalize long
    accepted := by
      rw [signature] at named
      exact Profile.takeBack_of_own still named
    refused := by
      intro other among apart
      refine Profile.takeBack_of_foreign still named ?_
      rw [signature]
      exact signature_ne _ member _ among apart }

/-! ### All tables -/

/-- A table is returned for a request, and it is finished. -/
def Returns (view : View) (request : TableRequest) (table : Table) : Prop :=
  (builtin.build request view).result = .ok table ∧
    ∃ generator ∈ builtin.generators, ∃ raw, IsFinished request view generator raw table

/-- What the registry of built-in generators delivers. -/
structure Delivers (view : View) : Prop where
  /-- Every table returned is finished. -/
  each : ∀ {request : TableRequest} {table : Table},
    (builtin.build request view).result = .ok table → Returns view request table
  /-- All tables together are those of the requests, in their order. -/
  all : ∀ tables, (builtin.buildAll view).result = .ok tables ↔
    ∃ requested, (requests view).result = .ok requested ∧
      List.Forall₂ (Returns view) requested tables
  /-- An error is that of reading the requests, or of the first request that fails. -/
  failure : ∀ error, (builtin.buildAll view).result = .error error ↔
    (requests view).result = .error error ∨ ∃ before request behind,
      (requests view).result = .ok (before ++ request :: behind) ∧
        (∀ earlier ∈ before, ∃ table, Returns view earlier table) ∧
          (builtin.build request view).result = .error error

theorem returns_iff {view : View} {request : TableRequest} {table : Table} :
    Returns view request table ↔ (builtin.build request view).result = .ok table := by
  refine ⟨And.left, fun done => ⟨done, ?_⟩⟩
  obtain ⟨kind, inside, raw, built, rfl⟩ := builtin_build_eq_ok done
  exact ⟨kind.generator, List.mem_map_of_mem inside, raw, isFinished_finalize inside built⟩

theorem buildAll_eq (view : View) : (builtin.buildAll view).result =
    (requests view).result >>= fun requested =>
      requested.mapM fun request => (builtin.build request view).result := by
  unfold buildAll
  rw [Reading.result_bind]
  exact congrArg _ (funext fun requested => Reading.result_mapM _ _)

end Registry

/-- **Every table that is delivered is well formed**, and the tables come in the order of the
requests. -/
theorem builtin_delivers (view : View) : Registry.Delivers view where
  each done := Registry.returns_iff.mpr done
  all tables := by
    have same : Registry.Returns view = fun request table =>
        (Registry.builtin.build request view).result = .ok table :=
      funext fun _ => funext fun _ => propext Registry.returns_iff
    rw [Registry.buildAll_eq, bind_eq_ok, same]
    exact exists_congr fun requested => and_congr_right fun _ => mapM_eq_ok
  failure error := by
    rw [Registry.buildAll_eq]
    simp only [Registry.returns_iff]
    cases read : (Registry.requests view).result with
    | error cause =>
      constructor
      · rintro ⟨⟩
        exact .inl rfl
      · rintro (⟨⟨⟩⟩ | ⟨_, _, _, absurd, _⟩)
        · rfl
        · cases absurd
    | ok requested =>
      refine mapM_eq_error.trans ⟨?_, ?_⟩
      · rintro ⟨before, request, behind, rfl, fine, failed⟩
        exact .inr ⟨before, request, behind, rfl, fine, failed⟩
      · rintro (absurd | ⟨before, request, behind, same, fine, failed⟩)
        · cases absurd
        · cases same
          exact ⟨before, request, behind, rfl, fine, failed⟩

end FirmwareTables
