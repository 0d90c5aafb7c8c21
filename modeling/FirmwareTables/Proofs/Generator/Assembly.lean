/-
**What a built table consists of.**

A kind of table is `IsRegular` if its front fits its limits, its own fields fill the front behind
the header, and its nodes leave the length of their slices as it is. For such a kind `build_eq` says
what building is: the request is checked, the vendor's record read, the plan made, and then the
table is its front and the images of its nodes, in order. Header, front and slices cannot fail.

* `build_eq_ok`: the same for a table that was built;
* `build_meets`: what errors a build can end with, from what its steps can end with.
-/

import FirmwareTables.Generator.Build
import FirmwareTables.Proofs.Layout.Filling
import FirmwareTables.Proofs.Table.Checksum

namespace FirmwareTables

/-! ### The header -/

/-- The header of a table whose length a 32-bit number states. -/
def Header.filled (profile : Profile) (request : TableRequest) (info : ManagerInfo) (length : Nat) :
    Header where
  signature := request.signature
  length := UInt32.ofNat length
  revision := request.revision
  checksum := 0
  oemId := info.oemId
  oemTableId := if request.oemTableId ≠ 0 then request.oemTableId else usualTableId profile info
  oemRevision := if request.oemRevision ≠ 0 then request.oemRevision else info.revision.raw
  creatorId := profile.creatorId
  creatorRevision := profile.creatorRevision.raw

namespace Header

theorem forRequest_eq {profile : Profile} {request : TableRequest} {info : ManagerInfo}
    {length : Nat} (long : FirmwareTables.headerLength ≤ length) (narrow : length ≤ 4294967295) :
    forRequest profile request info length = .ok (filled profile request info length) := by
  unfold forRequest
  rw [if_neg (Nat.not_lt.mpr long), if_neg (Nat.not_lt.mpr narrow)]
  rfl

end Header

/-! ### Regular kinds -/

/-- A kind of table whose front, fields and nodes fit together. -/
structure TableKind.IsRegular (kind : TableKind) : Prop where
  /-- The limits are those of 32-bit numbers. -/
  narrow : kind.layout.limits.AreNarrow
  /-- There is room for the header. -/
  long : headerLength ≤ kind.layout.headerLength
  /-- The front is within the limit. -/
  short : kind.layout.headerLength ≤ kind.layout.limits.maxTable
  /-- The fields fill the front behind the header. -/
  fields : ∀ plan made, kind.fields plan = .ok made →
    headerLength + (Piece.encodeAll made).length = kind.layout.headerLength
  /-- Nodes leave the length of their slices as it is. -/
  keeps : ∀ category ∈ kind.layout.categories, category.AllNodes Node.KeepsLength

/-- What holds of all nodes of a category holds of those that it loads. -/
theorem Category.AllNodes.of_loads {category : Category} {sort : Node → Prop} {view : View}
    {nodes : List Node} (all : category.AllNodes sort) (loads : category.Loads view nodes) :
    ∀ node ∈ nodes, sort node :=
  fun node inside => all view nodes (loads.2 (List.ne_nil_of_mem inside)) node inside

namespace Layout

variable {layout : Layout} {view : View} {plan : Plan}

theorem mem_labelled {categories : List Category} {groups : List (List Node)}
    {related : Category → List Node → Prop} (all : List.Forall₂ related categories groups)
    {name : String} {node : Node} (inside : (name, node) ∈ labelled categories groups) :
    ∃ category ∈ categories, ∃ nodes, related category nodes ∧ node ∈ nodes := by
  unfold labelled at inside
  obtain ⟨⟨category, nodes⟩, pair, inside⟩ := List.mem_flatMap.mp inside
  obtain ⟨node', member, same⟩ := List.mem_map.mp inside
  cases same
  exact ⟨category, (List.of_mem_zip pair).1, nodes, List.forall₂_zip all pair, member⟩

/-- Every planned node was loaded by some category. -/
theorem mem_placed (done : (layout.plan view).result = .ok plan) {place : Placed}
    (inside : place ∈ plan.placed) :
    ∃ category ∈ layout.categories, ∃ nodes, (category.load view).result = .ok nodes ∧
      place.node ∈ nodes := by
  obtain ⟨_, groups, loads, lies⟩ := plan_eq_ok.mp done
  have member : place.node ∈ plan.placed.map Placed.node := List.mem_map_of_mem inside
  rw [lies.nodes_eq] at member
  obtain ⟨⟨name, node⟩, inside, same⟩ := List.mem_map.mp member
  obtain ⟨category, among, nodes, load, here⟩ := mem_labelled loads inside
  cases same
  exact ⟨category, among, nodes, load.2 (List.ne_nil_of_mem here), here⟩

end Layout

namespace TableKind

variable {kind : TableKind} {request : TableRequest} {view : View}

/-- The bytes in front of the nodes. -/
def front (kind : TableKind) (request : TableRequest) (info : ManagerInfo) (plan : Plan)
    (fields : List Piece) : Bytes :=
  Piece.encodeAll
    ((Header.filled kind.toProfile request info plan.totalLength).pieces ++ fields)

namespace IsRegular

theorem length_front (regular : kind.IsRegular) (request : TableRequest) (info : ManagerInfo)
    {plan : Plan}
    {fields : List Piece} (made : kind.fields plan = .ok fields) :
    (kind.front request info plan fields).length = kind.layout.headerLength := by
  unfold front
  rw [Piece.encodeAll_append, List.length_append, Header.length_pieces,
    regular.fields plan fields made]

/-- The front takes the place of the zeros before the nodes. -/
theorem writeFront_eq (regular : kind.IsRegular) {info : ManagerInfo} {plan : Plan} (body : Bytes) :
    kind.writeFront (Header.filled kind.toProfile request info plan.totalLength) plan
        (Bytes.zeros kind.layout.headerLength ++ body) =
      (fun fields => kind.front request info plan fields ++ body) <$> kind.fields plan := by
  unfold writeFront
  cases made : kind.fields plan with
  | error error => rfl
  | ok fields =>
    have filled := Writer.putEach_fill (regular.length_front request info made)
    have zeros : (Bytes.zeros kind.layout.headerLength ++ body).take kind.layout.headerLength =
        Bytes.zeros kind.layout.headerLength := List.take_left' (Bytes.length_zeros _)
    have rest : (Bytes.zeros kind.layout.headerLength ++ body).drop kind.layout.headerLength =
        body := List.drop_left' (Bytes.length_zeros _)
    obtain ⟨writer, put, finished⟩ := bind_eq_ok.mp filled
    show (Writer.putEach _ _ >>= _) = _
    rw [zeros, rest, put]
    show writer.finish >>= _ = _
    rw [finished]
    rfl

/-- The plan of a regular kind puts its nodes behind the front and ends within 32 bits. -/
theorem plan_bounds (regular : kind.IsRegular) {plan : Plan}
    (done : (kind.layout.plan view).result = .ok plan) :
    plan.headerLength = kind.layout.headerLength ∧ headerLength ≤ plan.totalLength ∧
      plan.totalLength ≤ 4294967295 := by
  obtain ⟨front, groups, _, lies⟩ := Layout.plan_eq_ok.mp done
  have long := lies.offset_le
  have short := lies.last_le regular.short
  exact ⟨front, Nat.le_trans regular.long long, Nat.le_trans short regular.narrow.2⟩

theorem keepsLength (regular : kind.IsRegular) {plan : Plan}
    (done : (kind.layout.plan view).result = .ok plan) :
    ∀ place ∈ plan.placed, place.node.KeepsLength := by
  intro place inside
  obtain ⟨category, among, nodes, load, member⟩ := Layout.mem_placed done inside
  exact regular.keeps category among view nodes load place.node member

end IsRegular

/-- **Building a table of a regular kind.** -/
theorem build_eq (regular : kind.IsRegular) :
    (kind.build request view).result = (do
      kind.checkRequest request
      let info ← ((view.getObject ManagerInfo).mapError TableError.repository).result
      let plan ← (kind.layout.plan view).result
      let images ← plan.placed.mapM fun place =>
        place.node.image ⟨view, plan.index, request.revision⟩
      let fields ← kind.fields plan
      return ⟨kind.front request info plan fields ++ images.flatten⟩) := by
  unfold build
  simp only [Reading.result_bind, Reading.result_ofExcept]
  refine congrArg _ (funext fun _ => ?_)
  refine congrArg _ (funext fun info => ?_)
  cases done : (kind.layout.plan view).result with
  | error error => rfl
  | ok plan =>
    obtain ⟨groupFront, groups, loads, lies⟩ := Layout.plan_eq_ok.mp done
    obtain ⟨front, long, short⟩ := regular.plan_bounds done
    rw [← front] at lies
    have keeps := regular.keepsLength done
    show (plan.populate view request.revision).result >>= _ = (plan.placed.mapM _ >>= _)
    rw [Plan.populate_eq lies keeps]
    cases made : plan.placed.mapM fun place =>
        place.node.image ⟨view, plan.index, request.revision⟩ with
    | error error => rfl
    | ok images =>
      have length : (Bytes.zeros plan.headerLength ++ images.flatten).length =
          plan.totalLength := by
        rw [List.length_append, Bytes.length_zeros]
        exact lies.length_images keeps (mapM_eq_ok.mp made)
      show Header.forRequest _ _ _
        (Bytes.zeros plan.headerLength ++ images.flatten).length >>= _ = _
      rw [length, Header.forRequest_eq long short]
      show kind.writeFront _ plan (Bytes.zeros plan.headerLength ++ images.flatten) >>= _ = _
      rw [front, regular.writeFront_eq]
      cases kind.fields plan <;> rfl

/-- **A table that was built**: what it consists of, and what there was to build it from. -/
theorem build_eq_ok (regular : kind.IsRegular) {table : Table} :
    (kind.build request view).result = .ok table ↔
      kind.checkRequest request = .ok () ∧
        ∃ info plan images fields, (view.getObject ManagerInfo).result = .ok info ∧
          (kind.layout.plan view).result = .ok plan ∧
          plan.placed.mapM (fun place =>
            place.node.image ⟨view, plan.index, request.revision⟩) = .ok images ∧
          kind.fields plan = .ok fields ∧
          table.bytes = kind.front request info plan fields ++ images.flatten := by
  rw [build_eq regular]
  simp only [bind_eq_ok, Reading.result_mapError, mapError_eq_ok]
  constructor
  · rintro ⟨⟨⟩, accepted, info, read, plan, planned, images, made, fields, filled, done⟩
    cases done
    exact ⟨accepted, info, plan, images, fields, read, planned, made, filled, rfl⟩
  · rintro ⟨accepted, info, plan, images, fields, read, planned, made, filled, same⟩
    refine ⟨(), accepted, info, read, plan, planned, images, made, fields, filled, ?_⟩
    rw [← same]
    rfl

/-- **A build fails** only as its steps do. -/
theorem build_meets (regular : kind.IsRegular) {bad : TableError → Prop}
    (checked : Meets (fun _ => True) bad (kind.checkRequest request))
    (read : Meets (fun _ => True) (bad ∘ TableError.repository) (view.getObject ManagerInfo).result)
    (planned : Meets (fun _ => True) bad (kind.layout.plan view).result)
    (drawn : ∀ plan, (kind.layout.plan view).result = .ok plan → ∀ place ∈ plan.placed,
      Meets (fun _ => True) bad (place.node.image ⟨view, plan.index, request.revision⟩))
    (filled : ∀ plan, (kind.layout.plan view).result = .ok plan →
      Meets (fun _ => True) bad (kind.fields plan)) :
    Meets (fun _ => True) bad (kind.build request view).result := by
  have reads : Meets (fun _ => True) bad
      ((view.getObject ManagerInfo).mapError TableError.repository).result :=
    read.mapError fun _ same => same
  rw [build_eq regular]
  refine checked.bind fun _ _ => ?_
  refine reads.bind fun info _ => ?_
  refine planned.keep.bind fun plan both => ?_
  refine (Meets.mapM fun place inside => drawn plan both.2 place inside).bind fun images _ => ?_
  exact (filled plan both.2).bind fun fields _ => trivial

end TableKind

end FirmwareTables
