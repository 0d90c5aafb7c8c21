/-
**Building under other names.**

Two nodes mirror each other if one has the other's token under its other name, is as long, and
writes the same wherever it sees what the other sees under the other names. Where all categories of
a kind of table make such nodes of what they load, the build goes through the same steps on both
sides: the nodes are as many and lie in the same places, references lead to the same offsets, and
what is written is the same (`TableKind.build_mirrors`). Most steps fail, if they do, with an error
that mentions no token (`TableError.IsTokenless`) and is therefore the same on both sides.

* `Index.resolve_mirrors`: a reference leads to the same place;
* `Layout.plan_mirrors`: the plans differ in nothing but the tokens;
* `Plan.populate_mirrors`: the nodes write the same bytes.
-/

import FirmwareTables.Generator.Build
import FirmwareTables.Proofs.Renaming.Store

namespace FirmwareTables

variable {names : Renaming}

/-! ### Errors without tokens -/

/-- An error that mentions no token. -/
def TableError.IsTokenless : TableError → Prop
  | .notFound _ => False
  | .repository _ => False
  | _ => True

/-- A step that mentions no token mirrors itself. -/
theorem Mirrors.of_tokenless {α : Type} {outcome : Except TableError α}
    (meets : Meets (fun _ => True) TableError.IsTokenless outcome) :
    Mirrors names.tableError Eq outcome outcome := by
  refine Mirrors.refl (meets.mono (fun _ same => same) fun error tokenless => ?_)
  cases error with
  | notFound | repository => exact tokenless.elim
  | invalidParameter | outOfResources | badBufferSize | unsupported => rfl

theorem Writer.put_tokenless (writer : Writer) (piece : Piece) :
    Meets (fun _ => True) TableError.IsTokenless (writer.put piece) := by
  cases piece with
  | zeros length =>
    show Meets _ _ (writer.skip length)
    unfold skip
    split <;> exact trivial
  | byte | half | word | long | bytes =>
    show Meets _ _ (writer.write _)
    unfold write
    split <;> exact trivial

theorem Writer.putEach_tokenless (writer : Writer) (pieces : List Piece) :
    Meets (fun _ => True) TableError.IsTokenless (writer.putEach pieces) := by
  induction pieces generalizing writer with
  | nil => exact trivial
  | cons piece pieces ih =>
    rw [putEach_cons]
    exact (put_tokenless writer piece).bind fun after _ => ih after

theorem Writer.finish_tokenless (writer : Writer) :
    Meets (fun _ => True) TableError.IsTokenless writer.finish := by
  unfold finish
  split <;> exact trivial

theorem narrow_tokenless (value : Nat) :
    Meets (fun _ => True) TableError.IsTokenless (narrow value) := by
  unfold narrow
  split <;> exact trivial

theorem Profile.checkRequest_tokenless (profile : Profile) (request : TableRequest) :
    Meets (fun _ => True) TableError.IsTokenless (profile.checkRequest request) := by
  unfold checkRequest
  split
  · exact trivial
  split
  · exact trivial
  split <;> exact trivial

theorem Header.forRequest_tokenless (profile : Profile) (request : TableRequest)
    (info : ManagerInfo) (length : Nat) :
    Meets (fun _ => True) TableError.IsTokenless (forRequest profile request info length) := by
  unfold forRequest
  split
  · exact trivial
  split <;> exact trivial

/-! ### Nodes -/

/-- A place whose token has another name. -/
def Renaming.place (names : Renaming) (entry : IndexEntry) : IndexEntry :=
  { entry with token := names.token entry.token }

/-- Two contexts show the same under the other names. -/
structure Context.Mirrors (names : Renaming) (context other : Context) : Prop where
  /-- The views show the same. -/
  view : context.view.Mirrors names other.view
  /-- The nodes have the same places. -/
  index : other.index = context.index.map names.place
  /-- The table is of the same revision. -/
  revision : other.revision = context.revision

/-- Two nodes are the same under the other names. -/
structure Node.Mirrors (names : Renaming) (node other : Node) : Prop where
  /-- The token is the same. -/
  token : other.token = names.token node.token
  /-- Both tell the same size. -/
  size : ∃ size, node.size = .ok size ∧ other.size = .ok size
  /-- Both write the same, or fail in the same way. -/
  write : ∀ context partner, context.Mirrors names partner → ∀ writer,
    FirmwareTables.Mirrors names.tableError Eq (node.write context writer).result
      (other.write partner writer).result

/-- **A reference leads to the same place.** -/
theorem Index.resolve_mirrors (index : Index) (token : Token) :
    Mirrors names.tableError Eq (index.resolve token)
      (Index.resolve (index.map names.place) (names.token token)) := by
  have same : (fun entry : IndexEntry => entry.token == names.token token) ∘ names.place =
      fun entry => entry.token == token := by
    funext entry
    exact names.token_beq entry.token token
  unfold resolve
  rw [names.isNull_token, List.find?_map, same]
  cases token.isNull with
  | true => rfl
  | false =>
    rw [if_neg Bool.false_ne_true, if_neg Bool.false_ne_true]
    cases index.find? fun entry => entry.token == token <;> rfl

/-- Nodes of the same pieces mirror each other. -/
theorem Node.ofPieces_mirrors {token other : Token} {size : Nat}
    {pieces partner : Context → Reading TableError (List Piece)} (renamed : other = names.token token)
    (same : ∀ context view, context.Mirrors names view →
      FirmwareTables.Mirrors names.tableError Eq (pieces context).result (partner view).result) :
    (Node.ofPieces token size pieces).Mirrors names (Node.ofPieces other size partner) where
  token := renamed
  size := ⟨size, rfl, rfl⟩
  write context view both writer := by
    unfold Node.ofPieces
    simp only [Reading.result_bind, Reading.result_ofExcept]
    refine (same context view both).bind_same fun made => ?_
    exact Mirrors.of_tokenless (writer.putEach_tokenless made)

/-! ### Categories -/

theorem View.getListOrEmpty_mirrors {view other : View} (both : view.Mirrors names other) {α : Type}
    [Record α] (covered : IsCovered α) (token : Token) :
    FirmwareTables.Mirrors names.repositoryError (Store.Renames names)
      (view.getListOrEmpty α token).result
      (other.getListOrEmpty α (names.token token)).result := by
  have listed := both.list α covered token
  unfold getListOrEmpty
  dsimp only
  cases one : (view.getList α token).result <;>
    cases two : (other.getList α (names.token token)).result <;> rw [one, two] at listed
  · rename_i error changed
    obtain rfl : changed = names.repositoryError error := listed
    dsimp only
    rw [names.isNotFound_repositoryError]
    cases error.isNotFound with
    | true => exact List.map_nil.symm
    | false =>
      rw [if_neg Bool.false_ne_true, if_neg Bool.false_ne_true, one, two]
      rfl
  · exact listed.elim
  · exact listed.elim
  · dsimp only
    rw [one, two]
    exact listed

namespace Category

/-- A category makes nodes that mirror each other of what it loads under other names. -/
def IsEquivariant (names : Renaming) (category : Category) : Prop :=
  ∀ view other, view.Mirrors names other → Mirrors names.tableError
    (List.Forall₂ (Node.Mirrors names)) (category.load view).result (category.load other).result

/-- **A category of records** whose check and nodes take no notice of names. -/
theorem IsOf.isEquivariant {α : Type} [Record α] {category : Category}
    {check : List α → Except TableError Unit} {node : α → Node} (source : category.IsOf check node)
    (covered : IsCovered α)
    (checks : ∀ records, Mirrors names.tableError Eq (check records)
      (check (records.map names.record)))
    (nodes : ∀ record, (node record).Mirrors names (node (names.record record))) :
    category.IsEquivariant names := by
  intro view other both
  have listed := View.getListOrEmpty_mirrors both covered .null
  rw [names.token_null] at listed
  rw [source.2]
  unfold ofChecked
  simp only [Reading.result_bind, Reading.result_mapError, Reading.result_ofExcept]
  refine listed.repository.bind fun records partners renamed => ?_
  rw [renamed]
  refine (checks records).bind_same fun _ => ?_
  show List.Forall₂ (Node.Mirrors names) (records.map node) ((records.map names.record).map node)
  rw [List.forall₂_map_left_iff, List.map_map, List.forall₂_map_right_iff, List.forall₂_same]
  exact fun record _ => nodes record

/-- A category of records without tokens. -/
theorem IsOf.equivariant_plain {α : Type} [Record α] {category : Category}
    {check : List α → Except TableError Unit} {node : α → Node} (source : category.IsOf check node)
    (free : carrier? (Record.objectId α) = none) (plain : Renaming.ArePlain (Record.fields α))
    (checks : ∀ records, Meets (fun _ => True) TableError.IsTokenless (check records))
    (nodes : ∀ record, (node record).Mirrors names (node record)) :
    category.IsEquivariant names := by
  have unmoved := funext (names.record_of_plain plain)
  refine source.isEquivariant (.inr ⟨free, plain⟩) (fun records => ?_) fun record => ?_
  · rw [unmoved, List.map_id']
    exact Mirrors.of_tokenless (checks records)
  · rw [names.record_of_plain plain]
    exact nodes record

theorem count_mirrors (category : Category) {view other : View} (both : view.Mirrors names other) :
    Mirrors names.tableError Eq (category.count view).result (category.count other).result := by
  unfold Category.count
  simp only [Reading.result_bind, Reading.result_mapError, Reading.result_ofExcept]
  refine (both.count category.id).repository.bind_same fun count => ?_
  have checked : Meets (fun _ => True) TableError.IsTokenless (category.checkCount count) :=
    checkCount_meets (fun _ => trivial) (fun _ _ => trivial) count
  exact (Mirrors.of_tokenless checked).bind_same fun _ => (rfl : count = count)

end Category

/-! ### Plans -/

/-- Two placed nodes are the same under the other names. -/
structure Placed.Mirrors (names : Renaming) (place other : Placed) : Prop where
  /-- The places are the same. -/
  entry : other.entry = names.place place.entry
  /-- So are the nodes. -/
  node : place.node.Mirrors names other.node

/-- Two plans are the same under the other names. -/
structure Plan.Mirrors (names : Renaming) (plan other : Plan) : Prop where
  /-- The header is as long. -/
  headerLength : other.headerLength = plan.headerLength
  /-- The table is as long. -/
  totalLength : other.totalLength = plan.totalLength
  /-- The nodes with their places are the same, one by one. -/
  placed : List.Forall₂ (Placed.Mirrors names) plan.placed other.placed

namespace Plan

variable {plan other : Plan}

theorem Mirrors.nodeCount_eq (both : plan.Mirrors names other) :
    other.nodeCount = plan.nodeCount :=
  both.placed.length_eq.symm

theorem Mirrors.index_eq (both : plan.Mirrors names other) :
    other.index = plan.index.map names.place := by
  have all := both.placed
  unfold index
  generalize plan.placed = places at all
  generalize other.placed = partners at all
  induction all with
  | nil => rfl
  | cons here _ ih => rw [List.map_cons, List.map_cons, List.map_cons, here.entry, ih]

end Plan

namespace Category

variable (category : Category) (limits : Limits)

/-- Placed nodes, and where they end, are the same under the other names. -/
def SamePlaces (names : Renaming) (one other : List Placed × Nat) : Prop :=
  List.Forall₂ (Placed.Mirrors names) one.1 other.1 ∧ other.2 = one.2

theorem place_mirrors (offset : Nat) {node other : Node} (both : node.Mirrors names other) :
    Mirrors names.tableError (fun one partner => Placed.Mirrors names one.1 partner.1 ∧
        partner.2 = one.2)
      (category.place limits offset node) (category.place limits offset other) := by
  obtain ⟨size, known, same⟩ := both.size
  rw [place_of_size known, place_of_size same]
  by_cases long : limits.maxNode < size
  · rw [if_pos long, if_pos long]
    rfl
  rw [if_neg long, if_neg long]
  by_cases wide : limits.maxTable < offset + size
  · rw [if_pos wide, if_pos wide]
    rfl
  rw [if_neg wide, if_neg wide]
  refine (Mirrors.of_tokenless (narrow_tokenless offset)).bind_same fun start => ?_
  refine (Mirrors.of_tokenless (narrow_tokenless size)).bind_same fun length => ?_
  rw [both.token]
  exact ⟨⟨rfl, both⟩, rfl⟩

theorem placeAll_mirrors (offset : Nat) {nodes others : List Node}
    (all : List.Forall₂ (Node.Mirrors names) nodes others) :
    Mirrors names.tableError (SamePlaces names) (category.placeAll limits offset nodes)
      (category.placeAll limits offset others) := by
  induction all generalizing offset with
  | nil => exact ⟨.nil, rfl⟩
  | cons here _ ih =>
    unfold placeAll
    refine (place_mirrors category limits offset here).bind fun first partner same => ?_
    obtain ⟨place, _⟩ := first
    obtain ⟨other, next⟩ := partner
    obtain ⟨placed, rfl⟩ := same
    refine (ih next).bind fun rest partners both => ?_
    exact ⟨.cons placed both.1, both.2⟩

theorem loadCounted_mirrors {category : Category} (equivariant : category.IsEquivariant names)
    {view other : View} (both : view.Mirrors names other) (count : Nat) :
    Mirrors names.tableError (List.Forall₂ (Node.Mirrors names))
      (category.loadCounted view count).result (category.loadCounted other count).result := by
  unfold loadCounted
  rw [Reading.result_bind, Reading.result_bind]
  refine (equivariant view other both).bind fun nodes others all => ?_
  rw [← all.length_eq]
  by_cases changed : nodes.length ≠ count
  · rw [if_pos changed, if_pos changed]
    rfl
  · rw [if_neg changed, if_neg changed]
    exact all

end Category

namespace Layout

variable {view other : View}

theorem placeFrom_mirrors (limits : Limits) (both : view.Mirrors names other) (offset : Nat)
    {counted : List (Category × Nat)}
    (equivariant : ∀ pair ∈ counted, pair.1.IsEquivariant names) :
    Mirrors names.tableError (Category.SamePlaces names)
      (placeFrom limits view offset counted).result
      (placeFrom limits other offset counted).result := by
  induction counted generalizing offset with
  | nil => exact ⟨.nil, rfl⟩
  | cons pair counted ih =>
    obtain ⟨category, count⟩ := pair
    obtain ⟨here, behind⟩ := List.forall_mem_cons.mp equivariant
    unfold placeFrom
    by_cases empty : count = 0
    · rw [if_pos empty, if_pos empty]
      exact ih offset behind
    rw [if_neg empty, if_neg empty]
    -- The nodes are as many and as long on both sides, so that the next category starts at one place.
    simp only [Reading.result_bind, Reading.result_ofExcept]
    refine (Category.loadCounted_mirrors here both count).bind fun nodes others all => ?_
    refine (Category.placeAll_mirrors category limits offset all).bind fun first partner same => ?_
    obtain ⟨front, _⟩ := first
    obtain ⟨frontOther, next⟩ := partner
    obtain ⟨placed, rfl⟩ := same
    refine (ih next behind).bind fun rest partners there => ?_
    exact ⟨List.rel_append placed there.1, there.2⟩

/-- **Plans differ in nothing but the tokens.** -/
theorem plan_mirrors (layout : Layout) (both : view.Mirrors names other)
    (equivariant : ∀ category ∈ layout.categories, category.IsEquivariant names) :
    Mirrors names.tableError (Plan.Mirrors names) (layout.plan view).result
      (layout.plan other).result := by
  have counts : Mirrors names.tableError (List.Forall₂ Eq) (layout.count view).result
      (layout.count other).result := by
    unfold Layout.count
    rw [Reading.result_mapM, Reading.result_mapM]
    refine Mirrors.mapM (List.forall₂_same.mpr fun _ _ => rfl) fun category _ same => ?_
    rw [← same]
    exact category.count_mirrors both
  unfold plan
  simp only [Reading.result_bind]
  refine counts.bind fun numbers partners same => ?_
  rw [List.forall₂_eq_eq_eq] at same
  rw [← same]
  have among : ∀ pair ∈ layout.categories.zip numbers, pair.1.IsEquivariant names :=
    fun pair inside => equivariant pair.1 (List.of_mem_zip inside).1
  refine (placeFrom_mirrors layout.limits both layout.headerLength among).bind
    fun placed partners there => ?_
  exact ⟨rfl, there.2, there.1⟩

end Layout

/-! ### Tables -/

/-- **The nodes write the same bytes.** -/
theorem Plan.populate_mirrors {plan other : Plan} (same : plan.Mirrors names other)
    {view partner : View} (both : view.Mirrors names partner) (revision : UInt8) :
    FirmwareTables.Mirrors names.tableError Eq (plan.populate view revision).result
      (other.populate partner revision).result := by
  have contexts : Context.Mirrors names ⟨view, plan.index, revision⟩
      ⟨partner, other.index, revision⟩ := ⟨both, same.index_eq, rfl⟩
  unfold populate
  rw [Reading.result_foldlM, Reading.result_foldlM, same.totalLength]
  refine Mirrors.foldlM same.placed (fun place twin placed buffer => ?_) _
  unfold fill
  simp only [Reading.result_bind, Reading.result_ofExcept, placed.entry]
  refine (placed.node.write _ _ contexts _).bind_same fun writer => ?_
  refine (Mirrors.of_tokenless writer.finish_tokenless).bind_same fun written => ?_
  exact (rfl : buffer.overwrite place.entry.offset written = _)

namespace TableKind

/-- The nodes and the fields of a kind of table take no notice of names. -/
structure IsEquivariant (names : Renaming) (kind : TableKind) : Prop where
  /-- No category takes notice of names. -/
  categories : ∀ category ∈ kind.layout.categories, category.IsEquivariant names
  /-- Nor do the fields in front of the nodes. -/
  fields : ∀ plan other, plan.Mirrors names other →
    FirmwareTables.Mirrors names.tableError Eq (kind.fields plan) (kind.fields other)

variable {kind : TableKind} {view other : View}

theorem writeFront_mirrors (equivariant : kind.IsEquivariant names) {plan partner : Plan}
    (same : plan.Mirrors names partner) (header : Header) (bytes : Bytes) :
    Mirrors names.tableError Eq (kind.writeFront header plan bytes)
      (kind.writeFront header partner bytes) := by
  unfold writeFront
  refine (equivariant.fields plan partner same).bind_same fun fields => ?_
  refine (Mirrors.of_tokenless (Writer.putEach_tokenless _ _)).bind_same fun writer => ?_
  refine (Mirrors.of_tokenless writer.finish_tokenless).bind_same fun front => ?_
  exact (rfl : front ++ bytes.drop kind.layout.headerLength = _)

/-- The vendor's record is the same. -/
theorem getObject_mirrors (both : view.Mirrors names other) :
    Mirrors names.repositoryError Eq (view.getObject ManagerInfo).result
      (other.getObject ManagerInfo).result := by
  have plain : Renaming.ArePlain (Record.fields ManagerInfo) := by decide
  have listed := both.list ManagerInfo (.inr ⟨rfl, plain⟩) .null
  rw [names.token_null] at listed
  unfold View.getObject
  rw [Reading.result_bind, Reading.result_bind]
  refine listed.bind fun records partners renamed => ?_
  rw [renamed]
  cases records with
  | nil => exact congrArg (RepositoryError.notFound _) names.token_null.symm
  | cons record records => exact (names.record_of_plain plain record).symm

/-- **A kind of table is built the same** under the other names. -/
theorem build_mirrors (equivariant : kind.IsEquivariant names) (both : view.Mirrors names other)
    (request : TableRequest) :
    Mirrors names.tableError Eq (kind.build request view).result
      (kind.build request other).result := by
  unfold build
  simp only [Reading.result_bind, Reading.result_ofExcept, Reading.result_mapError]
  refine (Mirrors.of_tokenless (kind.checkRequest_tokenless request)).bind_same fun _ => ?_
  refine (getObject_mirrors both).repository.bind_same fun info => ?_
  refine (kind.layout.plan_mirrors both equivariant.categories).bind fun plan partner same => ?_
  refine (Plan.populate_mirrors same both request.revision).bind_same fun bytes => ?_
  refine (Mirrors.of_tokenless (Header.forRequest_tokenless _ request info _)).bind_same
    fun header => ?_
  refine (writeFront_mirrors equivariant same header bytes).bind_same fun made => ?_
  exact (rfl : Table.mk made = _)

end TableKind

end FirmwareTables
