/-
**The structures of each type.**

Where the nodes of every category state a type of their own, a consumer tells them apart: the
structures of a type are the nodes of its category, one by one and in order (`stands_ofType`). A
node of pieces has as many bytes as it says, and its pieces are read at the distances that a form
gives (`Node.StandsAt.pieces`, `Form.isReadIn_of_slice`).

What is read settles a form: forms with the same fields that are both read in one place are equal
(`Form.eq_of_isReadIn`). A `Shape` says of records of one type how their structures look; structures
then settle the records, but for what is not written of them (`Shape.Shows.unique`).
-/

import FirmwareTables.Proofs.Generator.Walks
import FirmwareTables.Proofs.Table.Forms

namespace FirmwareTables

/-! ### Telling structures apart -/

section

variable {form : LengthForm} {context : Context} {bytes : Bytes} {view : View} {met : Met}

theorem Node.StandsAt.type_eq {node : Node} {type : UInt8}
    (stands : node.StandsAt form context bytes met) (states : node.States form type) :
    met.type = type := by
  obtain ⟨image, made, stated, -⟩ := stands
  exact stated.unique (states context image made)

/-- Nodes of loaded categories state one of the types of these categories. -/
theorem exists_states {categories : List Category} {types : List UInt8} {groups : List (List Node)}
    (typed : List.Forall₂ (fun category type => Category.AllNodes category (Node.States form type))
      categories types)
    (loads : List.Forall₂ (fun category nodes => Category.Loads category view nodes)
      categories groups) {name : String} {node : Node}
    (inside : (name, node) ∈ labelled categories groups) :
    ∃ type ∈ types, node.States form type := by
  obtain ⟨category, known, nodes, load, member⟩ := Layout.mem_labelled loads inside
  obtain ⟨type, among, states⟩ := exists_of_forall₂ typed known
  exact ⟨type, among, states.of_loads load node member⟩

/-- **The structures of a type are the nodes of its category**, behind some that state none of the
types. -/
theorem stands_ofType {categories : List Category} {types : List UInt8}
    {groups : List (List Node)} {mets : List Met}
    (typed : List.Forall₂ (fun category type => Category.AllNodes category (Node.States form type))
      categories types)
    (loads : List.Forall₂ (fun category nodes => Category.Loads category view nodes)
      categories groups)
    (apart : types.Nodup) (front : List (String × Node))
    (others : ∀ node ∈ front, ∃ type, type ∉ types ∧ node.2.States form type)
    (stands : List.Forall₂ (fun (node : String × Node) => node.2.StandsAt form context bytes)
      (front ++ labelled categories groups) mets) :
    List.Forall₂ (fun type nodes => List.Forall₂ (fun (node : Node) =>
        node.StandsAt form context bytes) nodes (mets.filter fun met => met.type == type))
      types groups := by
  -- From one category to the next, the nodes of the first join those in front.
  induction typed generalizing front groups with
  | nil =>
    cases loads
    exact .nil
  | @cons category type categories types here behind ih =>
    cases loads with
    | @cons _ nodes _ groups load rest =>
      obtain ⟨new, apart⟩ := List.nodup_cons.mp apart
      have own := here.of_loads load
      have split : labelled (category :: categories) (nodes :: groups) =
          (nodes.map fun node => (category.name, node)) ++ labelled categories groups := rfl
      rw [split] at stands
      refine .cons ?_ (ih rest apart (front ++ nodes.map fun node => (category.name, node)) ?_ ?_)
      · have kept := forall₂_filter (fun met => met.type == type) front stands ?_ ?_ ?_
        · rwa [List.forall₂_map_left_iff] at kept
        · intro node inside met there
          obtain ⟨other, outside, states⟩ := others node inside
          rw [there.type_eq states]
          exact beq_eq_false_iff_ne.mpr fun same => outside (same ▸ List.mem_cons_self)
        · intro node inside met there
          obtain ⟨one, member, rfl⟩ := List.mem_map.mp inside
          rw [there.type_eq (own one member)]
          exact beq_self_eq_true type
        · rintro ⟨name, node⟩ inside met there
          obtain ⟨other, among, states⟩ := exists_states behind rest inside
          rw [there.type_eq states]
          exact beq_eq_false_iff_ne.mpr fun same => new (same ▸ among)
      · intro node inside
        rcases List.mem_append.mp inside with inside | inside
        · obtain ⟨other, outside, states⟩ := others node inside
          exact ⟨other, fun among => outside (List.mem_cons_of_mem _ among), states⟩
        · obtain ⟨one, member, rfl⟩ := List.mem_map.mp inside
          exact ⟨type, new, own one member⟩
      · rwa [List.append_assoc]

/-- **Walking a built table** meets the nodes of each category as the structures of its type. -/
theorem TableKind.walk_ofType {kind : TableKind} {request : TableRequest} {table : Table}
    (regular : kind.IsRegular) {types : List UInt8}
    (typed : List.Forall₂ (fun category type => Category.AllNodes category (Node.States form type))
      kind.layout.categories types)
    (apart : types.Nodup) (built : (kind.build request view).result = .ok table) :
    ∃ groups mets index, List.Forall₂ (fun category nodes => Category.Loads category view nodes)
        kind.layout.categories groups ∧
      form.walk table.bytes kind.layout.headerLength = some mets ∧
      List.Forall₂ (fun type nodes => List.Forall₂ (fun (node : Node) =>
          node.StandsAt form ⟨view, index, request.revision⟩ table.bytes) nodes
          (mets.filter fun met => met.type == type)) types groups := by
  obtain ⟨groups, mets, index, loads, walked, _, stands⟩ := walk_stands regular typed built
  exact ⟨groups, mets, index, loads, walked,
    stands_ofType typed loads apart [] (List.forall_mem_nil _) stands⟩

/-! ### What a node of pieces shows -/

theorem Node.StandsAt.pieces {token : Token} {size : Nat}
    {pieces : Context → Reading TableError (List Piece)} (exact : Node.AreExact size pieces)
    (stands : (Node.ofPieces token size pieces).StandsAt form context bytes met) :
    met.length = size ∧ ∃ made, (pieces context).result = .ok made ∧
      bytes.slice? met.offset met.length = some (Piece.encodeAll made) := by
  obtain ⟨image, drawn, -, there⟩ := stands
  rw [Node.ofPieces_image exact] at drawn
  obtain ⟨made, done, rfl⟩ := map_eq_ok.mp drawn
  refine ⟨?_, made, done, there⟩
  rw [← exact context made done]
  exact (Bytes.apart_of_slice? there).2.2.symm

end

/-! ### Forms that are read -/

/-- Pieces stand where they start, also in the middle of other bytes. -/
theorem Form.isReadIn_of_slice {form : Form} {bytes : Bytes} {start length : Nat}
    {pieces : List Piece} (there : bytes.slice? start length = some (Piece.encodeAll pieces))
    (starts : ∀ field ∈ form, Piece.startsAt? pieces field.1 = some field.2) :
    form.IsReadIn bytes start := by
  obtain ⟨split, front, -⟩ := Bytes.apart_of_slice? there
  have read := Form.isReadIn_of_startsAt (bytes.take start) (bytes.drop (start + length)) starts
  rwa [← split, front] at read

/-- A piece without its value. -/
def Piece.blank : Piece → Piece
  | byte _ => byte 0
  | half _ => half 0
  | word _ => word 0
  | long _ => long 0
  | bytes value => bytes (Bytes.zeros value.length)
  | zeros length => zeros length

/-- The fields of a form without their values. -/
def Form.blank (form : Form) : Form := form.map fun field => (field.1, field.2.blank)

theorem Piece.eq_of_isReadAt {one other : Piece} (same : one.blank = other.blank) {bytes : Bytes}
    {place : Nat} (first : one.IsReadAt bytes place) (second : other.IsReadAt bytes place) :
    one = other := by
  cases one with
  | byte value | half value | word value | long value =>
    cases other <;> cases same
    have equal := Option.some.inj (first.symm.trans second)
    simpa [← UInt8.toNat_inj, ← UInt16.toNat_inj, ← UInt32.toNat_inj, ← UInt64.toNat_inj]
      using equal
  | bytes value =>
    cases other <;> try cases same
    rename_i value'
    have length := congrArg (fun piece => piece.encode.length) same
    simp only [blank, encode_bytes, Bytes.length_zeros] at length
    change bytes.slice? place value.length = some value at first
    rw [length] at first
    rw [Option.some.inj (first.symm.trans second)]
  | zeros length =>
    cases other <;> cases same
    rfl

/-- **What is read settles a form**, once it is known which fields there are. -/
theorem Form.eq_of_isReadIn {one other : Form} (same : one.blank = other.blank) {bytes : Bytes}
    {start : Nat} (first : one.IsReadIn bytes start) (second : other.IsReadIn bytes start) :
    one = other := by
  induction one generalizing other with
  | nil => exact (List.map_eq_nil_iff.mp same.symm).symm
  | cons field one ih =>
    cases other with
    | nil => cases same
    | cons field' other =>
      obtain ⟨head, tail⟩ := List.cons.inj same
      obtain ⟨place, value⟩ := Prod.mk.inj head
      obtain ⟨here, behind⟩ := List.forall_mem_cons.mp first
      obtain ⟨here', behind'⟩ := List.forall_mem_cons.mp second
      rw [← place] at here'
      rw [ih tail behind behind', Prod.ext place (Piece.eq_of_isReadAt value here here')]

/-- The fields of a form follow one another from a place on to the end. -/
def Form.Covers : Form → Nat → Nat → Prop
  | [], place, last => place = last
  | (start, piece) :: form, place, last => start = place ∧ Covers form (place + piece.length) last

/-! ### Shapes -/

/-- How the structures of records look. -/
structure Shape (α : Type) where
  /-- The type that a structure states. -/
  type : UInt8
  /-- The length of a structure. -/
  length : Nat
  /-- Where the fields of a record stand. -/
  form : α → Form
  /-- The record without what is not written. -/
  emitted : α → α

namespace Shape

variable {α : Type} {shape : Shape α} {bytes : Bytes} {records others : List α} {mets : List Met}

/-- The structures of the type are those of some records, one by one. Each of them has the length of
the shape, is covered by the form of its record, and all fields of the form are read in it. -/
def Shows (shape : Shape α) (bytes : Bytes) (records : List α) (mets : List Met) : Prop :=
  List.Forall₂ (fun record (met : Met) => met.length = shape.length ∧
      (shape.form record).Covers 0 shape.length ∧ (shape.form record).IsReadIn bytes met.offset)
    records (mets.filter fun met => met.type == shape.type)

/-- The form has the same fields for all records, which cover the structure, and tells all that is
written of one. -/
structure IsFaithful (shape : Shape α) : Prop where
  /-- The fields stand in the same places whatever the record. -/
  fields : ∀ one other, (shape.form one).blank = (shape.form other).blank
  /-- They leave no byte of the structure out. -/
  covers : ∀ record, (shape.form record).Covers 0 shape.length
  /-- What is written of a record can be told from them. -/
  settled : ∀ one other, shape.form one = shape.form other →
    shape.emitted one = shape.emitted other

/-- **Structures settle their records**, but for what is not written. -/
theorem Shows.unique (faithful : shape.IsFaithful) (one : shape.Shows bytes records mets)
    (other : shape.Shows bytes others mets) :
    records.map shape.emitted = others.map shape.emitted := by
  rw [← List.forall₂_eq_eq_eq, List.forall₂_map_left_iff, List.forall₂_map_right_iff]
  refine forall₂_trans ?_ one other.flip
  rintro record met record' ⟨-, -, read⟩ ⟨-, -, read'⟩
  exact faithful.settled _ _ (Form.eq_of_isReadIn (faithful.fields _ _) read read')

/-- **Nodes of pieces show their records** if the pieces start where the form has them. -/
theorem shows_of_stands {form : LengthForm} {context : Context}
    {pieces : Context → α → List Piece} {token : Token} (faithful : shape.IsFaithful)
    (exact : ∀ context record, (Piece.encodeAll (pieces context record)).length = shape.length)
    (starts : ∀ record, ∀ field ∈ shape.form record,
      Piece.startsAt? (pieces context record) field.1 = some field.2)
    (stands : List.Forall₂ (fun (node : Node) => node.StandsAt form context bytes)
      (records.map fun record =>
        Node.ofPieces token shape.length fun context => pure (pieces context record))
      (mets.filter fun met => met.type == shape.type)) : shape.Shows bytes records mets := by
  rw [List.forall₂_map_left_iff] at stands
  refine stands.imp fun record met there => ?_
  obtain ⟨length, made, done, slice⟩ := there.pieces fun context made done => by
    cases done
    exact exact context record
  cases done
  exact ⟨length, faithful.covers record, Form.isReadIn_of_slice slice (starts record)⟩

end Shape

end FirmwareTables
