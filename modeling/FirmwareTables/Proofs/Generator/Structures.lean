/-
**The structures of the tables with one-byte lengths.**

The nodes of the tables of interrupt controllers and of affinity start with their type and their
length, and the bytes that follow are as many as the length says (`states_all`). All of them can
always be written (`total_all`), but for a generic initiator, which has to find its handle
(`initiator_image`). An entry of configuration space has no header and always sixteen bytes.

The three kinds of tables are regular: header, fields and nodes fit together.
-/

import FirmwareTables.Generator.Madt
import FirmwareTables.Generator.Mcfg
import FirmwareTables.Generator.Srat
import FirmwareTables.Proofs.Generator.Assembly
import FirmwareTables.Proofs.Layout.Instances
import FirmwareTables.Proofs.Table.Walk

namespace FirmwareTables

/-! ### Nodes that can always be written -/

/-- A node whose image, if there is one, states a type and its own length. -/
def Node.States (form : LengthForm) (type : UInt8) (node : Node) : Prop :=
  ∀ context image, node.image context = .ok image → form.States type image

/-- A node that can always be written. -/
def Node.IsTotal (node : Node) : Prop := ∀ context, ∃ image, node.image context = .ok image

namespace Node

variable {token : Token} {size : Nat} {pieces : Context → List Piece}

theorem image_of_pure (exact : ∀ context, (Piece.encodeAll (pieces context)).length = size)
    (context : Context) :
    (ofPieces token size fun context => pure (pieces context)).image context =
      .ok (Piece.encodeAll (pieces context)) :=
  ofPieces_image (fun context _ done => by cases done; exact exact context) context

theorem isTotal (exact : ∀ context, (Piece.encodeAll (pieces context)).length = size) :
    (ofPieces token size fun context => pure (pieces context)).IsTotal :=
  fun context => ⟨_, image_of_pure exact context⟩

/-- A node of fixed pieces that start with a type and the length of all of them. -/
theorem states {type length : UInt8} {rest : Context → List Piece}
    (exact : ∀ context, (Piece.encodeAll (rest context)).length + 2 = length.toNat) :
    (ofPieces token length.toNat fun context =>
      pure (.byte type :: .byte length :: rest context)).States .short type := by
  intro context image done
  have whole : ∀ context,
      (Piece.encodeAll (.byte type :: .byte length :: rest context)).length = length.toNat := by
    intro context
    rw [← exact context]
    rfl
  rw [image_of_pure whole] at done
  cases done
  exact LengthForm.states_short (exact context)

end Node

/-! ### Interrupt controllers -/

namespace Madt

/-- The types that the structures of each category state. -/
theorem states_all : List.Forall₂
    (fun category type => Category.AllNodes category (Node.States .short type))
    layout.categories [0x0b, 0x0c, 0x0d, 0x0e, 0x0f] := by
  refine .cons ?_ (.cons ?_ (.cons ?_ (.cons ?_ (.cons ?_ .nil)))) <;>
    exact Category.IsOf.allNodes ⟨rfl, rfl⟩ fun _ => Node.states fun _ => by simp

theorem total_all : ∀ category ∈ layout.categories, category.AllNodes Node.IsTotal := by
  simp only [layout, List.forall_mem_cons]
  refine ⟨?_, ?_, ?_, ?_, ?_, List.forall_mem_nil _⟩ <;>
    exact Category.IsOf.allNodes ⟨rfl, rfl⟩ fun _ => Node.isTotal fun _ => by simp [structureOf]

theorem isRegular : kind.IsRegular where
  narrow := ⟨by decide, by decide⟩
  long := by decide
  short := by decide
  fields plan made done := by
    cases done
    simp [kind, layout, headerLength]
  keeps := by
    simp only [kind, layout, List.forall_mem_cons]
    refine ⟨?_, ?_, ?_, ?_, ?_, List.forall_mem_nil _⟩ <;>
      exact Category.IsOf.allNodes ⟨rfl, rfl⟩ fun _ => Node.ofPieces_keepsLength

end Madt

/-! ### Affinity -/

namespace Srat

/-- A handle has sixteen bytes, whatever its type. -/
theorem length_handle {view : View} {record : GenericInitiator} {pieces : List Piece}
    (done : (handle view record).result = .ok pieces) : (Piece.encodeAll pieces).length = 16 := by
  unfold handle at done
  split at done
  · cases done
  split at done
  · simp only [Reading.result_bind, bind_eq_ok] at done
    obtain ⟨_, _, done⟩ := done
    cases done
    simp
  split at done
  · simp only [Reading.result_bind, bind_eq_ok] at done
    obtain ⟨_, _, done⟩ := done
    cases done
    simp
  · cases done

/-- The bytes of a generic initiator behind its type and its length. -/
def initiatorRest (record : GenericInitiator) (handle : List Piece) : Bytes :=
  Piece.encodeAll ([.zeros 1, .byte record.deviceHandleType, .word record.proximityDomain] ++
    handle ++ [.word record.flags, .zeros 4])

theorem length_initiatorRest (record : GenericInitiator) {handle : List Piece}
    (long : (Piece.encodeAll handle).length = 16) : (initiatorRest record handle).length = 30 := by
  unfold initiatorRest
  rw [Piece.encodeAll_append, Piece.encodeAll_append, List.length_append, List.length_append, long]
  simp

/-- **The image of a generic initiator** carries the handle that is found for it. -/
theorem initiator_image (record : GenericInitiator) (context : Context) :
    (genericInitiator record).image context =
      (fun handle => 5 :: 32 :: initiatorRest record handle) <$>
        (handle context.view record).result := by
  refine @Node.ofPieces_image_eq _ _ _ (fun context =>
    (fun handle => 5 :: 32 :: initiatorRest record handle) <$> (handle context.view record).result)
    (fun context => ?_) (fun context bytes done => ?_) context
  · simp only [Reading.result_bind, map_bind]
    cases (handle context.view record).result <;> rfl
  · obtain ⟨found, known, rfl⟩ := map_eq_ok.mp done
    rw [List.length_cons, List.length_cons, length_initiatorRest record (length_handle known)]

theorem initiator_states (record : GenericInitiator) :
    (genericInitiator record).States .short 5 := by
  intro context image done
  rw [initiator_image] at done
  obtain ⟨found, known, rfl⟩ := map_eq_ok.mp done
  refine LengthForm.states_short ?_
  rw [length_initiatorRest record (length_handle known)]
  rfl

/-- The types that the structures of each category state. -/
theorem states_all : List.Forall₂
    (fun category type => Category.AllNodes category (Node.States .short type))
    layout.categories [3, 4, 1, 5] := by
  refine .cons ?_ (.cons ?_ (.cons ?_ (.cons ?_ .nil)))
  · exact Category.IsOf.allNodes ⟨rfl, rfl⟩ fun _ => Node.states fun _ => by simp
  · exact Category.IsOf.allNodes ⟨rfl, rfl⟩ fun _ => Node.states fun _ => by simp
  · exact Category.IsOf.allNodes ⟨rfl, rfl⟩ fun _ => Node.states fun _ => by simp [halves]
  · exact Category.IsOf.allNodes ⟨rfl, rfl⟩ initiator_states

/-- The category of initiators is the last of four. -/
theorem categories_eq : layout.categories = layout.categories.take 3 ++
    [Category.ofRecords GenericInitiator "generic initiator affinity" genericInitiator] := rfl

/-- All structures but those of initiators can always be written. -/
theorem total_all : ∀ category ∈ layout.categories.take 3, category.AllNodes Node.IsTotal := by
  simp only [layout, List.take_succ_cons, List.take_zero, List.forall_mem_cons]
  refine ⟨?_, ?_, ?_, List.forall_mem_nil _⟩ <;>
    exact Category.IsOf.allNodes ⟨rfl, rfl⟩ fun _ => Node.isTotal fun _ => by simp [halves]

theorem isRegular : kind.IsRegular where
  narrow := ⟨by decide, by decide⟩
  long := by decide
  short := by decide
  fields plan made done := by
    cases done
    simp [kind, layout, headerLength]
  keeps := by
    simp only [kind, layout, List.forall_mem_cons]
    refine ⟨?_, ?_, ?_, ?_, List.forall_mem_nil _⟩ <;>
      exact Category.IsOf.allNodes ⟨rfl, rfl⟩ fun _ => Node.ofPieces_keepsLength

end Srat

/-! ### Configuration space -/

namespace Mcfg

theorem total_all : ∀ category ∈ layout.categories, category.AllNodes Node.IsTotal := by
  simp only [layout, List.forall_mem_cons]
  refine ⟨?_, List.forall_mem_nil _⟩
  exact Category.IsOf.allNodes ⟨rfl, rfl⟩ fun _ => Node.isTotal fun _ => by simp

theorem isRegular : kind.IsRegular where
  narrow := ⟨by decide, by decide⟩
  long := by decide
  short := by decide
  fields plan made done := by
    cases done
    simp [kind, layout, headerLength]
  keeps := by
    simp only [kind, layout, List.forall_mem_cons]
    refine ⟨?_, List.forall_mem_nil _⟩
    exact Category.IsOf.allNodes ⟨rfl, rfl⟩ fun _ => Node.ofPieces_keepsLength

end Mcfg

end FirmwareTables
