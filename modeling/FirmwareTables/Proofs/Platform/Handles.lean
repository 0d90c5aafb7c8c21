/-
**Handles of initiators.**

A table of affinity that is built from what descriptions stored has one structure for each generic
initiator, in the order of the descriptions, and this structure carries the handle of the
initiator's own device (`HasHandles`). The handle is always found (`handle_eq`), so that the table
is refused only over too much of something, or if there is no processor.
-/

import FirmwareTables.Proofs.Generator.Shapes
import FirmwareTables.Proofs.Platform.Configured
import FirmwareTables.Proofs.Platform.Excess

namespace FirmwareTables

/-! ### The structure of an initiator -/

/-- The sixteen bytes of a handle. -/
def Device.pieces : Device → List Piece
  | acpi handle => [.long handle.hid, .word handle.uid, .zeros 4]
  | pci handle => [.half handle.segmentNumber, .half handle.address, .zeros 12]

/-- The structure of an initiator: its domain, its flags and the handle of its device. -/
def InitiatorSection.pieces (initiator : InitiatorSection) : List Piece :=
  [.byte 5, .byte 32, .zeros 1, .byte initiator.device.type, .word initiator.proximityDomain] ++
    initiator.device.pieces ++ [.word initiator.flags, .zeros 4]

/-- From byte 48 to the end there are structures, of which those of type five are those of the
initiators of all descriptions. -/
def HasHandles (platforms : List Platform) (bytes : Bytes) : Prop :=
  ∃ mets, LengthForm.short.walk bytes 48 = some mets ∧
    List.Forall₂ (fun (initiator : InitiatorSection) (met : Met) =>
        bytes.slice? met.offset met.length = some (Piece.encodeAll initiator.pieces))
      (platforms.flatMap Platform.initiators) (mets.filter fun met => met.type == 5)

namespace Srat

theorem firstHandle_eq {α : Type} [Record α] (fixed : ∀ field ∈ Record.fields α,
    field.kind.IsFixed = true) {store : Store} {record : GenericInitiator} {handle : α}
    {count : UInt32} (stored : IsStored store [handle] count record.deviceHandleToken) :
    record.deviceHandleToken.isNull = false ∧
      (firstHandle α store.view record).result = .ok handle := by
  obtain ⟨named, listed⟩ := stored.getList_eq (Record.areReadable fixed _)
    (List.cons_ne_nil _ _)
  refine ⟨named, ?_⟩
  unfold firstHandle
  rw [Reading.result_bind, Reading.result_mapError, listed]
  rfl

/-- **The handle that is found** for an initiator is that of its device. -/
theorem handle_eq {store : Store} {initiator : InitiatorSection} {record : GenericInitiator}
    (realizes : initiator.Realizes store record) :
    (handle store.view record).result = .ok initiator.device.pieces := by
  obtain ⟨same, held⟩ := realizes
  have type : record.deviceHandleType = initiator.device.type := by rw [same]
  unfold handle
  rw [type]
  cases device : initiator.device with
  | acpi own =>
    rw [device] at held
    obtain ⟨named, found⟩ := firstHandle_eq (by decide) held
    unfold Device.type
    rw [named, if_neg Bool.false_ne_true, if_pos rfl, Reading.result_bind, found]
    rfl
  | pci own =>
    rw [device] at held
    obtain ⟨named, found⟩ := firstHandle_eq (by decide) held
    have other : PciHandle.deviceType ≠ AcpiHandle.deviceType := by decide
    unfold Device.type
    rw [named, if_neg Bool.false_ne_true, if_neg other, if_pos rfl, Reading.result_bind, found]
    rfl

theorem image_eq {store : Store} {initiator : InitiatorSection} {record : GenericInitiator}
    (realizes : initiator.Realizes store record) {context : Context}
    (same : context.view = store.view) :
    (genericInitiator record).image context = .ok (Piece.encodeAll initiator.pieces) := by
  rw [initiator_image, same, handle_eq realizes]
  obtain ⟨equal, _⟩ := realizes
  rw [equal]
  rfl

end Srat

/-! ### The table -/

section

variable {platforms : List Platform} {configuration : Configuration}
  {records : List GenericInitiator}

/-- The records of a plain list are found as the descriptions have them. -/
theorem PlainList.IsHeld.finds {list : PlainList} {store : Store}
    (held : list.IsHeld platforms store) : store.Finds .null (platforms.flatMap list.records) :=
  Store.finds_of_listOf held.2 held.1

theorem Srat.isSteady (plain : ∀ list ∈ PlainList.all, list.IsHeld platforms configuration.store)
    (holds : HoldsInitiators (platforms.flatMap Platform.initiators) records configuration.store) :
    ∀ category ∈ layout.categories,
      category.IsSteady configuration.store.view layout.limits TableError.IsExcess := by
  have interfaces := (plain ⟨CpuInterface, inferInstance, Platform.cpuInterfaces⟩
    (by simp [PlainList.all])).finds
  have services := (plain ⟨TranslationService, inferInstance, Platform.translationServices⟩
    (by simp [PlainList.all])).finds
  have ranges := (plain ⟨MemoryAffinity, inferInstance, Platform.memoryAffinities⟩
    (by simp [PlainList.all])).finds
  have initiators := Store.finds_of_listOf holds.found holds.few
  simp only [layout, List.forall_mem_cons]
  refine ⟨?_, ?_, ?_, ?_, List.forall_mem_nil _⟩
  · exact Category.IsOf.steady_excess ⟨rfl, rfl⟩ (fun _ => ⟨_, rfl⟩) (fun _ => rfl) (by decide)
      interfaces (Record.areReadable (by decide) _) _
  · exact Category.IsOf.steady_excess ⟨rfl, rfl⟩ (fun _ => ⟨_, rfl⟩) (by decide) (by decide)
      services (Record.areReadable (by decide) _) _
  · exact Category.IsOf.steady_excess ⟨rfl, rfl⟩ (fun _ => ⟨_, rfl⟩) (by decide) (by decide)
      ranges (Record.areReadable (by decide) _) _
  · exact Category.IsOf.steady_excess ⟨rfl, rfl⟩ (fun _ => ⟨_, rfl⟩) (by decide) (by decide)
      initiators (Record.areReadable (by decide) _) _

namespace HoldsInitiators

/-- The nodes loaded for initiators are those of their records. -/
theorem loads_eq (holds : HoldsInitiators (platforms.flatMap Platform.initiators) records
    configuration.store) {nodes : List Node}
    (loads : (Category.ofRecords GenericInitiator "generic initiator affinity"
      Srat.genericInitiator).Loads configuration.store.view nodes) :
    nodes = records.map Srat.genericInitiator := by
  obtain ⟨others, lists, rfl⟩ := Category.loads_ofRecords.mp loads
  have same := Store.eq_of_lists (Store.finds_of_listOf holds.found holds.few)
    (Record.areReadable (by decide) _) lists
  rw [same]

/-- All nodes of the table can be written. -/
theorem exists_image (holds : HoldsInitiators (platforms.flatMap Platform.initiators) records
    configuration.store) {category : Category} (known : category ∈ Srat.layout.categories)
    {nodes : List Node} (loads : category.Loads configuration.store.view nodes) {node : Node}
    (inside : node ∈ nodes) {context : Context} (same : context.view = configuration.store.view) :
    ∃ image, node.image context = .ok image := by
  rcases List.mem_append.mp (Srat.categories_eq ▸ known) with known | known
  · exact (Srat.total_all category known).of_loads loads node inside context
  · rw [List.mem_singleton.mp known] at loads
    rw [holds.loads_eq loads] at inside
    obtain ⟨record, member, rfl⟩ := List.mem_map.mp inside
    obtain ⟨initiator, _, realizes⟩ := exists_of_forall₂ holds.realized.flip member
    exact ⟨_, Srat.image_eq realizes same⟩

/-- **The table of affinity is refused** over a parameter only. -/
theorem refused (holds : HoldsInitiators (platforms.flatMap Platform.initiators) records
    configuration.store)
    (plain : ∀ list ∈ PlainList.all, list.IsHeld platforms configuration.store)
    (vendor : HasVendor configuration.store) {request : TableRequest} {error : TableError}
    (failed : (Srat.kind.build request configuration.store.view).result = .error error) :
    error.IsRefusal Srat.kind.toProfile request := by
  refine TableKind.build_refused Srat.isRegular vendor (Srat.isSteady plain holds) ?_ ?_ failed
  · intro plan planned place inside
    obtain ⟨_, groups, loads, lies⟩ := Layout.plan_eq_ok.mp planned
    have member : place.node ∈ plan.placed.map Placed.node := List.mem_map_of_mem inside
    rw [lies.nodes_eq] at member
    obtain ⟨⟨name, node⟩, among, same⟩ := List.mem_map.mp member
    obtain ⟨category, known, nodes, load, here⟩ := Layout.mem_labelled loads among
    rw [← same]
    exact holds.exists_image known load here rfl
  · intro plan _
    exact ⟨_, rfl⟩

/-- **Each initiator carries the handle of its own device.** -/
theorem hasHandles (holds : HoldsInitiators (platforms.flatMap Platform.initiators) records
    configuration.store) {request : TableRequest} {table : Table}
    (built : (Srat.kind.build request configuration.store.view).result = .ok table) :
    HasHandles platforms table.bytes := by
  obtain ⟨groups, mets, index, loads, walked, each⟩ :=
    TableKind.walk_ofType Srat.isRegular Srat.states_all (by decide) built
  simp only [Srat.kind, Srat.layout, List.forall₂_cons_left_iff, List.forall₂_nil_left_iff] at loads
  obtain ⟨interfaces, _, _, ⟨services, _, _, ⟨ranges, _, _, ⟨initiators, _, fourth, rfl, rfl⟩, rfl⟩,
    rfl⟩, rfl⟩ := loads
  rw [holds.loads_eq fourth] at each
  obtain ⟨-, -, -, last, -⟩ := by simpa only [List.forall₂_cons] using each
  rw [List.forall₂_map_left_iff] at last
  refine ⟨mets, walked, forall₂_trans ?_ holds.realized last⟩
  rintro initiator record met realizes ⟨image, made, _, there⟩
  rw [Srat.image_eq realizes rfl] at made
  cases made
  exact there

end HoldsInitiators

end

end FirmwareTables
