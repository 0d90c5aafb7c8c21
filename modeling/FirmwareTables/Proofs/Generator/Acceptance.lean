/-
**Which interrupt controllers make a table.**

The table of interrupt controllers is built exactly from what is acceptable (`build_acceptance`):
the request is for it, the vendor's record is there, the entries of each object taken together are
records, among them an interface and one distributor, no two interfaces share a processor, and the
table keeps within 32 bits. Nothing else is asked, so nothing acceptable is refused; and what is
built has one distributor and never the same processor twice.

* `TableKind.exists_build`: a kind whose nodes can always be written asks for no more than its
  request, the vendor's record, and room for what it loads;
* `Supply.loads_iff`, `Supply.fit_iff`: what the categories load, and how much room it takes;
* `exists_build`: from what a view shows a table is built;
* `Supply.shows`: what a consumer finds in the table.
-/

import FirmwareTables.Proofs.Generator.Finished
import FirmwareTables.Proofs.Generator.Shapes
import FirmwareTables.Proofs.Layout.Geometry
import FirmwareTables.Proofs.Repository.Holding
import FirmwareTables.Proofs.Table.Duplicate

namespace FirmwareTables

/-! ### Kinds whose nodes can always be written -/

/-- **There is a plan** exactly if what the categories load fits behind the front. -/
theorem Layout.exists_plan {layout : Layout} {view : View}
    (front : layout.headerLength ≤ layout.limits.maxTable) :
    (∃ plan, (layout.plan view).result = .ok plan) ↔
      ∃ groups, List.Forall₂ (fun category nodes => Category.Loads category view nodes)
          layout.categories groups ∧
        Fit layout.limits layout.headerLength (labelled layout.categories groups) := by
  constructor
  · rintro ⟨plan, planned⟩
    obtain ⟨_, groups, loads, lies⟩ := plan_eq_ok.mp planned
    exact ⟨groups, loads, lies.fit front⟩
  · rintro ⟨groups, loads, fit⟩
    obtain ⟨placed, last, lies⟩ := (lies_iff front).mpr fit
    exact ⟨⟨layout.headerLength, last, placed⟩, plan_eq_ok.mpr ⟨rfl, groups, loads, lies⟩⟩

namespace TableKind

variable {kind : TableKind} {request : TableRequest} {view : View} {table : Table}

/-- **A table is built** exactly if the request is accepted, the vendor's record is there and what
the categories load fits: nodes that can always be written are no further condition. -/
theorem exists_build (regular : kind.IsRegular)
    (total : ∀ category ∈ kind.layout.categories, category.AllNodes Node.IsTotal)
    (filled : ∀ plan, ∃ fields, kind.fields plan = .ok fields) :
    (∃ table, (kind.build request view).result = .ok table) ↔
      kind.checkRequest request = .ok () ∧
        (∃ info, (view.getObject ManagerInfo).result = .ok info) ∧
        ∃ groups, List.Forall₂ (fun category nodes => Category.Loads category view nodes)
            kind.layout.categories groups ∧
          Fit kind.layout.limits kind.layout.headerLength
            (labelled kind.layout.categories groups) := by
  rw [← Layout.exists_plan regular.short]
  constructor
  · rintro ⟨table, built⟩
    obtain ⟨checked, info, plan, _, _, read, planned, _⟩ := (build_eq_ok regular).mp built
    exact ⟨checked, ⟨info, read⟩, ⟨plan, planned⟩⟩
  · rintro ⟨checked, ⟨info, read⟩, ⟨plan, planned⟩⟩
    obtain ⟨fields, made⟩ := filled plan
    have drawn : ∀ place ∈ plan.placed,
        ∃ image, place.node.image ⟨view, plan.index, request.revision⟩ = .ok image := by
      intro place inside
      obtain ⟨category, among, nodes, load, member⟩ := Layout.mem_placed planned inside
      exact total category among view nodes load place.node member _
    obtain ⟨images, drawn⟩ := exists_forall₂.mpr drawn
    exact ⟨⟨kind.front request info plan fields ++ images.flatten⟩, (build_eq_ok regular).mpr
      ⟨checked, info, plan, images, fields, read, planned, mapM_eq_ok.mpr drawn, made, rfl⟩⟩

/-- A built table is as long as its front and all that the categories load. -/
theorem length_eq_extent (regular : kind.IsRegular)
    (built : (kind.build request view).result = .ok table) :
    ∃ groups, List.Forall₂ (fun category nodes => Category.Loads category view nodes)
        kind.layout.categories groups ∧
      table.bytes.length =
        kind.layout.headerLength + extent (labelled kind.layout.categories groups) := by
  obtain ⟨_, info, plan, images, fields, _, planned, drawn, made, bytes⟩ :=
    (build_eq_ok regular).mp built
  obtain ⟨_, groups, loads, lies⟩ := Layout.plan_eq_ok.mp planned
  refine ⟨groups, loads, ?_⟩
  rw [bytes, List.length_append, regular.length_front request info made, ← lies.last_eq_extent]
  exact lies.length_images (regular.keepsLength planned) (mapM_eq_ok.mp drawn)

end TableKind

/-- The room that nodes of one size take. -/
theorem extent_map {α : Type} {name : String} {node : α → Node} {size : Nat}
    (sized : ∀ record, (node record).size = .ok size) (records : List α) :
    extent (records.map fun record => (name, node record)) = size * records.length := by
  induction records with
  | nil => rfl
  | cons record records ih =>
    rw [List.map_cons, extent, ih, Node.length_eq (sized record), List.length_cons, Nat.mul_succ,
      Nat.add_comm]

namespace Madt

/-! ### What the table is made from -/

/-- Records of all five kinds. -/
structure Supply where
  /-- The interfaces of the processors. -/
  cpuInterfaces : List CpuInterface
  /-- The distributors. -/
  distributors : List Distributor
  /-- The frames for messages. -/
  msiFrames : List MsiFrame
  /-- The ranges of redistributors. -/
  redistributors : List Redistributor
  /-- The translation services. -/
  translationServices : List TranslationService

namespace Supply

/-- The ids of the processors. -/
def processors (supply : Supply) : List UInt32 :=
  supply.cpuInterfaces.map CpuInterface.acpiProcessorUid

/-- The length of the table: its front, and the structures of each kind. -/
def tableLength (supply : Supply) : Nat :=
  44 + (80 * supply.cpuInterfaces.length + 24 * supply.distributors.length +
    24 * supply.msiFrames.length + 16 * supply.redistributors.length +
    20 * supply.translationServices.length)

/-- The records are those that a view lists. -/
structure IsListed (supply : Supply) (view : View) : Prop where
  /-- The interfaces of the processors. -/
  cpuInterfaces : view.Lists supply.cpuInterfaces
  /-- The distributors. -/
  distributors : view.Lists supply.distributors
  /-- The frames for messages. -/
  msiFrames : view.Lists supply.msiFrames
  /-- The ranges of redistributors. -/
  redistributors : view.Lists supply.redistributors
  /-- The translation services. -/
  translationServices : view.Lists supply.translationServices

/-- The records are those that a store holds, object by object. -/
structure IsHeld (supply : Supply) (store : Store) : Prop where
  /-- The interfaces of the processors. -/
  cpuInterfaces : store.Holds supply.cpuInterfaces
  /-- The distributors. -/
  distributors : store.Holds supply.distributors
  /-- The frames for messages. -/
  msiFrames : store.Holds supply.msiFrames
  /-- The ranges of redistributors. -/
  redistributors : store.Holds supply.redistributors
  /-- The translation services. -/
  translationServices : store.Holds supply.translationServices

/-- There are interfaces, no two of them for one processor, and there is one distributor. -/
structure IsSound (supply : Supply) : Prop where
  /-- There is a processor. -/
  present : supply.cpuInterfaces ≠ []
  /-- No two processors have the same id. -/
  apart : supply.processors.Nodup
  /-- There is one distributor and no more. -/
  single : supply.distributors.length = 1

end Supply

/-- A request, a store and the records that it holds are as the table asks for. -/
structure IsAcceptable (store : Store) (request : TableRequest) (supply : Supply) : Prop where
  /-- The generator of the table is named. -/
  generator : request.generatorId = .madt
  /-- The table itself is named. -/
  signature : request.signature = .apic
  /-- The revision is one of the two that there are. -/
  revision : request.revision = 4 ∨ request.revision = 5
  /-- The vendor's record is held, maybe with others behind it. -/
  vendor : ∃ (info : ManagerInfo) (others : List ManagerInfo), store.Holds (info :: others)
  /-- The records are held. -/
  held : supply.IsHeld store
  /-- They go together. -/
  sound : supply.IsSound
  /-- The table is not too long. -/
  short : supply.tableLength ≤ 4294967295

/-! ### What is asked of the request and of the processors -/

theorem checkRequest_eq_ok {request : TableRequest} :
    kind.checkRequest request = .ok () ↔ request.generatorId = .madt ∧ request.signature = .apic ∧
      (request.revision = 4 ∨ request.revision = 5) := by
  rw [Profile.checkRequest_eq_ok]
  refine and_congr_right fun _ => and_congr_right fun _ => ?_
  show (4 : UInt8) ≤ request.revision ∧ request.revision ≤ 5 ↔ _
  rw [UInt8.le_iff_toNat_le, UInt8.le_iff_toNat_le, ← UInt8.toNat_inj, ← UInt8.toNat_inj]
  show 4 ≤ request.revision.toNat ∧ request.revision.toNat ≤ 5 ↔
    request.revision.toNat = 4 ∨ request.revision.toNat = 5
  omega

/-- The vendor's record is there if it is the first that a store holds. -/
theorem exists_info {store : Store} :
    (∃ info, (store.view.getObject ManagerInfo).result = .ok info) ↔
      ∃ (info : ManagerInfo) (others : List ManagerInfo), store.Holds (info :: others) := by
  refine exists_congr fun info => View.getObject_eq_ok.trans (exists_congr fun others => ?_)
  exact Store.getList_eq_ok (by decide) (List.cons_ne_nil _ _)

/-- **Processors pass the check** exactly if no two of them have the same id. -/
theorem checkProcessors_eq_ok {records : List CpuInterface} :
    checkProcessors records = .ok () ↔ (records.map CpuInterface.acpiProcessorUid).Nodup := by
  have apart : (records.map CpuInterface.acpiProcessorUid).Nodup ↔
      findDuplicate? (fun left right => left.acpiProcessorUid == right.acpiProcessorUid) records =
        none := by
    rw [findDuplicate?_eq_none, List.nodup_iff_pairwise_ne, List.pairwise_map]
    simp only [beq_eq_false_iff_ne]
  unfold checkProcessors
  rw [apart]
  cases findDuplicate? (fun left right => left.acpiProcessorUid == right.acpiProcessorUid) records
    with
  | none => exact iff_of_true rfl rfl
  | some pair => exact iff_of_false nofun nofun

/-! ### What the categories load -/

namespace Supply

/-- The nodes of the table, category by category. -/
def groups (supply : Supply) : List (List Node) :=
  [supply.cpuInterfaces.map cpuInterface, supply.distributors.map distributor,
    supply.msiFrames.map msiFrame, supply.redistributors.map redistributor,
    supply.translationServices.map translationService]

/-- A view lists one supply only. -/
theorem IsListed.unique {first second : Supply} {view : View} (one : first.IsListed view)
    (other : second.IsListed view) : first = second := by
  cases first
  cases second
  rw [mk.injEq]
  exact ⟨one.cpuInterfaces.unique other.cpuInterfaces, one.distributors.unique other.distributors,
    one.msiFrames.unique other.msiFrames, one.redistributors.unique other.redistributors,
    one.translationServices.unique other.translationServices⟩

/-- The view of a store lists the records that the store holds. -/
theorem isListed_iff {supply : Supply} {store : Store} :
    supply.IsListed store.view ↔ supply.IsHeld store :=
  ⟨fun listed => ⟨(Store.lists_iff (by decide)).mp listed.cpuInterfaces,
      (Store.lists_iff (by decide)).mp listed.distributors,
      (Store.lists_iff (by decide)).mp listed.msiFrames,
      (Store.lists_iff (by decide)).mp listed.redistributors,
      (Store.lists_iff (by decide)).mp listed.translationServices⟩,
    fun held => ⟨(Store.lists_iff (by decide)).mpr held.cpuInterfaces,
      (Store.lists_iff (by decide)).mpr held.distributors,
      (Store.lists_iff (by decide)).mpr held.msiFrames,
      (Store.lists_iff (by decide)).mpr held.redistributors,
      (Store.lists_iff (by decide)).mpr held.translationServices⟩⟩

/-- **The categories load** the nodes of the supply that a view lists, provided it is sound. -/
theorem loads_iff {view : View} {nodes : List (List Node)} :
    List.Forall₂ (fun category nodes => Category.Loads category view nodes)
        layout.categories nodes ↔
      ∃ supply : Supply, supply.IsListed view ∧ supply.IsSound ∧ nodes = supply.groups := by
  have interfaces : (Category.ofChecked CpuInterface "GICC" checkProcessors
      cpuInterface).asRequired.IsOf checkProcessors cpuInterface := ⟨rfl, rfl⟩
  have single : (Category.ofRecords Distributor "GICD"
      distributor).asRequired.asSingleton.IsOf (fun _ => .ok ()) distributor := ⟨rfl, rfl⟩
  simp only [layout, List.forall₂_cons_left_iff, List.forall₂_nil_left_iff,
    Category.loads_ofRecords, Category.loads_iff interfaces, Category.loads_iff single,
    Category.checkCount_eq_ok]
  constructor
  · rintro ⟨_, _, ⟨cpuInterfaces, first, rfl, some, apart⟩,
      ⟨_, _, ⟨distributors, second, rfl, one, _⟩, ⟨_, _, ⟨msiFrames, third, rfl⟩,
      ⟨_, _, ⟨redistributors, fourth, rfl⟩, ⟨_, _, ⟨translationServices, fifth, rfl⟩, rfl, rfl⟩,
      rfl⟩, rfl⟩, rfl⟩, rfl⟩
    have present : cpuInterfaces ≠ [] := fun none => some.1 rfl (List.length_eq_zero_iff.mpr none)
    have least := one.1 rfl
    have most := one.2 rfl
    exact ⟨⟨cpuInterfaces, distributors, msiFrames, redistributors, translationServices⟩,
      ⟨first, second, third, fourth, fifth⟩,
      ⟨present, checkProcessors_eq_ok.mp (apart present), by dsimp only; omega⟩, rfl⟩
  · rintro ⟨supply, listed, sound, rfl⟩
    refine ⟨_, _, ⟨_, listed.cpuInterfaces, rfl, ?_,
      fun _ => checkProcessors_eq_ok.mpr sound.apart⟩,
      ⟨_, _, ⟨_, listed.distributors, rfl, ?_, fun _ => trivial⟩,
      ⟨_, _, ⟨_, listed.msiFrames, rfl⟩, ⟨_, _, ⟨_, listed.redistributors, rfl⟩,
      ⟨_, _, ⟨_, listed.translationServices, rfl⟩, rfl, rfl⟩, rfl⟩, rfl⟩, rfl⟩, rfl⟩
    · refine ⟨fun _ none => sound.present (List.length_eq_zero_iff.mp none), ?_⟩
      rintro ⟨⟩
    · have one := sound.single
      exact ⟨fun _ => by omega, fun _ => by omega⟩

theorem extent_groups (supply : Supply) :
    44 + extent (labelled layout.categories supply.groups) = supply.tableLength := by
  simp only [labelled, layout, groups, List.zip_cons_cons, List.zip_nil_right, List.flatMap_cons,
    List.flatMap_nil, List.map_map, Function.comp_def, List.append_nil, extent_append]
  rw [extent_map fun _ => rfl, extent_map fun _ => rfl, extent_map fun _ => rfl,
    extent_map fun _ => rfl, extent_map fun _ => rfl]
  unfold tableLength
  omega

end Supply

/-- Each structure tells its size, which is far within the limit. -/
theorem sized_all : ∀ category ∈ layout.categories, category.AllNodes fun node =>
    ∃ size, node.size = .ok size ∧ size ≤ layout.limits.maxNode := by
  simp only [layout, List.forall_mem_cons]
  refine ⟨?_, ?_, ?_, ?_, ?_, List.forall_mem_nil _⟩ <;>
    exact Category.IsOf.allNodes ⟨rfl, rfl⟩ fun _ => ⟨_, rfl, by decide⟩

/-- **The structures fit** exactly if the table is not too long. -/
theorem Supply.fit_iff {supply : Supply} {view : View}
    (loads : List.Forall₂ (fun category nodes => Category.Loads category view nodes)
      layout.categories supply.groups) :
    Fit layout.limits layout.headerLength (labelled layout.categories supply.groups) ↔
      supply.tableLength ≤ 4294967295 := by
  rw [← supply.extent_groups]
  constructor
  · intro fit
    exact fit.total
  · intro short
    refine Fit.of_narrow ⟨by decide, by decide⟩ ?_ short
    rintro ⟨name, node⟩ inside
    obtain ⟨category, known, nodes, load, member⟩ := Layout.mem_labelled loads inside
    exact (sized_all category known).of_loads load node member

/-- **From what a view shows a table is built**: a request that is accepted, the vendor's record,
and a sound supply that is not too long. -/
theorem exists_build {view : View} {request : TableRequest} :
    (∃ table, (kind.build request view).result = .ok table) ↔
      kind.checkRequest request = .ok () ∧
        (∃ info, (view.getObject ManagerInfo).result = .ok info) ∧
        ∃ supply : Supply, supply.IsListed view ∧ supply.IsSound ∧
          supply.tableLength ≤ 4294967295 := by
  rw [TableKind.exists_build isRegular total_all fun _ => ⟨_, rfl⟩]
  refine and_congr_right fun _ => and_congr_right fun _ => ?_
  constructor
  · rintro ⟨groups, loads, fit⟩
    obtain ⟨supply, listed, sound, rfl⟩ := Supply.loads_iff.mp loads
    exact ⟨supply, listed, sound, (Supply.fit_iff loads).mp fit⟩
  · rintro ⟨supply, listed, sound, short⟩
    have loads := Supply.loads_iff.mpr ⟨supply, listed, sound, rfl⟩
    exact ⟨supply.groups, loads, (Supply.fit_iff loads).mpr short⟩

/-- **From a store a table is built** exactly if some supply is acceptable. -/
theorem exists_build_view {store : Store} {request : TableRequest} :
    (∃ table, (kind.build request store.view).result = .ok table) ↔
      ∃ supply, IsAcceptable store request supply := by
  rw [exists_build, checkRequest_eq_ok, exists_info]
  simp only [Supply.isListed_iff]
  constructor
  · rintro ⟨⟨generator, signature, revision⟩, vendor, supply, held, sound, short⟩
    exact ⟨supply, generator, signature, revision, vendor, held, sound, short⟩
  · rintro ⟨supply, acceptable⟩
    exact ⟨⟨acceptable.generator, acceptable.signature, acceptable.revision⟩, acceptable.vendor,
      supply, acceptable.held, acceptable.sound, acceptable.short⟩

/-! ### What a consumer finds -/

/-- The structures of a type among those that a walk meets. -/
def ofType (type : UInt8) (mets : List Met) : List Met := mets.filter fun met => met.type == type

/-- The processor that the structure of an interface states. -/
def processorAt? (bytes : Bytes) (met : Met) : Option UInt32 := bytes.read32? (met.offset + 8)

/-- What a consumer meets in a table that is made from a supply. -/
structure Supply.Shows (supply : Supply) (bytes : Bytes) (mets : List Met) : Prop where
  /-- The table is as long as its structures make it. -/
  length : bytes.length = supply.tableLength
  /-- The walk goes through all of them. -/
  walked : LengthForm.short.walk bytes 44 = some mets
  /-- There is one distributor among them. -/
  single : (ofType 0x0c mets).length = 1
  /-- The interfaces are those of the supply. -/
  processors : (ofType 0x0b mets).map (processorAt? bytes) = supply.processors.map some
  /-- No two of them state the same processor. -/
  apart : ((ofType 0x0b mets).map (processorAt? bytes)).Nodup

/-- The structure of an interface states its processor behind its own number. -/
theorem read_cpuInterface {record : CpuInterface} {context : Context} {image : Bytes}
    (made : (cpuInterface record).image context = .ok image) :
    image.read32? 8 = some record.acpiProcessorUid := by
  unfold cpuInterface at made
  rw [Node.image_of_pure fun _ => by simp [structureOf]] at made
  cases made
  exact Bytes.read32?_middle
    (Piece.encodeAll (structureOf 0x0b 80 [.word record.cpuInterfaceNumber])) _ _
    (by simp [structureOf])

namespace Supply

variable {supply : Supply} {view : View}

/-- The interfaces of a supply stand where structures of their type are met. -/
theorem stands_interfaces {context : Context} {bytes : Bytes} {mets : List Met}
    (loads : List.Forall₂ (fun category nodes => Category.Loads category view nodes)
      layout.categories supply.groups)
    (stands : List.Forall₂ (fun (node : String × Node) => node.2.StandsAt .short context bytes)
      (labelled layout.categories supply.groups) mets) :
    List.Forall₂ (fun record => (cpuInterface record).StandsAt .short context bytes)
      supply.cpuInterfaces (ofType 0x0b mets) := by
  have each := stands_ofType states_all loads (by decide) [] (List.forall_mem_nil _) stands
  exact List.forall₂_map_left_iff.mp (List.forall₂_cons.mp each).1

/-- **The interfaces that are met** state the processors of the supply, one by one. -/
theorem processors_eq {context : Context} {bytes : Bytes} {mets : List Met}
    (loads : List.Forall₂ (fun category nodes => Category.Loads category view nodes)
      layout.categories supply.groups)
    (stands : List.Forall₂ (fun (node : String × Node) => node.2.StandsAt .short context bytes)
      (labelled layout.categories supply.groups) mets) :
    (ofType 0x0b mets).map (processorAt? bytes) = supply.processors.map some := by
  unfold processors
  symm
  rw [List.map_map, ← List.forall₂_eq_eq_eq, List.forall₂_map_left_iff,
    List.forall₂_map_right_iff]
  refine (stands_interfaces loads stands).imp ?_
  rintro record met ⟨image, made, _, there⟩
  exact (Bytes.read32?_slice there (read_cpuInterface made)).symm

/-- **What a table shows** that is built from the supply that a view lists. -/
theorem shows {request : TableRequest} {table : Table} (listed : supply.IsListed view)
    (sound : supply.IsSound) (built : (kind.build request view).result = .ok table) :
    ∃ mets, supply.Shows table.bytes mets := by
  obtain ⟨groups, mets, index, loads, walked, types, stands⟩ :=
    TableKind.walk_stands isRegular states_all built
  obtain ⟨other, same, _, rfl⟩ := loads_iff.mp loads
  obtain rfl := same.unique listed
  have read := processors_eq loads stands
  refine ⟨mets, ?_, walked, ?_, read, ?_⟩
  · obtain ⟨groups, loads, length⟩ := TableKind.length_eq_extent isRegular built
    obtain ⟨another, same, _, rfl⟩ := loads_iff.mp loads
    obtain rfl := same.unique listed
    rw [length]
    exact extent_groups _
  · have counted : (ofType 0x0c mets).length = (mets.map Met.type).count 0x0c := by
      unfold ofType
      rw [← List.countP_eq_length_filter, List.count, List.countP_map]
      rfl
    rw [counted, types]
    simp [typesOf, groups, List.count_replicate, sound.single]
  · rw [read]
    exact List.Pairwise.map _ (fun _ _ differ same => differ (Option.some.inj same)) sound.apart

end Supply

/-- **The table of interrupt controllers is built exactly from what is acceptable.** Whatever a
store holds and whatever is requested, the build succeeds if and only if some supply is acceptable;
and what is built has one distributor, and no two interfaces for one processor. -/
theorem build_acceptance (store : Store) (request : TableRequest) :
    ((∃ table, (kind.generator.build request store.view).result = .ok table) ↔
        ∃ supply, IsAcceptable store request supply) ∧
      ∀ table, (kind.generator.build request store.view).result = .ok table →
        ∃ supply mets, IsAcceptable store request supply ∧ supply.Shows table.bytes mets := by
  refine ⟨exists_build_view, fun table built => ?_⟩
  obtain ⟨supply, acceptable⟩ := exists_build_view.mp ⟨table, built⟩
  have listed := Supply.isListed_iff.mpr acceptable.held
  obtain ⟨mets, shown⟩ := Supply.shows listed acceptable.sound built
  exact ⟨supply, mets, acceptable, shown⟩

end Madt

end FirmwareTables
