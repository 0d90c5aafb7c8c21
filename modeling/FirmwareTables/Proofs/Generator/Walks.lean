/-
**Built tables can be walked.**

A consumer of a built table goes from structure to structure by the lengths that they state. It
ends exactly at the end of the table and meets the structures category by category, as many of each
type as the view counts instances of the category's object (`walk_eq`). The table of configuration
space has entries without a header, which are told apart by their size (`size_eq`).

* `builtin_walks`: what this comes to for each of the built-in kinds.
-/

import FirmwareTables.Proofs.Generator.Structures
import FirmwareTables.Proofs.Iort.References
import FirmwareTables.Proofs.Layout.Walking

namespace FirmwareTables

/-! ### A kind of table in general -/

/-- The types of as many structures of each type as are counted. -/
def typesOf (counts : List Nat) (types : List UInt8) : List UInt8 :=
  (List.zipWith List.replicate counts types).flatten

/-- The nodes of loaded categories state the types of their categories. -/
theorem states_labelled {form : LengthForm} {view : View} {categories : List Category}
    {types : List UInt8} {groups : List (List Node)}
    (typed : List.Forall₂ (fun category type => Category.AllNodes category (Node.States form type))
      categories types)
    (loads : List.Forall₂ (fun category nodes => Category.Loads category view nodes)
      categories groups) :
    List.Forall₂ (fun type (node : String × Node) => node.2.States form type)
      (typesOf (groups.map List.length) types) (labelled categories groups) := by
  induction typed generalizing groups with
  | nil =>
    cases loads
    exact .nil
  | @cons category type categories types here behind ih =>
    cases loads with
    | @cons _ nodes _ groups load rest =>
      have tail := ih rest
      have head : List.Forall₂ (fun type (node : String × Node) => node.2.States form type)
          (List.replicate nodes.length type) (nodes.map fun node => (category.name, node)) := by
        rw [List.forall₂_map_right_iff, List.forall₂_iff_get]
        refine ⟨List.length_replicate, fun number _ inside => ?_⟩
        rw [List.get_eq_getElem, List.getElem_replicate]
        exact here view nodes (load.2 (List.ne_nil_of_length_pos (by omega))) _
          (List.get_mem nodes _)
      exact List.rel_append head tail

namespace TableKind

variable {kind : TableKind} {request : TableRequest} {view : View} {table : Table}

/-- **Where the nodes of a plan are met**, whatever stands in front of them and however they are
drawn. -/
theorem walk_planned (regular : kind.IsRegular) {form : LengthForm} {types : List UInt8}
    (typed : List.Forall₂ (fun category type => Category.AllNodes category (Node.States form type))
      kind.layout.categories types) {plan : Plan}
    (planned : (kind.layout.plan view).result = .ok plan) :
    ∃ groups mets, List.Forall₂ (fun category nodes => Category.Loads category view nodes)
        kind.layout.categories groups ∧
      mets.map Met.type = typesOf (groups.map List.length) types ∧
      ∀ {context : Context} {front : Bytes} {images : List Bytes},
        front.length = kind.layout.headerLength →
        plan.placed.mapM (fun place => place.node.image context) = .ok images →
          form.walk (front ++ images.flatten) kind.layout.headerLength = some mets ∧
          List.Forall₂ (fun (node : String × Node) =>
              node.2.StandsAt form context (front ++ images.flatten))
            (labelled kind.layout.categories groups) mets := by
  obtain ⟨_, groups, loads, lies⟩ := Layout.plan_eq_ok.mp planned
  have keeps := regular.keepsLength planned
  have states : List.Forall₂ (fun type (place : Placed) => place.node.States form type)
      (typesOf (groups.map List.length) types) plan.placed := by
    have nodes := List.forall₂_map_right_iff.mpr (states_labelled typed loads)
    rw [← lies.nodes_eq] at nodes
    exact List.forall₂_map_right_iff.mp nodes
  refine ⟨groups, List.zipWith (fun type (place : Placed) =>
    ⟨place.entry.offset, type, place.entry.size⟩) (typesOf (groups.map List.length) types)
    plan.placed, loads, ?_, fun start drawn => ?_⟩
  · have firsts := List.map_fst_zip (Nat.le_of_eq states.length_eq)
    rw [List.zip, List.map_zipWith] at firsts
    rw [List.map_zipWith]
    exact firsts
  · have drawn := mapM_eq_ok.mp drawn
    have stated := forall₂_trans (fun _ _ _ node image => node _ _ image) states drawn
    refine ⟨lies.walk keeps drawn stated start, ?_⟩
    have nodes := List.forall₂_map_left_iff.mpr
      (Lies.standsAt (lies.slices keeps drawn start) stated)
    rw [lies.nodes_eq] at nodes
    exact List.forall₂_map_left_iff.mp nodes

/-- **Walking a built table** ends at its end and meets the nodes of its categories. -/
theorem walk_stands (regular : kind.IsRegular) {form : LengthForm} {types : List UInt8}
    (typed : List.Forall₂ (fun category type => Category.AllNodes category (Node.States form type))
      kind.layout.categories types)
    (built : (kind.build request view).result = .ok table) :
    ∃ groups mets index, List.Forall₂ (fun category nodes => Category.Loads category view nodes)
        kind.layout.categories groups ∧
      form.walk table.bytes kind.layout.headerLength = some mets ∧
      mets.map Met.type = typesOf (groups.map List.length) types ∧
      List.Forall₂ (fun (node : String × Node) =>
          node.2.StandsAt form ⟨view, index, request.revision⟩ table.bytes)
        (labelled kind.layout.categories groups) mets := by
  obtain ⟨_, info, plan, images, fields, _, planned, drawn, filled, bytes⟩ :=
    (build_eq_ok regular).mp built
  obtain ⟨groups, mets, loads, types, met⟩ := walk_planned regular typed planned
  obtain ⟨walked, stands⟩ := met (regular.length_front request info filled) drawn
  rw [← bytes] at walked stands
  exact ⟨groups, mets, plan.index, loads, walked, types, stands⟩

/-- As many structures are met as are counted. -/
theorem walk_eq (regular : kind.IsRegular) {form : LengthForm} {types : List UInt8}
    (typed : List.Forall₂ (fun category type => Category.AllNodes category (Node.States form type))
      kind.layout.categories types)
    (built : (kind.build request view).result = .ok table) :
    ∃ counts mets, List.Forall₂ (fun category count =>
        (Category.count category view).result = .ok count) kind.layout.categories counts ∧
      form.walk table.bytes kind.layout.headerLength = some mets ∧
      mets.map Met.type = typesOf counts types := by
  obtain ⟨groups, mets, _, loads, walked, types, _⟩ := walk_stands regular typed built
  have counted := loads.imp fun _ _ load => load.1
  exact ⟨groups.map List.length, mets, List.forall₂_map_right_iff.mpr counted, walked, types⟩

/-- A table whose nodes all have one size is as long as their number says. -/
theorem size_eq (regular : kind.IsRegular) {size : Nat}
    (sized : ∀ category ∈ kind.layout.categories,
      category.AllNodes fun node => node.size = .ok size)
    (built : (kind.build request view).result = .ok table) :
    ∃ plan, (kind.layout.plan view).result = .ok plan ∧
      table.size = kind.layout.headerLength + size * plan.nodeCount := by
  obtain ⟨_, info, plan, images, fields, _, planned, drawn, filled, bytes⟩ :=
    (build_eq_ok regular).mp built
  obtain ⟨_, groups, loads, lies⟩ := Layout.plan_eq_ok.mp planned
  have drawn := mapM_eq_ok.mp drawn
  have body := lies.length_images (regular.keepsLength planned) drawn
  have each : ∀ place ∈ plan.placed, place.entry.size = size := by
    intro place inside
    obtain ⟨category, among, nodes, load, member⟩ := Layout.mem_placed planned inside
    have known := (lies.entry_eq place inside).2.1
    exact Except.ok.inj (known.symm.trans (sized category among view nodes load place.node member))
  refine ⟨plan, planned, ?_⟩
  unfold Table.size Plan.nodeCount
  rw [bytes, List.length_append, regular.length_front request info filled, body]
  exact lies.last_eq each

end TableKind

/-! ### The built-in kinds -/

/-- The number of instances that a view counts of the records of a type. -/
def View.Counts (α : Type) [Record α] (view : View) (count : Nat) : Prop :=
  (view.countOnly (Record.objectId α)).result = .ok count

/-- From an offset to the end of a table there are structures of these types, one behind the other,
and no step from one to the next leaves the table. -/
def Walks (form : LengthForm) (bytes : Bytes) (start : Nat) (types : List UInt8) : Prop :=
  ∃ mets, form.walk bytes start = some mets ∧ mets.map Met.type = types ∧
    ∀ met ∈ mets, start ≤ met.offset ∧ 0 < met.length ∧ met.offset + met.length ≤ bytes.length

/-- The nodes of the remapping table: where they start, how many they are, and their kinds. -/
def Iort.IsWalked (view : View) (bytes : Bytes) : Prop :=
  ∃ groups components complexes units thirdUnits counters,
    view.Counts ItsGroup groups ∧ view.Counts NamedComponent components ∧
    view.Counts RootComplex complexes ∧ view.Counts SmmuV1V2 units ∧
    view.Counts SmmuV3 thirdUnits ∧ view.Counts Pmcg counters ∧
    bytes.read32? 40 = some 48 ∧
    (bytes.read32? 36).map UInt32.toNat =
      some (groups + components + complexes + units + thirdUnits + counters) ∧
    Walks .long bytes 48 (List.replicate groups 0 ++ List.replicate components 1 ++
      List.replicate complexes 2 ++ List.replicate units 3 ++ List.replicate thirdUnits 4 ++
      List.replicate counters 5)

/-- The structures of the table of interrupt controllers. -/
def Madt.IsWalked (view : View) (bytes : Bytes) : Prop :=
  ∃ interfaces frames redistributors services,
    view.Counts CpuInterface interfaces ∧ 0 < interfaces ∧ view.Counts Distributor 1 ∧
    view.Counts MsiFrame frames ∧ view.Counts Redistributor redistributors ∧
    view.Counts TranslationService services ∧
    Walks .short bytes 44 (List.replicate interfaces 0x0b ++ [0x0c] ++
      List.replicate frames 0x0d ++ List.replicate redistributors 0x0e ++
      List.replicate services 0x0f)

/-- The structures of the table of affinity. -/
def Srat.IsWalked (view : View) (bytes : Bytes) : Prop :=
  ∃ interfaces services ranges initiators,
    view.Counts CpuInterface interfaces ∧ 0 < interfaces ∧
    view.Counts TranslationService services ∧ view.Counts MemoryAffinity ranges ∧
    view.Counts GenericInitiator initiators ∧
    Walks .short bytes 48 (List.replicate interfaces 3 ++ List.replicate services 4 ++
      List.replicate ranges 1 ++ List.replicate initiators 5)

/-- The entries of the table of configuration space. -/
def Mcfg.IsSplit (view : View) (bytes : Bytes) : Prop :=
  ∃ entries, view.Counts ConfigSpace entries ∧ 0 < entries ∧ bytes.length = 44 + 16 * entries

/-! ### The number of structures -/

namespace Iort

theorem types_sources (inventory : Inventory) :
    inventory.sources.map (fun source => source.kind.number) =
      List.replicate inventory.itsGroups.length 0 ++
        List.replicate inventory.namedComponents.length 1 ++
        List.replicate inventory.rootComplexes.length 2 ++
        List.replicate inventory.smmuV1V2s.length 3 ++
        List.replicate inventory.smmuV3s.length 4 ++ List.replicate inventory.pmcgs.length 5 := by
  simp only [Inventory.sources, List.map_append, List.map_map]
  simp only [Function.comp_def, Source.kind, NodeKind.number, List.map_const']

/-- The front of the table states the number of nodes and where they start. -/
theorem front_eq (request : TableRequest) (info : ManagerInfo) (plan : Plan) (body : Bytes) :
    kind.front request info plan (frontFields plan) ++ body =
      Piece.encodeAll (Header.filled kind.toProfile request info plan.totalLength).pieces ++
        ((Piece.word (UInt32.ofNat plan.nodeCount)).encode ++
          ((Piece.word 48).encode ++ (Bytes.zeros 4 ++ body))) := by
  unfold TableKind.front frontFields
  simp only [Piece.encodeAll_append, Piece.encodeAll_cons, Piece.encodeAll_nil, List.append_assoc]
  rfl

theorem isWalked {request : TableRequest} {view : View} {table : Table}
    (built : (kind.build request view).result = .ok table) : IsWalked view table.bytes := by
  obtain ⟨_, info, inventory, plan, images, _, listed, fits, drawn, bytes⟩ :=
    build_eq_ok.mp built
  have start := isRegular.length_front request info (fields_eq fits)
  have walked := walk_mets fits drawn start
  rw [← bytes] at walked
  refine ⟨inventory.itsGroups.length, inventory.namedComponents.length,
    inventory.rootComplexes.length, inventory.smmuV1V2s.length, inventory.smmuV3s.length,
    inventory.pmcgs.length, listed.itsGroups.1, listed.namedComponents.1, listed.rootComplexes.1,
    listed.smmuV1V2s.1, listed.smmuV3s.1, listed.pmcgs.1, ?_, ?_, _, walked, ?_,
    LengthForm.walk_inside walked⟩
  · rw [bytes, front_eq, ← List.append_assoc]
    refine Bytes.read32?_middle _ _ 48 ?_
    rw [List.length_append, Header.length_pieces, Piece.length_encode_word]
    rfl
  · have count : plan.nodeCount = inventory.sources.length := fits.length_eq
    have small := fits.count_le
    have stated : table.bytes.read32? 36 = some (UInt32.ofNat plan.nodeCount) := by
      rw [bytes, front_eq]
      exact Bytes.read32?_middle _ _ _ (Header.length_pieces _)
    rw [stated, Option.map_some, UInt32.toNat_ofNat', Nat.mod_eq_of_lt (by omega), count]
    simp only [Inventory.sources, List.length_append, List.length_map]
  · exact (map_mets fits fun _ _ => rfl).trans (types_sources inventory)

end Iort

/-- A category that has to have nodes has some, and one that may have one only has no more. -/
theorem Category.count_spec {category : Category} {view : View} {count : Nat}
    (counted : (category.count view).result = .ok count) :
    (view.countOnly category.id).result = .ok count ∧ (category.required → 0 < count) ∧
      (category.singleton → count ≤ 1) := by
  obtain ⟨known, checked⟩ := count_eq_ok.mp counted
  obtain ⟨some, single⟩ := checkCount_eq_ok.mp checked
  exact ⟨known, fun required => Nat.pos_of_ne_zero (some required), single⟩

theorem Madt.isWalked {request : TableRequest} {view : View} {table : Table}
    (built : (kind.build request view).result = .ok table) : IsWalked view table.bytes := by
  obtain ⟨counts, mets, counted, walked, types⟩ := TableKind.walk_eq isRegular states_all built
  simp only [kind, layout, List.forall₂_cons_left_iff, List.forall₂_nil_left_iff] at counted
  obtain ⟨interfaces, _, first, ⟨distributors, _, second, ⟨frames, _, third, ⟨redistributors, _,
    fourth, ⟨services, _, fifth, rfl, rfl⟩, rfl⟩, rfl⟩, rfl⟩, rfl⟩ := counted
  obtain ⟨known, some, _⟩ := Category.count_spec first
  obtain ⟨one, least, most⟩ := Category.count_spec second
  have single : distributors = 1 := by
    have := least rfl
    have := most rfl
    omega
  subst single
  refine ⟨interfaces, frames, redistributors, services, known, some rfl, one,
    (Category.count_spec third).1, (Category.count_spec fourth).1, (Category.count_spec fifth).1,
    mets, walked, ?_, LengthForm.walk_inside walked⟩
  rw [types]
  simp [typesOf]

theorem Srat.isWalked {request : TableRequest} {view : View} {table : Table}
    (built : (kind.build request view).result = .ok table) : IsWalked view table.bytes := by
  obtain ⟨counts, mets, counted, walked, types⟩ := TableKind.walk_eq isRegular states_all built
  simp only [kind, layout, List.forall₂_cons_left_iff, List.forall₂_nil_left_iff] at counted
  obtain ⟨interfaces, _, first, ⟨services, _, second, ⟨ranges, _, third, ⟨initiators, _, fourth,
    rfl, rfl⟩, rfl⟩, rfl⟩, rfl⟩ := counted
  obtain ⟨known, some, _⟩ := Category.count_spec first
  refine ⟨interfaces, services, ranges, initiators, known, some rfl,
    (Category.count_spec second).1, (Category.count_spec third).1, (Category.count_spec fourth).1,
    mets, walked, ?_, LengthForm.walk_inside walked⟩
  rw [types]
  simp [typesOf]

theorem Mcfg.isSplit {request : TableRequest} {view : View} {table : Table}
    (built : (kind.build request view).result = .ok table) : IsSplit view table.bytes := by
  have sized : ∀ category ∈ kind.layout.categories,
      category.AllNodes fun node => node.size = .ok 16 := by
    simp only [kind, layout, List.forall_mem_cons]
    exact ⟨Category.IsOf.allNodes ⟨rfl, rfl⟩ fun _ => rfl, List.forall_mem_nil _⟩
  obtain ⟨plan, planned, size⟩ := TableKind.size_eq isRegular sized built
  obtain ⟨_, groups, loads, lies⟩ := Layout.plan_eq_ok.mp planned
  have length := lies.length_eq
  simp only [kind, layout, List.forall₂_cons_left_iff, List.forall₂_nil_left_iff] at loads length
  obtain ⟨nodes, _, load, rfl, rfl⟩ := loads
  obtain ⟨known, some, _⟩ := Category.count_spec load.1
  refine ⟨nodes.length, known, some rfl, ?_⟩
  have same : plan.nodeCount = nodes.length := by
    rw [Plan.nodeCount, length]
    simp [labelled]
  rw [← same]
  exact size

/-- **Every table that a built-in generator returns can be walked.** From the first structure on, as
many of each type as the view counts instances of its object lie one behind the other up to the end
of the table. -/
theorem builtin_walks (view : View) (request : TableRequest) (table : Table) :
    ((Iort.kind.build request view).result = .ok table → Iort.IsWalked view table.bytes) ∧
    ((Madt.kind.build request view).result = .ok table → Madt.IsWalked view table.bytes) ∧
    ((Srat.kind.build request view).result = .ok table → Srat.IsWalked view table.bytes) ∧
    ((Mcfg.kind.build request view).result = .ok table → Mcfg.IsSplit view table.bytes) :=
  ⟨Iort.isWalked, Madt.isWalked, Srat.isWalked, Mcfg.isSplit⟩

end FirmwareTables
