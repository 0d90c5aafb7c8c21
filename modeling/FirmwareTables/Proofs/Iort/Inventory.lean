/-
**The records that a remapping table is made from.**

An `Inventory` is a list of records of each of the six kinds. Its `sources` are all of these records
in the order of their nodes. The table of a view is planned exactly if the view lists an inventory
whose nodes can lie one behind the other (`plan_eq_ok`), and the table that is built consists of a
front and the nodes of this inventory (`build_eq_ok`).
-/

import FirmwareTables.Proofs.Generator.Assembly
import FirmwareTables.Proofs.Iort.Source
import FirmwareTables.Proofs.Layout.Instances

namespace FirmwareTables

/-! ### Categories without a check -/

/-- **What an unchecked category of records loads**: a node for each of the records listed. -/
theorem Category.loads_ofRecords {α : Type} [Record α] {name : String} {node : α → Node}
    {view : View} {nodes : List Node} :
    (Category.ofRecords α name node).Loads view nodes ↔
      ∃ records : List α, view.Lists records ∧ nodes = records.map node := by
  have source : (Category.ofRecords α name node).IsOf (fun _ => .ok ()) node := ⟨rfl, rfl⟩
  rw [loads_iff source]
  refine exists_congr fun records => and_congr_right fun _ => and_iff_left ⟨?_, fun _ => rfl⟩
  exact checkCount_eq_ok.mpr ⟨nofun, nofun⟩

namespace Iort

/-- Records of all six kinds. -/
structure Inventory where
  /-- The groups of translation services. -/
  itsGroups : List ItsGroup
  /-- The devices that the namespace names. -/
  namedComponents : List NamedComponent
  /-- The root complexes. -/
  rootComplexes : List RootComplex
  /-- The memory management units of the first and the second version. -/
  smmuV1V2s : List SmmuV1V2
  /-- The memory management units of the third version. -/
  smmuV3s : List SmmuV3
  /-- The groups of performance counters. -/
  pmcgs : List Pmcg

namespace Inventory

/-- All records in the order of their nodes. -/
def sources (inventory : Inventory) : List Source :=
  inventory.itsGroups.map .itsGroup ++ inventory.namedComponents.map .namedComponent ++
    inventory.rootComplexes.map .rootComplex ++ inventory.smmuV1V2s.map .smmuV1V2 ++
    inventory.smmuV3s.map .smmuV3 ++ inventory.pmcgs.map .pmcg

/-- The records of an inventory are those that a view lists. -/
structure IsListed (inventory : Inventory) (view : View) : Prop where
  /-- The groups of translation services. -/
  itsGroups : view.Lists inventory.itsGroups
  /-- The devices that the namespace names. -/
  namedComponents : view.Lists inventory.namedComponents
  /-- The root complexes. -/
  rootComplexes : view.Lists inventory.rootComplexes
  /-- The memory management units of the first and the second version. -/
  smmuV1V2s : view.Lists inventory.smmuV1V2s
  /-- The memory management units of the third version. -/
  smmuV3s : view.Lists inventory.smmuV3s
  /-- The groups of performance counters. -/
  pmcgs : view.Lists inventory.pmcgs

/-- A view lists one inventory only. -/
theorem IsListed.unique {first second : Inventory} {view : View} (one : first.IsListed view)
    (other : second.IsListed view) : first = second := by
  cases first
  cases second
  rw [mk.injEq]
  exact ⟨one.itsGroups.unique other.itsGroups, one.namedComponents.unique other.namedComponents,
    one.rootComplexes.unique other.rootComplexes, one.smmuV1V2s.unique other.smmuV1V2s,
    one.smmuV3s.unique other.smmuV3s, one.pmcgs.unique other.pmcgs⟩

/-- The nodes of an inventory, category by category. -/
def groups (inventory : Inventory) : List (List Node) :=
  [inventory.itsGroups.map itsGroup, inventory.namedComponents.map namedComponent,
    inventory.rootComplexes.map rootComplex, inventory.smmuV1V2s.map smmuV1V2,
    inventory.smmuV3s.map smmuV3, inventory.pmcgs.map pmcg]

theorem labelled_groups (inventory : Inventory) :
    labelled layout.categories inventory.groups =
      inventory.sources.map fun source => (source.category, source.node) := by
  simp only [labelled, layout, groups, sources, List.zip_cons_cons, List.zip_nil_right,
    List.flatMap_cons, List.flatMap_nil, List.map_append, List.map_map, List.append_nil,
    List.append_assoc]
  rfl

/-- The categories load the nodes of the inventory that a view lists. -/
theorem loads_iff {view : View} {nodes : List (List Node)} :
    List.Forall₂ (fun category nodes => Category.Loads category view nodes) layout.categories nodes ↔
      ∃ inventory : Inventory, inventory.IsListed view ∧ nodes = inventory.groups := by
  simp only [layout, List.forall₂_cons_left_iff, List.forall₂_nil_left_iff,
    Category.loads_ofRecords]
  constructor
  · rintro ⟨_, _, ⟨itsGroups, first, rfl⟩, ⟨_, _, ⟨namedComponents, second, rfl⟩,
      ⟨_, _, ⟨rootComplexes, third, rfl⟩, ⟨_, _, ⟨smmuV1V2s, fourth, rfl⟩,
      ⟨_, _, ⟨smmuV3s, fifth, rfl⟩, ⟨_, _, ⟨pmcgs, sixth, rfl⟩, rfl, rfl⟩, rfl⟩, rfl⟩, rfl⟩, rfl⟩,
      rfl⟩
    exact ⟨⟨itsGroups, namedComponents, rootComplexes, smmuV1V2s, smmuV3s, pmcgs⟩,
      ⟨first, second, third, fourth, fifth, sixth⟩, rfl⟩
  · rintro ⟨inventory, listed, rfl⟩
    exact ⟨_, _, ⟨_, listed.itsGroups, rfl⟩, ⟨_, _, ⟨_, listed.namedComponents, rfl⟩,
      ⟨_, _, ⟨_, listed.rootComplexes, rfl⟩, ⟨_, _, ⟨_, listed.smmuV1V2s, rfl⟩,
      ⟨_, _, ⟨_, listed.smmuV3s, rfl⟩, ⟨_, _, ⟨_, listed.pmcgs, rfl⟩, rfl, rfl⟩, rfl⟩, rfl⟩, rfl⟩,
      rfl⟩, rfl⟩

end Inventory

/-! ### Planning and building -/

/-- The nodes of sources lie one behind the other, behind the front of the table. -/
def Fits (sources : List Source) (plan : Plan) : Prop :=
  plan.headerLength = layout.headerLength ∧
    Lies layout.limits layout.headerLength
      (sources.map fun source => (source.category, source.node)) plan.placed plan.totalLength

/-- **Planning** is laying the records listed one behind the other. -/
theorem plan_eq_ok {view : View} {plan : Plan} :
    (layout.plan view).result = .ok plan ↔
      ∃ inventory : Inventory, inventory.IsListed view ∧ Fits inventory.sources plan := by
  rw [Layout.plan_eq_ok]
  simp only [Inventory.loads_iff]
  constructor
  · rintro ⟨front, _, ⟨inventory, listed, rfl⟩, lies⟩
    rw [inventory.labelled_groups] at lies
    exact ⟨inventory, listed, front, lies⟩
  · rintro ⟨inventory, listed, front, lies⟩
    rw [← inventory.labelled_groups] at lies
    exact ⟨front, _, ⟨inventory, listed, rfl⟩, lies⟩

namespace Fits

variable {sources : List Source} {plan : Plan} {context : Context}

theorem nodes_eq (fits : Fits sources plan) :
    plan.placed.map Placed.node = sources.map Source.node := by
  rw [fits.2.nodes_eq, List.map_map]
  rfl

theorem length_eq (fits : Fits sources plan) : plan.placed.length = sources.length := by
  rw [fits.2.length_eq, List.length_map]

theorem keepsLength (fits : Fits sources plan) : ∀ place ∈ plan.placed, place.node.KeepsLength := by
  intro place inside
  have member : place.node ∈ plan.placed.map Placed.node := List.mem_map_of_mem inside
  rw [fits.nodes_eq] at member
  obtain ⟨source, _, same⟩ := List.mem_map.mp member
  rw [← same]
  cases source <;> exact Node.ofPieces_keepsLength

/-- The images of the nodes are the parts of their sources. -/
theorem images_eq (fits : Fits sources plan) :
    (plan.placed.mapM fun place => place.node.image context) =
      sources.mapM fun source => source.parts context := by
  have nodes : (plan.placed.mapM fun place => place.node.image context) =
      (plan.placed.map Placed.node).mapM fun node => node.image context :=
    (List.mapM_map (f := Placed.node) (g := fun node => node.image context)).symm
  rw [nodes, fits.nodes_eq, List.mapM_map]
  exact congrArg (fun step => sources.mapM step)
    (funext fun source => source.image_eq context)

/-- Every source has its place, under its token and with its length. -/
theorem place_at (fits : Fits sources plan) {number : Nat} {source : Source}
    (here : sources[number]? = some source) :
    ∃ place, plan.placed[number]? = some place ∧ place.node = source.node ∧
      place.entry.size = source.length := by
  have inside : number < plan.placed.length := by
    rw [fits.length_eq]
    exact (List.getElem?_eq_some_iff.mp here).1
  have known := List.getElem?_eq_getElem inside
  have node : plan.placed[number].node = source.node := by
    have same := congrArg (fun nodes => nodes[number]?) fits.nodes_eq
    simp only [List.getElem?_map, known, here, Option.map_some, Option.some.injEq] at same
    exact same
  refine ⟨plan.placed[number], known, node, ?_⟩
  have size := (fits.2.entry_eq _ (List.getElem_mem inside)).2.1
  rw [node, source.size_node] at size
  exact (Except.ok.inj size).symm

/-- The length of a source that has its place is within 16 bits. -/
theorem short (fits : Fits sources plan) {source : Source} (inside : source ∈ sources) :
    source.length ≤ 65535 := by
  obtain ⟨number, here⟩ := List.getElem?_of_mem inside
  obtain ⟨place, known, _, size⟩ := fits.place_at here
  rw [← size]
  exact (fits.2.entry_eq place (List.mem_of_getElem? known)).2.2.1

/-- Nodes that fit a table are not more than a 32-bit number counts. -/
theorem count_le (fits : Fits sources plan) : plan.nodeCount ≤ 4294967295 := by
  have room : 48 + 20 * plan.placed.length ≤ plan.totalLength := by
    refine fits.2.count_le fun place inside => ?_
    obtain ⟨number, within, same⟩ := List.getElem_of_mem inside
    rw [fits.length_eq] at within
    obtain ⟨other, known, _, size⟩ := fits.place_at (List.getElem?_eq_getElem within)
    rw [List.getElem?_eq_getElem (by rw [fits.length_eq]; exact within), same] at known
    cases known
    rw [size]
    exact Source.le_length _
  have last : plan.totalLength ≤ 4294967295 := fits.2.last_le (by decide)
  unfold Plan.nodeCount
  omega

end Fits

/-- The fields between header and nodes. -/
def frontFields (plan : Plan) : List Piece :=
  [.word (UInt32.ofNat plan.nodeCount), .word (UInt32.ofNat layout.headerLength), .zeros 4]

/-- The number of nodes never fails to be stated. -/
theorem fields_eq {sources : List Source} {plan : Plan} (fits : Fits sources plan) :
    fields plan = .ok (frontFields plan) := by
  unfold fields
  rw [if_pos fits.count_le]
  rfl

/-- The front, the fields and the nodes of the table fit together. -/
theorem isRegular : kind.IsRegular where
  narrow := ⟨by decide, by decide⟩
  long := by decide
  short := by decide
  fields plan made done := by
    change fields plan = .ok made at done
    unfold fields at done
    split at done
    · cases done
      simp [kind, layout, headerLength]
    · cases done
  keeps := by
    simp only [kind, layout, List.forall_mem_cons]
    refine ⟨?_, ?_, ?_, ?_, ?_, ?_, List.forall_mem_nil _⟩ <;>
      exact Category.IsOf.allNodes ⟨rfl, rfl⟩ fun _ => Node.ofPieces_keepsLength

/-- **The remapping table that is built** consists of its front and its sources' parts. -/
theorem build_eq_ok {request : TableRequest} {view : View} {table : Table} :
    (kind.build request view).result = .ok table ↔
      kind.checkRequest request = .ok () ∧
        ∃ info inventory plan images, (view.getObject ManagerInfo).result = .ok info ∧
          Inventory.IsListed inventory view ∧ Fits inventory.sources plan ∧
          List.Forall₂ (fun source image =>
            source.parts ⟨view, plan.index, request.revision⟩ = .ok image)
            inventory.sources images ∧
          table.bytes = kind.front request info plan (frontFields plan) ++ images.flatten := by
  rw [TableKind.build_eq_ok isRegular]
  refine and_congr_right fun _ => ?_
  constructor
  · rintro ⟨info, plan, images, pieces, read, planned, drawn, filled, bytes⟩
    obtain ⟨inventory, listed, fits⟩ := plan_eq_ok.mp planned
    have same : pieces = frontFields plan := Except.ok.inj (filled.symm.trans (fields_eq fits))
    rw [fits.images_eq, mapM_eq_ok] at drawn
    rw [same] at bytes
    exact ⟨info, inventory, plan, images, read, listed, fits, drawn, bytes⟩
  · rintro ⟨info, inventory, plan, images, read, listed, fits, drawn, bytes⟩
    refine ⟨info, plan, images, frontFields plan, read, plan_eq_ok.mpr ⟨inventory, listed, fits⟩,
      ?_, fields_eq fits, bytes⟩
    rw [fits.images_eq, mapM_eq_ok]
    exact drawn

end Iort

end FirmwareTables
