/-
**The number of items that are stored.**

Descriptions declare items: records about the vendor, of plain lists and of initiators, nodes, the
items of their arrays, and handles. Each is of one object (`declared`), and what a store counts of
an object is how many of these were declared (`Footprint.IsOf.total_eq`): what is under tokens counts
the nodes, their arrays and the handles (`total_lots`), and under the null token there is the rest.
-/

import FirmwareTables.Proofs.Platform.Configured
import FirmwareTables.Proofs.Platform.Listing

namespace FirmwareTables

open Iort (Source)

/-! ### Items -/

/-- The objects of the items of the arrays of a node. -/
def NodeSection.arrays : NodeSection → List ObjectId
  | itsGroup group => List.replicate group.itsIds.length (Record.objectId ItsIdentifier)
  | namedComponent component => List.replicate component.idMappings.length (Record.objectId IdMapping)
  | rootComplex complex => List.replicate complex.idMappings.length (Record.objectId IdMapping)
  | smmuV1V2 smmu =>
    List.replicate smmu.idMappings.length (Record.objectId IdMapping) ++
      List.replicate (smmu.contextInterrupts.length + smmu.pmuInterrupts.length)
        (Record.objectId SmmuInterrupt)
  | smmuV3 smmu => List.replicate smmu.idMappings.length (Record.objectId IdMapping)
  | pmcg group => List.replicate group.idMappings.length (Record.objectId IdMapping)

/-- The objects of the items of a node. -/
def NodeSection.items (node : NodeSection) : List ObjectId := node.kind.id :: node.arrays

/-- How many records descriptions declare of the objects that are stored under the null token. There
is always one about the vendor. -/
def untaggedCounts (platforms : List Platform) : List (ObjectId × Nat) :=
  (Record.objectId ManagerInfo, 1) ::
    PlainList.all.map (fun list => (list.id, (platforms.flatMap list.records).length)) ++
    [(Record.objectId GenericInitiator, (platforms.flatMap Platform.initiators).length)]

/-- The objects of the items that are stored under tokens. -/
def taggedItems (platforms : List Platform) : List ObjectId :=
  (platforms.flatMap Platform.nodes).flatMap NodeSection.items ++
    (platforms.flatMap Platform.initiators).map fun initiator => initiator.device.object

/-- The objects of all items that descriptions declare. -/
def declared (platforms : List Platform) : List ObjectId :=
  (untaggedCounts platforms).flatMap (fun entry => List.replicate entry.2 entry.1) ++
    taggedItems platforms

/-! ### Lots -/

namespace Lot

/-- The number of instances of an object in some lots. -/
def total (id : ObjectId) : List Lot → Nat
  | [] => 0
  | lot :: lots => (if lot.id = id then lot.count.toNat else 0) + total id lots

variable {id : ObjectId} {lots others : List Lot}

theorem total_append (lots others : List Lot) :
    total id (lots ++ others) = total id lots + total id others := by
  induction lots with
  | nil => exact (Nat.zero_add _).symm
  | cons lot lots ih => rw [List.cons_append, total, total, ih, Nat.add_assoc]

theorem total_perm (same : lots.Perm others) : total id lots = total id others := by
  induction same with
  | nil => rfl
  | cons lot _ ih => rw [total, total, ih]
  | swap first second lots => exact Nat.add_left_comm _ _ _
  | trans _ _ one other => exact one.trans other

end Lot

/-- Where none of an object is under the null token, its lots are all there is. -/
theorem Store.total_found_eq (store : Store) {id : ObjectId}
    (tagged : ∀ entry ∈ store.entries, entry.token.isNull = true → entry.id ≠ id) :
    total (store.found id .null) = Lot.total id (store.named.map Entry.lot) := by
  obtain ⟨entries⟩ := store
  unfold found named
  induction entries with
  | nil => rfl
  | cons entry entries ih =>
    obtain ⟨here, others⟩ := List.forall_mem_cons.mp tagged
    have rest := ih others
    have seen : entry.isFound id .null = (entry.id == id) := Bool.and_true _
    dsimp only at rest ⊢
    rw [List.filter_cons, List.filter_cons, seen]
    cases null : entry.token.isNull with
    | true =>
      rw [beq_eq_false_iff_ne.mpr (here null)]
      exact rest
    | false =>
      rw [Bool.not_false, if_pos rfl, List.map_cons, Lot.total, ← rest]
      by_cases same : entry.id = id
      · rw [if_pos (beq_iff_eq.mpr same)]
        exact congrArg (· + _) (if_pos same).symm
      · rw [if_neg (mt beq_iff_eq.mp same)]
        exact (Nat.zero_add _).symm.trans (congrArg (· + _) (if_neg same).symm)

theorem IsStored.total_ofList {α : Type} [Record α] {store : Store} {records : List α}
    {count : UInt32} {token : Token} (stored : IsStored store records count token)
    (id : ObjectId) :
    Lot.total id (Lot.ofList (Record.objectId α) (count, token)) =
      (List.replicate records.length (Record.objectId α)).count id := by
  have same := stored.toNat_eq
  cases stored with
  | none => rfl
  | @some record records token few named found =>
    unfold Lot.ofList
    dsimp only
    rw [named, if_neg Bool.false_ne_true, Lot.total, same, List.count_replicate]
    simp only [beq_iff_eq]
    rfl

theorem MapsTo.total_ofList {store : Store} {tokens : NodeTokens} {mappings : List MappingSection}
    {count : UInt32} {array : Token} (maps : MapsTo store tokens mappings count array)
    (id : ObjectId) :
    Lot.total id (Lot.ofList (Record.objectId IdMapping) (count, array)) =
      (List.replicate mappings.length (Record.objectId IdMapping)).count id := by
  obtain ⟨records, related, stored⟩ := maps
  rw [stored.total_ofList, related.length_eq]

theorem NodeSection.Realizes.total_arrays {store : Store} {tokens : NodeTokens}
    {node : NodeSection} {source : Source} (realizes : node.Realizes store tokens source)
    (id : ObjectId) : Lot.total id source.arrays = node.arrays.count id := by
  unfold Source.arrays NodeSection.arrays
  cases realizes with
  | itsGroup _ ids =>
    dsimp only
    rw [ids.total_ofList, List.length_map]
  | namedComponent _ mappings | rootComplex _ mappings | smmuV3 _ mappings =>
    exact mappings.total_ofList id
  | pmcg _ mappings _ => exact mappings.total_ofList id
  | smmuV1V2 _ mappings context pmu =>
    dsimp only
    rw [Lot.total_append, Lot.total_append, pmu.total_ofList, context.total_ofList,
      mappings.total_ofList, List.replicate_add, List.count_append, List.count_append]
    omega

/-- **The lots of a node** are of as many instances as it declares items. -/
theorem NodeSection.Realizes.total_lots {store : Store} {tokens : NodeTokens} {node : NodeSection}
    {source : Source} (realizes : node.Realizes store tokens source) (id : ObjectId) :
    Lot.total id source.lots = node.items.count id := by
  have own : source.entry.lot = ⟨node.kind.id, source.token, 1⟩ := by
    rw [realizes.kind_eq]
    cases source <;> rfl
  unfold items Source.lots
  rw [Lot.total, own, realizes.total_arrays, List.count_cons]
  simp only [beq_iff_eq]
  exact Nat.add_comm _ _

/-! ### All items -/

theorem allNodes_map_snd (platforms : List Platform) :
    (allNodes platforms).map Prod.snd = platforms.flatMap Platform.nodes := by
  have fst : platforms.zipIdx.flatMap (fun entry => entry.1.nodes) =
      (platforms.zipIdx.map Prod.fst).flatMap Platform.nodes := (List.flatMap_map _ _ _).symm
  rw [List.zipIdx_map_fst] at fst
  rw [← fst]
  unfold allNodes
  rw [List.map_flatMap]
  simp only [List.map_map, Function.comp_def, List.map_id']

theorem total_sources {store : Store} {tables : List NodeTokens}
    {nodes : List (Nat × NodeSection)} {sources : List Source}
    (realized : List.Forall₂ (IsRealized store tables) nodes sources) (id : ObjectId) :
    Lot.total id (sources.flatMap Source.lots) =
      ((nodes.map Prod.snd).flatMap NodeSection.items).count id := by
  induction realized with
  | nil => rfl
  | cons here _ ih =>
    obtain ⟨_, _, realizes⟩ := here
    rw [List.flatMap_cons, List.map_cons, List.flatMap_cons, Lot.total_append, List.count_append,
      realizes.total_lots, ih]

theorem total_records {store : Store} {initiators : List InitiatorSection}
    {records : List GenericInitiator}
    (realized : List.Forall₂ (InitiatorSection.Realizes store) initiators records)
    (id : ObjectId) :
    Lot.total id (records.map GenericInitiator.lot) =
      (initiators.map fun initiator => initiator.device.object).count id := by
  induction realized with
  | nil => rfl
  | cons here _ ih =>
    rw [List.map_cons, List.map_cons, Lot.total, List.count_cons, here.lot_eq, ih]
    simp only [beq_iff_eq]
    exact Nat.add_comm _ _

theorem NodeSection.not_mem_untaggedIds {node : NodeSection} {id : ObjectId}
    (inside : id ∈ node.items) : id ∉ untaggedIds := by
  rcases List.mem_cons.mp inside with rfl | inside
  · exact (by decide : ∀ id ∈ nodeIds, id ∉ untaggedIds) _ node.kind.id_mem
  · have array : id ∈ arrayIds := by
      cases node with
      | itsGroup | namedComponent | rootComplex | smmuV3 | pmcg =>
        rw [List.eq_of_mem_replicate inside]
        decide
      | smmuV1V2 =>
        rcases List.mem_append.mp inside with inside | inside
        · rw [List.eq_of_mem_replicate inside]
          decide
        · rw [List.eq_of_mem_replicate inside]
          decide
    exact (by decide : ∀ id ∈ arrayIds, id ∉ untaggedIds) _ array

theorem not_mem_untaggedIds {platforms : List Platform} {id : ObjectId}
    (inside : id ∈ taggedItems platforms) : id ∉ untaggedIds := by
  rcases List.mem_append.mp inside with inside | inside
  · obtain ⟨node, _, here⟩ := List.mem_flatMap.mp inside
    exact NodeSection.not_mem_untaggedIds here
  · obtain ⟨initiator, _, rfl⟩ := List.mem_map.mp inside
    have handle : initiator.device.object ∈ handleIds := by
      cases initiator.device with
      | acpi => exact List.mem_cons_self
      | pci => exact List.mem_cons_of_mem _ List.mem_cons_self
    exact (by decide : ∀ id ∈ handleIds, id ∉ untaggedIds) _ handle

/-- Each object has its own number of items, if no object is listed twice. -/
theorem count_replicates {counts : List (ObjectId × Nat)} (distinct : (counts.map Prod.fst).Nodup)
    {id : ObjectId} {number : Nat} (inside : (id, number) ∈ counts) :
    (counts.flatMap fun entry => List.replicate entry.2 entry.1).count id = number := by
  induction counts with
  | nil => cases inside
  | cons first counts ih =>
    obtain ⟨fresh, distinct⟩ := List.nodup_cons.mp distinct
    rw [List.flatMap_cons, List.count_append]
    rcases List.mem_cons.mp inside with rfl | inside
    · have none : (counts.flatMap fun entry => List.replicate entry.2 entry.1).count id = 0 := by
        refine List.count_eq_zero.mpr fun among => fresh ?_
        obtain ⟨entry, member, here⟩ := List.mem_flatMap.mp among
        exact List.mem_map.mpr ⟨entry, member, (List.eq_of_mem_replicate here).symm⟩
      rw [none, List.count_replicate_self]
      rfl
    · have other : id ≠ first.1 := by
        rintro rfl
        exact fresh (List.mem_map.mpr ⟨_, inside, rfl⟩)
      rw [ih distinct inside, List.count_eq_zero.mpr fun here => other (List.eq_of_mem_replicate here)]
      exact Nat.zero_add number

namespace Footprint.IsOf

variable {footprint : Footprint} {platforms : List Platform} {configuration : Configuration}

theorem total_untagged (isOf : footprint.IsOf platforms configuration) {id : ObjectId}
    {number : Nat} (inside : (id, number) ∈ untaggedCounts platforms) :
    Store.total (configuration.store.found id .null) = number := by
  unfold untaggedCounts at inside
  rcases List.mem_append.mp inside with inside | inside
  · rcases List.mem_cons.mp inside with same | inside
    · cases same
      obtain ⟨info, _, found⟩ := isOf.vendor
      rw [found]
      rfl
    · obtain ⟨list, member, same⟩ := List.mem_map.mp inside
      cases same
      obtain ⟨few, found⟩ := isOf.plain list member
      exact Store.total_found (Store.finds_of_listOf found few)
  · cases List.mem_singleton.mp inside
    have initiators := isOf.initiators
    rw [initiators.realized.length_eq]
    exact Store.total_found (Store.finds_of_listOf initiators.found initiators.few)

theorem total_tagged (isOf : footprint.IsOf platforms configuration) {id : ObjectId}
    (tagged : id ∉ untaggedIds) :
    Store.total (configuration.store.found id .null) = (taggedItems platforms).count id := by
  have apart : ∀ entry ∈ configuration.store.entries, entry.token.isNull = true →
      entry.id ≠ id := by
    rintro entry inside null rfl
    exact tagged (isOf.lots.untagged entry inside null)
  rw [Store.total_found_eq _ apart, Lot.total_perm isOf.lots.entries, Footprint.lots, Lot.total_append,
    total_sources isOf.nodes.realized, total_records isOf.initiators.realized, allNodes_map_snd,
    taggedItems, List.count_append]

/-- **What is stored of each object** is as much as descriptions declare. -/
theorem total_eq (isOf : footprint.IsOf platforms configuration) (id : ObjectId) :
    Store.total (configuration.store.found id .null) = (declared platforms).count id := by
  unfold declared
  rw [List.count_append]
  have ids : (untaggedCounts platforms).map Prod.fst = untaggedIds := rfl
  by_cases untagged : id ∈ untaggedIds
  · obtain ⟨⟨_, number⟩, inside, rfl⟩ := List.mem_map.mp (ids ▸ untagged)
    have distinct : ((untaggedCounts platforms).map Prod.fst).Nodup := by
      rw [ids]
      decide
    rw [isOf.total_untagged inside, count_replicates distinct inside,
      List.count_eq_zero.mpr fun tagged => not_mem_untaggedIds tagged untagged]
    rfl
  · have none : ((untaggedCounts platforms).flatMap fun entry =>
        List.replicate entry.2 entry.1).count id = 0 := by
      refine List.count_eq_zero.mpr fun inside => untagged ?_
      obtain ⟨entry, member, here⟩ := List.mem_flatMap.mp inside
      rw [List.eq_of_mem_replicate here, ← ids]
      exact List.mem_map_of_mem member
    rw [isOf.total_tagged untagged, none, Nat.zero_add]

end Footprint.IsOf

end FirmwareTables
