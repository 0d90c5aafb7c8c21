/-
**What a store with the nodes of descriptions lists.**

The records of a kind that are listed are those of the nodes of this kind, the last stored in front
(`Picks.finds`), so that the sources of the remapping table are the nodes kind by kind
(`sources_ofSources`). Arrays are read as they were stored (`IsStored.getList_eq`).
-/

import FirmwareTables.Proofs.Iort.Inventory
import FirmwareTables.Proofs.Platform.Nodes

namespace FirmwareTables

open Iort (Source NodeKind Inventory)

/-! ### Reading what is found -/

section

variable {α : Type} [Record α] {store : Store} {token : Token} {records : List α}

/-- If a store lists any records, then those that are found. -/
theorem Store.eq_of_lists (finds : store.Finds .null records)
    (readable : ∀ record ∈ records, Record.IsReadable record) {others : List α}
    (lists : store.view.Lists others) : others = records := by
  have counted := lists.1
  rw [Store.countOnly_eq finds] at counted
  split at counted
  · cases counted
  · rename_i few
    exact lists.unique (Store.lists_of_finds finds readable (Nat.le_of_not_lt few))

theorem IsStored.toNat_eq {count : UInt32} (stored : IsStored store records count token) :
    count.toNat = records.length := by
  cases stored with
  | none => rfl
  | some few _ _ =>
    rw [UInt32.toNat_ofNat']
    exact Nat.mod_eq_of_lt (Nat.lt_succ_of_le few)

theorem IsStored.ne_nil {count : UInt32} (stored : IsStored store records count token)
    (counted : count ≠ 0) : records ≠ [] := by
  rintro rfl
  exact counted (UInt32.toNat_inj.mp stored.toNat_eq)

/-- **An array is read** as it was stored. -/
theorem IsStored.getList_eq {count : UInt32} (stored : IsStored store records count token)
    (readable : ∀ record ∈ records, Record.IsReadable record) (filled : records ≠ []) :
    token.isNull = false ∧ (store.view.getList α token).result = .ok records := by
  cases stored with
  | none => exact absurd rfl filled
  | some few named found =>
    exact ⟨named, Store.getList_of_finds (Store.finds_of_listOf found few) readable few filled⟩

end

/-! ### Records by kind -/

/-- The object of the records of a kind. -/
def Iort.NodeKind.id : NodeKind → ObjectId
  | itsGroup => Record.objectId ItsGroup
  | namedComponent => Record.objectId NamedComponent
  | rootComplex => Record.objectId RootComplex
  | smmuV1V2 => Record.objectId SmmuV1V2
  | smmuV3 => Record.objectId SmmuV3
  | pmcg => Record.objectId Pmcg

theorem Iort.NodeKind.eq_of_id_eq {kind other : NodeKind} (same : kind.id = other.id) :
    kind = other := by
  cases kind <;> cases other <;> first | rfl | exact absurd same (by decide)

theorem Iort.Source.id_entry (source : Source) : source.entry.id = source.kind.id := by
  cases source <;> rfl

theorem Iort.NodeKind.id_mem (kind : NodeKind) : kind.id ∈ nodeIds := by
  cases kind <;> decide

/-- A way to take the records of a kind from sources. -/
structure Picks {α : Type} [Record α] (pick : Source → Option α) (wrap : α → Source)
    (own : α → Token) (kind : NodeKind) : Prop where
  /-- What is taken is the record of the source. -/
  picked : ∀ source record, pick source = some record → wrap record = source
  /-- Sources of the kind are those that have such a record. -/
  kinds : ∀ source, (source.kind == kind) = (pick source).isSome
  /-- Such a record is stored under its own token. -/
  entry : ∀ record, (wrap record).entry = Entry.ofRecords (own record) [record]
  /-- It is stored as the object of the kind. -/
  object : Record.objectId α = kind.id

namespace Picks

variable {α : Type} [Record α] {pick : Source → Option α} {wrap : α → Source} {own : α → Token}
  {kind : NodeKind}

theorem id_ne (picks : Picks pick wrap own kind) {source : Source} (absent : pick source = none) :
    source.entry.id ≠ Record.objectId α := by
  intro same
  have other := picks.kinds source
  rw [source.id_entry, picks.object] at same
  rw [absent, NodeKind.eq_of_id_eq same, beq_self_eq_true] at other
  cases other

theorem map_filterMap (picks : Picks pick wrap own kind) (sources : List Source) :
    (sources.filterMap pick).map wrap = sources.filter fun source => source.kind == kind := by
  induction sources with
  | nil => rfl
  | cons source sources ih =>
    rw [List.filter_cons, picks.kinds]
    cases taken : pick source with
    | none =>
      rw [List.filterMap_cons_none taken, ih]
      rfl
    | some record =>
      rw [List.filterMap_cons_some taken, List.map_cons, picks.picked source record taken, ih]
      rfl

theorem filter_entries (picks : Picks pick wrap own kind) (sources : List Source) :
    (sources.map Source.entry).filter (Entry.isFound (Record.objectId α) .null) =
      (sources.filterMap pick).map fun record => Entry.ofRecords (own record) [record] := by
  induction sources with
  | nil => rfl
  | cons source sources ih =>
    rw [List.map_cons, List.filter_cons]
    cases taken : pick source with
    | none =>
      have unseen : source.entry.isFound (Record.objectId α) .null = false := by
        unfold Entry.isFound
        rw [beq_eq_false_iff_ne.mpr (picks.id_ne taken), Bool.false_and]
      rw [unseen, List.filterMap_cons_none taken]
      exact ih
    | some record =>
      have same := picks.picked source record taken
      have seen : source.entry.isFound (Record.objectId α) .null = true := by
        rw [← same, picks.entry]
        unfold Entry.isFound
        rw [Bool.and_eq_true_iff]
        exact ⟨beq_self_eq_true _, rfl⟩
      rw [seen, List.filterMap_cons_some taken, List.map_cons, ← picks.entry, same, ← ih]
      rfl

/-- **The records of a kind** are found as those of its nodes. -/
theorem finds (picks : Picks pick wrap own kind) {store : Store} {sources : List Source}
    (entries : store.nodes = sources.map Source.entry) :
    store.Finds .null (sources.filterMap pick) := by
  refine ⟨(sources.filterMap pick).map fun record => (own record, [record]), ?_, ?_, ?_⟩
  · have kept : ∀ entry : Entry, (entry.isFound (Record.objectId α) .null &&
        nodeIds.contains entry.id) = entry.isFound (Record.objectId α) .null := by
      intro entry
      cases seen : entry.isFound (Record.objectId α) .null with
      | false => rfl
      | true =>
        have object := eq_of_beq (Bool.and_eq_true_iff.mp seen).1
        rw [object, Bool.true_and, picks.object]
        exact List.contains_iff_mem.mpr kind.id_mem
    have found : store.found (Record.objectId α) .null =
        store.nodes.filter (Entry.isFound (Record.objectId α) .null) := by
      unfold Store.nodes Store.found
      rw [List.filter_filter]
      exact congrArg (fun keep => store.entries.filter keep) (funext fun entry => (kept entry).symm)
    rw [found, entries, picks.filter_entries, List.map_map]
    rfl
  · intro group inside
    obtain ⟨record, _, rfl⟩ := List.mem_map.mp inside
    exact (by decide : 1 ≤ maxCount)
  · rw [List.flatMap_map]
    exact List.flatMap_singleton' _

end Picks

namespace Iort.Source

/-- The record of a group of translation services. -/
def itsGroup? : Source → Option ItsGroup
  | itsGroup record => some record
  | _ => none

/-- The record of a device that the namespace names. -/
def namedComponent? : Source → Option NamedComponent
  | namedComponent record => some record
  | _ => none

/-- The record of a root complex. -/
def rootComplex? : Source → Option RootComplex
  | rootComplex record => some record
  | _ => none

/-- The record of a memory management unit of the first or second version. -/
def smmuV1V2? : Source → Option SmmuV1V2
  | smmuV1V2 record => some record
  | _ => none

/-- The record of a memory management unit of the third version. -/
def smmuV3? : Source → Option SmmuV3
  | smmuV3 record => some record
  | _ => none

/-- The record of a group of performance counters. -/
def pmcg? : Source → Option Pmcg
  | pmcg record => some record
  | _ => none

theorem picks_itsGroup : Picks itsGroup? itsGroup ItsGroup.token .itsGroup where
  picked source record taken := by
    cases source <;> cases taken
    rfl
  kinds source := by cases source <;> rfl
  entry _ := rfl
  object := rfl

theorem picks_namedComponent :
    Picks namedComponent? namedComponent NamedComponent.token .namedComponent where
  picked source record taken := by
    cases source <;> cases taken
    rfl
  kinds source := by cases source <;> rfl
  entry _ := rfl
  object := rfl

theorem picks_rootComplex : Picks rootComplex? rootComplex RootComplex.token .rootComplex where
  picked source record taken := by
    cases source <;> cases taken
    rfl
  kinds source := by cases source <;> rfl
  entry _ := rfl
  object := rfl

theorem picks_smmuV1V2 : Picks smmuV1V2? smmuV1V2 SmmuV1V2.token .smmuV1V2 where
  picked source record taken := by
    cases source <;> cases taken
    rfl
  kinds source := by cases source <;> rfl
  entry _ := rfl
  object := rfl

theorem picks_smmuV3 : Picks smmuV3? smmuV3 SmmuV3.token .smmuV3 where
  picked source record taken := by
    cases source <;> cases taken
    rfl
  kinds source := by cases source <;> rfl
  entry _ := rfl
  object := rfl

theorem picks_pmcg : Picks pmcg? pmcg Pmcg.token .pmcg where
  picked source record taken := by
    cases source <;> cases taken
    rfl
  kinds source := by cases source <;> rfl
  entry _ := rfl
  object := rfl

end Iort.Source

/-! ### The inventory -/

namespace Iort

/-- The kinds of nodes in the order of the table. -/
def NodeKind.all : List NodeKind :=
  [itsGroup, namedComponent, rootComplex, smmuV1V2, smmuV3, pmcg]

theorem NodeKind.mem_all (kind : NodeKind) : kind ∈ all := by
  cases kind <;> decide

namespace Inventory

/-- The records of sources, kind by kind. -/
def ofSources (sources : List Source) : Inventory where
  itsGroups := sources.filterMap Source.itsGroup?
  namedComponents := sources.filterMap Source.namedComponent?
  rootComplexes := sources.filterMap Source.rootComplex?
  smmuV1V2s := sources.filterMap Source.smmuV1V2?
  smmuV3s := sources.filterMap Source.smmuV3?
  pmcgs := sources.filterMap Source.pmcg?

theorem sources_ofSources (sources : List Source) :
    (ofSources sources).sources =
      NodeKind.all.flatMap fun kind => sources.filter fun source => source.kind == kind := by
  unfold Inventory.sources ofSources NodeKind.all
  rw [Source.picks_itsGroup.map_filterMap, Source.picks_namedComponent.map_filterMap,
    Source.picks_rootComplex.map_filterMap, Source.picks_smmuV1V2.map_filterMap,
    Source.picks_smmuV3.map_filterMap, Source.picks_pmcg.map_filterMap]
  simp only [List.flatMap_cons, List.flatMap_nil, List.append_nil, List.append_assoc]

theorem readable_components {sources : List Source}
    (readable : ∀ source ∈ sources, ∀ record ∈ source.namedComponent?, Record.IsReadable record) :
    ∀ record ∈ (ofSources sources).namedComponents, Record.IsReadable record := by
  intro record inside
  obtain ⟨source, member, taken⟩ := List.mem_filterMap.mp inside
  exact readable source member record taken

/-- **The inventory that a store lists** is that of the sources of its nodes, if their names can be
read. -/
theorem IsListed.eq_ofSources {store : Store} {sources : List Source}
    (entries : store.nodes = sources.map Source.entry)
    (readable : ∀ source ∈ sources, ∀ record ∈ source.namedComponent?, Record.IsReadable record)
    {inventory : Inventory} (listed : inventory.IsListed store.view) :
    inventory = ofSources sources := by
  obtain ⟨itsGroups, namedComponents, rootComplexes, smmuV1V2s, smmuV3s, pmcgs⟩ := inventory
  unfold ofSources
  rw [mk.injEq]
  refine ⟨?_, ?_, ?_, ?_, ?_, ?_⟩
  · exact Store.eq_of_lists (Source.picks_itsGroup.finds entries) (Record.areReadable (by decide) _)
      listed.itsGroups
  · exact Store.eq_of_lists (Source.picks_namedComponent.finds entries)
      (readable_components readable) listed.namedComponents
  · exact Store.eq_of_lists (Source.picks_rootComplex.finds entries)
      (Record.areReadable (by decide) _)
      listed.rootComplexes
  · exact Store.eq_of_lists (Source.picks_smmuV1V2.finds entries) (Record.areReadable (by decide) _)
      listed.smmuV1V2s
  · exact Store.eq_of_lists (Source.picks_smmuV3.finds entries) (Record.areReadable (by decide) _)
      listed.smmuV3s
  · exact Store.eq_of_lists (Source.picks_pmcg.finds entries) (Record.areReadable (by decide) _)
      listed.pmcgs

end Inventory

end Iort

end FirmwareTables
