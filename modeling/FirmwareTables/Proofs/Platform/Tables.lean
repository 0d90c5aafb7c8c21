/-
**Tables of configured managers.**

Names go to tokens, tokens to records of different objects, records to nodes in the order of the
table, and nodes to offsets. Whatever descriptions were applied to a manager, one after the other
and with the same names again, all of this ends where the description meant it: each reference in the
remapping table is the offset of the node with the name given, and each structure of an initiator in
the table of affinity carries the handle of its own device (`configured_references`).
-/

import FirmwareTables.Proofs.Platform.Handles
import FirmwareTables.Proofs.Platform.References

namespace FirmwareTables

/-- **References by name reach the right node.** A manager was installed and had descriptions
applied to it, all of them accepted, with tokens issued in between; the tokens are unique, as fewer
were issued than there are. From what is stored then the two tables with references are refused only
over a parameter; nothing is ever missing. In a remapping table that is built all nodes of all
descriptions are met once, and each of their references is the offset of the node that has the name
in the same description, which is one only. In a table of affinity that is built each initiator
carries the handle of its own device. -/
theorem configured_references {σ : Type} {host : σ} {platforms : List Platform}
    {manager : Manager σ} (configured : Configured host platforms manager)
    (small : manager.configuration.issued < UInt64.size)
    (short : ∀ platform ∈ platforms, platform.HasShortNames) (request : TableRequest) :
    (∀ error, (Iort.kind.build request manager.configuration.store.view).result = .error error →
      error.IsRefusal Iort.kind.toProfile request) ∧
    (∀ error, (Srat.kind.build request manager.configuration.store.view).result = .error error →
      error.IsRefusal Srat.kind.toProfile request) ∧
    (∀ platform ∈ platforms, platform.nodeNames.Nodup) ∧
    (tableNodes platforms).Perm (allNodes platforms) ∧
    (∀ table, (Iort.kind.build request manager.configuration.store.view).result = .ok table →
      HasReferences platforms manager.configuration.store table.bytes) ∧
    (∀ table, (Srat.kind.build request manager.configuration.store.view).result = .ok table →
      HasHandles platforms table.bytes) := by
  obtain ⟨_, described⟩ := configured.describes small
  obtain ⟨tables, sources, holds⟩ := described.nodes.holdsTable configured.consistent short
  obtain ⟨records, initiators⟩ := described.initiators
  refine ⟨?_, ?_, ?_, tableNodes_perm platforms, ?_, ?_⟩
  · intro error failed
    exact holds.refused described.vendor failed
  · intro error failed
    exact initiators.refused described.plain described.vendor failed
  · intro platform inside
    exact (Platform.validate_eq_ok (configured.consistent platform inside)).1
  · intro table built
    exact holds.hasReferences built
  · intro table built
    exact initiators.hasHandles built

theorem Configured.again {σ : Type} {host : σ} {platforms : List Platform} {platform : Platform}
    {manager : Manager σ} (before : Configured host platforms manager)
    (accepted : (platform.apply manager).1 = .ok ()) :
    Configured host (platforms ++ [platform]) (platform.apply manager).2 :=
  .applied before (Prod.ext accepted rfl)

/-- A processor, a group of translation services, nodes that refer to it and to each other, and a
device. -/
def Platform.small : Platform :=
  { (default : Platform) with
    cpuInterfaces := [default]
    itsGroups := [⟨"its", [0]⟩]
    namedComponents := [⟨"net", "ETH0", 0, 0, 0, 0, 32, [⟨0, 0, 3, "its", 1⟩]⟩]
    rootComplexes := [⟨"pci", 1, 0, 0, 0, 0, 64, [⟨0, 255, 0, "its", 0⟩, ⟨256, 0, 7, "pmu", 0⟩]⟩]
    pmcgs := [⟨"pmu", 4096, 40, 0, "pci", [⟨0, 0, 9, "its", 1⟩]⟩]
    initiators := [⟨1, 1, .pci ⟨0, 1, 2, 3⟩⟩] }

/-- A manager to which the small description is applied. -/
def Manager.once : Manager Unit := (Platform.small.apply (Manager.new ()).install.step.manager).2

/-- The same names are given twice, and a token is issued in between. -/
def Manager.twice : Manager Unit :=
  (Platform.small.apply
    { once with configuration := once.configuration.newToken.2 }).2

theorem Manager.configured_twice :
    Configured () [Platform.small, Platform.small] twice ∧
      twice.configuration.issued < UInt64.size ∧
      ∀ platform ∈ [Platform.small, Platform.small], platform.HasShortNames := by
  have first : Configured () ([] ++ [Platform.small]) once :=
    Configured.again .installed (by decide +kernel)
  refine ⟨Configured.again first.issued (by decide +kernel), by decide +kernel, ?_⟩
  intro platform inside component member
  simp only [List.mem_cons, List.not_mem_nil, or_false, or_self] at inside
  subst inside
  rw [List.mem_singleton.mp member]
  decide +kernel

theorem configured_references_twice :
    ∃ (manager : Manager Unit) (first second : Table),
      Configured () [Platform.small, Platform.small] manager ∧
      manager.configuration.issued < UInt64.size ∧
      (∀ platform ∈ [Platform.small, Platform.small], platform.HasShortNames) ∧
      (Iort.kind.build ⟨.iort, 0, .iort, 0, 0⟩ manager.configuration.store.view).result =
        .ok first ∧
      (Srat.kind.build ⟨.srat, 3, .srat, 0, 0⟩ manager.configuration.store.view).result =
        .ok second ∧
      HasReferences [Platform.small, Platform.small] manager.configuration.store first.bytes ∧
      HasHandles [Platform.small, Platform.small] second.bytes := by
  obtain ⟨configured, small, short⟩ := Manager.configured_twice
  have value : ∀ outcome : Except TableError Table, outcome.isOk = true →
      ∃ table, outcome = .ok table := by
    intro outcome done
    cases outcome with
    | ok table => exact ⟨table, rfl⟩
    | error error => cases done
  obtain ⟨first, built⟩ := value (Iort.kind.build ⟨.iort, 0, .iort, 0, 0⟩
    Manager.twice.configuration.store.view).result (by decide +kernel)
  obtain ⟨second, filled⟩ := value (Srat.kind.build ⟨.srat, 3, .srat, 0, 0⟩
    Manager.twice.configuration.store.view).result (by decide +kernel)
  obtain ⟨_, _, _, _, references, _⟩ :=
    configured_references configured small short ⟨.iort, 0, .iort, 0, 0⟩
  obtain ⟨_, _, _, _, _, handles⟩ :=
    configured_references configured small short ⟨.srat, 3, .srat, 0, 0⟩
  exact ⟨Manager.twice, first, second, configured, small, short, built, filled,
    references first built, handles second filled⟩

end FirmwareTables
