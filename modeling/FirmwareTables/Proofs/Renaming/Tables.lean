/-
**Tokens carry no meaning beyond identity.**

None of the built-in generators takes notice of what a token's number is. Remapping nodes use tokens
to find arrays and to refer to each other, generic initiators to find their handles; all of this
goes the same way under other names, and the nodes of the other kinds have nothing to do with
tokens. Hence every table is built the same, and where none is built the error is of the same kind
(`builtin_renamed`).
-/

import FirmwareTables.Generator.Registry
import FirmwareTables.Proofs.Renaming.Building
import Mathlib.Logic.Equiv.Basic

namespace FirmwareTables

variable {names : Renaming} {context partner : Context}

/-! ### Nodes without tokens -/

/-- A node whose pieces depend on the revision alone. -/
theorem Node.ofPieces_pure_mirrors {size : Nat} {pieces : Context → List Piece}
    (same : ∀ context partner : Context, partner.revision = context.revision →
      pieces partner = pieces context) :
    (Node.ofPieces .null size fun context => pure (pieces context)).Mirrors names
      (Node.ofPieces .null size fun context => pure (pieces context)) :=
  Node.ofPieces_mirrors names.token_null.symm fun context partner both =>
    (same context partner both.revision).symm

theorem Mcfg.isEquivariant (names : Renaming) : Mcfg.kind.IsEquivariant names where
  categories := by
    simp only [kind, layout, List.forall_mem_cons]
    refine ⟨?_, List.forall_mem_nil _⟩
    exact Category.IsOf.equivariant_plain ⟨rfl, rfl⟩ rfl (by decide) (fun _ => trivial) fun _ =>
      Node.ofPieces_pure_mirrors fun _ _ _ => rfl
  fields _ _ _ := rfl

namespace Madt

theorem checkProcessors_tokenless (records : List CpuInterface) :
    Meets (fun _ => True) TableError.IsTokenless (checkProcessors records) := by
  unfold checkProcessors
  split <;> exact trivial

theorem isEquivariant (names : Renaming) : kind.IsEquivariant names where
  categories := by
    simp only [kind, layout, List.forall_mem_cons]
    refine ⟨?_, ?_, ?_, ?_, ?_, List.forall_mem_nil _⟩
    · refine Category.IsOf.equivariant_plain ⟨rfl, rfl⟩ rfl (by decide) checkProcessors_tokenless
        fun record => Node.ofPieces_pure_mirrors fun context partner same => ?_
      rw [same]
    all_goals
      exact Category.IsOf.equivariant_plain ⟨rfl, rfl⟩ rfl (by decide) (fun _ => trivial) fun _ =>
        Node.ofPieces_pure_mirrors fun _ _ _ => rfl
  fields _ _ _ := rfl

end Madt

/-! ### Remapping nodes -/

namespace Iort

variable {count : UInt32} {token : Token}

/-- As many items are fetched, under their other names. -/
theorem fetchArray_mirrors {α : Type} [Record α] (both : context.Mirrors names partner)
    (covered : IsCovered α) (token : Token) (count : UInt32) (what : String) :
    Mirrors names.tableError (Store.Renames names) (fetchArray α context token count what).result
      (fetchArray α partner (names.token token) count what).result := by
  unfold fetchArray
  simp only [Reading.result_bind, Reading.result_mapError]
  refine (both.view.list α covered token).repository.bind fun items others renamed => ?_
  rw [renamed, List.length_map]
  by_cases few : items.length < count.toNat
  · rw [if_pos few, if_pos few]
    rfl
  · rw [if_neg few, if_neg few]
    exact List.map_take.symm

theorem idMapping_mirrors (both : context.Mirrors names partner) (mapping : IdMapping) :
    Mirrors names.tableError Eq (idMapping context mapping)
      (idMapping partner (names.record mapping)) := by
  unfold idMapping
  rw [both.index]
  refine (Index.resolve_mirrors context.index mapping.outputReferenceToken).bind_same
    fun target => ?_
  rfl

/-- Id mappings lead to the same places. -/
theorem idMappings_mirrors (both : context.Mirrors names partner) (count : UInt32)
    (token : Token) : Mirrors names.tableError Eq (idMappings context count token).result
      (idMappings partner count (names.token token)).result := by
  unfold idMappings
  rw [names.isNull_token]
  by_cases absent : count = 0 ∨ token.isNull
  · rw [if_pos absent, if_pos absent]
    rfl
  rw [if_neg absent, if_neg absent]
  simp only [Reading.result_bind, Reading.result_ofExcept]
  refine (fetchArray_mirrors both (.inl rfl) token count "ID mappings").bind
    fun mappings others renamed => ?_
  have all : List.Forall₂ (fun mapping other => other = names.record mapping) mappings others := by
    rw [renamed, List.forall₂_map_right_iff]
    exact List.forall₂_same.mpr fun _ _ => rfl
  have resolved : Mirrors names.tableError (List.Forall₂ Eq)
      (mappings.mapM (idMapping context)) (others.mapM (idMapping partner)) := by
    refine Mirrors.mapM all fun mapping other same => ?_
    rw [same]
    exact idMapping_mirrors both mapping
  refine resolved.bind fun pieces _ equal => ?_
  rw [List.forall₂_eq_eq_eq] at equal
  rw [← equal]
  rfl

/-- Interrupts mention no tokens. -/
theorem interrupts_mirrors (both : context.Mirrors names partner) (count : UInt32)
    (token : Token) : Mirrors names.tableError Eq (interrupts context count token).result
      (interrupts partner count (names.token token)).result := by
  unfold interrupts
  by_cases absent : count = 0
  · rw [if_pos absent, if_pos absent]
    rfl
  rw [if_neg absent, if_neg absent]
  simp only [Reading.result_bind]
  have plain : Renaming.ArePlain (Record.fields SmmuInterrupt) := by decide
  refine (fetchArray_mirrors both (.inr ⟨rfl, plain⟩) token count "SMMU interrupts").bind
    fun items others renamed => ?_
  rw [renamed, funext (names.record_of_plain plain), List.map_id']
  rfl

theorem nodeHeader_mirrors (kind : NodeKind) (length : Nat) (mappingCount : UInt32)
    (mappingsAt : Nat) : Mirrors names.tableError Eq
      (nodeHeader kind length mappingCount mappingsAt)
      (nodeHeader kind length mappingCount mappingsAt) := by
  refine Mirrors.of_tokenless ?_
  unfold nodeHeader
  split <;> exact trivial

theorem itsGroup_mirrors (record : ItsGroup) :
    (itsGroup record).Mirrors names (itsGroup (names.record record)) := by
  refine Node.ofPieces_mirrors rfl fun context partner both => ?_
  simp only [Reading.result_bind, Reading.result_ofExcept]
  refine (nodeHeader_mirrors .itsGroup (itsGroupLength record) 0 0).bind_same fun header => ?_
  have counted : (names.record record).itsIdCount = record.itsIdCount := rfl
  rw [counted]
  by_cases absent : record.itsIdCount = 0
  · rw [if_pos absent, if_pos absent]
    rfl
  rw [if_neg absent, if_neg absent]
  simp only [Reading.result_bind]
  have plain : Renaming.ArePlain (Record.fields ItsIdentifier) := by decide
  refine (fetchArray_mirrors both (.inr ⟨rfl, plain⟩) record.itsIdToken record.itsIdCount
    "ITS identifiers").bind fun ids others renamed => ?_
  rw [renamed, funext (names.record_of_plain plain), List.map_id']
  rfl

theorem namedComponent_mirrors (record : NamedComponent) :
    (namedComponent record).Mirrors names (namedComponent (names.record record)) := by
  refine Node.ofPieces_mirrors rfl fun context partner both => ?_
  simp only [Reading.result_bind, Reading.result_ofExcept]
  refine (nodeHeader_mirrors .namedComponent (componentLength record) record.idMappingCount
    (componentMappingsAt record)).bind_same fun header => ?_
  refine (idMappings_mirrors both record.idMappingCount record.idMappingToken).bind_same
    fun mappings => ?_
  rfl

theorem rootComplex_mirrors (record : RootComplex) :
    (rootComplex record).Mirrors names (rootComplex (names.record record)) := by
  refine Node.ofPieces_mirrors rfl fun context partner both => ?_
  simp only [Reading.result_bind, Reading.result_ofExcept]
  refine (nodeHeader_mirrors .rootComplex (rootComplexLength record) record.idMappingCount
    rootComplexMappingsAt).bind_same fun header => ?_
  refine (idMappings_mirrors both record.idMappingCount record.idMappingToken).bind_same
    fun mappings => ?_
  rfl

theorem smmuV1V2_mirrors (record : SmmuV1V2) :
    (smmuV1V2 record).Mirrors names (smmuV1V2 (names.record record)) := by
  refine Node.ofPieces_mirrors rfl fun context partner both => ?_
  simp only [Reading.result_bind, Reading.result_ofExcept]
  refine (nodeHeader_mirrors .smmuV1V2 (smmuV1V2Length record) record.idMappingCount
    (unitMappingsAt record)).bind_same fun header => ?_
  refine (interrupts_mirrors both record.contextInterruptCount record.contextInterruptToken).bind_same
    fun contextInterrupts => ?_
  have named : (names.record record).pmuInterruptToken.isNull = record.pmuInterruptToken.isNull :=
    names.isNull_token _
  have mappings := idMappings_mirrors both record.idMappingCount record.idMappingToken
  rw [named]
  by_cases absent : record.pmuInterruptToken.isNull = true
  · rw [if_pos absent, if_pos absent]
    simp only [pure_bind, Reading.result_bind]
    refine mappings.bind_same fun made => ?_
    rfl
  · rw [if_neg absent, if_neg absent]
    simp only [Reading.result_bind]
    refine (interrupts_mirrors both record.pmuInterruptCount record.pmuInterruptToken).bind_same
      fun pmuInterrupts => ?_
    refine mappings.bind_same fun made => ?_
    rfl

theorem smmuV3_mirrors (record : SmmuV3) :
    (smmuV3 record).Mirrors names (smmuV3 (names.record record)) := by
  refine Node.ofPieces_mirrors rfl fun context partner both => ?_
  simp only [Reading.result_bind, Reading.result_ofExcept]
  refine (nodeHeader_mirrors .smmuV3 (smmuV3Length record) record.idMappingCount
    smmuV3MappingsAt).bind_same fun header => ?_
  refine (idMappings_mirrors both record.idMappingCount record.idMappingToken).bind_same
    fun mappings => ?_
  rfl

theorem pmcg_mirrors (record : Pmcg) :
    (pmcg record).Mirrors names (pmcg (names.record record)) := by
  refine Node.ofPieces_mirrors rfl fun context partner both => ?_
  simp only [Reading.result_bind, Reading.result_ofExcept]
  refine (nodeHeader_mirrors .pmcg (pmcgLength record) record.idMappingCount
    pmcgMappingsAt).bind_same fun header => ?_
  rw [both.index]
  refine (Index.resolve_mirrors context.index record.referenceToken).bind_same
    fun target => ?_
  refine (idMappings_mirrors both record.idMappingCount record.idMappingToken).bind_same
    fun mappings => ?_
  rfl

theorem isEquivariant (names : Renaming) : kind.IsEquivariant names where
  categories := by
    have unchecked : ∀ {α : Type} [Record α] (records : List α),
        Mirrors names.tableError Eq ((fun _ => .ok ()) records)
          ((fun _ : List α => .ok ()) (records.map names.record)) := fun _ => rfl
    simp only [kind, layout, List.forall_mem_cons]
    refine ⟨?_, ?_, ?_, ?_, ?_, ?_, List.forall_mem_nil _⟩
    · exact Category.IsOf.isEquivariant ⟨rfl, rfl⟩ (.inl rfl) unchecked itsGroup_mirrors
    · exact Category.IsOf.isEquivariant ⟨rfl, rfl⟩ (.inl rfl) unchecked namedComponent_mirrors
    · exact Category.IsOf.isEquivariant ⟨rfl, rfl⟩ (.inl rfl) unchecked rootComplex_mirrors
    · exact Category.IsOf.isEquivariant ⟨rfl, rfl⟩ (.inl rfl) unchecked smmuV1V2_mirrors
    · exact Category.IsOf.isEquivariant ⟨rfl, rfl⟩ (.inl rfl) unchecked smmuV3_mirrors
    · exact Category.IsOf.isEquivariant ⟨rfl, rfl⟩ (.inl rfl) unchecked pmcg_mirrors
  fields plan other both := by
    show Mirrors _ _ (fields plan) (fields other)
    unfold fields
    rw [both.nodeCount_eq]
    refine Mirrors.of_tokenless ?_
    split <;> exact trivial

end Iort

/-! ### Generic initiators -/

namespace Srat

/-- The first handle is the same. -/
theorem firstHandle_mirrors {α : Type} [Record α] (both : context.Mirrors names partner)
    (free : carrier? (Record.objectId α) = none) (plain : Renaming.ArePlain (Record.fields α))
    (record : GenericInitiator) :
    Mirrors names.tableError Eq (firstHandle α context.view record).result
      (firstHandle α partner.view (names.record record)).result := by
  unfold firstHandle
  simp only [Reading.result_bind, Reading.result_mapError]
  have listed := both.view.list α (.inr ⟨free, plain⟩) record.deviceHandleToken
  refine listed.repository.bind fun handles others renamed => ?_
  rw [renamed, funext (names.record_of_plain plain), List.map_id']
  cases handles <;> rfl

theorem handle_mirrors (both : context.Mirrors names partner) (record : GenericInitiator) :
    Mirrors names.tableError Eq (handle context.view record).result
      (handle partner.view (names.record record)).result := by
  have token : (names.record record).deviceHandleToken = names.token record.deviceHandleToken := rfl
  have type : (names.record record).deviceHandleType = record.deviceHandleType := rfl
  unfold handle
  rw [token, names.isNull_token, type]
  by_cases absent : record.deviceHandleToken.isNull = true
  · rw [if_pos absent, if_pos absent]
    rfl
  rw [if_neg absent, if_neg absent]
  by_cases acpi : record.deviceHandleType = AcpiHandle.deviceType
  · rw [if_pos acpi, if_pos acpi]
    simp only [Reading.result_bind]
    refine (firstHandle_mirrors both rfl (by decide) record).bind_same fun handle => ?_
    rfl
  rw [if_neg acpi, if_neg acpi]
  by_cases pci : record.deviceHandleType = PciHandle.deviceType
  · rw [if_pos pci, if_pos pci]
    simp only [Reading.result_bind]
    refine (firstHandle_mirrors both rfl (by decide) record).bind_same fun handle => ?_
    rfl
  · rw [if_neg pci, if_neg pci]
    rfl

theorem genericInitiator_mirrors (record : GenericInitiator) :
    (genericInitiator record).Mirrors names (genericInitiator (names.record record)) := by
  refine Node.ofPieces_mirrors names.token_null.symm fun context partner both => ?_
  simp only [Reading.result_bind]
  refine (handle_mirrors both record).bind_same fun handle => ?_
  rfl

theorem isEquivariant (names : Renaming) : kind.IsEquivariant names where
  categories := by
    simp only [kind, layout, List.forall_mem_cons]
    refine ⟨?_, ?_, ?_, ?_, List.forall_mem_nil _⟩
    · exact Category.IsOf.equivariant_plain ⟨rfl, rfl⟩ rfl (by decide) (fun _ => trivial) fun _ =>
        Node.ofPieces_pure_mirrors fun _ _ _ => rfl
    · exact Category.IsOf.equivariant_plain ⟨rfl, rfl⟩ rfl (by decide) (fun _ => trivial) fun _ =>
        Node.ofPieces_pure_mirrors fun _ _ _ => rfl
    · exact Category.IsOf.equivariant_plain ⟨rfl, rfl⟩ rfl (by decide) (fun _ => trivial) fun _ =>
        Node.ofPieces_pure_mirrors fun _ _ _ => rfl
    · exact Category.IsOf.isEquivariant ⟨rfl, rfl⟩ (.inl rfl) (fun _ => rfl)
        genericInitiator_mirrors
  fields _ _ _ := rfl

end Srat

/-! ### Built-in generators -/

/-- **A built-in generator builds the same** of a store under other names, and fails in the same way
but for the names of the tokens that it mentions. -/
theorem builtin_mirrors {generator : Generator} (among : generator ∈ Registry.builtin.generators)
    {store : Store} (decodes : store.Decodes) (names : Renaming) (request : TableRequest) :
    Mirrors names.tableError Eq (generator.build request store.view).result
      (generator.build request (names.store store).view).result := by
  have both := Store.mirrors decodes names
  simp only [Registry.builtin, List.mem_cons, List.not_mem_nil, or_false] at among
  rcases among with rfl | rfl | rfl | rfl
  · exact TableKind.build_mirrors (Iort.isEquivariant names) both request
  · exact TableKind.build_mirrors (Mcfg.isEquivariant names) both request
  · exact TableKind.build_mirrors (Madt.isEquivariant names) both request
  · exact TableKind.build_mirrors (Srat.isEquivariant names) both request

/-- Two builds end alike. -/
inductive EndAlike : Except TableError Table → Except TableError Table → Prop
  /-- Both give the same table. -/
  | table (table : Table) : EndAlike (.ok table) (.ok table)
  /-- Both fail with errors of the same kind. -/
  | error {first second : TableError} (same : first.SameKind second) :
    EndAlike (.error first) (.error second)

/-- **Tokens carry no meaning beyond identity**: whatever other names they are given, every built-in
generator ends alike on every request. -/
theorem builtin_renamed {generator : Generator} (among : generator ∈ Registry.builtin.generators)
    {store : Store} (decodes : store.Decodes) (names : Renaming) (request : TableRequest) :
    EndAlike (generator.build request store.view).result
      (generator.build request (names.store store).view).result := by
  have both := (builtin_mirrors among decodes names request).eq_mapError
  rw [both]
  cases (generator.build request store.view).result with
  | ok table => exact .table table
  | error error => exact .error (names.sameKind_tableError error)

/-- A root complex whose only id mapping leads to a group of translation services. -/
def Store.linked : Store :=
  ⟨[Entry.ofRecords ⟨1⟩ [(⟨⟨1⟩, 0, .null⟩ : ItsGroup)],
    Entry.ofRecords ⟨2⟩ [({ (default : RootComplex) with
      token := ⟨2⟩, idMappingCount := 1, idMappingToken := ⟨3⟩ })],
    Entry.ofRecords ⟨3⟩ [(⟨0, 0, 0, ⟨1⟩, 0⟩ : IdMapping)],
    Entry.ofRecords .null [(default : ManagerInfo)]]⟩

/-- The names of the first and the third token, exchanged. -/
def Renaming.exchange : Renaming where
  raw := Equiv.swap 1 3
  injective := (Equiv.swap 1 3).injective
  zero := by decide

/-- With two tokens exchanged, the table that is built of linked nodes is the same. -/
theorem builtin_renamed_linked : Iort.kind.generator ∈ Registry.builtin.generators ∧
    Store.linked.Decodes ∧ Renaming.exchange.store Store.linked ≠ Store.linked ∧
    (Iort.kind.generator.build ⟨.iort, 0, .iort, 0, 0⟩ Store.linked.view).result.isOk ∧
    EndAlike (Iort.kind.generator.build ⟨.iort, 0, .iort, 0, 0⟩ Store.linked.view).result
      (Iort.kind.generator.build ⟨.iort, 0, .iort, 0, 0⟩
        (Renaming.exchange.store Store.linked).view).result := by
  have among : Iort.kind.generator ∈ Registry.builtin.generators := List.mem_cons_self
  have decodes : Store.linked.Decodes := by decide +kernel
  have alike := builtin_renamed among decodes .exchange ⟨.iort, 0, .iort, 0, 0⟩
  exact ⟨among, decodes, by decide +kernel, by decide +kernel, alike⟩

end FirmwareTables
