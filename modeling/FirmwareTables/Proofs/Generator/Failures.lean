/-
**What a build can fail with.**

Some errors are about what comes from outside: a request, a record, a missing reference or the
repository itself. The others are about the builders: a writer that misses its buffer, a number of
nodes that changes under way, a length or a place that its field cannot state. While the repository
stays as it is, none of the built-in generators ever fails with one of those (`builtin_failures`),
whatever the repository holds and whatever is requested.

* `IsHarmless`: a node no longer than the limit fails from outside only;
* `TableKind.build_external`: a kind whose categories and nodes fail from outside only.
-/

import FirmwareTables.Generator.Registry
import FirmwareTables.Proofs.Generator.Structures
import FirmwareTables.Proofs.Iort.Inventory
import FirmwareTables.Proofs.Repository.Finding

namespace FirmwareTables

/-! ### Errors from outside -/

/-- What is missing is a node, an array or a handle. -/
def Missing.IsExternal : Missing → Prop
  | .nullReference | .node _ | .items _ _ _ _ | .handle _ => True
  | .generator _ | .other _ => False

/-- What is wrong is the request, the number or the length of the records, or a record itself. -/
def Invalid.IsExternal : Invalid → Prop
  | .generatorId _ _ | .signature _ _ | .revision _ _ _ _ => True
  | .noNodes _ | .notSingle _ _ | .longNode _ _ _ | .longTotal _ => True
  | .sharedProcessor _ _ _ | .nullHandle | .handleType _ => True
  | .shortTable _ _ | .longTable _ | .changedCount _ _ _ | .wideOffset _ => False
  | .wideNode _ _ | .manyNodes => False
  | .foreignBytes _ _ | .foreignTable _ _ | .generatorTaken _ | .other _ => False

/-- The error is about the request, the records or the repository, not about the builder. -/
def TableError.IsExternal : TableError → Prop
  | .notFound missing => missing.IsExternal
  | .invalidParameter invalid => invalid.IsExternal
  | .repository _ => True
  | .outOfResources _ | .badBufferSize _ | .unsupported _ => False

/-- An outcome that, if it is an error, comes from outside. -/
abbrev IsExternal {α : Type} (outcome : Except TableError α) : Prop :=
  Meets (fun _ => True) TableError.IsExternal outcome

theorem external_repository {α : Type} (outcome : Except RepositoryError α) :
    Meets (fun _ => True) (TableError.IsExternal ∘ TableError.repository) outcome := by
  cases outcome <;> exact trivial

theorem external_mapError {α : Type} (outcome : Except RepositoryError α) :
    IsExternal (outcome.mapError TableError.repository) := by
  cases outcome <;> exact trivial

/-! ### Steps that fail from outside -/

theorem Profile.checkRequest_external (profile : Profile) (request : TableRequest) :
    IsExternal (profile.checkRequest request) := by
  unfold checkRequest
  split
  · exact trivial
  split
  · exact trivial
  split
  · exact trivial
  · exact trivial

theorem Index.resolve_external (index : Index) (token : Token) :
    IsExternal (index.resolve token) := by
  unfold resolve
  split
  · exact trivial
  · split <;> exact trivial

/-- A node no longer than a limit fails from outside only. -/
def Node.IsHarmless (limit : Nat) (node : Node) : Prop :=
  ∀ context size, node.size = .ok size → size ≤ limit → IsExternal (node.image context)

theorem Node.IsTotal.isHarmless {limit : Nat} {node : Node} (total : node.IsTotal) :
    node.IsHarmless limit := by
  intro context _ _ _
  obtain ⟨image, made⟩ := total context
  rw [made]
  exact trivial

/-- The conditions under which a category of records fails from outside only. -/
theorem Category.IsOf.steady_external {α : Type} [Record α] {category : Category}
    {check : List α → Except TableError Unit} {node : α → Node} (source : category.IsOf check node)
    (sized : ∀ record, ∃ size, (node record).size = .ok size)
    (checking : ∀ records, IsExternal (check records)) (view : View) (limits : Limits) :
    category.IsSteady view limits TableError.IsExternal :=
  source.isSteady sized (external_repository _) (fun _ _ _ => external_repository _)
    (fun _ => trivial) (fun _ _ => trivial) checking (fun _ => trivial) trivial

theorem Category.IsOf.steady_unchecked {α : Type} [Record α] {category : Category} {node : α → Node}
    (source : category.IsOf (fun _ => .ok ()) node)
    (sized : ∀ record, ∃ size, (node record).size = .ok size) (view : View) (limits : Limits) :
    category.IsSteady view limits TableError.IsExternal :=
  source.steady_external sized (fun _ => trivial) view limits

/-- **A regular kind fails from outside only** if its categories, its nodes and its fields do. -/
theorem TableKind.build_external {kind : TableKind} (regular : kind.IsRegular)
    (steady : ∀ view, ∀ category ∈ kind.layout.categories,
      category.IsSteady view kind.layout.limits TableError.IsExternal)
    (harmless : ∀ category ∈ kind.layout.categories,
      category.AllNodes (Node.IsHarmless kind.layout.limits.maxNode))
    (filled : ∀ view plan, (kind.layout.plan view).result = .ok plan →
      IsExternal (kind.fields plan))
    (request : TableRequest) (view : View) : IsExternal (kind.build request view).result := by
  refine build_meets regular (kind.toProfile.checkRequest_external request)
    (external_repository _) (Layout.plan_meets regular.narrow (steady view)) ?_ (filled view)
  intro plan planned place inside
  obtain ⟨_, _, _, lies⟩ := Layout.plan_eq_ok.mp planned
  obtain ⟨_, size, fits, _⟩ := lies.entry_eq place inside
  obtain ⟨category, among, nodes, load, member⟩ := Layout.mem_placed planned inside
  exact harmless category among view nodes load place.node member _ _ size fits

/-! ### The remapping table -/

namespace Iort

theorem fetchArray_external {α : Type} [Record α] (context : Context) (token : Token)
    (count : UInt32) (what : String) :
    IsExternal (fetchArray α context token count what).result := by
  unfold fetchArray
  simp only [Reading.result_bind, Reading.result_mapError]
  refine (external_mapError _).bind fun items _ => ?_
  split <;> exact trivial

theorem interrupts_external (context : Context) (count : UInt32) (token : Token) :
    IsExternal (interrupts context count token).result := by
  unfold interrupts
  split
  · exact trivial
  · simp only [Reading.result_bind]
    exact (fetchArray_external context token count _).bind fun _ _ => trivial

theorem idMappings_external (context : Context) (count : UInt32) (token : Token) :
    IsExternal (idMappings context count token).result := by
  unfold idMappings
  split
  · exact trivial
  · simp only [Reading.result_bind, Reading.result_ofExcept]
    refine (fetchArray_external context token count _).bind fun items _ => ?_
    have each : ∀ mapping ∈ items, IsExternal (idMapping context mapping) := by
      intro mapping _
      unfold idMapping
      exact (context.index.resolve_external _).bind fun _ _ => trivial
    exact (Meets.mapM each).bind fun _ _ => trivial

theorem fields_external (context : Context) (source : Source) :
    IsExternal (source.fields context) := by
  cases source with
  | itsGroup record =>
    have ids : IsExternal (Source.itsIds context record) := by
      unfold Source.itsIds
      split
      · exact trivial
      · exact fetchArray_external _ _ _ _
    exact ids.bind fun _ _ => trivial
  | smmuV1V2 record =>
    have pmu : IsExternal (Source.pmuInterrupts context record) := by
      unfold Source.pmuInterrupts
      split
      · exact trivial
      · exact interrupts_external _ _ _
    exact (interrupts_external context _ _).bind fun _ _ => pmu.bind fun _ _ => trivial
  | pmcg record => exact (context.index.resolve_external _).bind fun _ _ => trivial
  | namedComponent | rootComplex | smmuV3 => exact trivial

/-- The length of a node that the plan let pass always fits its field. -/
theorem Source.isHarmless (source : Source) : source.node.IsHarmless layout.limits.maxNode := by
  intro context size known short
  rw [source.size_node] at known
  cases known
  rw [source.image_eq]
  unfold parts
  rw [nodeHeader_eq short]
  have stated : IsExternal (Except.ok source.header) := trivial
  refine stated.bind fun header _ => ?_
  refine (fields_external context source).bind fun fields _ => ?_
  exact (idMappings_external context _ _).bind fun mappings _ => trivial

theorem build_external (request : TableRequest) (view : View) :
    IsExternal (kind.build request view).result := by
  refine TableKind.build_external isRegular (fun view => ?_) ?_ (fun view plan planned => ?_) _ _
  · simp only [kind, layout, List.forall_mem_cons]
    refine ⟨?_, ?_, ?_, ?_, ?_, ?_, List.forall_mem_nil _⟩ <;>
      exact Category.IsOf.steady_unchecked ⟨rfl, rfl⟩ (fun _ => ⟨_, rfl⟩) view _
  · simp only [kind, layout, List.forall_mem_cons]
    refine ⟨?_, ?_, ?_, ?_, ?_, ?_, List.forall_mem_nil _⟩
    · exact Category.IsOf.allNodes ⟨rfl, rfl⟩ fun record => (Source.itsGroup record).isHarmless
    · exact Category.IsOf.allNodes ⟨rfl, rfl⟩ fun record =>
        (Source.namedComponent record).isHarmless
    · exact Category.IsOf.allNodes ⟨rfl, rfl⟩ fun record => (Source.rootComplex record).isHarmless
    · exact Category.IsOf.allNodes ⟨rfl, rfl⟩ fun record => (Source.smmuV1V2 record).isHarmless
    · exact Category.IsOf.allNodes ⟨rfl, rfl⟩ fun record => (Source.smmuV3 record).isHarmless
    · exact Category.IsOf.allNodes ⟨rfl, rfl⟩ fun record => (Source.pmcg record).isHarmless
  · obtain ⟨inventory, _, fits⟩ := plan_eq_ok.mp planned
    show IsExternal (fields plan)
    rw [fields_eq fits]
    exact trivial

end Iort

/-! ### The other tables -/

theorem Mcfg.build_external (request : TableRequest) (view : View) :
    IsExternal (kind.build request view).result := by
  refine TableKind.build_external isRegular (fun view => ?_) (fun category inside => ?_)
    (fun _ _ _ => trivial) _ _
  · simp only [kind, layout, List.forall_mem_cons]
    refine ⟨?_, List.forall_mem_nil _⟩
    exact Category.IsOf.steady_unchecked ⟨rfl, rfl⟩ (fun _ => ⟨_, rfl⟩) view _
  · exact fun view nodes load node member =>
      (total_all category inside view nodes load node member).isHarmless

namespace Madt

theorem checkProcessors_external (records : List CpuInterface) :
    IsExternal (checkProcessors records) := by
  unfold checkProcessors
  split <;> exact trivial

theorem build_external (request : TableRequest) (view : View) :
    IsExternal (kind.build request view).result := by
  refine TableKind.build_external isRegular (fun view => ?_) (fun category inside => ?_)
    (fun _ _ _ => trivial) _ _
  · simp only [kind, layout, List.forall_mem_cons]
    refine ⟨?_, ?_, ?_, ?_, ?_, List.forall_mem_nil _⟩
    · exact Category.IsOf.steady_external ⟨rfl, rfl⟩ (fun _ => ⟨_, rfl⟩)
        checkProcessors_external view _
    all_goals
      exact Category.IsOf.steady_unchecked ⟨rfl, rfl⟩ (fun _ => ⟨_, rfl⟩) view _
  · exact fun view nodes load node member =>
      (total_all category inside view nodes load node member).isHarmless

end Madt

namespace Srat

theorem handle_external (view : View) (record : GenericInitiator) :
    IsExternal (handle view record).result := by
  have first : ∀ (α : Type) [Record α], IsExternal (firstHandle α view record).result := by
    intro α _
    unfold firstHandle
    simp only [Reading.result_bind, Reading.result_mapError]
    refine (external_mapError _).bind fun handles _ => ?_
    cases handles <;> exact trivial
  unfold handle
  split
  · exact trivial
  split
  · simp only [Reading.result_bind]
    exact (first AcpiHandle).bind fun _ _ => trivial
  split
  · simp only [Reading.result_bind]
    exact (first PciHandle).bind fun _ _ => trivial
  · exact trivial

theorem build_external (request : TableRequest) (view : View) :
    IsExternal (kind.build request view).result := by
  refine TableKind.build_external isRegular (fun view => ?_) ?_ (fun _ _ _ => trivial) _ _
  · simp only [kind, layout, List.forall_mem_cons]
    refine ⟨?_, ?_, ?_, ?_, List.forall_mem_nil _⟩ <;>
      exact Category.IsOf.steady_unchecked ⟨rfl, rfl⟩ (fun _ => ⟨_, rfl⟩) view _
  · intro category inside
    rcases List.mem_append.mp (categories_eq ▸ inside) with inside | inside
    · exact fun view nodes load node member =>
        (total_all category inside view nodes load node member).isHarmless
    · rw [List.mem_singleton.mp inside]
      refine Category.IsOf.allNodes ⟨rfl, rfl⟩ fun record context _ _ _ => ?_
      rw [initiator_image]
      exact (handle_external _ record).map fun _ _ => trivial

end Srat

/-- **The internal errors of the builders are unreachable.** Whatever the repository shows and
whatever is requested, a built-in generator fails only with what comes from outside. -/
theorem builtin_failures {generator : Generator} (builtin : generator ∈ Registry.builtin.generators)
    {request : TableRequest} {view : View} {error : TableError}
    (failed : (generator.build request view).result = .error error) : error.IsExternal := by
  simp only [Registry.builtin, List.mem_cons, List.not_mem_nil, or_false] at builtin
  rcases builtin with rfl | rfl | rfl | rfl
  · exact (Iort.build_external request view).of_error failed
  · exact (Mcfg.build_external request view).of_error failed
  · exact (Madt.build_external request view).of_error failed
  · exact (Srat.build_external request view).of_error failed

/-- A group that counts some ids of which one is stored, and a root complex with two id mappings:
the first leads to the group, the second to the node of a token. -/
def Store.joined (ids : UInt32) (target : Token) : Store :=
  ⟨[Entry.ofRecords .null [(default : ManagerInfo)],
    Entry.ofRecords ⟨1⟩ [(⟨⟨1⟩, ids, ⟨2⟩⟩ : ItsGroup)],
    Entry.ofRecords ⟨2⟩ [(⟨7⟩ : ItsIdentifier)],
    Entry.ofRecords ⟨3⟩ [({ (default : RootComplex) with
      token := ⟨3⟩, idMappingCount := 2, idMappingToken := ⟨4⟩ })],
    Entry.ofRecords ⟨4⟩ [(⟨0, 8, 0, ⟨1⟩, 0⟩ : IdMapping), ⟨8, 8, 0, target, 0⟩]]⟩

/-- Where both mappings lead to the group, there is a table. A mapping that leads nowhere is met
only when everything has its place, and a group that is too long while the places are given. -/
theorem builtin_failures_dangling :
    (Iort.kind.generator.build ⟨.iort, 0, .iort, 0, 0⟩ (Store.joined 1 ⟨1⟩).view).result.isOk ∧
      ((Iort.kind.generator.build ⟨.iort, 0, .iort, 0, 0⟩ (Store.joined 1 ⟨9⟩).view).result =
          .error (.notFound (.node ⟨9⟩)) ∧
        (TableError.notFound (.node ⟨9⟩)).IsExternal) ∧
      (Iort.kind.generator.build ⟨.iort, 0, .iort, 0, 0⟩ (Store.joined 16384 ⟨1⟩).view).result =
          .error (.invalidParameter (.longNode "ITS group" 65556 65535)) ∧
        (TableError.invalidParameter (.longNode "ITS group" 65556 65535)).IsExternal := by
  have builtin : Iort.kind.generator ∈ Registry.builtin.generators := List.mem_cons_self
  have dangling : (Iort.kind.generator.build ⟨.iort, 0, .iort, 0, 0⟩
      (Store.joined 1 ⟨9⟩).view).result = .error (.notFound (.node ⟨9⟩)) := by
    decide +kernel
  have long : (Iort.kind.generator.build ⟨.iort, 0, .iort, 0, 0⟩
      (Store.joined 16384 ⟨1⟩).view).result =
        .error (.invalidParameter (.longNode "ITS group" 65556 65535)) := by
    decide +kernel
  exact ⟨by decide +kernel, ⟨dangling, builtin_failures builtin dangling⟩, long,
    builtin_failures builtin long⟩

end FirmwareTables
