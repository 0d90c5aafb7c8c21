/-
**What a build reads.**

A build reads the record about the vendor, the objects of its categories, and, while nodes write
themselves, the arrays and handles that they refer to. Two views that agree on these objects lead to
the same build, step by step: the same nodes in the same places (`Layout.plan_agree`), the same
bytes (`Plan.populate_agree`), the same errors, and as many payloads handed back
(`TableKind.build_agree`).

* `builtinReads`: what each of the built-in kinds of tables reads (`builtinReads_readsOnly`);
* `objects_apart`: calls of a repository that are addressed to different objects do not interfere,
  and those addressed to what a build does not read make no difference to it.
-/

import FirmwareTables.Proofs.Generator.Registered
import FirmwareTables.Proofs.Repository.Calls

namespace FirmwareTables

variable {ids : List ObjectId} {one other : View}

/-! ### Steps that go on alike -/

/-- Readings go on alike if they do with the value that was read. -/
theorem Reading.bind_congr {ε α β : Type} {reading : Reading ε α} {next later : α → Reading ε β}
    (same : ∀ value, reading.result = .ok value → next value = later value) :
    reading >>= next = reading >>= later := by
  obtain ⟨result, freed⟩ := reading
  cases result with
  | error error => rfl
  | ok value =>
    show Reading.mk (next value).result (freed + (next value).freed) = _
    rw [same value rfl]
    rfl

/-- Lists of steps are alike if each step is. -/
theorem mapM_congr {m : Type → Type} [Monad m] [LawfulMonad m] {α β : Type} {items : List α}
    {step later : α → m β} (same : ∀ item ∈ items, step item = later item) :
    items.mapM step = items.mapM later := by
  induction items with
  | nil => rw [List.mapM_nil, List.mapM_nil]
  | cons item items ih =>
    obtain ⟨first, rest⟩ := List.forall_mem_cons.mp same
    rw [List.mapM_cons, List.mapM_cons, first, ih rest]

theorem foldlM_congr {m : Type → Type} [Monad m] [LawfulMonad m] {α β : Type} {items : List α}
    {step later : β → α → m β} (same : ∀ item ∈ items, ∀ state, step state item = later state item)
    (start : β) : items.foldlM step start = items.foldlM later start := by
  induction items generalizing start with
  | nil => rfl
  | cons item items ih =>
    obtain ⟨first, rest⟩ := List.forall_mem_cons.mp same
    rw [List.foldlM_cons, List.foldlM_cons, first]
    exact bind_congr fun state => ih rest state

/-! ### Reading records -/

namespace View.Agree

variable {α : Type} [Record α]

theorem countOnly_eq (agree : Agree ids one other) {id : ObjectId} (inside : id ∈ ids) :
    one.countOnly id = other.countOnly id := by
  unfold countOnly
  rw [agree.get id inside]
  cases other.get id .null with
  | ok descriptor =>
    dsimp only
    rw [agree.release_eq]
  | error error => rfl

theorem getList_eq (agree : Agree ids one other) (inside : Record.objectId α ∈ ids)
    (token : Token) : one.getList α token = other.getList α token := by
  unfold getList
  rw [agree.get _ inside]
  exact bind_congr fun descriptor => by rw [agree.release_eq]

theorem getListOrEmpty_eq (agree : Agree ids one other) (inside : Record.objectId α ∈ ids)
    (token : Token) : one.getListOrEmpty α token = other.getListOrEmpty α token := by
  unfold getListOrEmpty
  rw [agree.getList_eq inside]

theorem getObject_eq (agree : Agree ids one other) (inside : Record.objectId α ∈ ids) :
    one.getObject α = other.getObject α := by
  unfold getObject
  rw [agree.getList_eq inside]

end View.Agree

/-! ### Nodes and categories -/

/-- A node that, while it writes itself, reads only some objects. -/
def Node.ReadsOnly (ids : List ObjectId) (node : Node) : Prop :=
  ∀ one other, View.Agree ids one other → ∀ index revision writer,
    node.write ⟨one, index, revision⟩ writer = node.write ⟨other, index, revision⟩ writer

theorem Node.ReadsOnly.image_eq {node : Node} (reads : node.ReadsOnly ids)
    (agree : View.Agree ids one other) (index : Index) (revision : UInt8) :
    node.image ⟨one, index, revision⟩ = node.image ⟨other, index, revision⟩ := by
  unfold image
  simp only [reads one other agree]

theorem Node.ofPieces_readsOnly {token : Token} {size : Nat}
    {pieces : Context → Reading TableError (List Piece)}
    (same : ∀ one other, View.Agree ids one other → ∀ index revision,
      pieces ⟨one, index, revision⟩ = pieces ⟨other, index, revision⟩) :
    (Node.ofPieces token size pieces).ReadsOnly ids := by
  intro one other agree index revision writer
  unfold Node.ofPieces
  dsimp only
  rw [same one other agree]

/-- A category that reads only some objects. -/
structure Category.ReadsOnly (ids : List ObjectId) (category : Category) : Prop where
  /-- Its own object is one of them. -/
  counted : category.id ∈ ids
  /-- It loads the same wherever they are the same. -/
  loaded : ∀ one other, View.Agree ids one other → category.load one = category.load other
  /-- Its nodes read only them. -/
  nodes : category.AllNodes (Node.ReadsOnly ids)

namespace Category

/-- What a category of records loads hangs on their object only. -/
theorem IsOf.load_agree {α : Type} [Record α] {category : Category}
    {check : List α → Except TableError Unit} {node : α → Node} (source : category.IsOf check node)
    (inside : Record.objectId α ∈ ids) (agree : View.Agree ids one other) :
    category.load one = category.load other := by
  rw [source.2]
  unfold ofChecked
  dsimp only
  rw [agree.getListOrEmpty_eq inside]

/-- A category of records reads only their object and what its nodes read. -/
theorem IsOf.readsOnly {α : Type} [Record α] {category : Category}
    {check : List α → Except TableError Unit} {node : α → Node} (source : category.IsOf check node)
    (inside : Record.objectId α ∈ ids) (each : ∀ record, (node record).ReadsOnly ids) :
    category.ReadsOnly ids where
  counted := source.1 ▸ inside
  loaded _ _ agree := source.load_agree inside agree
  nodes := source.allNodes each

variable {category : Category}

theorem count_agree (inside : category.id ∈ ids) (agree : View.Agree ids one other) :
    category.count one = category.count other := by
  unfold Category.count
  rw [agree.countOnly_eq inside]

end Category

/-! ### Plans -/

namespace Layout

theorem placeFrom_agree (limits : Limits) (offset : Nat) {counted : List (Category × Nat)}
    (same : ∀ pair ∈ counted, pair.1.load one = pair.1.load other) :
    placeFrom limits one offset counted = placeFrom limits other offset counted := by
  induction counted generalizing offset with
  | nil => rfl
  | cons pair counted ih =>
    obtain ⟨category, count⟩ := pair
    obtain ⟨here, behind⟩ := List.forall_mem_cons.mp same
    unfold placeFrom Category.loadCounted
    rw [ih offset behind, here]
    split
    · rfl
    · refine bind_congr fun nodes => bind_congr fun placed => ?_
      dsimp only
      rw [ih placed.2 behind]

/-- **The same nodes in the same places**, if the categories count and load the same. -/
theorem plan_agree (layout : Layout) (agree : View.Agree ids one other)
    (known : ∀ category ∈ layout.categories, category.id ∈ ids)
    (same : ∀ category ∈ layout.categories, category.load one = category.load other) :
    layout.plan one = layout.plan other := by
  have counts : layout.count one = layout.count other :=
    mapM_congr fun category inside => Category.count_agree (known category inside) agree
  unfold plan
  rw [counts]
  refine bind_congr fun numbers => ?_
  rw [placeFrom_agree layout.limits layout.headerLength fun pair inside =>
    same pair.1 (List.of_mem_zip inside).1]

end Layout

/-- **The same bytes.** -/
theorem Plan.populate_agree {plan : Plan} (agree : View.Agree ids one other)
    (reads : ∀ place ∈ plan.placed, place.node.ReadsOnly ids) (revision : UInt8) :
    plan.populate one revision = plan.populate other revision := by
  unfold populate
  refine foldlM_congr (fun place inside buffer => ?_) _
  unfold fill
  dsimp only
  rw [reads place inside one other agree]

/-! ### Kinds of tables -/

namespace TableKind

variable {kind : TableKind}

/-- A kind of table whose builds read only some objects. -/
structure ReadsOnly (ids : List ObjectId) (kind : TableKind) : Prop where
  /-- The record about the vendor is one of them. -/
  vendor : Record.objectId ManagerInfo ∈ ids
  /-- Its categories read only them. -/
  categories : ∀ category ∈ kind.layout.categories, category.ReadsOnly ids

/-- **Views that agree on what a build reads** lead to the same build. -/
theorem ReadsOnly.build_agree (reads : kind.ReadsOnly ids) (agree : View.Agree ids one other)
    (request : TableRequest) : kind.build request one = kind.build request other := by
  have planned := kind.layout.plan_agree agree
    (fun category inside => (reads.categories category inside).counted)
    fun category inside => (reads.categories category inside).loaded one other agree
  unfold build
  rw [agree.getObject_eq reads.vendor, planned]
  refine bind_congr fun _ => bind_congr fun info => Reading.bind_congr fun plan planned => ?_
  have among : ∀ place ∈ plan.placed, place.node.ReadsOnly ids := by
    intro place inside
    obtain ⟨category, member, nodes, load, here⟩ := Layout.mem_placed planned inside
    exact (reads.categories category member).nodes other nodes load place.node here
  rw [Plan.populate_agree agree among]

end TableKind

/-! ### What the built-in kinds read -/

namespace Iort

variable (agree : View.Agree ids one other) (index : Index) (revision : UInt8)

include agree

theorem fetchArray_agree {α : Type} [Record α] (inside : Record.objectId α ∈ ids) (token : Token)
    (count : UInt32) (what : String) :
    fetchArray α ⟨one, index, revision⟩ token count what =
      fetchArray α ⟨other, index, revision⟩ token count what := by
  unfold fetchArray
  dsimp only
  rw [agree.getList_eq inside]

theorem idMappings_agree (inside : Record.objectId IdMapping ∈ ids) (count : UInt32)
    (token : Token) :
    idMappings ⟨one, index, revision⟩ count token =
      idMappings ⟨other, index, revision⟩ count token := by
  unfold idMappings
  rw [fetchArray_agree agree index revision inside]
  rfl

theorem interrupts_agree (inside : Record.objectId SmmuInterrupt ∈ ids) (count : UInt32)
    (token : Token) :
    interrupts ⟨one, index, revision⟩ count token =
      interrupts ⟨other, index, revision⟩ count token := by
  unfold interrupts
  rw [fetchArray_agree agree index revision inside]

omit agree

/-- The arrays that nodes of the table refer to. -/
def arrays : List ObjectId :=
  [Record.objectId ItsIdentifier, Record.objectId IdMapping, Record.objectId SmmuInterrupt]

variable (known : arrays ⊆ ids)

include known

theorem itsGroup_readsOnly (record : ItsGroup) : (itsGroup record).ReadsOnly ids := by
  have inside : Record.objectId ItsIdentifier ∈ ids := known (by decide)
  refine Node.ofPieces_readsOnly fun one other agree index revision => ?_
  rw [fetchArray_agree agree index revision inside]

theorem namedComponent_readsOnly (record : NamedComponent) :
    (namedComponent record).ReadsOnly ids := by
  have inside : Record.objectId IdMapping ∈ ids := known (by decide)
  refine Node.ofPieces_readsOnly fun one other agree index revision => ?_
  rw [idMappings_agree agree index revision inside]

theorem rootComplex_readsOnly (record : RootComplex) : (rootComplex record).ReadsOnly ids := by
  have inside : Record.objectId IdMapping ∈ ids := known (by decide)
  refine Node.ofPieces_readsOnly fun one other agree index revision => ?_
  rw [idMappings_agree agree index revision inside]

theorem smmuV1V2_readsOnly (record : SmmuV1V2) : (smmuV1V2 record).ReadsOnly ids := by
  have mappings : Record.objectId IdMapping ∈ ids := known (by decide)
  have lines : Record.objectId SmmuInterrupt ∈ ids := known (by decide)
  refine Node.ofPieces_readsOnly fun one other agree index revision => ?_
  rw [idMappings_agree agree index revision mappings, interrupts_agree agree index revision lines,
    interrupts_agree agree index revision lines]

theorem smmuV3_readsOnly (record : SmmuV3) : (smmuV3 record).ReadsOnly ids := by
  have inside : Record.objectId IdMapping ∈ ids := known (by decide)
  refine Node.ofPieces_readsOnly fun one other agree index revision => ?_
  rw [idMappings_agree agree index revision inside]

theorem pmcg_readsOnly (record : Pmcg) : (pmcg record).ReadsOnly ids := by
  have inside : Record.objectId IdMapping ∈ ids := known (by decide)
  refine Node.ofPieces_readsOnly fun one other agree index revision => ?_
  rw [idMappings_agree agree index revision inside]

/-- The categories of the table read their own objects and the arrays. -/
theorem categories_readsOnly :
    ∀ category ∈ layout.categories, category.id ∈ ids → category.ReadsOnly ids := by
  simp only [layout, List.forall_mem_cons]
  exact ⟨fun own => Category.IsOf.readsOnly ⟨rfl, rfl⟩ own (itsGroup_readsOnly known),
    fun own => Category.IsOf.readsOnly ⟨rfl, rfl⟩ own (namedComponent_readsOnly known),
    fun own => Category.IsOf.readsOnly ⟨rfl, rfl⟩ own (rootComplex_readsOnly known),
    fun own => Category.IsOf.readsOnly ⟨rfl, rfl⟩ own (smmuV1V2_readsOnly known),
    fun own => Category.IsOf.readsOnly ⟨rfl, rfl⟩ own (smmuV3_readsOnly known),
    fun own => Category.IsOf.readsOnly ⟨rfl, rfl⟩ own (pmcg_readsOnly known),
    List.forall_mem_nil _⟩

end Iort

/-- The categories of the table read their own objects. -/
theorem Mcfg.categories_readsOnly :
    ∀ category ∈ layout.categories, category.id ∈ ids → category.ReadsOnly ids := by
  simp only [layout, List.forall_mem_cons]
  exact ⟨fun own => Category.IsOf.readsOnly ⟨rfl, rfl⟩ own fun _ =>
    Node.ofPieces_readsOnly fun _ _ _ _ _ => rfl, List.forall_mem_nil _⟩

/-- The categories of the table read their own objects. -/
theorem Madt.categories_readsOnly :
    ∀ category ∈ layout.categories, category.id ∈ ids → category.ReadsOnly ids := by
  simp only [layout, List.forall_mem_cons]
  refine ⟨?_, ?_, ?_, ?_, ?_, List.forall_mem_nil _⟩ <;>
    exact fun own => Category.IsOf.readsOnly ⟨rfl, rfl⟩ own fun _ =>
      Node.ofPieces_readsOnly fun _ _ _ _ _ => rfl

namespace Srat

theorem firstHandle_agree (agree : View.Agree ids one other) {α : Type} [Record α]
    (inside : Record.objectId α ∈ ids) (record : GenericInitiator) :
    firstHandle α one record = firstHandle α other record := by
  unfold firstHandle
  rw [agree.getList_eq inside]

/-- The handles that generic initiators refer to. -/
def handles : List ObjectId := [Record.objectId AcpiHandle, Record.objectId PciHandle]

theorem genericInitiator_readsOnly (known : handles ⊆ ids) (record : GenericInitiator) :
    (genericInitiator record).ReadsOnly ids := by
  have acpi : Record.objectId AcpiHandle ∈ ids := known (by decide)
  have pci : Record.objectId PciHandle ∈ ids := known (by decide)
  refine Node.ofPieces_readsOnly fun one other agree index revision => ?_
  dsimp only
  unfold handle
  rw [firstHandle_agree agree acpi, firstHandle_agree agree pci]

/-- The categories of the table read their own objects and the handles. -/
theorem categories_readsOnly (known : handles ⊆ ids) :
    ∀ category ∈ layout.categories, category.id ∈ ids → category.ReadsOnly ids := by
  simp only [layout, List.forall_mem_cons]
  refine ⟨?_, ?_, ?_, fun own => Category.IsOf.readsOnly ⟨rfl, rfl⟩ own
    (genericInitiator_readsOnly known), List.forall_mem_nil _⟩ <;>
    exact fun own => Category.IsOf.readsOnly ⟨rfl, rfl⟩ own fun _ =>
      Node.ofPieces_readsOnly fun _ _ _ _ _ => rfl

end Srat

/-- What a kind of table reads: the record about the vendor, the objects of its categories, and
what its nodes refer to. -/
def TableKind.reads (kind : TableKind) (references : List ObjectId) : List ObjectId :=
  Record.objectId ManagerInfo :: kind.layout.categories.map Category.id ++ references

/-- The built-in kinds of tables with the objects that their nodes refer to. -/
def builtinReads : List (TableKind × List ObjectId) :=
  [(Iort.kind, Iort.arrays), (Mcfg.kind, []), (Madt.kind, []), (Srat.kind, Srat.handles)]

/-- No generator of the registry is left out. -/
example : builtinReads.map (fun pair => pair.1.generator) = Registry.builtin.generators := rfl

theorem TableKind.readsOnly_reads {kind : TableKind} {references : List ObjectId}
    (categories : ∀ ids : List ObjectId, references ⊆ ids → ∀ category ∈ kind.layout.categories,
      category.id ∈ ids → category.ReadsOnly ids) : kind.ReadsOnly (kind.reads references) where
  vendor := List.mem_append_left _ List.mem_cons_self
  categories category inside := by
    refine categories _ (List.subset_append_right _ _) category inside ?_
    exact List.mem_append_left _ (List.mem_cons_of_mem _ (List.mem_map_of_mem inside))

/-- The categories of the built-in kinds read their own objects and what their nodes refer to. -/
theorem builtinReads_categories : ∀ pair ∈ builtinReads, ∀ ids : List ObjectId, pair.2 ⊆ ids →
    ∀ category ∈ pair.1.layout.categories, category.id ∈ ids → category.ReadsOnly ids := by
  simp only [builtinReads, List.forall_mem_cons]
  exact ⟨fun _ => Iort.categories_readsOnly, fun _ _ => Mcfg.categories_readsOnly,
    fun _ _ => Madt.categories_readsOnly, fun _ => Srat.categories_readsOnly, List.forall_mem_nil _⟩

/-- **The built-in kinds** read nothing else. -/
theorem builtinReads_readsOnly : ∀ pair ∈ builtinReads, pair.1.ReadsOnly (pair.1.reads pair.2) :=
  fun pair inside => TableKind.readsOnly_reads (builtinReads_categories pair inside)

/-! ### Calls and builds -/

/-- The objects of a repository do not interfere. -/
structure Access.KeepsApart (access : Access) : Prop where
  /-- After a run, the entries of an object are those that the calls addressed to it lead to. -/
  entries : ∀ calls store id, (Call.run access calls store).2.only id =
    (Call.run access (calls.filter (Call.isTo id)) store).2.only id
  /-- So are the outcomes of these calls. -/
  answers : ∀ calls store id, (Call.run access calls store).1.filter (Call.Answer.isTo id) =
    (Call.run access (calls.filter (Call.isTo id)) store).1
  /-- Runs of which each object sees the same calls cannot be told apart by reading. -/
  interleaved : ∀ calls others, (∀ id, calls.filter (Call.isTo id) = others.filter (Call.isTo id)) →
    ∀ store id token, (access.view (Call.run access calls store).2).get id token =
      (access.view (Call.run access others store).2).get id token
  /-- Calls to different objects can be made in either order, whatever else is called. -/
  commute : ∀ before one another later, one.id ≠ another.id → ∀ store id token,
    (access.view (Call.run access (before ++ one :: another :: later) store).2).get id token =
      (access.view (Call.run access (before ++ another :: one :: later) store).2).get id token
  /-- Calls to objects that a build does not read make no difference to it. -/
  unread : ∀ pair ∈ builtinReads, ∀ calls others,
    Call.Inserted (pair.1.reads pair.2) calls others → ∀ store request,
      pair.1.generator.build request (access.view (Call.run access others store).2) =
        pair.1.generator.build request (access.view (Call.run access calls store).2)

theorem Access.IsLocal.keepsApart {access : Access} (within : access.IsLocal) :
    access.KeepsApart where
  entries _ _ _ := (Call.run_filter within rfl).1
  answers _ _ _ := (Call.run_filter within rfl).2
  interleaved calls others same store id :=
    (Call.agree_of_filter_eq within [id] (fun other _ => same other) store).get id
      List.mem_cons_self
  commute before one another later apart store id :=
    (Call.agree_of_filter_eq within [id]
      (fun other _ => Call.filter_swap apart before later other) store).get id List.mem_cons_self
  unread pair inside calls others inserted store request := by
    have agree := Call.agree_of_filter_eq within (pair.1.reads pair.2)
      (fun _ read => inserted.filter_eq read) store
    exact ((builtinReads_readsOnly pair inside).build_agree agree request).symm

/-- **Objects do not interfere**, neither in a repository nor in what is left of one. -/
theorem objects_apart : Access.live.KeepsApart ∧ ∀ snapshot, (Access.frozen snapshot).KeepsApart :=
  ⟨Access.live_isLocal.keepsApart, fun snapshot => (Access.frozen_isLocal snapshot).keepsApart⟩

end FirmwareTables
