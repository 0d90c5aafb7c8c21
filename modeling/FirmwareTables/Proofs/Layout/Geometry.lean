/-
**The geometry of a plan.**

A `RecordCategory` is a category whose nodes are made from the records of a type, with what it asks
of them. Planning a layout of such categories succeeds exactly if the repository and the limits
`Allow` it: every category is ready, and the nodes that its records are made into fit, up to the
very limits. The places are then without gaps (`plan_geometry`): the first node starts behind the
header, every other one where the node before it ends, and the table ends with the last.

* `RecordCategory.loads_iff`: a category loads its nodes exactly if it is ready;
* `lies_iff`: nodes can lie one behind the other exactly if they fit;
* `Index.Tiles.isGapless`: what it means for places that each starts where the last one ended.
-/

import FirmwareTables.Generator.Iort
import FirmwareTables.Proofs.Repository.Finding

namespace FirmwareTables

/-! ### Categories of records -/

/-- A category whose nodes are made from the records of a type. -/
structure RecordCategory where
  /-- The type of the records. -/
  Item : Type
  /-- How the records are stored. -/
  [record : Record Item]
  /-- The name of the category. -/
  name : String
  /-- Whether there has to be a record. -/
  required : Bool
  /-- Whether there may be one record only. -/
  singleton : Bool
  /-- What is asked of all records together. -/
  check : List Item → Except TableError Unit
  /-- What a record is made into. -/
  node : Item → Node

namespace RecordCategory

attribute [instance] RecordCategory.record

/-- The category in a layout. -/
def category (source : RecordCategory) : Category :=
  { Category.ofChecked source.Item source.name source.check source.node with
    required := source.required
    singleton := source.singleton }

/-- The records, in the order in which the repository puts them together. -/
def records (source : RecordCategory) (view : View) : List source.Item :=
  match (view.getListOrEmpty source.Item .null).result with
  | .ok records => records
  | .error _ => []

/-- The nodes, under the name of the category. -/
def nodes (source : RecordCategory) (view : View) : List (String × Node) :=
  (source.records view).map fun record => (source.name, source.node record)

/-- There are as many instances as the category asks for, and what there is loads and passes. -/
structure IsReady (source : RecordCategory) (view : View) (count : Nat) : Prop where
  /-- The instances are counted. -/
  counted : (view.countOnly (Record.objectId source.Item)).result = .ok count
  /-- A required category is not empty. -/
  present : source.required → count ≠ 0
  /-- A singleton category has no second instance. -/
  single : source.singleton → count ≤ 1
  /-- What is not empty loads and passes the check. -/
  accepted : count ≠ 0 → ∃ records, (view.getListOrEmpty source.Item .null).result = .ok records ∧
    source.check records = .ok ()

end RecordCategory

/-- Where nothing is counted, nothing is listed. -/
theorem View.getListOrEmpty_of_none {α : Type} [Record α] {view : View} {records : List α}
    (counted : (view.countOnly (Record.objectId α)).result = .ok 0)
    (listed : (view.getListOrEmpty α .null).result = .ok records) : records = [] := by
  by_contra filled
  have read : (view.getList α .null).result = .ok records := by
    unfold getListOrEmpty at listed
    dsimp only at listed
    split at listed
    · exact listed
    · rename_i error failed
      by_cases absent : error.isNotFound = true
      · rw [if_pos absent] at listed
        exact absurd (Except.ok.inj listed).symm filled
      · rw [if_neg absent] at listed
        exact listed
  unfold getList at read
  simp only [Reading.result_bind, bind_eq_ok, Reading.result_ofExcept] at read
  obtain ⟨descriptor, got, _, released, made⟩ := read
  have same : (view.countOnly (Record.objectId α)).result = .ok descriptor.count.toNat := by
    unfold countOnly
    rw [got]
    simp only [Reading.result_bind, released]
    rfl
  rw [counted] at same
  have length := Descriptor.length_toList made
  rw [← Except.ok.inj same] at length
  exact filled (List.length_eq_zero_iff.mp length)

namespace RecordCategory

variable {source : RecordCategory} {view : View} {count : Nat}

theorem isOf (source : RecordCategory) : source.category.IsOf source.check source.node :=
  ⟨rfl, rfl⟩

/-- The records of a category are those that the view lists. -/
theorem records_eq {records : List source.Item} (lists : view.Lists records) :
    source.records view = records := by
  unfold RecordCategory.records
  by_cases empty : records = []
  · subst empty
    cases listed : (view.getListOrEmpty source.Item .null).result with
    | error error => rfl
    | ok found => exact View.getListOrEmpty_of_none lists.1 listed
  · have some : records.length ≠ 0 := fun none => empty (List.length_eq_zero_iff.mp none)
    rw [View.getListOrEmpty_of_count lists.1 some, lists.2 empty]

/-- **A category loads its nodes** exactly if it is ready. -/
theorem loads_iff {nodes : List Node} : source.category.Loads view nodes ↔
    source.IsReady view nodes.length ∧ nodes = (source.records view).map source.node := by
  rw [Category.loads_iff source.isOf]
  constructor
  · rintro ⟨records, lists, rfl, checked, allowed⟩
    have enough := Category.checkCount_eq_ok.mp checked
    rw [List.length_map, records_eq lists]
    refine ⟨⟨lists.1, enough.1, enough.2, fun some => ?_⟩, rfl⟩
    have filled : records ≠ [] := fun empty => some (List.length_eq_zero_iff.mpr empty)
    refine ⟨records, ?_, allowed filled⟩
    rw [View.getListOrEmpty_of_count lists.1 some, lists.2 filled]
  · rintro ⟨ready, made⟩
    have same : nodes.length = (source.records view).length := by rw [made, List.length_map]
    have some : source.records view ≠ [] → nodes.length ≠ 0 := by
      rw [same]
      exact fun filled none => filled (List.length_eq_zero_iff.mp none)
    refine ⟨source.records view, ⟨by rw [← same]; exact ready.counted, fun filled => ?_⟩, made,
      by rw [← same]; exact Category.checkCount_eq_ok.mpr ⟨ready.present, ready.single⟩,
      fun filled => ?_⟩
    all_goals
      obtain ⟨records, listed, passed⟩ := ready.accepted (some filled)
      have found : source.records view = records := by
        unfold RecordCategory.records
        rw [listed]
      rw [found]
    · rw [← View.getListOrEmpty_of_count ready.counted (some filled), listed]
    · exact passed

/-- A category that is ready has as many records as are counted. -/
theorem IsReady.length_records (ready : source.IsReady view count) :
    (source.records view).length = count := by
  unfold RecordCategory.records
  by_cases none : count = 0
  · subst none
    cases listed : (view.getListOrEmpty source.Item .null).result with
    | error error => rfl
    | ok found => rw [View.getListOrEmpty_of_none ready.counted listed, List.length_nil]
  · obtain ⟨records, listed, _⟩ := ready.accepted none
    rw [listed]
    rw [View.getListOrEmpty_of_count ready.counted none] at listed
    exact View.length_getList ready.counted none listed

/-- What the categories of a layout load. -/
theorem forall₂_loads {sources : List RecordCategory} {groups : List (List Node)} :
    List.Forall₂ (fun category nodes => category.Loads view nodes)
        (sources.map RecordCategory.category) groups ↔
      (∀ source ∈ sources, ∃ count, source.IsReady view count) ∧
        groups = sources.map fun source => (source.records view).map source.node := by
  induction sources generalizing groups with
  | nil =>
    rw [List.map_nil, List.forall₂_nil_left_iff, List.map_nil]
    exact ⟨fun empty => ⟨List.forall_mem_nil _, empty⟩, fun both => both.2⟩
  | cons source sources ih =>
    rw [List.map_cons, List.map_cons, List.forall_mem_cons]
    constructor
    · intro loads
      cases loads with
      | cons first rest =>
        obtain ⟨ready, made⟩ := loads_iff.mp first
        obtain ⟨others, same⟩ := ih.mp rest
        exact ⟨⟨⟨_, ready⟩, others⟩, by rw [made, same]⟩
    · rintro ⟨⟨⟨count, ready⟩, others⟩, rfl⟩
      refine .cons (loads_iff.mpr ⟨?_, rfl⟩) (ih.mpr ⟨others, rfl⟩)
      rw [List.length_map, ready.length_records]
      exact ready

theorem labelled_eq (sources : List RecordCategory) (view : View) :
    labelled (sources.map RecordCategory.category)
        (sources.map fun source => (source.records view).map source.node) =
      sources.flatMap fun source => source.nodes view := by
  induction sources with
  | nil => rfl
  | cons source sources ih =>
    rw [List.flatMap_cons, ← ih]
    unfold labelled RecordCategory.nodes
    rw [List.map_cons, List.map_cons, List.zip_cons_cons, List.flatMap_cons]
    show ((source.records view).map source.node).map _ ++ _ = _
    rw [List.map_map]
    rfl

end RecordCategory

/-! ### Room for nodes -/

/-- The length of a node, if it tells one. -/
def Node.length (node : Node) : Nat :=
  match node.size with
  | .ok size => size
  | .error _ => 0

/-- The room that nodes take together. -/
def extent : List (String × Node) → Nat
  | [] => 0
  | node :: nodes => node.2.length + extent nodes

/-- Nodes have room behind an offset. -/
structure Fit (limits : Limits) (offset : Nat) (nodes : List (String × Node)) : Prop where
  /-- Every node tells a size within its limit and 32 bits. -/
  sized : ∀ node ∈ nodes, ∃ size,
    node.2.size = .ok size ∧ size ≤ limits.maxNode ∧ size ≤ 4294967295
  /-- All of them end within the table's limit. -/
  total : offset + extent nodes ≤ limits.maxTable
  /-- Each of them starts within 32 bits. -/
  start : ∀ front node back, nodes = front ++ node :: back → offset + extent front ≤ 4294967295

theorem extent_append (front back : List (String × Node)) :
    extent (front ++ back) = extent front + extent back := by
  induction front with
  | nil => rw [List.nil_append, extent, Nat.zero_add]
  | cons node front ih => rw [List.cons_append, extent, extent, ih, Nat.add_assoc]

/-- Within limits of 32 bits it is enough that the nodes and the table keep them. -/
theorem Fit.of_narrow {limits : Limits} {offset : Nat} {nodes : List (String × Node)}
    (narrow : limits.AreNarrow)
    (sized : ∀ node ∈ nodes, ∃ size, node.2.size = .ok size ∧ size ≤ limits.maxNode)
    (total : offset + extent nodes ≤ limits.maxTable) : Fit limits offset nodes where
  sized node inside := by
    obtain ⟨size, known, fits⟩ := sized node inside
    exact ⟨size, known, fits, Nat.le_trans fits narrow.1⟩
  total := total
  start front node back split := by
    rw [split, extent_append] at total
    have := narrow.2
    omega

/-- A place is that of a node: it has the node's token, category and size. -/
structure Placed.IsFor (place : Placed) (node : String × Node) : Prop where
  /-- The node is the one placed. -/
  node_eq : place.node = node.2
  /-- The token is the node's own. -/
  token_eq : place.entry.token = node.2.token
  /-- The category is the one that the node was made for. -/
  category_eq : place.entry.category = node.1
  /-- The size is what the node tells. -/
  size_eq : node.2.size = .ok place.entry.size

theorem Node.length_eq {node : Node} {size : Nat} (known : node.size = .ok size) :
    node.length = size := by
  unfold Node.length
  rw [known]

namespace Lies

variable {limits : Limits} {offset last : Nat} {nodes : List (String × Node)}
  {placed : List Placed}

theorem last_eq_extent (lies : Lies limits offset nodes placed last) :
    last = offset + extent nodes := by
  induction lies with
  | nil => rfl
  | cons known node_fits table_fits start_fits length_fits rest ih =>
    rw [ih, extent, Node.length_eq known, Nat.add_assoc]

theorem isFor (lies : Lies limits offset nodes placed last) :
    List.Forall₂ (fun node place => Placed.IsFor place node) nodes placed := by
  induction lies with
  | nil => exact .nil
  | cons known node_fits table_fits start_fits length_fits rest ih =>
    exact .cons ⟨rfl, rfl, rfl, known⟩ ih

theorem fit (lies : Lies limits offset nodes placed last) (front : offset ≤ limits.maxTable) :
    Fit limits offset nodes where
  sized := by
    induction lies with
    | nil => exact List.forall_mem_nil _
    | cons known node_fits table_fits start_fits length_fits rest ih =>
      exact List.forall_mem_cons.mpr ⟨⟨_, known, node_fits, length_fits⟩, ih table_fits⟩
  total := by
    rw [← lies.last_eq_extent]
    exact lies.last_le front
  start := by
    induction lies with
    | nil =>
      intro front node back absurd
      cases front <;> cases absurd
    | cons known node_fits table_fits start_fits length_fits rest ih =>
      intro front node back same
      cases front with
      | nil => exact start_fits
      | cons first front =>
        obtain ⟨rfl, others⟩ := List.cons_eq_cons.mp same
        rw [extent, Node.length_eq known, ← Nat.add_assoc]
        exact ih table_fits front node back others

end Lies

/-- **Nodes can lie one behind the other** exactly if they fit. -/
theorem lies_iff {limits : Limits} {offset : Nat} {nodes : List (String × Node)}
    (front : offset ≤ limits.maxTable) :
    (∃ placed last, Lies limits offset nodes placed last) ↔ Fit limits offset nodes := by
  constructor
  · rintro ⟨placed, last, lies⟩
    exact lies.fit front
  intro fit
  induction nodes generalizing offset with
  | nil => exact ⟨[], offset, .nil offset⟩
  | cons node nodes ih =>
    obtain ⟨size, known, nodeFits, lengthFits⟩ := fit.sized node List.mem_cons_self
    have same := Node.length_eq known
    have room : offset + size + extent nodes ≤ limits.maxTable := by
      rw [← same, Nat.add_assoc]
      exact fit.total
    have rest : Fit limits (offset + size) nodes := by
      refine ⟨fun other inside => fit.sized other (List.mem_cons_of_mem _ inside), room, ?_⟩
      intro front other back split
      have start := fit.start (node :: front) other back (by rw [split, List.cons_append])
      rwa [extent, same, ← Nat.add_assoc] at start
    have here : offset + size ≤ limits.maxTable := by omega
    -- The others fit behind the first one just as all of them fit behind the offset.
    obtain ⟨placed, last, lies⟩ := ih here rest
    exact ⟨_, last, .cons known nodeFits here (fit.start [] node nodes rfl) lengthFits lies⟩

/-! ### Places without gaps -/

namespace IndexEntry

/-- A position of the table belongs to the node. -/
def Covers (entry : IndexEntry) (position : Nat) : Prop :=
  entry.offset ≤ position ∧ position < entry.offset + entry.size

end IndexEntry

namespace Index

/-- Each place starts where the last one ended, from one offset up to another. -/
def Tiles : Nat → Index → Nat → Prop
  | start, [], last => start = last
  | start, entry :: index, last => entry.offset = start ∧ Tiles (start + entry.size) index last

/-- Places fill the room between two offsets without gaps, and no two of them overlap. -/
structure IsGapless (start : Nat) (index : Index) (last : Nat) : Prop where
  /-- The first place is at the start. -/
  first : ∀ entry, index.head? = some entry → entry.offset = start
  /-- Every other place is where the one before it ends. -/
  next : ∀ number entry following, index[number]? = some entry →
    index[number + 1]? = some following → following.offset = entry.offset + entry.size
  /-- Without places there is no room. -/
  none : index = [] → last = start
  /-- The room ends where the last place does. -/
  final : ∀ entry, index.getLast? = some entry → last = entry.offset + entry.size
  /-- Every place is inside of the room. -/
  inside : ∀ entry ∈ index, start ≤ entry.offset ∧ entry.offset + entry.size ≤ last
  /-- Nothing belongs to two places. -/
  disjoint : index.Pairwise fun entry behind => ∀ position,
    ¬ (entry.Covers position ∧ behind.Covers position)
  /-- Everything in the room belongs to a place, and nothing else does. -/
  covered : ∀ position, (∃ entry ∈ index, entry.Covers position) ↔
    start ≤ position ∧ position < last

namespace Tiles

variable {start last : Nat} {index : Index}

theorem le (tiles : Tiles start index last) : start ≤ last := by
  induction index generalizing start with
  | nil => exact Nat.le_of_eq tiles
  | cons entry index ih => exact Nat.le_trans (Nat.le_add_right _ _) (ih tiles.2)

theorem inside (tiles : Tiles start index last) :
    ∀ entry ∈ index, start ≤ entry.offset ∧ entry.offset + entry.size ≤ last := by
  induction index generalizing start with
  | nil => exact List.forall_mem_nil _
  | cons entry index ih =>
    obtain ⟨here, rest⟩ := tiles
    have behind := rest.le
    refine List.forall_mem_cons.mpr ⟨by omega, fun other member => ?_⟩
    have := ih rest other member
    omega

theorem covered (tiles : Tiles start index last) (position : Nat) :
    (∃ entry ∈ index, entry.Covers position) ↔ start ≤ position ∧ position < last := by
  induction index generalizing start with
  | nil =>
    have same : start = last := tiles
    constructor
    · rintro ⟨_, inside, _⟩
      exact absurd inside List.not_mem_nil
    · intro both
      omega
  | cons entry index ih =>
    obtain ⟨here, rest⟩ := tiles
    have behind := rest.le
    rw [List.exists_mem_cons_iff, ih rest, IndexEntry.Covers, here]
    omega

theorem disjoint (tiles : Tiles start index last) :
    index.Pairwise fun entry behind => ∀ position,
      ¬ (entry.Covers position ∧ behind.Covers position) := by
  induction index generalizing start with
  | nil => exact .nil
  | cons entry index ih =>
    obtain ⟨here, rest⟩ := tiles
    refine .cons (fun behind inside position both => ?_) (ih rest)
    -- What is behind belongs to the room that starts where this place ends.
    have after := ((rest.covered position).mp ⟨behind, inside, both.2⟩).1
    have before := both.1.2
    omega

theorem next (tiles : Tiles start index last) {number : Nat} {entry following : IndexEntry}
    (here : index[number]? = some entry) (there : index[number + 1]? = some following) :
    following.offset = entry.offset + entry.size := by
  induction index generalizing start number with
  | nil => cases here
  | cons head index ih =>
    cases number with
    | succ number => exact ih tiles.2 here there
    | zero =>
      cases index with
      | nil => cases there
      | cons second index =>
        cases here
        cases there
        rw [tiles.2.1, tiles.1]

theorem final (tiles : Tiles start index last) {entry : IndexEntry}
    (stop : index.getLast? = some entry) : last = entry.offset + entry.size := by
  induction index generalizing start with
  | nil => cases stop
  | cons head index ih =>
    cases index with
    | nil =>
      obtain rfl : head = entry := Option.some.inj (List.getLast?_singleton.symm.trans stop)
      rw [tiles.1]
      exact tiles.2.symm
    | cons second index =>
      rw [List.getLast?_cons_cons] at stop
      exact ih tiles.2 stop

/-- **Places that start where the last one ended** leave no gaps and do not overlap. -/
theorem isGapless (tiles : Tiles start index last) : IsGapless start index last where
  first entry head := by
    cases index with
    | nil => cases head
    | cons first index =>
      cases head
      exact tiles.1
  next _ _ _ := tiles.next
  none empty := by
    subst empty
    exact Eq.symm tiles
  final _ := tiles.final
  inside := tiles.inside
  disjoint := tiles.disjoint
  covered := tiles.covered

end Tiles

end Index

theorem Lies.tiles {limits : Limits} {offset last : Nat} {nodes : List (String × Node)}
    {placed : List Placed} (lies : Lies limits offset nodes placed last) :
    Index.Tiles offset (placed.map Placed.entry) last := by
  induction lies with
  | nil => rfl
  | cons known node_fits table_fits start_fits length_fits rest ih => exact ⟨rfl, ih⟩

/-! ### Plans -/

/-- A repository and the limits allow a table of some categories behind a header. -/
structure Allow (limits : Limits) (view : View) (headerLength : Nat)
    (sources : List RecordCategory) : Prop where
  /-- Every category is ready. -/
  ready : ∀ source ∈ sources, ∃ count, source.IsReady view count
  /-- The nodes of all of them fit behind the header. -/
  fit : Fit limits headerLength (sources.flatMap fun source => source.nodes view)

/-- The places of a plan are those of the nodes of some categories, without gaps. -/
structure Plan.Arranges (plan : Plan) (limits : Limits) (view : View) (headerLength : Nat)
    (sources : List RecordCategory) : Prop where
  /-- The header is as long as it was to be. -/
  header : plan.headerLength = headerLength
  /-- There is one place for every node, category by category and record by record. -/
  places : List.Forall₂ (fun node place => Placed.IsFor place node)
    (sources.flatMap fun source => source.nodes view) plan.placed
  /-- The places fill the room behind the header. -/
  gapless : plan.index.IsGapless headerLength plan.totalLength
  /-- The table is within its limit. -/
  within : plan.totalLength ≤ limits.maxTable

/-- **The first phase**, for all categories of records and all limits that the header keeps: it
succeeds exactly if the repository and the limits allow it, and gives every node its place. -/
theorem plan_geometry {limits : Limits} {headerLength : Nat}
    (front : headerLength ≤ limits.maxTable) (sources : List RecordCategory) (view : View) :
    ((∃ plan, (Layout.plan ⟨headerLength, limits, sources.map RecordCategory.category⟩
        view).result = .ok plan) ↔ Allow limits view headerLength sources) ∧
      ∀ plan, (Layout.plan ⟨headerLength, limits, sources.map RecordCategory.category⟩
        view).result = .ok plan → plan.Arranges limits view headerLength sources := by
  have planned : ∀ plan, (Layout.plan ⟨headerLength, limits,
      sources.map RecordCategory.category⟩ view).result = .ok plan ↔
      plan.headerLength = headerLength ∧
        (∀ source ∈ sources, ∃ count, source.IsReady view count) ∧
        Lies limits headerLength (sources.flatMap fun source => source.nodes view)
          plan.placed plan.totalLength := by
    intro plan
    rw [Layout.plan_eq_ok]
    refine and_congr_right fun _ => ?_
    simp only [RecordCategory.forall₂_loads]
    constructor
    · rintro ⟨groups, ⟨ready, rfl⟩, lies⟩
      rw [RecordCategory.labelled_eq] at lies
      exact ⟨ready, lies⟩
    · rintro ⟨ready, lies⟩
      refine ⟨_, ⟨ready, rfl⟩, ?_⟩
      rw [RecordCategory.labelled_eq]
      exact lies
  refine ⟨⟨?_, fun allow => ?_⟩, fun plan made => ?_⟩
  · rintro ⟨plan, made⟩
    obtain ⟨_, ready, lies⟩ := (planned plan).mp made
    exact ⟨ready, lies.fit front⟩
  · obtain ⟨placed, last, lies⟩ := (lies_iff front).mpr allow.fit
    exact ⟨⟨headerLength, last, placed⟩, (planned _).mpr ⟨rfl, allow.ready, lies⟩⟩
  · obtain ⟨header, _, lies⟩ := (planned plan).mp made
    exact ⟨header, lies.isFor, lies.tiles.isGapless, lies.last_le front⟩

/-- Four categories of remapping nodes: some groups, components if there are any, some root
complexes and one unit. -/
def RecordCategory.remapping : List RecordCategory :=
  [⟨ItsGroup, "group", true, false, fun _ => .ok (), Iort.itsGroup⟩,
    ⟨NamedComponent, "component", false, false, fun _ => .ok (), Iort.namedComponent⟩,
    ⟨RootComplex, "complex", false, false, fun _ => .ok (), Iort.rootComplex⟩,
    ⟨SmmuV3, "unit", true, true, fun _ => .ok (), Iort.smmuV3⟩]

/-- Two groups and a unit, and two root complexes apart from each other. -/
def Store.remapped : Store :=
  ⟨[Entry.ofRecords ⟨5⟩ [({ (default : SmmuV3) with token := ⟨5⟩ })],
    Entry.ofRecords ⟨4⟩ [({ (default : RootComplex) with token := ⟨4⟩, idMappingCount := 1 })],
    Entry.ofRecords .null [(⟨⟨1⟩, 0, .null⟩ : ItsGroup), ⟨⟨2⟩, 1, ⟨6⟩⟩],
    Entry.ofRecords .null [({ (default : RootComplex) with token := ⟨3⟩ })]]⟩

/-- Where these nodes lie behind a header of 48 bytes. -/
def Index.remapped : Index :=
  [⟨⟨1⟩, "group", 48, 20⟩, ⟨⟨2⟩, "group", 68, 24⟩, ⟨⟨4⟩, "complex", 92, 56⟩,
    ⟨⟨3⟩, "complex", 148, 36⟩, ⟨⟨5⟩, "unit", 184, 68⟩]

/-- The nodes fill their table to the last byte, and the longest is as long as a node may be. -/
theorem plan_geometry_full :
    48 ≤ 252 ∧ ∃ plan, (Layout.plan ⟨48, ⟨68, 252⟩,
        RecordCategory.remapping.map RecordCategory.category⟩
          Store.remapped.view).result = .ok plan ∧
      plan.Arranges ⟨68, 252⟩ Store.remapped.view 48 RecordCategory.remapping ∧
      plan.index = Index.remapped := by
  have front : 48 ≤ (⟨68, 252⟩ : Limits).maxTable := by decide
  have geometry := plan_geometry front RecordCategory.remapping Store.remapped.view
  have ready : ∀ source ∈ RecordCategory.remapping, ∃ count,
      source.IsReady Store.remapped.view count := by
    simp only [RecordCategory.remapping, List.forall_mem_cons]
    exact ⟨⟨2, rfl, fun _ => by decide, nofun, fun _ => ⟨_, rfl, rfl⟩⟩,
      ⟨0, rfl, nofun, nofun, fun some => absurd rfl some⟩,
      ⟨2, rfl, nofun, nofun, fun _ => ⟨_, rfl, rfl⟩⟩,
      ⟨1, rfl, fun _ => by decide, fun _ => by decide, fun _ => ⟨_, rfl, rfl⟩⟩,
      List.forall_mem_nil _⟩
  have fit : Fit ⟨68, 252⟩ 48
      (RecordCategory.remapping.flatMap fun source => source.nodes Store.remapped.view) := by
    have sized : ∀ node ∈ RecordCategory.remapping.flatMap fun source =>
        source.nodes Store.remapped.view,
        node.2.size = .ok node.2.length ∧ node.2.length ≤ 68 := by
      decide +kernel
    exact Fit.of_narrow ⟨by decide, by decide⟩ (fun node inside => ⟨_, sized node inside⟩)
      (by decide +kernel)
  obtain ⟨plan, made⟩ := geometry.1.mpr ⟨ready, fit⟩
  have indexed : (Layout.plan ⟨48, ⟨68, 252⟩,
      RecordCategory.remapping.map RecordCategory.category⟩ Store.remapped.view).result.map
        Plan.index = .ok Index.remapped := by
    decide +kernel
  rw [made] at indexed
  exact ⟨front, plan, made, geometry.2 plan made, Except.ok.inj indexed⟩

end FirmwareTables
