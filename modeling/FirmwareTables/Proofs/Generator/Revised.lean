/-
**The two revisions of the table of interrupt controllers.**

Whether the table can be built does not depend on which of its two revisions is requested. The two
tables have one length, and their structures lie at the same places; they differ in the byte that
states the revision and in the last two bytes of the structures of interfaces, where the profiling
interrupt stands since the second revision. Once their checksums are closed, these differ as well
(`Supply.IsRevised`).

* `TableKind.exists_front`: what two revisions of a table have in common;
* `isFixed_all`: what the revision may change in the nodes of the table;
* `Supply.exists_revised`: two tables made by one plan;
* `revisions_differ`: two requests, and their tables.
-/

import FirmwareTables.Proofs.Generator.Acceptance

namespace FirmwareTables

namespace TableKind

variable (kind : TableKind) (request : TableRequest)

/-- The front of a table with another revision. -/
theorem front_eq_set (info : ManagerInfo) (plan : Plan) (fields : List Piece) (revision : UInt8) :
    kind.front { request with revision := revision } info plan fields =
      (kind.front request info plan fields).set 8 revision := by
  unfold front
  rw [Piece.encodeAll_append, Piece.encodeAll_append]
  rfl

variable {kind} {request} {view : View} {earlier later : Table} {first second : UInt8}

/-- **Tables of two revisions** are made by one plan, and have one front but for the revision. -/
theorem exists_front (regular : kind.IsRegular)
    (built : (kind.build { request with revision := first } view).result = .ok earlier)
    (again : (kind.build { request with revision := second } view).result = .ok later) :
    ∃ (plan : Plan) (front : Bytes) (images others : List Bytes),
      (kind.layout.plan view).result = .ok plan ∧
      front.length = kind.layout.headerLength ∧
      plan.placed.mapM (fun place => place.node.image ⟨view, plan.index, first⟩) = .ok images ∧
      plan.placed.mapM (fun place => place.node.image ⟨view, plan.index, second⟩) = .ok others ∧
      earlier.bytes = front.set 8 first ++ images.flatten ∧
      later.bytes = front.set 8 second ++ others.flatten := by
  obtain ⟨_, info, plan, images, fields, read, planned, drawn, filled, bytes⟩ :=
    (build_eq_ok regular).mp built
  obtain ⟨_, info', plan', others, fields', read', planned', drawn', filled', bytes'⟩ :=
    (build_eq_ok regular).mp again
  obtain rfl := Except.ok.inj (read.symm.trans read')
  obtain rfl := Except.ok.inj (planned.symm.trans planned')
  obtain rfl := Except.ok.inj (filled.symm.trans filled')
  rw [front_eq_set] at bytes bytes'
  exact ⟨plan, _, images, others, planned, regular.length_front request info filled, drawn, drawn',
    bytes, bytes'⟩

end TableKind

namespace Madt

/-! ### What the revision changes in a node -/

/-- The structure of an interface but for its last two bytes. -/
def interfaceStart (record : CpuInterface) : Bytes :=
  Piece.encodeAll <| structureOf 0x0b 80
    [.word record.cpuInterfaceNumber, .word record.acpiProcessorUid, .word record.flags,
      .word record.parkingProtocolVersion, .word record.performanceInterruptGsiv,
      .long record.parkedAddress, .long record.physicalBaseAddress, .long record.gicv,
      .long record.gich, .word record.vgicMaintenanceInterrupt, .long record.gicrBaseAddress,
      .long record.mpidr, .byte record.processorPowerEfficiencyClass, .zeros 1]

/-- The profiling interrupt in a table of a revision; none in the first. -/
def interruptIn (revision : UInt8) (record : CpuInterface) : UInt16 :=
  if firstRevision < revision then record.speOverflowInterrupt else 0

theorem interruptIn_first (record : CpuInterface) : interruptIn 4 record = 0 :=
  if_neg (by decide)

theorem interruptIn_second (record : CpuInterface) :
    interruptIn 5 record = record.speOverflowInterrupt := if_pos (by decide)

theorem length_interfaceStart (record : CpuInterface) : (interfaceStart record).length = 78 := by
  simp [interfaceStart, structureOf]

/-- **The structure of an interface** ends with its profiling interrupt. -/
theorem image_cpuInterface (record : CpuInterface) (context : Context) :
    (cpuInterface record).image context = .ok
      (interfaceStart record ++ (Piece.half (interruptIn context.revision record)).encode) := by
  unfold cpuInterface
  rw [Node.image_of_pure fun _ => by simp [structureOf]]
  rfl

/-- What is written of a node is fixed, but for the last two bytes of the structure of an
interface. -/
def IsFixed (node : Node) : Prop :=
  ∀ {one other : Context} {first second : Bytes},
    node.image one = .ok first → node.image other = .ok second →
      ∀ place, first[place]? = second[place]? ∨ first[0]? = some 0x0b ∧ (place = 78 ∨ place = 79)

theorem isFixed_of_eq {node : Node} (same : ∀ one other, node.image one = node.image other) :
    IsFixed node := by
  intro one other first second drawn again place
  rw [same one other, again] at drawn
  cases drawn
  exact .inl rfl

theorem isFixed_cpuInterface (record : CpuInterface) : IsFixed (cpuInterface record) := by
  intro one other first second drawn again place
  rw [image_cpuInterface] at drawn again
  cases drawn
  cases again
  have long := length_interfaceStart record
  rcases Nat.lt_or_ge place 78 with before | behind
  · rw [← long] at before
    rw [List.getElem?_append_left before, List.getElem?_append_left before]
    exact .inl rfl
  · rw [← long] at behind
    rw [List.getElem?_append_right behind, List.getElem?_append_right behind, long]
    by_cases last : place = 78 ∨ place = 79
    · exact .inr ⟨rfl, last⟩
    · rw [List.getElem?_eq_none, List.getElem?_eq_none]
      · exact .inl rfl
      all_goals
        rw [Piece.length_encode_half]
        omega

theorem isFixed_all : ∀ category ∈ layout.categories, category.AllNodes IsFixed := by
  simp only [layout, List.forall_mem_cons]
  refine ⟨Category.IsOf.allNodes ⟨rfl, rfl⟩ isFixed_cpuInterface, ?_, ?_, ?_, ?_,
    List.forall_mem_nil _⟩ <;>
    exact Category.IsOf.allNodes ⟨rfl, rfl⟩ fun _ => isFixed_of_eq fun _ _ => rfl

namespace Supply

/-! ### Two tables -/

/-- How two tables differ, with structures at `mets`, that are made from one supply for the first
and for the second revision; `free` are the places in their front where they may. -/
structure IsRevised (supply : Supply) (mets : List Met) (free : List Nat) (earlier later : Bytes) :
    Prop where
  /-- They have one length. -/
  length : earlier.length = later.length
  /-- Their structures lie at the same places. -/
  walked : LengthForm.short.walk earlier 44 = some mets ∧ LengthForm.short.walk later 44 = some mets
  /-- Each states its revision. -/
  revision : earlier[8]? = some 4 ∧ later[8]? = some 5
  /-- Each interface has a structure of 80 bytes, of which the last two are zero in the first
  revision, and the profiling interrupt in the second. -/
  interrupts : List.Forall₂ (fun (record : CpuInterface) met => met.length = 80 ∧
      earlier.slice? (met.offset + 78) 2 = some [0, 0] ∧
      later.slice? (met.offset + 78) 2 = some (Bytes.ofNat 2 record.speOverflowInterrupt.toNat))
    supply.cpuInterfaces (ofType 0x0b mets)
  /-- Nothing else differs. -/
  elsewhere : ∀ place, place ∉ free →
    (∀ met ∈ ofType 0x0b mets, place ≠ met.offset + 78 ∧ place ≠ met.offset + 79) →
      earlier[place]? = later[place]?

variable {supply : Supply} {view : View}

/-- The interrupts that stand at the end of the structures of interfaces. -/
theorem forall_interrupts {context : Context} {bytes : Bytes} {mets : List Met}
    (loads : List.Forall₂ (fun category nodes => Category.Loads category view nodes)
      layout.categories supply.groups)
    (stands : List.Forall₂ (fun (node : String × Node) => node.2.StandsAt .short context bytes)
      (labelled layout.categories supply.groups) mets) :
    List.Forall₂ (fun (record : CpuInterface) met => met.length = 80 ∧
        bytes.slice? (met.offset + 78) 2 =
          some (Piece.half (interruptIn context.revision record)).encode)
      supply.cpuInterfaces (ofType 0x0b mets) := by
  refine (stands_interfaces loads stands).imp ?_
  rintro record met ⟨image, made, _, there⟩
  rw [image_cpuInterface] at made
  cases made
  have long := length_interfaceStart record
  have whole := (Bytes.apart_of_slice? there).2.2
  rw [List.length_append, Piece.length_encode_half, long] at whole
  refine ⟨whole.symm, (Bytes.slice?_slice there (by simp [long])).trans ?_⟩
  have last := Bytes.slice?_middle [] long
    (Piece.length_encode_half (interruptIn context.revision record))
  rwa [List.append_nil] at last

/-- **Two tables of one plan**, whatever their fronts are, differ only where they have to. -/
theorem exists_revised {plan : Plan} (planned : (layout.plan view).result = .ok plan) :
    ∃ supply : Supply, ∃ mets, supply.IsListed view ∧
      ∀ {free : List Nat} {start front : Bytes} {images others : List Bytes},
        start.length = 44 → front.length = 44 → start[8]? = some 4 → front[8]? = some 5 →
        (∀ place, place ∉ free → start[place]? = front[place]?) →
        plan.placed.mapM (fun place => place.node.image ⟨view, plan.index, 4⟩) = .ok images →
        plan.placed.mapM (fun place => place.node.image ⟨view, plan.index, 5⟩) = .ok others →
          supply.IsRevised mets free (start ++ images.flatten) (front ++ others.flatten) := by
  obtain ⟨groups, mets, loads, _, met⟩ := TableKind.walk_planned isRegular states_all planned
  obtain ⟨supply, listed, _, rfl⟩ := loads_iff.mp loads
  refine ⟨supply, mets, listed,
    fun {free start front images others} one other four five same drawn again => ?_⟩
  obtain ⟨walked, stands⟩ := met one drawn
  obtain ⟨walked', stands'⟩ := met other again
  have length : (start ++ images.flatten).length = (front ++ others.flatten).length := by
    obtain ⟨_, _, _, lies⟩ := Layout.plan_eq_ok.mp planned
    have keeps := isRegular.keepsLength planned
    rw [List.length_append, List.length_append, one, other]
    exact (lies.length_images keeps (mapM_eq_ok.mp drawn)).trans
      (lies.length_images keeps (mapM_eq_ok.mp again)).symm
  refine ⟨length, ⟨walked, walked'⟩, ⟨?_, ?_⟩, ?_, fun place closed apart => ?_⟩
  · rwa [List.getElem?_append_left (by omega)]
  · rwa [List.getElem?_append_left (by omega)]
  · refine (forall₂_and (forall_interrupts loads stands) (forall_interrupts loads stands')).imp ?_
    rintro record met ⟨⟨size, none⟩, -, interrupt⟩
    rw [interruptIn_first] at none
    rw [interruptIn_second] at interrupt
    exact ⟨size, none, interrupt⟩
  by_cases ahead : place < 44
  · rw [List.getElem?_append_left (by omega), List.getElem?_append_left (by omega)]
    exact same place closed
  by_cases inside : place < (start ++ images.flatten).length
  · -- The place belongs to a structure, which is drawn for both tables from one node.
    obtain ⟨met, member, first, last⟩ :=
      LengthForm.walk_covers walked (Nat.le_of_not_lt ahead) inside
    obtain ⟨⟨name, node⟩, among, ⟨image, made, states, here⟩, ⟨image', made', -, there⟩⟩ :=
      exists_of_forall₂ (forall₂_and stands stands').flip member
    obtain ⟨category, known, nodes, load, listed⟩ := Layout.mem_labelled loads among
    rw [Bytes.getElem?_of_slice? here first last, Bytes.getElem?_of_slice? there first last]
    rcases (isFixed_all category known).of_loads load node listed made made' (place - met.offset)
      with equal | ⟨type, final⟩
    · exact equal
    · have interface : met.type = 0x0b := Option.some.inj (states.first.symm.trans type)
      have outside := apart met (List.mem_filter.mpr ⟨member, beq_iff_eq.mpr interface⟩)
      omega
  · rw [List.getElem?_eq_none (by omega), List.getElem?_eq_none (by omega)]

end Supply

/-! ### Two requests -/

variable {view : View} {request : TableRequest}

/-- **Neither revision is refused** where the other one is accepted. -/
theorem exists_build_iff :
    (∃ table, (kind.build { request with revision := 4 } view).result = .ok table) ↔
      ∃ table, (kind.build { request with revision := 5 } view).result = .ok table := by
  rw [exists_build, exists_build, checkRequest_eq_ok, checkRequest_eq_ok]
  simp

/-- **The two revisions of the table differ only where they have to**, whatever is requested of
whatever view: one of them is built if and only if the other is, and their bytes are the same, but
for the one that states the revision, the profiling interrupts, and, once it is closed, the
checksum. -/
theorem revisions_differ (view : View) (request : TableRequest) :
    ((∃ table, (kind.generator.build { request with revision := 4 } view).result = .ok table) ↔
      ∃ table, (kind.generator.build { request with revision := 5 } view).result = .ok table) ∧
    ∀ earlier later,
      (kind.generator.build { request with revision := 4 } view).result = .ok earlier →
      (kind.generator.build { request with revision := 5 } view).result = .ok later →
        ∃ supply : Supply, ∃ mets, supply.IsListed view ∧
          supply.IsRevised mets [8] earlier.bytes later.bytes ∧
          supply.IsRevised mets [8, 9] earlier.finalize.bytes later.finalize.bytes := by
  refine ⟨exists_build_iff, fun earlier later built again => ?_⟩
  obtain ⟨plan, front, images, others, planned, length, drawn, drawn', bytes, bytes'⟩ :=
    TableKind.exists_front isRegular built again
  change front.length = 44 at length
  obtain ⟨supply, mets, listed, revised⟩ := Supply.exists_revised planned
  have size (revision : UInt8) : (front.set 8 revision).length = 44 := List.length_set.trans length
  have long (revision : UInt8) : headerLength ≤ (front.set 8 revision).length := by
    rw [size]
    decide
  have states (revision : UInt8) : (front.set 8 revision)[8]? = some revision :=
    List.getElem?_set_self (by omega)
  have keeps {bytes : Bytes} {place other : Nat} (apart : other ≠ place) (byte : UInt8) :
      (bytes.set place byte)[other]? = bytes[other]? := List.getElem?_set_ne apart.symm
  refine ⟨supply, mets, listed, ?_, ?_⟩
  · rw [bytes, bytes']
    refine revised (size 4) (size 5) (states 4) (states 5) (fun place other => ?_) drawn drawn'
    have apart : place ≠ 8 := fun here => other (List.mem_singleton.mpr here)
    rw [keeps apart, keeps apart]
  · rw [Table.bytes_finalize bytes (long 4), Table.bytes_finalize bytes' (long 5)]
    refine revised (List.length_set.trans (size 4)) (List.length_set.trans (size 5)) ?_ ?_
      (fun place other => ?_) drawn drawn'
    · rw [keeps (by decide), states]
    · rw [keeps (by decide), states]
    · have apart : place ≠ 8 ∧ place ≠ checksumOffset := by simpa [checksumOffset] using other
      rw [keeps apart.2, keeps apart.2, keeps apart.1, keeps apart.1]

/-- Two interfaces, of which the second has a profiling interrupt. -/
def profiled : Store :=
  ⟨[.ofRecords .null [(default : ManagerInfo)],
    .ofRecords .null [(default : CpuInterface),
      { (default : CpuInterface) with acpiProcessorUid := 1, speOverflowInterrupt := 0x1234 }],
    .ofRecords .null [(default : Distributor)]]⟩

/-- Both tables are built, and the interrupt stands in the second of them only. -/
theorem revisions_differ_profiled :
    ∃ earlier later,
      (kind.generator.build ⟨.apic, 4, .madt, 0, 0⟩ profiled.view).result = .ok earlier ∧
      (kind.generator.build ⟨.apic, 5, .madt, 0, 0⟩ profiled.view).result = .ok later ∧
      earlier.bytes.slice? 202 2 = some [0, 0] ∧ later.bytes.slice? 202 2 = some [0x34, 0x12] ∧
      ∃ supply : Supply, ∃ mets, supply.IsListed profiled.view ∧
        supply.IsRevised mets [8] earlier.bytes later.bytes ∧
        supply.IsRevised mets [8, 9] earlier.finalize.bytes later.finalize.bytes := by
  have first : (fun table => table.bytes.slice? 202 2) <$>
      (kind.generator.build ⟨.apic, 4, .madt, 0, 0⟩ profiled.view).result = .ok (some [0, 0]) := by
    decide +kernel
  have second : (fun table => table.bytes.slice? 202 2) <$>
      (kind.generator.build ⟨.apic, 5, .madt, 0, 0⟩ profiled.view).result =
        .ok (some [0x34, 0x12]) := by
    decide +kernel
  obtain ⟨earlier, built, none⟩ := map_eq_ok.mp first
  obtain ⟨later, again, interrupt⟩ := map_eq_ok.mp second
  exact ⟨earlier, later, built, again, none, interrupt,
    (revisions_differ profiled.view ⟨.apic, 4, .madt, 0, 0⟩).2 earlier later built again⟩

end Madt

end FirmwareTables
