/-
**Handles of generic initiators.**

An initiator `HasDevice` in a view if it names a token and a known type, and the first handle of
this type that the view gives under the token is that of the device. Where the request is accepted,
the vendor's record read and the nodes planned, the table of affinity is built exactly if every
initiator has a device, and each structure carries the handle of its own; otherwise the build fails
over the first initiator without one. What is stored as handles that no initiator asks for is of no
account (`initiators_decide`).

* `handle_eq_ok`, `lacksDevice_of_handle`: what looking for a handle comes to;
* `build_outcome`: a planned build is looking for the handles, one after the other;
* `build_unused`: handles that no initiator asks for.
-/

import FirmwareTables.Proofs.Generator.Reads
import FirmwareTables.Proofs.Platform.Handles
import FirmwareTables.Proofs.Record.Exactness

namespace FirmwareTables

/-! ### What a view gives -/

namespace View

/-- Under a token a view gives these records: what it answers can be handed back and holds them. -/
def Gives {α : Type} [Record α] (view : View) (token : Token) (records : List α) : Prop :=
  ∃ descriptor, view.get (Record.objectId α) token = .ok descriptor ∧
    (view.release descriptor).result = .ok () ∧ descriptor.Holds records

/-- Under an id and a token a view finds nothing, or something empty. -/
def IsMissing (view : View) (id : ObjectId) (token : Token) : Prop :=
  (∃ cause, view.get id token = .error cause ∧ cause.isNotFound = true) ∨
    ∃ descriptor, view.get id token = .ok descriptor ∧
      (view.release descriptor).result = .ok () ∧ descriptor.count = 0 ∧ descriptor.data = []

variable {α : Type} [Record α] {view : View} {token : Token}

theorem getList_eq (view : View) (token : Token) :
    (view.getList α token).result = view.get (Record.objectId α) token >>= fun descriptor =>
      (view.release descriptor).result >>= fun _ => descriptor.toList := by
  unfold getList
  simp only [Reading.result_bind, Reading.result_ofExcept]
  rfl

theorem getList_eq_ok (one : HaveOneSpelling (Record.fields α)) {records : List α} :
    (view.getList α token).result = .ok records ↔ view.Gives token records := by
  rw [getList_eq]
  simp only [bind_eq_ok, Descriptor.toList_eq_ok one]
  constructor
  · rintro ⟨descriptor, got, _, released, holds⟩
    exact ⟨descriptor, got, released, holds⟩
  · rintro ⟨descriptor, got, released, holds⟩
    exact ⟨descriptor, got, _, released, holds⟩

theorem isMissing_of_nil (given : view.Gives token ([] : List α)) :
    view.IsMissing (Record.objectId α) token := by
  obtain ⟨descriptor, got, released, holds⟩ := given
  exact .inr ⟨descriptor, got, released, UInt32.toNat_inj.mp holds.count, holds.data⟩

/-- Nothing is listed of what is missing, or an empty list. -/
theorem getList_of_isMissing (missing : view.IsMissing (Record.objectId α) token)
    {cause : RepositoryError} (failed : (view.getList α token).result = .error cause) :
    cause.isNotFound = true := by
  rw [getList_eq] at failed
  rcases missing with ⟨found, got, unfound⟩ | ⟨descriptor, got, released, count, data⟩
  · rw [got] at failed
    cases failed
    exact unfound
  · rw [got] at failed
    change ((view.release descriptor).result >>= fun _ => descriptor.toList) = _ at failed
    rw [released] at failed
    change descriptor.toList = _ at failed
    rw [Descriptor.toList_eq, count, data] at failed
    cases failed

end View

/-! ### Devices -/

/-- The object that holds the handles of an initiator's type. -/
def GenericInitiator.handleId? (record : GenericInitiator) : Option ObjectId :=
  if record.deviceHandleType = 0 then some (Record.objectId AcpiHandle)
  else if record.deviceHandleType = 1 then some (Record.objectId PciHandle)
  else none

/-- The handle of a device is the first of its type under a token. -/
def Device.IsFirst (view : View) (token : Token) : Device → Prop
  | acpi handle => ∃ others, view.Gives token (handle :: others)
  | pci handle => ∃ others, view.Gives token (handle :: others)

/-- A view shows the device of an initiator. -/
structure View.HasDevice (view : View) (record : GenericInitiator) (device : Device) : Prop where
  /-- The initiator names a token. -/
  named : record.deviceHandleToken.isNull = false
  /-- It states the type of the device. -/
  type : record.deviceHandleType = device.type
  /-- The device is the first one of this type under the token. -/
  first : device.IsFirst view record.deviceHandleToken

/-- Why an initiator has no device. -/
inductive View.LacksDevice (view : View) (record : GenericInitiator) : TableError → Prop
  /-- It names no token. -/
  | unnamed (null : record.deviceHandleToken.isNull = true) :
      LacksDevice view record (.invalidParameter .nullHandle)
  /-- There are no handles of its type. -/
  | untyped (named : record.deviceHandleToken.isNull = false) (unknown : record.handleId? = none) :
      LacksDevice view record (.invalidParameter (.handleType record.deviceHandleType))
  /-- No handle of its type is stored under its token. -/
  | missing {id : ObjectId} {error : TableError} (named : record.deviceHandleToken.isNull = false)
      (known : record.handleId? = some id) (none : view.IsMissing id record.deviceHandleToken)
      (unfound : error.isNotFound = true) : LacksDevice view record error
  /-- What is stored there cannot be read. -/
  | unread {id : ObjectId} (named : record.deviceHandleToken.isNull = false)
      (known : record.handleId? = some id) (some : ¬ view.IsMissing id record.deviceHandleToken)
      (cause : RepositoryError) : LacksDevice view record (.repository cause)

namespace View.LacksDevice

variable {view : View} {record : GenericInitiator} {error : TableError}

theorem isInvalidParameter (lacks : view.LacksDevice record error)
    (wrong : record.deviceHandleToken.isNull = true ∨ record.handleId? = none) :
    error.isInvalidParameter = true := by
  cases lacks with
  | unnamed | untyped => rfl
  | missing named known | unread named known =>
    rcases wrong with null | unknown
    · exact absurd null (Bool.eq_false_iff.mp named)
    · cases known.symm.trans unknown

theorem isNotFound (lacks : view.LacksDevice record error)
    (named : record.deviceHandleToken.isNull = false) {id : ObjectId}
    (known : record.handleId? = some id) (none : view.IsMissing id record.deviceHandleToken) :
    error.isNotFound = true := by
  cases lacks with
  | unnamed null => exact absurd null (Bool.eq_false_iff.mp named)
  | untyped _ unknown => cases known.symm.trans unknown
  | missing _ _ _ unfound => exact unfound
  | unread _ same some =>
    cases known.symm.trans same
    exact absurd none some

end View.LacksDevice

namespace Srat

variable {view : View} {record : GenericInitiator}

section

variable {α : Type} [Record α]

theorem firstHandle_eq_ok (one : HaveOneSpelling (Record.fields α)) {handle : α} :
    (firstHandle α view record).result = .ok handle ↔
      ∃ others, view.Gives record.deviceHandleToken (handle :: others) := by
  unfold firstHandle
  rw [Reading.result_bind, bind_eq_ok]
  constructor
  · rintro ⟨records, listed, first⟩
    cases records with
    | nil => cases first
    | cons head others =>
      cases first
      exact ⟨others, (View.getList_eq_ok one).mp (mapError_eq_ok.mp listed)⟩
  · rintro ⟨others, given⟩
    exact ⟨handle :: others, mapError_eq_ok.mpr ((View.getList_eq_ok one).mpr given), rfl⟩

theorem firstHandle_eq_error (one : HaveOneSpelling (Record.fields α)) {error : TableError}
    (failed : (firstHandle α view record).result = .error error) :
    (view.IsMissing (Record.objectId α) record.deviceHandleToken ∧ error.isNotFound = true) ∨
      ¬ view.IsMissing (Record.objectId α) record.deviceHandleToken ∧
        ∃ cause, error = .repository cause := by
  unfold firstHandle at failed
  rw [Reading.result_bind, Reading.result_mapError] at failed
  cases listed : (view.getList α record.deviceHandleToken).result with
  | ok records =>
    rw [listed] at failed
    cases records with
    | nil =>
      cases failed
      exact .inl ⟨View.isMissing_of_nil ((View.getList_eq_ok one).mp listed), rfl⟩
    | cons head others => cases failed
  | error cause =>
    rw [listed] at failed
    cases failed
    by_cases missing : view.IsMissing (Record.objectId α) record.deviceHandleToken
    · exact .inl ⟨missing, View.getList_of_isMissing missing listed⟩
    · exact .inr ⟨missing, cause, rfl⟩

end

/-- **The handle of an initiator** is that of its device. -/
theorem handle_eq_ok {pieces : List Piece} : (handle view record).result = .ok pieces ↔
    ∃ device, view.HasDevice record device ∧ device.pieces = pieces := by
  unfold handle
  split
  · rename_i null
    refine iff_of_false nofun ?_
    rintro ⟨device, has, -⟩
    exact Bool.false_ne_true (has.named.symm.trans null)
  rename_i named
  split
  · rename_i acpi
    have one : HaveOneSpelling (Record.fields AcpiHandle) := by decide
    simp only [Reading.result_bind, bind_eq_ok, firstHandle_eq_ok one]
    constructor
    · rintro ⟨handle, given, done⟩
      cases done
      exact ⟨.acpi handle, ⟨Bool.eq_false_iff.mpr named, acpi, given⟩, rfl⟩
    · rintro ⟨device, ⟨-, type, first⟩, rfl⟩
      cases device with
      | acpi handle => exact ⟨handle, first, rfl⟩
      | pci handle => cases acpi.symm.trans type
  split
  · rename_i pci
    have one : HaveOneSpelling (Record.fields PciHandle) := by decide
    simp only [Reading.result_bind, bind_eq_ok, firstHandle_eq_ok one]
    constructor
    · rintro ⟨handle, given, done⟩
      cases done
      exact ⟨.pci handle, ⟨Bool.eq_false_iff.mpr named, pci, given⟩, rfl⟩
    · rintro ⟨device, ⟨-, type, first⟩, rfl⟩
      cases device with
      | acpi handle => cases pci.symm.trans type
      | pci handle => exact ⟨handle, first, rfl⟩
  · rename_i other another
    refine iff_of_false nofun ?_
    rintro ⟨device, has, -⟩
    cases device with
    | acpi handle => exact other has.type
    | pci handle => exact another has.type

/-- **No handle is found** only if there is no device. -/
theorem lacksDevice_of_handle {error : TableError}
    (failed : (handle view record).result = .error error) : view.LacksDevice record error := by
  have of_first : ∀ {α : Type} [Record α] (_ : HaveOneSpelling (Record.fields α)) {β : Type}
      {made : α → β}, record.deviceHandleToken.isNull = false →
      record.handleId? = some (Record.objectId α) →
      (do return made (← firstHandle α view record) : Reading TableError β).result = .error error →
      view.LacksDevice record error := by
    intro α _ one β made named known failed
    rw [Reading.result_bind] at failed
    cases first : (firstHandle α view record).result with
    | ok handle =>
      rw [first] at failed
      cases failed
    | error cause =>
      rw [first] at failed
      cases failed
      rcases firstHandle_eq_error one first with ⟨missing, unfound⟩ | ⟨some, cause, rfl⟩
      · exact .missing named known missing unfound
      · exact .unread named known some cause
  unfold handle at failed
  split at failed
  · rename_i null
    cases failed
    exact .unnamed null
  rename_i named
  have named := Bool.eq_false_iff.mpr named
  split at failed
  · rename_i acpi
    exact of_first (by decide) named (if_pos acpi) failed
  rename_i other
  split at failed
  · rename_i pci
    exact of_first (by decide) named ((if_neg other).trans (if_pos pci)) failed
  · rename_i another
    cases failed
    exact .untyped named ((if_neg other).trans (if_neg another))

/-! ### What the table is made from -/

/-- Records of all four kinds. -/
structure Supply where
  /-- The interfaces of processors. -/
  cpuInterfaces : List CpuInterface
  /-- The translation services. -/
  translationServices : List TranslationService
  /-- The ranges of memory. -/
  memories : List MemoryAffinity
  /-- The devices that initiate traffic on their own. -/
  initiators : List GenericInitiator

namespace Supply

/-- The records are those that a view lists. -/
structure IsListed (supply : Supply) (view : View) : Prop where
  /-- The interfaces are those of the view. -/
  cpuInterfaces : view.Lists supply.cpuInterfaces
  /-- So are the translation services. -/
  translationServices : view.Lists supply.translationServices
  /-- So are the ranges of memory. -/
  memories : view.Lists supply.memories
  /-- So are the initiators. -/
  initiators : view.Lists supply.initiators

/-- The nodes of the table, category by category. -/
def groups (supply : Supply) : List (List Node) :=
  [supply.cpuInterfaces.map cpuInterface, supply.translationServices.map translationService,
    supply.memories.map memory, supply.initiators.map genericInitiator]

/-- The nodes before those of the initiators. -/
def front (supply : Supply) : List Node :=
  supply.cpuInterfaces.map cpuInterface ++ supply.translationServices.map translationService ++
    supply.memories.map memory

/-- **The categories load** the nodes of the records that a view lists. -/
theorem of_loads {view : View} {groups : List (List Node)}
    (loads : List.Forall₂ (fun category nodes => Category.Loads category view nodes)
      layout.categories groups) :
    ∃ supply : Supply, supply.IsListed view ∧ groups = supply.groups := by
  have interfaces : (Category.ofRecords CpuInterface "GICC affinity" cpuInterface).asRequired.IsOf
      (fun _ => .ok ()) cpuInterface := ⟨rfl, rfl⟩
  simp only [layout, List.forall₂_cons_left_iff, List.forall₂_nil_left_iff,
    Category.loads_ofRecords, Category.loads_iff interfaces] at loads
  obtain ⟨_, _, ⟨cpuInterfaces, first, rfl, _⟩, ⟨_, _, ⟨translationServices, second, rfl⟩,
    ⟨_, _, ⟨memories, third, rfl⟩, ⟨_, _, ⟨initiators, fourth, rfl⟩, rfl, rfl⟩, rfl⟩, rfl⟩, rfl⟩ :=
    loads
  exact ⟨⟨cpuInterfaces, translationServices, memories, initiators⟩,
    ⟨first, second, third, fourth⟩, rfl⟩

theorem nodes_eq (supply : Supply) : (labelled layout.categories supply.groups).map Prod.snd =
    supply.front ++ supply.initiators.map genericInitiator := by
  simp [labelled, layout, groups, front, Category.asRequired, Category.ofRecords,
    Category.ofChecked, Function.comp_def]

/-- The nodes in front can always be written, whatever a view shows. -/
theorem front_isTotal (supply : Supply) :
    ∀ node ∈ supply.front, node.IsTotal ∧ node.ReadsOnly [] := by
  have of_map : ∀ {α : Type} {records : List α} {node : α → Node},
      (∀ record, (node record).IsTotal ∧ (node record).ReadsOnly []) →
      ∀ made ∈ records.map node, made.IsTotal ∧ made.ReadsOnly [] :=
    fun each => List.forall_mem_map.mpr fun record _ => each record
  refine List.forall_mem_append.mpr ⟨List.forall_mem_append.mpr ⟨?_, ?_⟩, ?_⟩ <;>
    exact of_map fun _ => ⟨Node.isTotal fun _ => by simp [halves],
      Node.ofPieces_readsOnly fun _ _ _ _ _ => rfl⟩

end Supply

/-! ### The structure of an initiator -/

end Srat

/-- Bus, device and function are put side by side; five bits of the device count, and three of the
function. -/
theorem PciHandle.toNat_address (handle : PciHandle) : handle.address.toNat =
    256 * handle.busNumber.toNat + 8 * (handle.deviceNumber.toNat % 32) +
      handle.functionNumber.toNat % 8 := by
  have bus := handle.busNumber.toNat_lt
  have device : (handle.deviceNumber &&& 0x1f).toNat = handle.deviceNumber.toNat % 32 := by
    rw [UInt8.toNat_and]
    exact Nat.and_two_pow_sub_one_eq_mod handle.deviceNumber.toNat 5
  have function : (handle.functionNumber &&& 0x7).toNat = handle.functionNumber.toNat % 8 := by
    rw [UInt8.toNat_and]
    exact Nat.and_two_pow_sub_one_eq_mod handle.functionNumber.toNat 3
  have three : (3 : UInt16).toNat % 16 = 3 := rfl
  have eight : (8 : UInt16).toNat % 16 = 8 := rfl
  have middle : 8 * (handle.deviceNumber.toNat % 32) < 2 ^ 8 := by omega
  have least : handle.functionNumber.toNat % 8 < 2 ^ 3 := Nat.mod_lt _ (by decide)
  unfold address
  rw [UInt16.toNat_or, UInt16.toNat_or, UInt16.toNat_shiftLeft, UInt16.toNat_shiftLeft,
    UInt8.toNat_toUInt16, UInt8.toNat_toUInt16, UInt8.toNat_toUInt16, device, function, three, eight,
    Nat.shiftLeft_eq, Nat.shiftLeft_eq, Nat.mod_eq_of_lt (by omega), Nat.mod_eq_of_lt (by omega)]
  -- No two of the three parts have a bit in common.
  have front := Nat.shiftLeft_add_eq_or_of_lt middle handle.busNumber.toNat
  have whole := Nat.shiftLeft_add_eq_or_of_lt least
    (32 * handle.busNumber.toNat + handle.deviceNumber.toNat % 32)
  rw [Nat.shiftLeft_eq] at front whole
  rw [Nat.mul_comm _ (2 ^ 3), ← front,
    show handle.busNumber.toNat * 2 ^ 8 + 8 * (handle.deviceNumber.toNat % 32) =
      (32 * handle.busNumber.toNat + handle.deviceNumber.toNat % 32) * 2 ^ 3 by omega, ← whole]
  omega

/-- Where the handle of a device stands in the structure of an initiator. -/
def Device.form : Device → Form
  | acpi handle => [(8, .long handle.hid), (16, .word handle.uid), (20, .zeros 4)]
  | pci handle =>
    [(8, .half handle.segmentNumber),
      (10, .half (UInt16.ofNat (256 * handle.busNumber.toNat +
        8 * (handle.deviceNumber.toNat % 32) + handle.functionNumber.toNat % 8))),
      (12, .zeros 12)]

/-- The structure of an initiator with its device. -/
def GenericInitiator.form (record : GenericInitiator) (device : Device) : Form :=
  [(0, .byte 5), (1, .byte 32), (2, .zeros 1), (3, .byte record.deviceHandleType),
    (4, .word record.proximityDomain)] ++ device.form ++ [(24, .word record.flags), (28, .zeros 4)]

/-- What a consumer finds of an initiator where its structure is met. -/
def GenericInitiator.IsShown (record : GenericInitiator) (view : View) (bytes : Bytes)
    (met : Met) : Prop :=
  met.length = 32 ∧ ∃ device, view.HasDevice record device ∧ (record.form device).Covers 0 32 ∧
    (record.form device).IsReadIn bytes met.offset

namespace Srat

theorem form_startsAt (record : GenericInitiator) (device : Device) :
    ∀ field ∈ record.form device, Piece.startsAt? ([.byte 5, .byte 32, .zeros 1,
      .byte record.deviceHandleType, .word record.proximityDomain] ++ device.pieces ++
        [.word record.flags, .zeros 4]) field.1 = some field.2 := by
  cases device with
  | acpi handle => exact List.map_inj_left.mp rfl
  | pci handle =>
    have address : handle.address = UInt16.ofNat (256 * handle.busNumber.toNat +
        8 * (handle.deviceNumber.toNat % 32) + handle.functionNumber.toNat % 8) := by
      rw [← handle.toNat_address, UInt16.ofNat_toNat]
    unfold Device.pieces
    dsimp only
    rw [address]
    exact List.map_inj_left.mp rfl

theorem form_covers (record : GenericInitiator) (device : Device) :
    (record.form device).Covers 0 32 := by
  cases device <;> simp [GenericInitiator.form, Device.form, Form.Covers, Piece.length]

/-- **The structure of an initiator** carries the handle of its device. -/
theorem isShown {context : Context} {bytes : Bytes} {met : Met}
    (stands : (genericInitiator record).StandsAt .short context bytes met) :
    record.IsShown context.view bytes met := by
  have exact : Node.AreExact 32 fun context => do
      let handle ← handle context.view record
      return [.byte 5, .byte 32, .zeros 1, .byte record.deviceHandleType,
        .word record.proximityDomain] ++ handle ++ [.word record.flags, .zeros 4] := by
    intro context made done
    rw [Reading.result_bind] at done
    obtain ⟨found, known, done⟩ := bind_eq_ok.mp done
    cases done
    have long := length_handle known
    simp [long]
  obtain ⟨length, made, done, there⟩ := stands.pieces exact
  rw [Reading.result_bind] at done
  obtain ⟨found, known, done⟩ := bind_eq_ok.mp done
  obtain ⟨device, has, rfl⟩ := handle_eq_ok.mp known
  cases done
  exact ⟨length, device, has, form_covers record device,
    Form.isReadIn_of_slice there (form_startsAt record device)⟩

/-! ### Building -/

variable {request : TableRequest}

/-- **A planned build** is looking for the handle of each initiator, one after the other. -/
theorem build_outcome (accepted : kind.checkRequest request = .ok ())
    (vendor : ∃ info, (view.getObject ManagerInfo).result = .ok info) {plan : Plan}
    (planned : (kind.layout.plan view).result = .ok plan) {supply : Supply}
    (nodes : plan.placed.map Placed.node =
      supply.front ++ supply.initiators.map genericInitiator) :
    ∃ assemble : List Bytes → Table, (kind.build request view).result =
      assemble <$> supply.initiators.mapM fun record =>
        (genericInitiator record).image ⟨view, plan.index, request.revision⟩ := by
  obtain ⟨info, read⟩ := vendor
  have total : ∀ node ∈ supply.front,
      ∃ image, node.image ⟨view, plan.index, request.revision⟩ = .ok image :=
    fun node inside => (supply.front_isTotal node inside).1 _
  obtain ⟨images, drawn⟩ := exists_forall₂.mpr total
  have drawn := mapM_eq_ok.mpr drawn
  have all : plan.placed.mapM (fun place =>
      place.node.image ⟨view, plan.index, request.revision⟩) =
        (images ++ ·) <$> supply.initiators.mapM fun record =>
          (genericInitiator record).image ⟨view, plan.index, request.revision⟩ := by
    have mapped := List.mapM_map (m := Except TableError) (l := plan.placed) (f := Placed.node)
      (g := fun node => node.image ⟨view, plan.index, request.revision⟩)
    rw [nodes, List.mapM_append, drawn, List.mapM_map] at mapped
    exact mapped.symm
  rw [TableKind.build_eq isRegular, accepted, Reading.result_mapError, read]
  refine ⟨fun others => ⟨kind.front request info plan [.word 1, .zeros 8] ++
    (images ++ others).flatten⟩, ?_⟩
  show ((kind.layout.plan view).result >>= _) = _
  rw [planned]
  show (plan.placed.mapM (fun place =>
    place.node.image ⟨view, plan.index, request.revision⟩) >>= _) = _
  rw [all]
  generalize (List.mapM _ supply.initiators : Except TableError (List Bytes)) = drawn
  cases drawn <;> rfl

/-- A generic initiator can be written if and only if it has a device. -/
theorem exists_image {context : Context} :
    (∃ image, (genericInitiator record).image context = .ok image) ↔
      ∃ device, context.view.HasDevice record device := by
  rw [initiator_image]
  simp only [map_eq_ok, handle_eq_ok]
  constructor
  · rintro ⟨_, _, ⟨device, has, -⟩, -⟩
    exact ⟨device, has⟩
  · rintro ⟨device, has⟩
    exact ⟨_, _, ⟨device, has, rfl⟩, rfl⟩

theorem lacksDevice_of_image {context : Context} {error : TableError}
    (failed : (genericInitiator record).image context = .error error) :
    context.view.LacksDevice record error := by
  rw [initiator_image] at failed
  refine lacksDevice_of_handle ?_
  cases found : (handle context.view record).result with
  | ok pieces =>
    rw [found] at failed
    cases failed
  | error cause =>
    rw [found] at failed
    cases failed
    rfl

/-! ### What is not asked for -/

end Srat

/-- Two views show the same, but for handles that none of some initiators asks for. -/
structure View.AgreeFor (initiators : List GenericInitiator) (one other : View) : Prop where
  /-- Both speak the same revision of the protocol. -/
  revision : one.revision = other.revision
  /-- Both judge alike what is handed back. -/
  free : one.free = other.free
  /-- Handles are the same where an initiator asks for them, everything else is anyway. -/
  get : ∀ id token, (id ∈ Srat.handles → ∃ record ∈ initiators,
      record.handleId? = some id ∧ record.deviceHandleToken = token) →
    one.get id token = other.get id token

namespace Srat

section

variable {other : View} {initiators : List GenericInitiator}

theorem agree_of_agreeFor (agree : view.AgreeFor initiators other) {ids : List ObjectId}
    (apart : ∀ id ∈ ids, id ∉ handles) : View.Agree ids view other :=
  ⟨agree.revision, agree.free, fun id inside token =>
    agree.get id token fun absurd => (apart id inside absurd).elim⟩

theorem handle_agreeFor (agree : view.AgreeFor initiators other) (inside : record ∈ initiators) :
    handle view record = handle other record := by
  have first : ∀ {α : Type} [Record α], record.handleId? = some (Record.objectId α) →
      firstHandle α view record = firstHandle α other record := by
    intro α _ known
    have none : View.Agree [] view other := agree_of_agreeFor agree (List.forall_mem_nil _)
    unfold firstHandle View.getList
    rw [agree.get _ _ fun _ => ⟨record, inside, known, rfl⟩]
    simp only [none.release_eq]
  unfold handle
  refine ite_congr rfl (fun _ => rfl) fun _ => ite_congr rfl (fun acpi => ?_) fun more =>
    ite_congr rfl (fun pci => ?_) fun _ => rfl
  · rw [first (if_pos acpi)]
  · rw [first ((if_neg more).trans (if_pos pci))]

/-- **Handles that no initiator asks for** make no difference. -/
theorem build_unused (listed : view.Lists initiators) (agree : view.AgreeFor initiators other) :
    (kind.build request view).result = (kind.build request other).result := by
  have same : View.Agree (kind.reads []) view other := agree_of_agreeFor agree (by decide)
  have own : ∀ category ∈ layout.categories, category.id ∈ kind.reads [] := by decide
  have loaded : ∀ category ∈ layout.categories, category.load view = category.load other := by
    simp only [layout, List.forall_mem_cons]
    refine ⟨?_, ?_, ?_, ?_, List.forall_mem_nil _⟩ <;>
      exact Category.IsOf.load_agree ⟨rfl, rfl⟩ (by decide) same
  have planned := kind.layout.plan_agree same own loaded
  rw [TableKind.build_eq isRegular, TableKind.build_eq isRegular,
    same.getObject_eq (by decide), planned]
  refine congrArg _ (funext fun _ => congrArg _ (funext fun info => ?_))
  cases done : (kind.layout.plan other).result with
  | error error => rfl
  | ok plan =>
    rw [← planned] at done
    obtain ⟨_, groups, loads, lies⟩ := Layout.plan_eq_ok.mp done
    obtain ⟨supply, shown, rfl⟩ := Supply.of_loads loads
    obtain rfl := shown.initiators.unique listed
    have each : ∀ place ∈ plan.placed, place.node.image ⟨view, plan.index, request.revision⟩ =
        place.node.image ⟨other, plan.index, request.revision⟩ := by
      intro place inside
      have member := List.mem_map_of_mem (f := Placed.node) inside
      rw [lies.nodes_eq.trans supply.nodes_eq] at member
      rcases List.mem_append.mp member with member | member
      · exact (supply.front_isTotal _ member).2.image_eq
          (agree_of_agreeFor agree (List.forall_mem_nil _)) _ _
      · obtain ⟨record, among, made⟩ := List.mem_map.mp member
        rw [← made, initiator_image, initiator_image, handle_agreeFor agree among]
    exact congrArg (fun drawn : Except TableError (List Bytes) => drawn >>= fun images =>
      kind.fields plan >>= fun fields =>
        pure (Table.mk (kind.front request info plan fields ++ images.flatten))) (mapM_congr each)

end

/-! ### The table -/

/-- What becomes of a planned table of affinity hangs on the devices of its initiators. -/
structure IsDecided (view : View) (request : TableRequest) (initiators : List GenericInitiator) :
    Prop where
  /-- The table is built exactly if each initiator has a device. -/
  built : (∃ table, (kind.build request view).result = .ok table) ↔
    ∀ record ∈ initiators, ∃ device, view.HasDevice record device
  /-- The structures of type five are those of the initiators with their devices. -/
  shown : ∀ table, (kind.build request view).result = .ok table → ∃ mets,
    LengthForm.short.walk table.bytes 48 = some mets ∧
      List.Forall₂ (fun (record : GenericInitiator) => record.IsShown view table.bytes) initiators
        (mets.filter fun met => met.type == 5)
  /-- The build fails over the first initiator without a device. -/
  failed : ∀ error, (kind.build request view).result = .error error → ∃ before record behind,
    initiators = before ++ record :: behind ∧
      (∀ earlier ∈ before, ∃ device, view.HasDevice earlier device) ∧
      view.LacksDevice record error ∧
      (record.deviceHandleToken.isNull = true ∨ record.handleId? = none →
        error.isInvalidParameter = true) ∧
      ∀ id, record.deviceHandleToken.isNull = false → record.handleId? = some id →
        view.IsMissing id record.deviceHandleToken → error.isNotFound = true
  /-- Handles that no initiator asks for make no difference. -/
  unused : ∀ other : View, view.AgreeFor initiators other →
    (kind.build request other).result = (kind.build request view).result

/-- **Devices decide about the table of affinity**, once its request is accepted, the vendor's
record read and its nodes planned. -/
theorem initiators_decide {view : View} {request : TableRequest}
    (accepted : kind.checkRequest request = .ok ())
    (vendor : ∃ info, (view.getObject ManagerInfo).result = .ok info)
    (planned : ∃ plan, (kind.layout.plan view).result = .ok plan) :
    ∃ initiators, view.Lists initiators ∧ IsDecided view request initiators := by
  obtain ⟨plan, planned⟩ := planned
  obtain ⟨_, groups, loads, lies⟩ := Layout.plan_eq_ok.mp planned
  obtain ⟨supply, listed, rfl⟩ := Supply.of_loads loads
  obtain ⟨assemble, outcome⟩ := build_outcome accepted vendor planned
    (lies.nodes_eq.trans supply.nodes_eq)
  refine ⟨supply.initiators, listed.initiators, ?_, ?_, ?_, ?_⟩
  · rw [outcome]
    simp only [map_eq_ok, mapM_eq_ok]
    constructor
    · rintro ⟨_, images, drawn, -⟩ record inside
      obtain ⟨image, _, made⟩ := exists_of_forall₂ drawn inside
      exact exists_image.mp ⟨image, made⟩
    · intro devices
      have drawable : ∀ record ∈ supply.initiators, ∃ image,
          (genericInitiator record).image ⟨view, plan.index, request.revision⟩ = .ok image :=
        fun record inside => exists_image.mpr (devices record inside)
      obtain ⟨images, drawn⟩ := exists_forall₂.mpr drawable
      exact ⟨_, images, drawn, rfl⟩
  · intro table built
    obtain ⟨groups, mets, index, loads, walked, each⟩ :=
      TableKind.walk_ofType isRegular states_all (by decide) built
    obtain ⟨other, same, rfl⟩ := Supply.of_loads loads
    simp only [Supply.groups, List.forall₂_cons, List.forall₂_map_left_iff] at each
    obtain ⟨-, -, -, stands, -⟩ := each
    rw [same.initiators.unique listed.initiators] at stands
    exact ⟨mets, walked, stands.imp fun _ _ there => isShown there⟩
  · intro error failed
    have first : supply.initiators.mapM (fun record =>
        (genericInitiator record).image ⟨view, plan.index, request.revision⟩) = .error error := by
      rw [outcome] at failed
      generalize (List.mapM _ supply.initiators : Except TableError (List Bytes)) = drawn at failed
      cases drawn with
      | ok images => cases failed
      | error cause =>
        cases failed
        rfl
    obtain ⟨before, record, behind, split, fine, failed⟩ := mapM_eq_error.mp first
    have lacks := lacksDevice_of_image failed
    exact ⟨before, record, behind, split,
      fun earlier inside => exists_image.mp (fine earlier inside), lacks,
      lacks.isInvalidParameter, fun _ named known none => lacks.isNotFound named known none⟩
  · intro other agree
    exact (build_unused listed.initiators agree).symm

/-- A request for the table. -/
def affinityRequest : TableRequest := ⟨.srat, 3, .srat, 0, 0⟩

/-- Two initiators of different types with one token. -/
def sharing : List GenericInitiator := [⟨7, 1, 0, ⟨5⟩⟩, ⟨8, 1, 1, ⟨5⟩⟩]

/-- Under the token of both initiators handles of both types are stored, two of the second. -/
def sharedToken : Store :=
  ⟨[.ofRecords .null [(default : ManagerInfo)], .ofRecords .null [(default : CpuInterface)],
    .ofRecords .null sharing, .ofRecords ⟨5⟩ [(⟨0x11, 2⟩ : AcpiHandle)],
    .ofRecords ⟨5⟩ [(⟨0, 1, 0x22, 9⟩ : PciHandle), ⟨3, 3, 3, 3⟩]]⟩

/-- Both initiators have a device, and both structures are found. -/
theorem initiators_decide_shared :
    kind.checkRequest affinityRequest = .ok () ∧
      (∃ info, (sharedToken.view.getObject ManagerInfo).result = .ok info) ∧
      (∃ plan, (kind.layout.plan sharedToken.view).result = .ok plan) ∧
      ∃ table mets, (kind.build affinityRequest sharedToken.view).result = .ok table ∧
        LengthForm.short.walk table.bytes 48 = some mets ∧
        List.Forall₂ (fun (record : GenericInitiator) =>
          record.IsShown sharedToken.view table.bytes) sharing
          (mets.filter fun met => met.type == 5) := by
  have accepted : kind.checkRequest affinityRequest = .ok () := by decide
  have vendor : ∃ info, (sharedToken.view.getObject ManagerInfo).result = .ok info := ⟨_, rfl⟩
  have planned : ∃ plan, (kind.layout.plan sharedToken.view).result = .ok plan := ⟨_, rfl⟩
  have known : sharedToken.view.Lists sharing :=
    ⟨by decide +kernel, fun _ => by decide +kernel⟩
  have acpi : sharedToken.view.Gives ⟨5⟩ [(⟨0x11, 2⟩ : AcpiHandle)] :=
    (View.getList_eq_ok (by decide)).mp (by decide +kernel)
  have pci : sharedToken.view.Gives ⟨5⟩ [(⟨0, 1, 0x22, 9⟩ : PciHandle), ⟨3, 3, 3, 3⟩] :=
    (View.getList_eq_ok (by decide)).mp (by decide +kernel)
  obtain ⟨initiators, listed, decided⟩ := initiators_decide accepted vendor planned
  obtain rfl := listed.unique known
  have devices : ∀ record ∈ sharing, ∃ device, sharedToken.view.HasDevice record device := by
    refine List.forall_mem_cons.mpr ⟨⟨.acpi ⟨0x11, 2⟩, rfl, rfl, _, acpi⟩, ?_⟩
    exact List.forall_mem_singleton.mpr ⟨.pci ⟨0, 1, 0x22, 9⟩, rfl, rfl, _, pci⟩
  obtain ⟨table, built⟩ := decided.built.mpr devices
  obtain ⟨mets, walked, shown⟩ := decided.shown table built
  exact ⟨accepted, vendor, planned, table, mets, built, walked, shown⟩

end Srat

end FirmwareTables
