/-
**Typed stores.**

An entry `Holds` records if it counts them and has their bytes one after the other. A store is typed
if under the id of every type of records each entry holds records of this type. What a repository
offers for records keeps a store typed, also where adding puts the records of many entries together
in one (`isTyped_foldl`). As records are read back one by one without anything between them, a typed
store reads as the records of its entries, in the order of the entries (`IsTyped.reads`).
-/

import FirmwareTables.Proofs.Repository.Contents
import FirmwareTables.Record.Affinity
import FirmwareTables.Record.Interrupt
import FirmwareTables.Record.Manager
import FirmwareTables.Record.Remapping
import Mathlib.Data.List.Nodup

namespace FirmwareTables

/-- The types of records that a repository holds, apart from requests for tables. -/
def recordTypes : List Carrier :=
  [⟨ManagerInfo⟩, ⟨CpuInterface⟩, ⟨Distributor⟩, ⟨MsiFrame⟩, ⟨Redistributor⟩, ⟨TranslationService⟩,
    ⟨ConfigSpace⟩, ⟨ItsGroup⟩, ⟨NamedComponent⟩, ⟨RootComplex⟩, ⟨SmmuV1V2⟩, ⟨SmmuV3⟩, ⟨Pmcg⟩,
    ⟨ItsIdentifier⟩, ⟨IdMapping⟩, ⟨SmmuInterrupt⟩, ⟨MemoryAffinity⟩, ⟨AcpiHandle⟩, ⟨PciHandle⟩,
    ⟨GenericInitiator⟩]

/-- No two types of records share an id. -/
theorem nodup_objectIds : (recordTypes.map Carrier.objectId).Nodup := by
  decide

/-- A type of records is known by its id. -/
theorem carrier_eq {first second : Carrier} (one : first ∈ recordTypes)
    (other : second ∈ recordTypes) (same : first.objectId = second.objectId) : first = second :=
  List.inj_on_of_nodup_map nodup_objectIds one other same

/-! ### Entries -/

section

variable {α : Type} [Record α]

/-- An entry holds exactly these records. -/
structure Entry.Holds (entry : Entry) (records : List α) : Prop where
  /-- They are as many as the entry counts. -/
  count : entry.count.toNat = records.length
  /-- The entry has their bytes, one after the other. -/
  data : entry.data = records.flatMap Record.encode
  /-- Their texts are not too long for their bytes to say how long they are. -/
  readable : ∀ record ∈ records, Record.IsReadable record

namespace Entry.Holds

variable {entry : Entry} {records : List α} {token : Token}

theorem few (holds : entry.Holds records) : records.length ≤ maxCount := by
  rw [← holds.count]
  exact Nat.le_of_lt_succ entry.count.toNat_lt

theorem eq_ofRecords (holds : entry.Holds records) (object : entry.id = Record.objectId α) :
    entry = .ofRecords entry.token records := by
  obtain ⟨id, token, count, data⟩ := entry
  unfold ofRecords
  rw [← holds.count, ← holds.data]
  cases object
  exact congrArg (Entry.mk _ token · data) UInt32.ofNat_toNat.symm

theorem ofRecords (few : records.length ≤ maxCount)
    (readable : ∀ record ∈ records, Record.IsReadable record) :
    (Entry.ofRecords token records).Holds records where
  count := by
    show (UInt32.ofNat records.length).toNat = records.length
    rw [UInt32.toNat_ofNat']
    exact Nat.mod_eq_of_lt (Nat.lt_succ_of_le few)
  data := rfl
  readable := readable

end Entry.Holds

/-- **Entries that hold records** are found as these records, put together. -/
theorem Store.finds_of_holds {store : Store} {token : Token} {groups : List (List α)}
    (holds : List.Forall₂ Entry.Holds (store.found (Record.objectId α) token) groups) :
    store.Finds token groups.flatten := by
  have objects : ∀ entry ∈ store.found (Record.objectId α) token, entry.id = Record.objectId α :=
    fun entry inside => (mem_of_mem_found inside).2
  unfold Finds
  generalize store.found (Record.objectId α) token = found at holds objects
  induction holds with
  | nil => exact ⟨[], rfl, nofun, rfl⟩
  | @cons entry records _ _ here _ ih =>
    obtain ⟨first, others⟩ := List.forall_mem_cons.mp objects
    obtain ⟨rest, same, few, all⟩ := ih others
    refine ⟨(entry.token, records) :: rest, ?_, List.forall_mem_cons.mpr ⟨here.few, few⟩, ?_⟩
    · rw [List.map_cons, ← same, ← here.eq_ofRecords first]
    · rw [List.flatMap_cons, all, List.flatten_cons]

end

/-! ### Typed stores -/

/-- The entries of every type of records hold records of this type. -/
def Store.IsTyped (store : Store) : Prop :=
  ∀ entry ∈ store.entries, ∀ carrier ∈ recordTypes, carrier.objectId = entry.id →
    ∃ records : List carrier.Item, entry.Holds records

/-- Something that is done to a repository of records. -/
inductive Edit where
  /-- One record is added. -/
  | add (carrier : Carrier) (token : Token) (record : carrier.Item)
  /-- Records are added one after the other. -/
  | addAll (carrier : Carrier) (token : Token) (records : List carrier.Item)
  /-- The records under a token are replaced. -/
  | replace (carrier : Carrier) (token : Token) (records : List carrier.Item)
  /-- The records under a token, of which there have to be some, are removed. -/
  | remove (id : ObjectId) (token : Token)
  /-- The records under a token are deleted. -/
  | delete (id : ObjectId) (token : Token)
  /-- Everything is taken away. -/
  | clear

/-- The records stored are of the types known, and their texts are not too long. -/
def Edit.IsTyped : Edit → Prop
  | add carrier _ record => carrier ∈ recordTypes ∧ Record.IsReadable record
  | addAll carrier _ records | replace carrier _ records =>
    carrier ∈ recordTypes ∧ ∀ record ∈ records, Record.IsReadable record
  | remove _ _ | delete _ _ | clear => True

namespace Store

/-- The store after a change, which leaves it as it is if it fails. -/
def afterwards (store : Store) : Except RepositoryError Store → Store
  | .ok after => after
  | .error _ => store

/-- The store after an edit. -/
def edit (store : Store) : Edit → Store
  | .add _ token record => store.afterwards (Access.live.addObject token record store).result
  | .addAll _ token records => (Access.live.addObjects token records store).store
  | .replace _ token records => store.afterwards (Access.live.setObjects token records store)
  | .remove id token => store.afterwards (Access.live.removeInstance id token store).result
  | .delete id token => store.afterwards (store.set id token none)
  | .clear => .empty

theorem readable_of_holds {α : Type} [Record α] {entries : List Entry} {groups : List (List α)}
    (holds : List.Forall₂ Entry.Holds entries groups) :
    ∀ record ∈ groups.flatten, Record.IsReadable record := by
  intro record inside
  obtain ⟨group, member, here⟩ := List.mem_flatten.mp inside
  obtain ⟨_, _, held⟩ := exists_of_forall₂ holds.flip member
  exact held.readable record here

namespace IsTyped

variable {store : Store} {carrier : Carrier} {token : Token}

theorem empty : IsTyped .empty := nofun

/-- Each entry found under a type's id holds records of the type. -/
theorem exists_holds (typed : store.IsTyped) (known : carrier ∈ recordTypes) (token : Token) :
    ∃ groups : List (List carrier.Item),
      List.Forall₂ Entry.Holds (store.found carrier.objectId token) groups := by
  refine exists_forall₂.mpr fun entry inside => ?_
  obtain ⟨member, object⟩ := mem_of_mem_found inside
  exact typed entry member carrier known object.symm

theorem put {entry : Entry} (typed : store.IsTyped)
    (holds : ∀ carrier ∈ recordTypes, carrier.objectId = entry.id →
      ∃ records : List carrier.Item, entry.Holds records) : (store.put entry).IsTyped := by
  intro other inside
  rcases mem_put inside with rfl | inside
  · exact holds
  · exact typed other inside

/-- Storing records keeps a store typed. -/
theorem put_ofRecords (typed : store.IsTyped) (known : carrier ∈ recordTypes)
    {records : List carrier.Item} (few : records.length ≤ maxCount)
    (readable : ∀ record ∈ records, Record.IsReadable record) :
    (store.put (.ofRecords token records)).IsTyped := by
  refine typed.put fun other among same => ?_
  obtain rfl := carrier_eq among known same
  exact ⟨records, .ofRecords few readable⟩

theorem delete (typed : store.IsTyped) (id : ObjectId) (token : Token) :
    (store.delete id token).IsTyped :=
  fun entry inside => typed entry (List.mem_of_mem_filter inside)

/-- **Adding a record** keeps a store typed, whatever entries its token finds. -/
theorem addObject (typed : store.IsTyped) (known : carrier ∈ recordTypes) {record : carrier.Item}
    (readable : Record.IsReadable record) {after : Store}
    (done : (Access.live.addObject token record store).result = .ok after) : after.IsTyped := by
  obtain ⟨groups, holds⟩ := typed.exists_holds known token
  rw [addObject_eq (finds_of_holds holds)] at done
  split at done
  · cases done
  · rename_i enough
    cases done
    refine typed.put_ofRecords known ?_ ?_
    · rw [List.length_append]
      exact Nat.le_of_not_lt enough
    · intro other inside
      rcases List.mem_append.mp inside with inside | inside
      · exact readable_of_holds holds other inside
      · rw [List.mem_singleton.mp inside]
        exact readable

/-- Adding records keeps a store typed, also if it fails after some. -/
theorem addObjects (typed : store.IsTyped) (known : carrier ∈ recordTypes)
    {records : List carrier.Item} (readable : ∀ record ∈ records, Record.IsReadable record) :
    (Access.live.addObjects token records store).store.IsTyped := by
  induction records generalizing store with
  | nil => exact typed
  | cons record records ih =>
    obtain ⟨here, others⟩ := List.forall_mem_cons.mp readable
    unfold Access.addObjects at ih ⊢
    rw [List.map_cons, Change.inOrder]
    dsimp only
    cases done : (Access.live.addObject token record store).result with
    | error error => exact typed
    | ok after => exact ih (typed.addObject known here done) others

/-- Replacing records keeps a store typed. -/
theorem setObjects (typed : store.IsTyped) (known : carrier ∈ recordTypes)
    {records : List carrier.Item} (readable : ∀ record ∈ records, Record.IsReadable record)
    {after : Store} (done : Access.live.setObjects token records store = .ok after) :
    after.IsTyped := by
  by_cases few : records.length ≤ maxCount
  · rw [setObjects_eq few] at done
    cases done
    exact typed.put_ofRecords known few readable
  · unfold Access.setObjects Descriptor.ofList at done
    rw [if_neg few] at done
    cases done

/-- Removing records keeps a store typed. -/
theorem removeInstance (typed : store.IsTyped) {id : ObjectId} {after : Store}
    (done : (Access.live.removeInstance id token store).result = .ok after) : after.IsTyped := by
  unfold Access.removeInstance at done
  simp only [Reading.result_bind, Reading.result_ofExcept, bind_eq_ok] at done
  obtain ⟨_, _, _, _, deleted⟩ := done
  cases deleted
  exact typed.delete id token

theorem afterwards (typed : store.IsTyped) {outcome : Except RepositoryError Store}
    (kept : ∀ after, outcome = .ok after → after.IsTyped) :
    (store.afterwards outcome).IsTyped := by
  cases outcome with
  | ok after => exact kept after rfl
  | error error => exact typed

/-- **Every edit** keeps a store typed. -/
theorem edit (typed : store.IsTyped) {edit : Edit} (fine : edit.IsTyped) :
    (store.edit edit).IsTyped := by
  cases edit with
  | add carrier token record => exact typed.afterwards fun _ => typed.addObject fine.1 fine.2
  | addAll carrier token records => exact typed.addObjects fine.1 fine.2
  | replace carrier token records => exact typed.afterwards fun _ => typed.setObjects fine.1 fine.2
  | remove id token => exact typed.afterwards fun _ => typed.removeInstance
  | delete id token => exact typed.afterwards fun _ done => Except.ok.inj done ▸ typed.delete id token
  | clear => exact empty

end IsTyped

theorem isTyped_foldl {store : Store} (typed : store.IsTyped) {edits : List Edit}
    (fine : ∀ edit ∈ edits, edit.IsTyped) : (edits.foldl edit store).IsTyped := by
  induction edits generalizing store with
  | nil => exact typed
  | cons first edits ih =>
    obtain ⟨here, others⟩ := List.forall_mem_cons.mp fine
    exact ih (typed.edit here) others

/-! ### Reading -/

theorem total_eq {α : Type} [Record α] {entries : List Entry} {groups : List (List α)}
    (holds : List.Forall₂ Entry.Holds entries groups) : total entries = groups.flatten.length := by
  induction holds with
  | nil => rfl
  | cons here _ ih => rw [total, here.count, ih, List.flatten_cons, List.length_append]

/-- Fewer entries count less. -/
theorem total_le {some all : List Entry} (part : some.Sublist all) : total some ≤ total all := by
  induction part with
  | slnil => exact Nat.le_refl _
  | cons entry _ ih => exact Nat.le_trans ih (Nat.le_add_left _ _)
  | cons_cons entry _ ih => exact Nat.add_le_add_left ih _

/-- Every token finds a part of what the null token finds. -/
theorem found_sublist (store : Store) (id : ObjectId) (token : Token) :
    (store.found id token).Sublist (store.found id .null) := by
  refine List.monotone_filter_right _ fun entry found => ?_
  exact Entry.isFound_iff.mpr ⟨(Entry.isFound_iff.mp found).1, .inl rfl⟩

/-- What comes of reading records of a type. -/
structure Reads (store : Store) (carrier : Carrier) : Prop where
  /-- Reading fails only where nothing is found. -/
  sound : ∀ {token : Token} {error : RepositoryError},
    (store.view.getList carrier.Item token).result = .error error →
      error = .notFound carrier.objectId token
  /-- The records of all entries are counted. -/
  counted : (store.view.countOnly carrier.objectId).result =
    .ok (total (store.found carrier.objectId .null))
  /-- Each entry holds records. -/
  grouped : ∃ groups : List (List carrier.Item),
    List.Forall₂ Entry.Holds (store.found carrier.objectId .null) groups
  /-- If there are any, the records of all entries are read one after the other, and they are as many
  as are counted. -/
  whole : 0 < total (store.found carrier.objectId .null) →
    ∀ groups : List (List carrier.Item),
      List.Forall₂ Entry.Holds (store.found carrier.objectId .null) groups →
        (store.view.getList carrier.Item .null).result = .ok groups.flatten ∧
          groups.flatten.length = total (store.found carrier.objectId .null)
  /-- No records are read exactly if none are counted. -/
  vacant : (store.view.getListOrEmpty carrier.Item .null).result = .ok [] ↔
    total (store.found carrier.objectId .null) = 0

/-- **A typed store reads as the records of its entries.** -/
theorem IsTyped.reads {store : Store} (typed : store.IsTyped) {carrier : Carrier}
    (known : carrier ∈ recordTypes)
    (few : total (store.found carrier.objectId .null) ≤ maxCount) : store.Reads carrier := by
  have listed : ∀ (token : Token) (groups : List (List carrier.Item)),
      List.Forall₂ Entry.Holds (store.found carrier.objectId token) groups →
        (store.view.getList carrier.Item token).result =
          if groups.flatten = [] then .error (.notFound carrier.objectId token)
          else .ok groups.flatten := by
    intro token groups holds
    have enough : groups.flatten.length ≤ maxCount := by
      rw [← total_eq holds]
      exact Nat.le_trans (total_le (store.found_sublist _ token)) few
    exact (getList_eq (finds_of_holds holds) (readable_of_holds holds)).trans
      (if_neg (Nat.not_lt.mpr enough))
  obtain ⟨all, holds⟩ := typed.exists_holds known .null
  have count := total_eq holds
  refine ⟨?_, ?_, ⟨all, holds⟩, ?_, ?_⟩
  · intro token error failed
    obtain ⟨groups, holds⟩ := typed.exists_holds known token
    rw [listed token groups holds] at failed
    split at failed
    · exact (Except.error.inj failed).symm
    · cases failed
  · rw [count] at few ⊢
    exact (countOnly_eq (finds_of_holds holds)).trans (if_neg (Nat.not_lt.mpr few))
  · intro some groups holds
    have same := total_eq holds
    refine ⟨?_, same.symm⟩
    rw [listed .null groups holds, if_neg]
    rintro none
    rw [same, none] at some
    exact Nat.lt_irrefl 0 some
  · unfold View.getListOrEmpty
    dsimp only
    rw [listed .null all holds, count, List.length_eq_zero_iff]
    by_cases none : all.flatten = []
    · rw [if_pos none]
      exact iff_of_true rfl none
    · rw [if_neg none]
      dsimp only
      rw [listed .null all holds, if_neg none, Except.ok.injEq]

/-- **Repositories of records are typed.** Starting from nothing, every run of what a repository
offers for records leads to a typed store; and every typed store, as long as the records of a type
can be counted, reads as the records of its entries, in the order of the entries. -/
theorem typed_stores :
    (∀ edits : List Edit, (∀ edit ∈ edits, edit.IsTyped) → (edits.foldl edit empty).IsTyped) ∧
      ∀ store : Store, store.IsTyped → ∀ carrier ∈ recordTypes,
        total (store.found carrier.objectId .null) ≤ maxCount → store.Reads carrier :=
  ⟨fun _ fine => isTyped_foldl IsTyped.empty fine, fun _ typed _ known few => typed.reads known few⟩

/-- An id is stored under a token, and two more under the null token, each with all that is there
before. -/
def doubled : List Edit :=
  [.add ⟨ItsIdentifier⟩ ⟨1⟩ (⟨7⟩ : ItsIdentifier),
    .addAll ⟨ItsIdentifier⟩ .null [(⟨8⟩ : ItsIdentifier), ⟨9⟩]]

/-- The five ids that are there in the end are read. -/
theorem typed_stores_doubled :
    let store := doubled.foldl edit empty
    (∀ edit ∈ doubled, edit.IsTyped) ∧ store.IsTyped ∧
      total (store.found (Record.objectId ItsIdentifier) .null) = 5 ∧
      store.Reads ⟨ItsIdentifier⟩ := by
  have known : (⟨ItsIdentifier⟩ : Carrier) ∈ recordTypes := by simp [recordTypes]
  have readable : ∀ records : List ItsIdentifier, ∀ record ∈ records, Record.IsReadable record :=
    Record.areReadable (by decide)
  have fine : ∀ edit ∈ doubled, edit.IsTyped :=
    List.forall_mem_cons.mpr ⟨⟨known, readable [_] _ List.mem_cons_self⟩,
      List.forall_mem_singleton.mpr ⟨known, readable _⟩⟩
  have typed := typed_stores.1 doubled fine
  have total : total ((doubled.foldl edit empty).found (Record.objectId ItsIdentifier) .null) = 5 := by
    decide +kernel
  exact ⟨fine, typed, total, typed_stores.2 _ typed _ known (total ▸ (by decide : 5 ≤ maxCount))⟩

end Store

end FirmwareTables
