/-
**A store under other names.**

The records that hold tokens are those of the eight `carriers`. A store under other names has the
tokens of all its entries exchanged, and in the entries of carriers those of the records too, which
asks for such entries to hold what they count (`Store.Decodes`). Everything a reader can ask then
has the same answer under the other names (`View.Mirrors`, `Store.mirrors`): what is found is what
was found, put together in the same order, as a renaming keeps different tokens apart and the null
token what it is.

* `Store.found_rename`: the same entries are found;
* `Store.getList_plain` and `Store.getList_carrier`: the same records are read.
-/

import FirmwareTables.Proofs.Renaming.Basic
import FirmwareTables.Proofs.Repository.Contents
import FirmwareTables.Proofs.Repository.Finding
import FirmwareTables.Record.Affinity
import FirmwareTables.Record.Remapping

namespace FirmwareTables

/-! ### Records that hold tokens -/

/-- The types of records that hold tokens. -/
def carriers : List Carrier :=
  [⟨ItsGroup⟩, ⟨NamedComponent⟩, ⟨RootComplex⟩, ⟨SmmuV1V2⟩, ⟨SmmuV3⟩, ⟨Pmcg⟩, ⟨IdMapping⟩,
    ⟨GenericInitiator⟩]

/-- The type of the records that are stored under an id, if they hold tokens. -/
def carrier? (id : ObjectId) : Option Carrier :=
  carriers.find? fun carrier => carrier.objectId == id

/-- What a renaming does to records of a type is known: they hold tokens and are renamed with the
entries they are stored in, or they hold none. -/
def IsCovered (α : Type) [Record α] : Prop :=
  carrier? (Record.objectId α) = some ⟨α⟩ ∨
    carrier? (Record.objectId α) = none ∧ Renaming.ArePlain (Record.fields α)

/-- What carriers store is spelled in one way only. -/
theorem haveOneSpelling_carrier {α : Type} [Record α]
    (carried : carrier? (Record.objectId α) = some ⟨α⟩) : HaveOneSpelling (Record.fields α) := by
  have all : ∀ carrier ∈ carriers, HaveOneSpelling (Record.fields carrier.Item) := by
    unfold carriers
    simp only [List.forall_mem_cons]
    decide
  exact all ⟨α⟩ (List.mem_of_find?_eq_some carried)

/-! ### Entries and stores -/

/-- What an entry holds, handed over. -/
def Entry.descriptor (entry : Entry) : Descriptor :=
  ⟨entry.id, entry.token, entry.count, entry.data⟩

namespace Renaming

variable (names : Renaming)

/-- The bytes of a carrier's entry, the tokens of its records exchanged. -/
def data (carrier : Carrier) (entry : Entry) : Bytes :=
  match entry.descriptor.toList (α := carrier.Item) with
  | .ok records => records.flatMap fun record => Record.encode (names.record record)
  | .error _ => entry.data

/-- An entry whose token, and the tokens of whose records, have other names. -/
def entry (entry : Entry) : Entry where
  id := entry.id
  token := names.token entry.token
  count := entry.count
  data :=
    match carrier? entry.id with
    | some carrier => names.data carrier entry
    | none => entry.data

/-- A store in which all tokens have other names. -/
def store (store : Store) : Store := ⟨store.entries.map names.entry⟩

end Renaming

/-- The entries of carriers hold exactly the records that they count. -/
def Store.Decodes (store : Store) : Prop :=
  ∀ entry ∈ store.entries, ∀ carrier ∈ carriers, carrier.objectId = entry.id →
    ∃ records : List carrier.Item, entry.descriptor.toList = .ok records

instance (store : Store) : Decidable store.Decodes :=
  decidable_of_iff (∀ entry ∈ store.entries, ∀ carrier ∈ carriers, carrier.objectId = entry.id →
      (entry.descriptor.toList (α := carrier.Item)).isOk) <| by
    refine forall₂_congr fun entry _ => forall₂_congr fun carrier _ => forall_congr' fun _ => ?_
    cases entry.descriptor.toList (α := carrier.Item) with
    | error error => exact ⟨nofun, fun read => nomatch read.choose_spec⟩
    | ok records => exact ⟨fun _ => ⟨records, rfl⟩, fun _ => rfl⟩

namespace Store

variable (names : Renaming) {store : Store} {id : ObjectId} {token : Token}

/-- The same entries are found. -/
theorem found_rename (store : Store) (id : ObjectId) (token : Token) :
    (names.store store).found id (names.token token) = (store.found id token).map names.entry := by
  unfold found Renaming.store
  rw [List.filter_map]
  congr 2
  funext entry
  show (entry.id == id && ((names.token token).isNull || names.token entry.token ==
    names.token token)) = entry.isFound id token
  rw [names.isNull_token, names.token_beq]
  rfl

theorem total_rename (entries : List Entry) : total (entries.map names.entry) = total entries := by
  induction entries with
  | nil => rfl
  | cons entry entries ih => rw [List.map_cons, total, total, ih]; rfl

/-- Reading finds as much, and what is found differs in nothing but its tokens. -/
theorem get_mirrors (store : Store) (id : ObjectId) (token : Token) :
    Mirrors names.repositoryError (fun descriptor other => other = ⟨descriptor.id,
        names.token descriptor.token, descriptor.count,
        (store.found id token).flatMap fun entry => (names.entry entry).data⟩ ∧
        descriptor.data = (store.found id token).flatMap Entry.data ∧ descriptor.id = id)
      (store.get id token) ((names.store store).get id (names.token token)) := by
  unfold get
  dsimp only
  rw [found_rename, total_rename, List.flatMap_map]
  by_cases many : maxCount < total (store.found id token)
  · rw [if_pos many, if_pos many]
    rfl
  rw [if_neg many, if_neg many]
  by_cases none : total (store.found id token) = 0
  · rw [if_pos none, if_pos none]
    rfl
  · rw [if_neg none, if_neg none]
    exact ⟨rfl, rfl, rfl⟩

/-! ### What readers are told -/

/-- As many instances are counted. -/
theorem countOnly_mirrors (store : Store) (id : ObjectId) :
    Mirrors names.repositoryError Eq (store.view.countOnly id).result
      ((names.store store).view.countOnly id).result := by
  have both := get_mirrors names store id .null
  rw [names.token_null] at both
  rw [countOnly_view, countOnly_view]
  generalize store.get id .null = one at both ⊢
  generalize (names.store store).get id .null = other at both ⊢
  cases one <;> cases other
  · rename_i error changed
    obtain rfl : changed = names.repositoryError error := both
    dsimp only
    rw [names.isNotFound_repositoryError]
    cases error.isNotFound <;> rfl
  · exact both.elim
  · exact both.elim
  · obtain ⟨rfl, -⟩ := both
    rfl

/-- The records of a type are listed under the other names. -/
def Renames (names : Renaming) {α : Type} [Record α] (records others : List α) : Prop :=
  others = records.map names.record

/-- Reading what a descriptor holds does not depend on any token. -/
theorem toList_mirrors {α : Type} [Record α] (descriptor : Descriptor) :
    Mirrors names.repositoryError Eq (descriptor.toList (α := α)) descriptor.toList := by
  refine Mirrors.refl ?_
  cases failed : descriptor.toList (α := α) with
  | ok records => exact trivial
  | error error =>
    obtain ⟨mismatch, rfl⟩ := Descriptor.toList_error failed
    rfl

/-- Records without tokens are read as they were. -/
theorem getList_plain {α : Type} [Record α] (free : carrier? (Record.objectId α) = none)
    (plain : Renaming.ArePlain (Record.fields α)) (store : Store) (token : Token) :
    Mirrors names.repositoryError (Renames names) (store.view.getList α token).result
      ((names.store store).view.getList α (names.token token)).result := by
  have data : (store.found (Record.objectId α) token).flatMap (fun entry => (names.entry entry).data) =
      (store.found (Record.objectId α) token).flatMap Entry.data := by
    refine List.flatMap_congr fun entry found => ?_
    unfold Renaming.entry
    rw [(mem_of_mem_found found).2, free]
  rw [getList_view, getList_view]
  refine (get_mirrors names store _ token).bind fun descriptor other both => ?_
  obtain ⟨rfl, known, _⟩ := both
  rw [data, ← known]
  refine (toList_mirrors names descriptor).mono fun records others same => ?_
  have unmoved : names.record (α := α) = id := funext (names.record_of_plain plain)
  unfold Renames
  rw [unmoved, List.map_id, same]

/-- What a carrier's entry holds, under its own and under the other names. -/
theorem ofRecords_of_decodes {α : Type} [Record α]
    (carried : carrier? (Record.objectId α) = some ⟨α⟩) (decodes : store.Decodes) {entry : Entry}
    (inside : entry ∈ store.entries) (here : entry.id = Record.objectId α) :
    ∃ records : List α, records.length ≤ maxCount ∧
      (∀ record ∈ records, Record.IsReadable record) ∧
      entry = Entry.ofRecords entry.token records ∧
      names.entry entry = Entry.ofRecords (names.token entry.token) (records.map names.record) := by
  obtain ⟨records, read⟩ :=
    decodes entry inside ⟨α⟩ (List.mem_of_find?_eq_some carried) here.symm
  obtain ⟨readable, data⟩ := Descriptor.data_of_toList (haveOneSpelling_carrier carried) read
  have length := Descriptor.length_toList read
  have count : UInt32.ofNat records.length = entry.count := by
    rw [length]
    exact UInt32.ofNat_toNat
  refine ⟨records, ?_, readable, ?_, ?_⟩
  · rw [length]
    exact Nat.le_of_lt_succ entry.count.toNat_lt
  · unfold Entry.ofRecords
    rw [count, ← here]
    exact congrArg (Entry.mk entry.id entry.token entry.count) data
  · unfold Entry.ofRecords Renaming.entry
    rw [List.length_map, count, ← here, List.flatMap_map]
    congr 1
    rw [here, carried]
    show names.data ⟨α⟩ entry = _
    unfold Renaming.data
    rw [read]

/-- What carriers' entries hold, one after the other. -/
theorem exists_groups {α : Type} [Record α] {entries : List Entry}
    (all : ∀ entry ∈ entries, ∃ records : List α, records.length ≤ maxCount ∧
      (∀ record ∈ records, Record.IsReadable record) ∧
      entry = Entry.ofRecords entry.token records ∧
      names.entry entry = Entry.ofRecords (names.token entry.token) (records.map names.record)) :
    ∃ groups : List (Token × List α), (∀ group ∈ groups, group.2.length ≤ maxCount) ∧
      (∀ record ∈ groups.flatMap Prod.snd, Record.IsReadable record) ∧
      entries = groups.map (fun group => Entry.ofRecords group.1 group.2) ∧
      entries.map names.entry = groups.map fun group =>
        Entry.ofRecords (names.token group.1) (group.2.map names.record) := by
  induction entries with
  | nil => exact ⟨[], List.forall_mem_nil _, List.forall_mem_nil _, rfl, rfl⟩
  | cons entry entries ih =>
    obtain ⟨⟨records, few, readable, same, renamed⟩, others⟩ := List.forall_mem_cons.mp all
    obtain ⟨groups, allFew, allReadable, behind, allRenamed⟩ := ih others
    refine ⟨(entry.token, records) :: groups, List.forall_mem_cons.mpr ⟨few, allFew⟩, ?_, ?_, ?_⟩
    · rw [List.flatMap_cons, List.forall_mem_append]
      exact ⟨readable, allReadable⟩
    · rw [List.map_cons, ← same, ← behind]
    · rw [List.map_cons, List.map_cons, renamed, allRenamed]

/-- **Records that hold tokens** are read under their other names. -/
theorem getList_carrier {α : Type} [Record α]
    (carried : carrier? (Record.objectId α) = some ⟨α⟩) (decodes : store.Decodes) (token : Token) :
    Mirrors names.repositoryError (Renames names) (store.view.getList α token).result
      ((names.store store).view.getList α (names.token token)).result := by
  obtain ⟨groups, few, readable, found, renamed⟩ := exists_groups names
    fun entry (inside : entry ∈ store.found (Record.objectId α) token) =>
      ofRecords_of_decodes names carried decodes (mem_of_mem_found inside).1
        (mem_of_mem_found inside).2
  have finds : store.Finds token (groups.flatMap Prod.snd) := ⟨groups, found, few, rfl⟩
  have others : (names.store store).Finds (names.token token)
      ((groups.flatMap Prod.snd).map names.record) := by
    refine ⟨groups.map fun group => (names.token group.1, group.2.map names.record), ?_, ?_, ?_⟩
    · rw [found_rename, renamed, List.map_map]
      rfl
    · rw [List.forall_mem_map]
      intro group inside
      rw [List.length_map]
      exact few group inside
    · rw [List.flatMap_map, List.map_flatMap]
  -- Both stores find lists of records of one length, so that both answers are in the same case.
  generalize groups.flatMap Prod.snd = records at finds others readable
  have kept : ∀ record ∈ records.map names.record, Record.IsReadable record := by
    rw [List.forall_mem_map]
    exact fun record inside => names.isReadable_record (readable record inside)
  rw [getList_view, getList_view, get_eq finds, get_eq others, List.length_map]
  by_cases many : maxCount < records.length
  · rw [if_pos many, if_pos many]
    rfl
  rw [if_neg many, if_neg many]
  by_cases none : records.length = 0
  · rw [if_pos none, if_pos none]
    rfl
  rw [if_neg none, if_neg none]
  have first := Descriptor.toList_flatMap readable (Nat.le_of_not_lt many) (Record.objectId α) token
  have second := Descriptor.toList_flatMap kept
    (by rw [List.length_map]; exact Nat.le_of_not_lt many) (Record.objectId α) (names.token token)
  rw [List.length_map] at second
  show Mirrors _ _ (Descriptor.toList _) (Descriptor.toList _)
  rw [first, second]
  rfl

end Store

/-! ### Views -/

/-- What two views show is the same under the other names. -/
structure View.Mirrors (names : Renaming) (view other : View) : Prop where
  /-- Records of any kind are counted alike. -/
  count : ∀ id, FirmwareTables.Mirrors names.repositoryError Eq (view.countOnly id).result
    (other.countOnly id).result
  /-- Records that are covered are listed alike, with the names in them exchanged. -/
  list : ∀ (α : Type) [Record α], IsCovered α → ∀ token,
    FirmwareTables.Mirrors names.repositoryError (Store.Renames names)
      (view.getList α token).result (other.getList α (names.token token)).result

/-- **A store shows the same** under the other names. -/
theorem Store.mirrors {store : Store} (decodes : store.Decodes) (names : Renaming) :
    View.Mirrors names store.view (names.store store).view where
  count := countOnly_mirrors names store
  list _ _ covered token := by
    rcases covered with carried | ⟨free, plain⟩
    · exact getList_carrier names carried decodes token
    · exact getList_plain names free plain store token

end FirmwareTables
