/-
**Reading records from a store.**

A store `Finds` records under a token if the entries found there are those of lists of records that
these records are put together from. Then reading and counting are settled: there are too many
records to count, none at all, or exactly these (`get_eq`, `getList_eq`). As long as the records can
be counted and read, they are what the store's view lists (`lists_of_finds`).
-/

import FirmwareTables.Proofs.Layout.Instances
import FirmwareTables.Proofs.Record.Codec
import FirmwareTables.Repository.Store

namespace FirmwareTables

variable {α : Type} [Record α]

/-- The entry of a list of records. -/
def Entry.ofRecords (token : Token) (records : List α) : Entry :=
  ⟨Record.objectId α, token, UInt32.ofNat records.length, records.flatMap Record.encode⟩

namespace Store

/-- What is found under a token is put together from these records. -/
def Finds (store : Store) (token : Token) (records : List α) : Prop :=
  ∃ groups : List (Token × List α),
    store.found (Record.objectId α) token =
        groups.map (fun group => Entry.ofRecords group.1 group.2) ∧
      (∀ group ∈ groups, group.2.length ≤ maxCount) ∧ groups.flatMap Prod.snd = records

theorem total_ofRecords {groups : List (Token × List α)}
    (few : ∀ group ∈ groups, group.2.length ≤ maxCount) :
    total (groups.map fun group => Entry.ofRecords group.1 group.2) =
      (groups.flatMap Prod.snd).length := by
  induction groups with
  | nil => rfl
  | cons group groups ih =>
    have here : (UInt32.ofNat group.2.length).toNat = group.2.length := by
      rw [UInt32.toNat_ofNat']
      exact Nat.mod_eq_of_lt (Nat.lt_succ_of_le (few group List.mem_cons_self))
    rw [List.map_cons, total, ih fun other inside => few other (List.mem_cons_of_mem _ inside),
      List.flatMap_cons, List.length_append]
    exact congrArg (· + (groups.flatMap Prod.snd).length) here

theorem data_ofRecords (groups : List (Token × List α)) :
    (groups.map fun group => Entry.ofRecords group.1 group.2).flatMap Entry.data =
      (groups.flatMap Prod.snd).flatMap Record.encode := by
  rw [List.flatMap_map, List.flatMap_assoc]
  rfl

variable {store : Store} {token : Token} {records : List α}

theorem total_found (finds : store.Finds token records) :
    total (store.found (Record.objectId α) token) = records.length := by
  obtain ⟨groups, found, few, rfl⟩ := finds
  rw [found, total_ofRecords few]

/-- **Reading what is found.** -/
theorem get_eq (finds : store.Finds token records) :
    store.get (Record.objectId α) token =
      if maxCount < records.length then
        .error (.invalidParameter (.countOverflow (Record.objectId α)))
      else if records.length = 0 then .error (.notFound (Record.objectId α) token)
      else .ok ⟨Record.objectId α, token, UInt32.ofNat records.length,
        records.flatMap Record.encode⟩ := by
  have count := total_found finds
  obtain ⟨groups, found, few, rfl⟩ := finds
  unfold get
  dsimp only
  rw [count, found, data_ofRecords]

/-- Handing back to a store never fails, as only payloads are handed back. -/
theorem release_eq (store : Store) (descriptor : Descriptor) :
    (store.view.release descriptor).result = .ok () := by
  unfold View.release
  cases empty : descriptor.isEmpty with
  | true =>
    rw [Bool.not_true, Bool.and_false]
    rfl
  | false =>
    show (takeBack descriptor) = _
    unfold takeBack
    rw [empty]
    rfl

/-- Counting in a store. -/
theorem countOnly_view (store : Store) (id : ObjectId) : (store.view.countOnly id).result =
    match store.get id .null with
    | .ok descriptor => .ok descriptor.count.toNat
    | .error error => if error.isNotFound then .ok 0 else .error error := by
  unfold View.countOnly
  show Reading.result (match store.get id .null with
    | .ok descriptor => _
    | .error error => _) = _
  cases store.get id .null with
  | error error =>
    dsimp only
    cases error.isNotFound <;> rfl
  | ok descriptor =>
    dsimp only
    rw [Reading.result_bind, release_eq]
    rfl

/-- Listing in a store. -/
theorem getList_view (store : Store) (token : Token) :
    (store.view.getList α token).result =
      store.get (Record.objectId α) token >>= Descriptor.toList := by
  unfold View.getList
  simp only [Reading.result_bind, Reading.result_ofExcept, release_eq]
  rfl

/-- **Counting the instances of an object** adds up those of all its entries. -/
theorem countOnly_eq_total (store : Store) (id : ObjectId) :
    (store.view.countOnly id).result =
      if maxCount < total (store.found id .null) then
        .error (.invalidParameter (.countOverflow id))
      else .ok (total (store.found id .null)) := by
  have got : store.view.get id .null =
      if maxCount < total (store.found id .null) then
        .error (.invalidParameter (.countOverflow id))
      else if total (store.found id .null) = 0 then .error (.notFound id .null)
      else .ok ⟨id, .null, UInt32.ofNat (total (store.found id .null)),
        (store.found id .null).flatMap Entry.data⟩ := rfl
  unfold View.countOnly
  rw [got]
  by_cases many : maxCount < total (store.found id .null)
  · rw [if_pos many, if_pos many]
    rfl
  · rw [if_neg many, if_neg many]
    by_cases none : total (store.found id .null) = 0
    · rw [if_pos none, none]
      rfl
    · rw [if_neg none]
      dsimp only
      rw [Reading.result_bind, release_eq]
      show Except.ok (UInt32.ofNat (total (store.found id .null))).toNat = _
      rw [UInt32.toNat_ofNat']
      exact congrArg Except.ok (Nat.mod_eq_of_lt (Nat.lt_succ_of_le (Nat.le_of_not_lt many)))

theorem countOnly_eq (finds : store.Finds .null records) :
    (store.view.countOnly (Record.objectId α)).result =
      if maxCount < records.length then
        .error (.invalidParameter (.countOverflow (Record.objectId α)))
      else .ok records.length := by
  rw [countOnly_eq_total, total_found finds]

/-- What reading comes to where these records are found: they may be too many to be counted, or
none. -/
def readout (token : Token) (records : List α) : Except RepositoryError (List α) :=
  if maxCount < records.length then .error (.invalidParameter (.countOverflow (Record.objectId α)))
  else if records = [] then .error (.notFound (Record.objectId α) token)
  else .ok records

/-- **A store gives the records that it finds.** -/
theorem getList_eq (finds : store.Finds token records)
    (readable : ∀ record ∈ records, Record.IsReadable record) :
    (store.view.getList α token).result = readout token records := by
  have got : store.view.get (Record.objectId α) token = _ := get_eq finds
  unfold View.getList readout
  rw [Reading.result_bind, Reading.result_ofExcept, got]
  by_cases many : maxCount < records.length
  · rw [if_pos many, if_pos many]
    rfl
  rw [if_neg many, if_neg many]
  by_cases none : records = []
  · rw [if_pos none, if_pos (List.length_eq_zero_iff.mpr none)]
    rfl
  · rw [if_neg none, if_neg fun zero => none (List.length_eq_zero_iff.mp zero)]
    show ((store.view.release _) >>= fun _ => Reading.ofExcept (Descriptor.toList _)).result = _
    rw [Reading.result_bind, release_eq]
    exact Descriptor.toList_flatMap readable (Nat.le_of_not_lt many) _ _

theorem getList_of_finds (finds : store.Finds token records)
    (readable : ∀ record ∈ records, Record.IsReadable record) (few : records.length ≤ maxCount)
    (some : records ≠ []) : (store.view.getList α token).result = .ok records := by
  rw [getList_eq finds readable]
  unfold readout
  rw [if_neg (Nat.not_lt.mpr few), if_neg some]

/-- **A store lists the records that it finds.** -/
theorem lists_of_finds (finds : store.Finds .null records)
    (readable : ∀ record ∈ records, Record.IsReadable record) (few : records.length ≤ maxCount) :
    store.view.Lists records := by
  refine ⟨?_, fun some => getList_of_finds finds readable few some⟩
  rw [countOnly_eq finds, if_neg (Nat.not_lt.mpr few)]

end Store

end FirmwareTables
