/-
**The records that a store holds.**

The instances of an object may be scattered over many entries, each with a token of its own. A store
`Holds` records if the entries of their object, taken together, count as many and spell just these,
however the entries share them. For records whose bytes can always be read this is all there is to
know about a store.

* `payload`: the bytes of all entries of an object;
* `getList_eq_ok`: a list that is read is one that the store holds;
* `lists_iff`: what the store's view lists are the records that the store holds.
-/

import FirmwareTables.Proofs.Record.Spelling
import FirmwareTables.Proofs.Repository.Finding

namespace FirmwareTables

namespace Store

/-- All that is stored under an id, with whatever token. -/
def payload (store : Store) (id : ObjectId) : Bytes := (store.found id .null).flatMap Entry.data

variable {α : Type} [Record α]

/-- All entries of an object together are these records, however they are shared out. -/
structure Holds (store : Store) (records : List α) : Prop where
  /-- The entries count as many instances. -/
  counted : total (store.found (Record.objectId α) .null) = records.length
  /-- So many can be counted. -/
  few : records.length ≤ maxCount
  /-- If there are any, the bytes are those of the records. -/
  spelled : records ≠ [] → store.payload (Record.objectId α) = records.flatMap Record.encode

variable {store : Store} {records : List α}

/-- What is got under the null token is the number and the bytes of all instances. -/
theorem get_null_eq_ok {id : ObjectId} {descriptor : Descriptor}
    (got : store.get id .null = .ok descriptor) :
    descriptor.count.toNat = total (store.found id .null) ∧
      total (store.found id .null) ≤ maxCount ∧ descriptor.data = store.payload id := by
  unfold get at got
  dsimp only at got
  split at got
  · cases got
  split at got
  · cases got
  rename_i few _
  cases got
  have small := Nat.le_of_not_lt few
  refine ⟨?_, small, rfl⟩
  rw [UInt32.toNat_ofNat']
  exact Nat.mod_eq_of_lt (Nat.lt_succ_of_le small)

/-- Records that are listed without a token are all that is stored. -/
theorem payload_of_getList (spelled : HaveOneSpelling (Record.fields α))
    (listed : (store.view.getList α .null).result = .ok records) :
    store.payload (Record.objectId α) = records.flatMap Record.encode := by
  rw [getList_view] at listed
  obtain ⟨descriptor, got, read⟩ := bind_eq_ok.mp listed
  rw [← (get_null_eq_ok got).2.2]
  exact (Descriptor.data_of_toList spelled read).2

/-- Held records are got in one piece. -/
theorem Holds.get_eq (holds : store.Holds records) (some : records ≠ []) :
    store.get (Record.objectId α) .null = .ok ⟨Record.objectId α, .null,
      UInt32.ofNat records.length, records.flatMap Record.encode⟩ := by
  have filled : records.length ≠ 0 := fun none => some (List.length_eq_zero_iff.mp none)
  rw [← holds.spelled some]
  unfold get
  dsimp only
  rw [holds.counted, if_neg (Nat.not_lt.mpr holds.few), if_neg filled]
  rfl

/-- **A list of records is read** exactly if the store holds it. -/
theorem getList_eq_ok (fixed : ∀ field ∈ Record.fields α, field.kind.IsFixed = true)
    (some : records ≠ []) :
    (store.view.getList α .null).result = .ok records ↔ store.Holds records := by
  constructor
  · intro listed
    have spelled := payload_of_getList (haveOneSpelling_of_isFixed fixed) listed
    rw [getList_view] at listed
    obtain ⟨descriptor, got, read⟩ := bind_eq_ok.mp listed
    obtain ⟨count, few, _⟩ := get_null_eq_ok got
    rw [← count, ← Descriptor.length_toList read] at few
    exact ⟨by rw [← count, Descriptor.length_toList read], few, fun _ => spelled⟩
  · intro holds
    rw [getList_view, holds.get_eq some]
    exact Descriptor.toList_flatMap (Record.areReadable fixed records) holds.few _ _

/-- **A store lists the records that it holds**, and no others. -/
theorem lists_iff (fixed : ∀ field ∈ Record.fields α, field.kind.IsFixed = true) :
    store.view.Lists records ↔ store.Holds records := by
  unfold View.Lists
  rw [countOnly_eq_total]
  constructor
  · rintro ⟨counted, listed⟩
    split at counted
    · cases counted
    rename_i few
    have same := Except.ok.inj counted
    rw [same] at few
    exact ⟨same, Nat.le_of_not_lt few,
      fun some => ((getList_eq_ok fixed some).mp (listed some)).spelled some⟩
  · intro holds
    rw [holds.counted, if_neg (Nat.not_lt.mpr holds.few)]
    exact ⟨rfl, fun some => (getList_eq_ok fixed some).mpr holds⟩

end Store

end FirmwareTables
