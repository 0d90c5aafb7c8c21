/-
**The requests of a description, as they are read again.**

The requests of a description are stored with the texts of their names. Where the description was
read from such texts itself, all of them are listed again, in order and with all fields but one
equal: the generator comes back as the `canonical` id of its text (`requests_reread`). So they are
the declared ones exactly if every generator id is canonical; a vendor's id in hexadecimal may not be
(`requests_changed`).
-/

import FirmwareTables.Generator.Registry
import FirmwareTables.Proofs.Platform.Applying
import FirmwareTables.Proofs.Record.Requests

namespace FirmwareTables

namespace TableRequest

/-- The names in a request were read from texts. -/
def IsNamed (request : TableRequest) : Prop :=
  (∃ text, Signature.read text = .ok request.signature) ∧
    ∃ text, GeneratorId.read text = .ok request.generatorId

theorem reread_eq_iff {request : TableRequest} :
    request.reread = request ↔ request.generatorId.canonical = request.generatorId := by
  constructor
  · exact fun same => congrArg TableRequest.generatorId same
  · intro same
    unfold reread
    rw [same]

theorem map_reread_eq_iff {requests : List TableRequest} :
    requests.map reread = requests ↔
      ∀ request ∈ requests, request.generatorId.canonical = request.generatorId := by
  have pointwise : requests.map reread = requests ↔ ∀ request ∈ requests,
      request.reread = id request := by
    rw [← List.map_inj_left, List.map_id]
  rw [pointwise]
  exact forall₂_congr fun request _ => reread_eq_iff

/-- **What is stored of a named request can be read.** -/
theorem isReadable_of_isNamed {request : TableRequest} (named : request.IsNamed) :
    Record.IsReadable request.reread := by
  obtain ⟨⟨_, done⟩, _⟩ := named
  exact isReadable_reread (Signature.graphic_of_read done)

end TableRequest

/-! ### Reading requests -/

/-- The entry of some requests holds them as they are read again. -/
theorem Entry.listOf_reread (requests : List TableRequest) :
    Entry.listOf .null (requests.map TableRequest.reread) = Entry.listOf .null requests := by
  have same : ∀ requests : List TableRequest,
      Entry.ofRecords .null (requests.map TableRequest.reread) = Entry.ofRecords .null requests := by
    intro requests
    unfold Entry.ofRecords
    rw [List.length_map, TableRequest.flatMap_reread]
  cases requests with
  | nil => rfl
  | cons request requests => exact congrArg (fun entry => [entry]) (same (request :: requests))

/-- **Named requests are read again**, each with the canonical id of its generator. -/
theorem requests_of_found {store : Store} {requests : List TableRequest} (some : requests ≠ [])
    (named : ∀ request ∈ requests, request.IsNamed) (few : requests.length ≤ maxCount)
    (found : store.found (Record.objectId TableRequest) .null = Entry.listOf .null requests) :
    (Registry.requests store.view).result = .ok (requests.map TableRequest.reread) := by
  rw [← Entry.listOf_reread] at found
  have finds := Store.finds_of_listOf found (by rw [List.length_map]; exact few)
  have readable : ∀ request ∈ requests.map TableRequest.reread, Record.IsReadable request := by
    intro request inside
    obtain ⟨declared, member, rfl⟩ := List.mem_map.mp inside
    exact TableRequest.isReadable_of_isNamed (named declared member)
  have read := Store.getList_of_finds finds readable (by rw [List.length_map]; exact few)
    fun none => some (List.map_eq_nil_iff.mp none)
  unfold Registry.requests
  rw [Reading.result_mapError, read]
  rfl

namespace Platform

variable {σ : Type} {platform : Platform} {manager after : Manager σ}

/-- The requests of a description are stored behind those that are there. -/
theorem found_requests {known : List TableRequest} (few : known.length ≤ maxCount)
    (found : manager.configuration.store.found (Record.objectId TableRequest) .null =
      Entry.listOf .null known)
    (accepted : platform.apply manager = (.ok (), after)) :
    (known ++ platform.tables).length ≤ maxCount ∧
      after.configuration.store.found (Record.objectId TableRequest) .null =
        Entry.listOf .null (known ++ platform.tables) := by
  obtain ⟨info, _, taken, stored⟩ := taken_of_apply accepted
  obtain ⟨others, split, apart⟩ := platform.deposits_tables manager.configuration.issued
  -- The record about the vendor is another object, and so is all that comes behind the requests.
  let start := manager.configuration.store.put (.ofRecords .null [info])
  have there : start.found (Record.objectId TableRequest) .null = Entry.listOf .null known := by
    rw [← found]
    refine Store.filter_put fun other here => Bool.eq_false_iff.mpr fun seen => ?_
    have own := eq_of_beq (Bool.and_eq_true_iff.mp here).1
    have same := eq_of_beq (Bool.and_eq_true_iff.mp seen).1
    exact (by decide : Record.objectId TableRequest ≠ Record.objectId ManagerInfo)
      (same.symm.trans own)
  have front : (start.take (platform.tables.map (Deposit.ofRecord .null))).outcome.result =
      .ok () := by
    cases early : (start.take (platform.tables.map (Deposit.ofRecord .null))).outcome.result with
    | ok value => rfl
    | error error =>
      rw [split, (Store.take_append_error _ others early).2] at taken
      cases taken
  rw [stored, split, (Store.take_append _ others front).1, Store.found_take apart]
  rw [← addObjects_eq_take] at front ⊢
  exact Store.found_addObjects there few front

/-- **The requests that are read again.** After a description with named requests was applied to a
newly installed manager, its requests are listed in order, each with the canonical id of its
generator; they are the declared ones exactly if all those ids are canonical. -/
theorem requests_reread {host : σ} (named : ∀ request ∈ platform.tables, request.IsNamed)
    (some : platform.tables ≠ [])
    (accepted : platform.apply (Manager.new host).install.step.manager = (.ok (), after)) :
    (Registry.requests after.configuration.store.view).result =
        .ok (platform.tables.map TableRequest.reread) ∧
      ((Registry.requests after.configuration.store.view).result = .ok platform.tables ↔
        ∀ request ∈ platform.tables, request.generatorId.canonical = request.generatorId) := by
  have empty : (Manager.new host).install.step.manager.configuration.store.found
      (Record.objectId TableRequest) .null = Entry.listOf .null ([] : List TableRequest) := rfl
  obtain ⟨few, found⟩ := found_requests (Nat.zero_le _) empty accepted
  have read := requests_of_found some named few found
  refine ⟨read, ?_⟩
  rw [read, Except.ok.injEq, TableRequest.map_reread_eq_iff]

/-- Two requests, the second for the generator of a vendor that is given in hexadecimal. -/
def vendored : Platform :=
  { (default : Platform) with
    tables := [⟨.iort, 0, .iort, 0, 0⟩, ⟨.apic, 5, ⟨0x80000005⟩, 0, 0⟩] }

theorem vendored_isNamed : ∀ request ∈ vendored.tables, request.IsNamed := by
  intro request inside
  rcases List.mem_cons.mp inside with rfl | inside
  · exact ⟨⟨"IORT", by decide +kernel⟩, ⟨"Iort", by decide +kernel⟩⟩
  · rw [List.mem_singleton.mp inside]
    exact ⟨⟨"APIC", by decide +kernel⟩, ⟨"0x80000005", by decide +kernel⟩⟩

theorem vendored_accepted : vendored.apply (Manager.new ()).install.step.manager =
    (.ok (), (vendored.apply (Manager.new ()).install.step.manager).2) :=
  apply_of_accepted (by decide +kernel)

theorem requests_reread_vendored :
    ∃ after : Manager Unit,
      vendored.apply (Manager.new ()).install.step.manager = (.ok (), after) ∧
      (Registry.requests after.configuration.store.view).result =
        .ok [⟨.iort, 0, .iort, 0, 0⟩, ⟨.apic, 5, ⟨0x81000005⟩, 0, 0⟩] := by
  obtain ⟨read, _⟩ := requests_reread vendored_isNamed (List.cons_ne_nil _ _) vendored_accepted
  exact ⟨_, vendored_accepted, read⟩

/-- **A generator id may change.** The request for a vendor's generator is not read again as it was
declared. -/
theorem requests_changed :
    (∀ request ∈ vendored.tables, request.IsNamed) ∧ vendored.validate = .ok () ∧
      ∃ after : Manager Unit,
        vendored.apply (Manager.new ()).install.step.manager = (.ok (), after) ∧
        (Registry.requests after.configuration.store.view).result ≠ .ok vendored.tables := by
  refine ⟨vendored_isNamed, by decide +kernel, _, vendored_accepted, by decide +kernel⟩

end Platform

end FirmwareTables
