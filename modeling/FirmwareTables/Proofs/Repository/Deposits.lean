/-
**Deposits.**

A `Deposit` is a record on its way into a store: the object that it is, the token that it goes to,
and its bytes. A store takes deposits one after the other and stops at the first that meets as many
instances as can be counted; that is the only reason to refuse one (`change_eq`).

* `take_eq_ok_iff`: all deposits are taken if and only if the store has room for each of them;
* `take_eq_error`: otherwise the first one without room is refused, and those before it are stored.
-/

import FirmwareTables.Proofs.Repository.Adding

namespace FirmwareTables

/-- A record on its way into a store. -/
structure Deposit where
  /-- The object. -/
  id : ObjectId
  /-- The token that it goes to. -/
  token : Token
  /-- The bytes of the record. -/
  bytes : Bytes
  deriving DecidableEq

namespace Deposit

/-- A record that goes to a token. -/
def ofRecord {α : Type} [Record α] (token : Token) (record : α) : Deposit :=
  ⟨Record.objectId α, token, Record.encode record⟩

/-- Adds the record to a store. -/
def change (deposit : Deposit) : Change :=
  Access.live.addInstance deposit.id deposit.token deposit.bytes

/-- The number of instances found where the record goes to. -/
def met (deposit : Deposit) (store : Store) : Nat :=
  Store.total (store.found deposit.id deposit.token)

/-- What is stored: the record behind everything that was found. -/
def entry (deposit : Deposit) (store : Store) : Entry where
  id := deposit.id
  token := deposit.token
  count := UInt32.ofNat (deposit.met store + 1)
  data :=
    (if deposit.met store = 0 then []
      else (store.found deposit.id deposit.token).flatMap Entry.data) ++ deposit.bytes

/-- **Adding a record** only fails where as many instances are found as can be counted. -/
theorem change_eq (deposit : Deposit) (store : Store) :
    (deposit.change store).result =
      if deposit.met store < maxCount then .ok (store.put (deposit.entry store))
      else .error (.invalidParameter (.countOverflow deposit.id)) := by
  unfold change Access.addInstance
  rw [Reading.result_bind]
  show ((Access.appended store.view deposit.id deposit.token deposit.bytes).result >>= _) = _
  rw [Store.appended_view]
  change ((if maxCount < deposit.met store then Except.error _ else .ok _) >>= _) = _
  -- The count is checked twice: what is found has to be countable, and one more too.
  by_cases room : deposit.met store < maxCount
  · have enough : ¬ maxCount < deposit.met store + 1 := Nat.not_lt.mpr room
    rw [if_neg (Nat.not_lt_of_gt room), if_pos room]
    show Reading.result (if maxCount < deposit.met store + 1 then _ else _) = _
    rw [if_neg enough]
    exact if_pos rfl
  · rw [if_neg room]
    by_cases many : maxCount < deposit.met store
    · rw [if_pos many]
      rfl
    · rw [if_neg many]
      show Reading.result (if maxCount < deposit.met store + 1 then _ else _) = _
      rw [if_pos (Nat.lt_succ_of_le (Nat.le_of_not_lt room))]
      rfl

end Deposit

namespace Store

/-- Takes deposits one after the other, up to the first that is refused. -/
def take (store : Store) (deposits : List Deposit) : Progress :=
  Change.inOrder (deposits.map Deposit.change) store

/-- Wherever a deposit goes to, more instances can be counted than are found by then. -/
def HasRoom (store : Store) (deposits : List Deposit) : Prop :=
  ∀ before deposit after, deposits = before ++ deposit :: after →
    deposit.met (store.take before).store < maxCount

variable {store : Store} {deposit : Deposit} {deposits : List Deposit}

theorem take_cons (room : deposit.met store < maxCount) :
    (store.take (deposit :: deposits)).store =
        ((store.put (deposit.entry store)).take deposits).store ∧
      (store.take (deposit :: deposits)).outcome.result =
        ((store.put (deposit.entry store)).take deposits).outcome.result := by
  have made := deposit.change_eq store
  rw [if_pos room] at made
  unfold take
  rw [List.map_cons, Change.inOrder]
  dsimp only
  rw [made]
  exact ⟨rfl, rfl⟩

/-- A single deposit, for which there is room. -/
theorem take_one (room : deposit.met store < maxCount) :
    (store.take [deposit]).store = store.put (deposit.entry store) ∧
      (store.take [deposit]).outcome.result = .ok () :=
  take_cons room

theorem take_cons_full (full : maxCount ≤ deposit.met store) :
    (store.take (deposit :: deposits)).store = store ∧
      (store.take (deposit :: deposits)).outcome.result =
        .error (.invalidParameter (.countOverflow deposit.id)) := by
  have failed := deposit.change_eq store
  rw [if_neg (Nat.not_lt.mpr full)] at failed
  unfold take
  rw [List.map_cons, Change.inOrder]
  dsimp only
  rw [failed]
  exact ⟨rfl, rfl⟩

/-- More deposits come after those that were taken. -/
theorem take_append (first second : List Deposit)
    (taken : (store.take first).outcome.result = .ok ()) :
    (store.take (first ++ second)).store = ((store.take first).store.take second).store ∧
      (store.take (first ++ second)).outcome.result =
        ((store.take first).store.take second).outcome.result := by
  induction first generalizing store with
  | nil => exact ⟨rfl, rfl⟩
  | cons deposit first ih =>
    by_cases room : deposit.met store < maxCount
    · obtain ⟨last, result⟩ := @take_cons store deposit first room
      rw [List.cons_append, (take_cons room).1, (take_cons room).2, last]
      exact ih (result.symm.trans taken)
    · rw [(take_cons_full (Nat.le_of_not_lt room)).2] at taken
      cases taken

/-- Nothing comes after a deposit that was refused. -/
theorem take_append_error (first second : List Deposit) {error : RepositoryError}
    (refused : (store.take first).outcome.result = .error error) :
    (store.take (first ++ second)).store = (store.take first).store ∧
      (store.take (first ++ second)).outcome.result = .error error := by
  induction first generalizing store with
  | nil => cases refused
  | cons deposit first ih =>
    by_cases room : deposit.met store < maxCount
    · obtain ⟨last, result⟩ := @take_cons store deposit first room
      rw [List.cons_append, (take_cons room).1, (take_cons room).2, last]
      exact ih (result.symm.trans refused)
    · have full := Nat.le_of_not_lt room
      rw [(take_cons_full full).2] at refused
      rw [List.cons_append, (take_cons_full full).1, (take_cons_full full).1,
        (take_cons_full full).2]
      exact ⟨rfl, refused⟩

theorem hasRoom_cons (room : deposit.met store < maxCount) :
    store.HasRoom (deposit :: deposits) ↔
      (store.put (deposit.entry store)).HasRoom deposits := by
  constructor
  · intro rooms before next after split
    have there := rooms (deposit :: before) next after (by rw [split]; rfl)
    rw [(take_cons room).1] at there
    exact there
  · intro rooms before next after split
    cases before with
    | nil =>
      obtain ⟨rfl, _⟩ := List.cons.inj split
      exact room
    | cons first before =>
      obtain ⟨rfl, behind⟩ := List.cons.inj split
      rw [(take_cons room).1]
      exact rooms before next after behind

/-- **All deposits are taken** if and only if there is room for each. -/
theorem take_eq_ok_iff :
    (store.take deposits).outcome.result = .ok () ↔ store.HasRoom deposits := by
  induction deposits generalizing store with
  | nil =>
    refine ⟨fun _ before deposit after split => ?_, fun _ => rfl⟩
    exact absurd split.symm (List.append_ne_nil_of_right_ne_nil _ (List.cons_ne_nil _ _))
  | cons deposit deposits ih =>
    by_cases room : deposit.met store < maxCount
    · rw [(take_cons room).2, hasRoom_cons room]
      exact ih
    · rw [(take_cons_full (Nat.le_of_not_lt room)).2]
      exact ⟨nofun, fun rooms => absurd (rooms [] deposit deposits rfl) room⟩

/-- **The first deposit without room is refused**, with those before it stored. -/
theorem take_eq_error {error : RepositoryError}
    (refused : (store.take deposits).outcome.result = .error error) :
    ∃ before deposit after, deposits = before ++ deposit :: after ∧ store.HasRoom before ∧
      maxCount ≤ deposit.met (store.take before).store ∧
      error = .invalidParameter (.countOverflow deposit.id) ∧
      (store.take deposits).store = (store.take before).store := by
  induction deposits generalizing store with
  | nil => cases refused
  | cons deposit deposits ih =>
    by_cases room : deposit.met store < maxCount
    · obtain ⟨last, result⟩ := @take_cons store deposit deposits room
      obtain ⟨before, next, after, split, rooms, full, cause, stored⟩ :=
        ih (result.symm.trans refused)
      refine ⟨deposit :: before, next, after, by rw [split]; rfl, (hasRoom_cons room).mpr rooms,
        ?_, cause, ?_⟩
      · rw [(take_cons room).1]
        exact full
      · rw [last, (take_cons room).1]
        exact stored
    · have full := Nat.le_of_not_lt room
      obtain ⟨kept, cause⟩ := @take_cons_full store deposit deposits full
      refine ⟨[], deposit, deposits, rfl, take_eq_ok_iff.mp rfl, full, ?_, kept⟩
      exact (Except.error.inj (cause.symm.trans refused)).symm

/-- **What is found of other objects stays.** -/
theorem found_take {id : ObjectId} (apart : ∀ deposit ∈ deposits, deposit.id ≠ id)
    (token : Token) : (store.take deposits).store.found id token = store.found id token := by
  induction deposits generalizing store with
  | nil => rfl
  | cons deposit deposits ih =>
    by_cases room : deposit.met store < maxCount
    · rw [(take_cons room).1, ih fun other inside => apart other (List.mem_cons_of_mem _ inside)]
      refine filter_put fun other here => Bool.eq_false_iff.mpr fun seen => ?_
      have own := eq_of_beq (Bool.and_eq_true_iff.mp here).1
      have same := eq_of_beq (Bool.and_eq_true_iff.mp seen).1
      exact apart deposit List.mem_cons_self (own.symm.trans same)
    · rw [(take_cons_full (Nat.le_of_not_lt room)).1]

end Store

/-- Adding records is taking their deposits. -/
theorem addObjects_eq_take {α : Type} [Record α] (token : Token) (records : List α)
    (store : Store) :
    Access.live.addObjects token records store =
      store.take (records.map (Deposit.ofRecord token)) := by
  unfold Access.addObjects Store.take
  rw [List.map_map]
  rfl

end FirmwareTables
