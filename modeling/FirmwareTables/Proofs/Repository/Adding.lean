/-
**Adding records to a store.**

Storing an entry changes nothing but what is under exactly its id and its token: every selection of
entries that leaves those out stays as it is (`filter_put`). Where the records of one list are found,
adding more puts them at the end of the list (`found_addObjects`), and where nothing is, the new
entry comes in front of all others, which stay as they are (`entries_addObjects`).
-/

import FirmwareTables.Proofs.Repository.Finding
import FirmwareTables.Repository.Access

namespace FirmwareTables

/-! ### Storing one entry -/

namespace Entry

theorem isAt_self (entry : Entry) : entry.isAt entry.id entry.token = true := by
  unfold isAt
  rw [beq_self_eq_true, beq_self_eq_true]
  rfl

theorem isFound_of_isAt {entry : Entry} {id : ObjectId} {token : Token}
    (here : entry.isAt id token = true) : entry.isFound id token = true := by
  obtain ⟨object, place⟩ := Bool.and_eq_true_iff.mp here
  unfold isFound
  rw [object, place, Bool.or_true]
  rfl

end Entry

namespace Store

variable {store : Store} {entry : Entry}

theorem replace?_eq_none {entries : List Entry}
    (absent : ∀ other ∈ entries, other.isAt entry.id entry.token = false) :
    replace? entry entries = none := by
  induction entries with
  | nil => rfl
  | cons first entries ih =>
    have behind := ih fun other inside => absent other (List.mem_cons_of_mem _ inside)
    unfold replace?
    rw [absent first List.mem_cons_self, if_neg Bool.false_ne_true, behind]
    rfl

/-- What has no place yet is put in front. -/
theorem put_of_absent (absent : ∀ other ∈ store.entries, other.isAt entry.id entry.token = false) :
    (store.put entry).entries = entry :: store.entries := by
  unfold put
  rw [replace?_eq_none absent]
  rfl

/-- What has the first place keeps it. -/
theorem put_of_front {old : Entry} {rest : List Entry} (front : store.entries = old :: rest)
    (here : old.isAt entry.id entry.token = true) : (store.put entry).entries = entry :: rest := by
  unfold put replace?
  rw [front]
  dsimp only
  rw [if_pos here]
  rfl

theorem filter_replace? {keep : Entry → Bool}
    (apart : ∀ other : Entry, other.isAt entry.id entry.token = true → keep other = false)
    {entries replaced : List Entry} (done : replace? entry entries = some replaced) :
    replaced.filter keep = entries.filter keep := by
  induction entries generalizing replaced with
  | nil => cases done
  | cons first entries ih =>
    unfold replace? at done
    split at done
    · rename_i here
      cases done
      rw [List.filter_cons, List.filter_cons, apart entry entry.isAt_self, apart first here]
      rfl
    · obtain ⟨rest, behind, rfl⟩ := Option.map_eq_some_iff.mp done
      rw [List.filter_cons, List.filter_cons, ih behind]

/-- **Storing changes nothing elsewhere.** -/
theorem filter_put {keep : Entry → Bool}
    (apart : ∀ other : Entry, other.isAt entry.id entry.token = true → keep other = false) :
    (store.put entry).entries.filter keep = store.entries.filter keep := by
  unfold put
  cases done : replace? entry store.entries with
  | some replaced => exact filter_replace? apart done
  | none =>
    show (entry :: store.entries).filter keep = _
    rw [List.filter_cons, apart entry entry.isAt_self]
    rfl

theorem mem_replace? {entries replaced : List Entry}
    (done : replace? entry entries = some replaced) {other : Entry} (inside : other ∈ replaced) :
    other = entry ∨ other ∈ entries := by
  induction entries generalizing replaced with
  | nil => cases done
  | cons first entries ih =>
    unfold replace? at done
    split at done
    · cases done
      rcases List.mem_cons.mp inside with rfl | inside
      · exact .inl rfl
      · exact .inr (List.mem_cons_of_mem _ inside)
    · obtain ⟨rest, behind, rfl⟩ := Option.map_eq_some_iff.mp done
      rcases List.mem_cons.mp inside with rfl | inside
      · exact .inr List.mem_cons_self
      · exact (ih behind inside).imp id (List.mem_cons_of_mem _)

theorem mem_put {other : Entry} (inside : other ∈ (store.put entry).entries) :
    other = entry ∨ other ∈ store.entries := by
  unfold put at inside
  cases done : replace? entry store.entries with
  | some replaced =>
    rw [done] at inside
    exact mem_replace? done inside
  | none =>
    rw [done] at inside
    exact List.mem_cons.mp inside

theorem replace?_of_found {entries : List Entry} {old : Entry}
    (found : entries.filter (Entry.isFound entry.id entry.token) = [old])
    (here : old.isAt entry.id entry.token = true) :
    ∃ replaced, replace? entry entries = some replaced ∧
      replaced.filter (Entry.isFound entry.id entry.token) = [entry] := by
  induction entries with
  | nil => cases found
  | cons first entries ih =>
    rw [List.filter_cons] at found
    unfold replace?
    by_cases seen : first.isFound entry.id entry.token = true
    · rw [if_pos seen] at found
      obtain ⟨rfl, rest⟩ := List.cons.inj found
      refine ⟨entry :: entries, if_pos here, ?_⟩
      rw [List.filter_cons, Entry.isFound_of_isAt entry.isAt_self, rest]
      rfl
    · rw [if_neg seen] at found
      obtain ⟨replaced, done, rest⟩ := ih found
      refine ⟨first :: replaced, ?_, ?_⟩
      · rw [if_neg fun same => seen (Entry.isFound_of_isAt same), done]
        rfl
      · rw [List.filter_cons, if_neg seen, rest]

/-- An entry is found alone if nothing was found before, or one entry in its place. -/
theorem found_put (before : store.found entry.id entry.token = [] ∨
    ∃ old : Entry, old.isAt entry.id entry.token = true ∧
      store.found entry.id entry.token = [old]) :
    (store.put entry).found entry.id entry.token = [entry] := by
  rcases before with none | ⟨old, here, found⟩
  · have absent : ∀ other ∈ store.entries, other.isAt entry.id entry.token = false := by
      intro other inside
      have lost := List.filter_eq_nil_iff.mp none other inside
      exact Bool.eq_false_iff.mpr fun same => lost (Entry.isFound_of_isAt same)
    show (store.put entry).entries.filter (Entry.isFound entry.id entry.token) = [entry]
    change store.entries.filter (Entry.isFound entry.id entry.token) = [] at none
    rw [put_of_absent absent, List.filter_cons, Entry.isFound_of_isAt entry.isAt_self, none]
    rfl
  · obtain ⟨replaced, done, rest⟩ := replace?_of_found found here
    show (store.put entry).entries.filter (Entry.isFound entry.id entry.token) = [entry]
    unfold put
    rw [done]
    exact rest

end Store

/-! ### Adding records -/

section

variable {α : Type} [Record α]

/-- The entries of a list of records under one token: a single one, unless there are no records. -/
def Entry.listOf (token : Token) : List α → List Entry
  | [] => []
  | record :: records => [Entry.ofRecords token (record :: records)]

theorem Entry.listOf_append (token : Token) (records : List α) (record : α) :
    Entry.listOf token (records ++ [record]) = [Entry.ofRecords token (records ++ [record])] := by
  cases records <;> rfl

namespace Store

variable {store : Store} {token : Token} {known records : List α}

theorem finds_of_listOf (found : store.found (Record.objectId α) token = Entry.listOf token known)
    (few : known.length ≤ maxCount) : store.Finds token known := by
  cases known with
  | nil => exact ⟨[], found, fun _ absurd => (nomatch absurd), rfl⟩
  | cons first rest =>
    refine ⟨[(token, first :: rest)], found, fun group inside => ?_, ?_⟩
    · rw [List.mem_singleton.mp inside]
      exact few
    · rw [List.flatMap_cons, List.flatMap_nil, List.append_nil]

/-- What stands under an id and a token with one more instance at the end. -/
theorem appended_view (store : Store) (id : ObjectId) (token : Token) (bytes : Bytes) :
    (Access.appended store.view id token bytes).result =
      if maxCount < total (store.found id token) then .error (.invalidParameter (.countOverflow id))
      else .ok (total (store.found id token) + 1,
        (if total (store.found id token) = 0 then []
          else (store.found id token).flatMap Entry.data) ++ bytes) := by
  have got : store.view.get id token =
      if maxCount < total (store.found id token) then .error (.invalidParameter (.countOverflow id))
      else if total (store.found id token) = 0 then .error (.notFound id token)
      else .ok ⟨id, token, UInt32.ofNat (total (store.found id token)),
        (store.found id token).flatMap Entry.data⟩ := rfl
  unfold Access.appended
  rw [got]
  by_cases many : maxCount < total (store.found id token)
  · rw [if_pos many, if_pos many]
    rfl
  rw [if_neg many, if_neg many]
  by_cases none : total (store.found id token) = 0
  · rw [if_pos none, if_pos none, none]
    rfl
  · rw [if_neg none, if_neg none]
    dsimp only
    rw [Reading.result_bind, release_eq]
    have count : (UInt32.ofNat (total (store.found id token))).toNat =
        total (store.found id token) := by
      rw [UInt32.toNat_ofNat']
      exact Nat.mod_eq_of_lt (Nat.lt_succ_of_le (Nat.le_of_not_lt many))
    show Except.ok ((UInt32.ofNat (total (store.found id token))).toNat + 1, _) = _
    rw [count]

theorem appended_eq (finds : store.Finds token known) (bytes : Bytes) :
    (Access.appended store.view (Record.objectId α) token bytes).result =
      if maxCount < known.length then
        .error (.invalidParameter (.countOverflow (Record.objectId α)))
      else .ok (known.length + 1, known.flatMap Record.encode ++ bytes) := by
  rw [appended_view, total_found finds]
  by_cases none : known.length = 0
  · rw [if_pos none, List.length_eq_zero_iff.mp none]
    rfl
  · obtain ⟨groups, found, _, rfl⟩ := finds
    rw [if_neg none, found, data_ofRecords]

/-- **Adding one record** stores it behind all records that are found, as long as they can be
counted. -/
theorem addObject_eq (finds : store.Finds token known) (record : α) :
    (Access.live.addObject token record store).result =
      if maxCount < known.length + 1 then
        .error (.invalidParameter (.countOverflow (Record.objectId α)))
      else .ok (store.put (Entry.ofRecords token (known ++ [record]))) := by
  unfold Access.addObject Access.addInstance
  rw [Reading.result_bind]
  show ((Access.appended store.view _ token (Record.encode record)).result >>= _) = _
  rw [appended_eq finds]
  by_cases full : maxCount < known.length
  · rw [if_pos full, if_pos (Nat.lt_succ_of_lt full)]
    rfl
  rw [if_neg full]
  show Reading.result (if maxCount < known.length + 1 then _ else _) = _
  by_cases many : maxCount < known.length + 1
  · rw [if_pos many, if_pos many]
    rfl
  · rw [if_neg many, if_neg many]
    have whole : (known ++ [record]).flatMap Record.encode =
        known.flatMap Record.encode ++ Record.encode record := by
      rw [List.flatMap_append, List.flatMap_cons, List.flatMap_nil, List.append_nil]
    unfold Entry.ofRecords
    rw [List.length_append, List.length_singleton, whole]
    exact if_pos rfl

/-- Adding one record stores an entry under the record's id and the token, if anything. -/
theorem addObject_put {after : Store} {record : α}
    (done : (Access.live.addObject token record store).result = .ok after) :
    ∃ entry : Entry, entry.id = Record.objectId α ∧ entry.token = token ∧
      after = store.put entry := by
  unfold Access.addObject Access.addInstance at done
  rw [Reading.result_bind, bind_eq_ok] at done
  obtain ⟨⟨count, data⟩, _, done⟩ := done
  dsimp only at done
  split at done
  · cases done
  · have stored := (if_pos rfl).symm.trans done
    exact ⟨_, rfl, rfl, (Except.ok.inj stored).symm⟩

/-- One store comes from another by storing entries under an id and a token only. -/
def Rewrites (id : ObjectId) (token : Token) (before after : Store) : Prop :=
  ∀ holds : Store → Prop, (∀ store entry, entry.id = id → entry.token = token → holds store →
    holds (store.put entry)) → holds before → holds after

/-- Adding records rewrites what is under their id and the token, also if it fails after some. -/
theorem rewrites_addObjects (token : Token) (records : List α) (store : Store) :
    store.Rewrites (Record.objectId α) token
      (Access.live.addObjects token records store).store := by
  intro holds step start
  induction records generalizing store with
  | nil => exact start
  | cons record records ih =>
    unfold Access.addObjects at ih ⊢
    rw [List.map_cons]
    unfold Change.inOrder
    dsimp only
    cases done : (Access.live.addObject token record store).result with
    | error error => exact start
    | ok after =>
      obtain ⟨entry, object, place, rfl⟩ := addObject_put done
      exact ih _ (step store entry object place start)

theorem addObjects_cons_ok {record : α}
    (done : (Access.live.addObjects token (record :: records) store).outcome.result = .ok ()) :
    ∃ after, (Access.live.addObject token record store).result = .ok after ∧
      (Access.live.addObjects token records after).outcome.result = .ok () ∧
      (Access.live.addObjects token (record :: records) store).store =
        (Access.live.addObjects token records after).store := by
  unfold Access.addObjects at done ⊢
  rw [List.map_cons, Change.inOrder] at done
  rw [List.map_cons, Change.inOrder]
  dsimp only at done ⊢
  cases made : (Access.live.addObject token record store).result with
  | error error =>
    rw [made] at done
    cases done
  | ok after =>
    rw [made] at done
    exact ⟨after, rfl, done, rfl⟩

/-- **Adding records** that are all accepted puts them at the end of the list. -/
theorem found_addObjects
    (found : store.found (Record.objectId α) token = Entry.listOf token known)
    (few : known.length ≤ maxCount)
    (done : (Access.live.addObjects token records store).outcome.result = .ok ()) :
    (known ++ records).length ≤ maxCount ∧
      (Access.live.addObjects token records store).store.found (Record.objectId α) token =
        Entry.listOf token (known ++ records) := by
  induction records generalizing store known with
  | nil =>
    rw [List.append_nil]
    exact ⟨few, found⟩
  | cons record records ih =>
    obtain ⟨after, first, rest, whole⟩ := addObjects_cons_ok done
    rw [addObject_eq (finds_of_listOf found few)] at first
    split at first
    · cases first
    · rename_i many
      cases first
      have place : (Entry.ofRecords token known).isAt (Record.objectId α) token = true :=
        Entry.isAt_self _
      have before : store.found (Record.objectId α) token = [] ∨ ∃ old : Entry,
          old.isAt (Record.objectId α) token = true ∧
            store.found (Record.objectId α) token = [old] := by
        rw [found]
        cases known with
        | nil => exact .inl rfl
        | cons => exact .inr ⟨_, place, rfl⟩
      have here : (store.put (Entry.ofRecords token (known ++ [record]))).found
          (Record.objectId α) token = Entry.listOf token (known ++ [record]) := by
        rw [Entry.listOf_append]
        exact @found_put store (Entry.ofRecords token (known ++ [record])) before
      have enough : (known ++ [record]).length ≤ maxCount := by
        rw [List.length_append]
        exact Nat.le_of_not_lt many
      have tail := ih here enough rest
      rw [List.append_assoc] at tail
      rw [whole]
      exact tail

/-- Adding more records to those in front keeps everything behind as it is. -/
theorem entries_addObjects_front {rest : List Entry} {record : α}
    (front : store.entries = Entry.ofRecords token (record :: known) :: rest)
    (few : (record :: known).length ≤ maxCount)
    (apart : ∀ entry ∈ rest, entry.isFound (Record.objectId α) token = false)
    (done : (Access.live.addObjects token records store).outcome.result = .ok ()) :
    (Access.live.addObjects token records store).store.entries =
      Entry.ofRecords token (record :: known ++ records) :: rest := by
  induction records generalizing store known with
  | nil =>
    rw [List.append_nil]
    exact front
  | cons next records ih =>
    obtain ⟨after, first, more, whole⟩ := addObjects_cons_ok done
    have place : (Entry.ofRecords token (record :: known)).isAt (Record.objectId α) token = true :=
      Entry.isAt_self _
    have found : store.found (Record.objectId α) token = Entry.listOf token (record :: known) := by
      unfold Store.found
      rw [front, List.filter_cons, Entry.isFound_of_isAt place,
        List.filter_eq_nil_iff.mpr fun entry inside => Bool.eq_false_iff.mp (apart entry inside)]
      rfl
    rw [addObject_eq (finds_of_listOf found few)] at first
    split at first
    · cases first
    · rename_i enough
      cases first
      have replaced : (store.put (Entry.ofRecords token (record :: known ++ [next]))).entries =
          Entry.ofRecords token (record :: (known ++ [next])) :: rest :=
        put_of_front front place
      rw [whole, ih replaced (Nat.le_of_not_lt (by simpa using enough)) more]
      simp only [List.cons_append, List.append_assoc, List.nil_append]

/-- **Records under an unused token** come in front of all entries. -/
theorem entries_addObjects {record : α}
    (absent : ∀ entry ∈ store.entries, entry.isAt (Record.objectId α) token = false)
    (named : token.isNull = false)
    (done : (Access.live.addObjects token (record :: records) store).outcome.result = .ok ()) :
    (Access.live.addObjects token (record :: records) store).store.entries =
      Entry.ofRecords token (record :: records) :: store.entries := by
  have unseen : ∀ entry ∈ store.entries, entry.isFound (Record.objectId α) token = false := by
    intro entry inside
    unfold Entry.isFound
    rw [named, Bool.false_or]
    exact absent entry inside
  have found : store.found (Record.objectId α) token = Entry.listOf token ([] : List α) :=
    List.filter_eq_nil_iff.mpr fun entry inside => Bool.eq_false_iff.mp (unseen entry inside)
  obtain ⟨after, first, rest, whole⟩ := addObjects_cons_ok done
  have few : ¬ maxCount < ([] : List α).length + 1 := Nat.not_lt.mpr (by decide : 1 ≤ maxCount)
  rw [addObject_eq (finds_of_listOf found (Nat.zero_le _)), if_neg few] at first
  cases first
  rw [whole]
  exact entries_addObjects_front (put_of_absent absent) (Nat.le_of_not_lt few) unseen rest

/-- Replacing records that can be counted never fails. -/
theorem setObjects_eq (few : records.length ≤ maxCount) :
    Access.live.setObjects token records store =
      .ok (store.put (Entry.ofRecords token records)) := by
  unfold Access.setObjects Descriptor.ofList
  rw [if_pos few]
  exact if_pos rfl

end Store

end

end FirmwareTables
