/-
**Adding many instances.**

Under a token other than the null token it makes no difference in which way instances are added:
record by record, all records at once, or as bytes that are cut into pieces of one size. The entry
for the id and the token grows by as many instances and by all the bytes, wherever these are cut
(`take_all`), and where there was no entry before it is the one that replacing would store.

What cannot be counted any more is refused, with all that was counted before it stored: of bytes
that are cut into pieces, just as many pieces as there was room for (`take_some`).

* `flatten_take_pieces`: pieces put together are the bytes that they were cut from;
* `bulk_additions`: the ways of adding records, and what becomes of bytes of any length.
-/

import FirmwareTables.Proofs.Record.Exactness
import FirmwareTables.Proofs.Repository.Appending

namespace FirmwareTables

/-! ### Cutting bytes -/

namespace Access

theorem length_pieces (size : Nat) (bytes : Bytes) :
    (pieces size bytes).length = bytes.length / size := by
  unfold pieces
  rw [List.length_map, List.length_range]

/-- **The first pieces** are the first bytes: none is left out and none comes twice. -/
theorem flatten_take_pieces {size count : Nat} {bytes : Bytes} (few : count ≤ bytes.length / size) :
    ((pieces size bytes).take count).flatten = bytes.take (count * size) := by
  unfold pieces
  rw [← List.map_take, List.take_range, Nat.min_eq_left few]
  clear few
  induction count with
  | zero => rw [Nat.zero_mul]; rfl
  | succ count ih =>
    rw [List.range_succ, List.map_append, List.flatten_append, ih, Nat.succ_mul, List.take_add]
    simp

/-- All pieces together are all the bytes, if their number divides the length. -/
theorem flatten_pieces {items : Nat} {bytes : Bytes} (even : items ∣ bytes.length)
    (some : bytes ≠ []) : (pieces (bytes.length / items) bytes).length = items ∧
      (pieces (bytes.length / items) bytes).flatten = bytes := by
  have long : 0 < bytes.length := List.length_pos_iff.mpr some
  have count : bytes.length / (bytes.length / items) = items := Nat.div_div_self even (by omega)
  have length := (length_pieces (bytes.length / items) bytes).trans count
  have whole := flatten_take_pieces (Nat.le_of_eq count.symm)
  rw [List.take_of_length_le (Nat.le_of_eq length), Nat.mul_div_cancel' even,
    List.take_length] at whole
  exact ⟨length, whole⟩

end Access

namespace Store

variable {store : Store} {id : ObjectId} {token : Token} {chunks : List Bytes}

/-! ### Storing twice -/

theorem replace?_replace? {first second : Entry} (same : first.key = second.key)
    {entries replaced : List Entry} (done : replace? first entries = some replaced) :
    replace? second replaced = replace? second entries := by
  induction entries generalizing replaced with
  | nil => cases done
  | cons head entries ih =>
    unfold replace? at done
    split at done
    · rename_i here
      cases done
      have there := (Entry.isAt_iff.mp here).trans same
      rw [replace?, replace?, if_pos (Entry.isAt_iff.mpr same), if_pos (Entry.isAt_iff.mpr there)]
    · rename_i elsewhere
      obtain ⟨rest, behind, rfl⟩ := Option.map_eq_some_iff.mp done
      have apart : ¬ head.isAt second.id second.token = true := fun there =>
        elsewhere (Entry.isAt_iff.mpr ((Entry.isAt_iff.mp there).trans same.symm))
      rw [replace?, replace?, if_neg apart, if_neg apart, ih behind]

/-- **What is stored last** under a key counts. -/
theorem put_put {first second : Entry} (same : first.key = second.key) :
    (store.put first).put second = store.put second := by
  unfold put
  cases done : replace? first store.entries with
  | none =>
    have absent := replace?_eq_none_iff.mp done
    rw [same] at absent
    dsimp only [Option.getD_none]
    rw [replace?, if_pos (Entry.isAt_iff.mpr same), replace?_eq_none_iff.mpr absent]
    rfl
  | some replaced =>
    dsimp only [Option.getD_some]
    rw [replace?_replace? same done]
    cases again : replace? second store.entries with
    | some _ => rfl
    | none =>
      have absent := replace?_eq_none_iff.mp again
      rw [← same] at absent
      rw [replace?_eq_none_iff.mpr absent] at done
      cases done

/-! ### Instances under a token -/

/-- The entry for an id and a token, grown by some instances. -/
def grown (store : Store) (id : ObjectId) (token : Token) (items : Nat) (bytes : Bytes) : Entry :=
  ⟨id, token, UInt32.ofNat (store.countAt id token + items), store.dataAt id token ++ bytes⟩

theorem countAt_le (store : Store) (id : ObjectId) (token : Token) :
    store.countAt id token ≤ maxCount := by
  unfold countAt
  cases store.entryAt? id token with
  | none => exact Nat.zero_le _
  | some entry => exact Nat.le_of_lt_succ entry.count.toNat_lt

theorem countAt_put (distinct : store.keys.Nodup) (entry : Entry) :
    (store.put entry).countAt entry.id entry.token = entry.count.toNat := by
  rw [countAt, entryAt?_put distinct]
  rfl

theorem dataAt_put (distinct : store.keys.Nodup) {entry : Entry} (some : entry.count ≠ 0) :
    (store.put entry).dataAt entry.id entry.token = entry.data := by
  rw [dataAt, entryAt?_put distinct]
  exact if_neg some

theorem toNat_grown {items : Nat} (few : store.countAt id token + items ≤ maxCount)
    (bytes : Bytes) : (store.grown id token items bytes).count.toNat =
      store.countAt id token + items := by
  show (UInt32.ofNat _).toNat = _
  rw [UInt32.toNat_ofNat']
  exact Nat.mod_eq_of_lt (Nat.lt_succ_of_le few)

theorem entry_tagged (distinct : store.keys.Nodup) (named : token ≠ .null) (bytes : Bytes) :
    Deposit.entry ⟨id, token, bytes⟩ store = store.grown id token 1 bytes := by
  have count : Deposit.met ⟨id, token, bytes⟩ store = _ := met_tagged distinct named bytes
  have data : Deposit.known ⟨id, token, bytes⟩ store = _ := known_tagged distinct named bytes
  unfold Deposit.known at data
  unfold Deposit.entry grown
  rw [count] at data ⊢
  rw [data]

/-- Growing twice is growing once by both. -/
theorem grown_put (distinct : store.keys.Nodup) {first second : Nat} (some : 0 < first)
    (few : store.countAt id token + first ≤ maxCount) (front back : Bytes) :
    (store.put (store.grown id token first front)).grown id token second back =
      store.grown id token (first + second) (front ++ back) := by
  have count := (countAt_put distinct (store.grown id token first front)).trans
    (toNat_grown few front)
  have filled : (store.grown id token first front).count ≠ 0 := by
    rw [← UInt32.toNat_inj.ne, toNat_grown few]
    exact Nat.ne_of_gt (Nat.add_pos_right _ some)
  have data : dataAt _ id token = _ := dataAt_put distinct filled
  have total : countAt _ id token = _ := count
  unfold grown at data total ⊢
  rw [data, total, Nat.add_assoc, List.append_assoc]

/-- **Chunks that can all be counted** are all stored, one behind the other. -/
theorem take_all (distinct : store.keys.Nodup) (named : token ≠ .null)
    (few : store.countAt id token + chunks.length ≤ maxCount) :
    (store.take (chunks.map (Deposit.mk id token))).outcome.result = .ok () ∧
      (chunks ≠ [] → (store.take (chunks.map (Deposit.mk id token))).store =
        store.put (store.grown id token chunks.length chunks.flatten)) := by
  induction chunks generalizing store with
  | nil => exact ⟨rfl, fun absurd => (absurd rfl).elim⟩
  | cons bytes chunks ih =>
    rw [List.length_cons] at few
    have room : Deposit.met ⟨id, token, bytes⟩ store < maxCount := by
      rw [met_tagged distinct named]
      omega
    obtain ⟨last, result⟩ :=
      @take_cons store ⟨id, token, bytes⟩ (chunks.map (Deposit.mk id token)) room
    rw [entry_tagged distinct named] at last result
    have one : store.countAt id token + 1 ≤ maxCount := by omega
    have count := (countAt_put distinct (store.grown id token 1 bytes)).trans (toNat_grown one bytes)
    have rest := @ih (store.put (store.grown id token 1 bytes)) (nodup_put distinct) (by
      have there : countAt _ id token = _ := count
      rw [there]
      omega)
    rw [List.map_cons]
    refine ⟨result.trans rest.1, fun _ => last.trans ?_⟩
    cases chunks with
    | nil =>
      rw [List.flatten_cons, List.flatten_nil, List.append_nil]
      rfl
    | cons next chunks =>
      have both : (store.grown id token 1 bytes).key = (store.grown id token
        (1 + (next :: chunks).length) (bytes ++ (next :: chunks).flatten)).key := rfl
      rw [rest.2 (List.cons_ne_nil _ _), grown_put distinct Nat.one_pos one, put_put both,
        Nat.add_comm 1]
      rfl

/-- So many are counted then. -/
theorem countAt_take (distinct : store.keys.Nodup) (named : token ≠ .null)
    (few : store.countAt id token + chunks.length ≤ maxCount) :
    (store.take (chunks.map (Deposit.mk id token))).store.keys.Nodup ∧
      (store.take (chunks.map (Deposit.mk id token))).store.countAt id token =
        store.countAt id token + chunks.length := by
  cases chunks with
  | nil => exact ⟨distinct, rfl⟩
  | cons bytes chunks =>
    rw [(take_all distinct named few).2 (List.cons_ne_nil _ _)]
    exact ⟨nodup_put distinct, (countAt_put distinct (store.grown id token _ _)).trans
      (toNat_grown few _)⟩

/-- **Chunks that cannot all be counted** are stored up to the first for which there is no room. -/
theorem take_some (distinct : store.keys.Nodup) (named : token ≠ .null)
    (many : maxCount < store.countAt id token + chunks.length) :
    (store.take (chunks.map (Deposit.mk id token))).outcome.result =
        .error (.invalidParameter (.countOverflow id)) ∧
      (store.take (chunks.map (Deposit.mk id token))).store =
        (store.take ((chunks.take (maxCount - store.countAt id token)).map
          (Deposit.mk id token))).store := by
  have below := countAt_le store id token
  obtain ⟨front, back, split, length⟩ : ∃ front back, chunks = front ++ back ∧
      front.length = maxCount - store.countAt id token :=
    ⟨_, _, (List.take_append_drop (maxCount - store.countAt id token) chunks).symm,
      by rw [List.length_take]; omega⟩
  rw [split, List.length_append] at many
  have enough : store.countAt id token + front.length ≤ maxCount := by omega
  obtain ⟨distinct', count⟩ := countAt_take distinct named enough
  obtain ⟨stored, result⟩ := take_append _ (back.map (Deposit.mk id token))
    (take_all distinct named enough).1
  rw [← List.map_append, ← split] at stored result
  cases back with
  | nil => rw [List.length_nil] at many; omega
  | cons next back =>
    have full : maxCount ≤ Deposit.met ⟨id, token, next⟩
        (store.take (front.map (Deposit.mk id token))).store := by
      rw [met_tagged distinct' named, count]
      omega
    obtain ⟨kept, refused⟩ := @take_cons_full _ _ (back.map (Deposit.mk id token)) full
    rw [split, List.take_left' length, ← split]
    exact ⟨result.trans refused, stored.trans kept⟩

/-! ### What is stored in the end -/

/-- A store has grown by some instances under an id and a token, and by nothing else. -/
def Extends (before : Store) (id : ObjectId) (token : Token) (items : Nat) (bytes : Bytes)
    (after : Store) : Prop :=
  ∃ entry : Entry, entry.key = (id, token) ∧
    entry.count.toNat = before.countAt id token + items ∧
      entry.data = before.dataAt id token ++ bytes ∧ before.Receives entry after

theorem extends_put (distinct : store.keys.Nodup) {items : Nat}
    (few : store.countAt id token + items ≤ maxCount) (bytes : Bytes) :
    store.Extends id token items bytes (store.put (store.grown id token items bytes)) :=
  ⟨_, rfl, toNat_grown few bytes, rfl, put_receives distinct _⟩

/-- Nothing is added to an entry that is full. -/
theorem extends_nothing (distinct : store.keys.Nodup) (full : store.countAt id token = maxCount) :
    store.Extends id token 0 [] store := by
  unfold Extends
  unfold countAt dataAt at *
  cases found : store.entryAt? id token with
  | none =>
    rw [found] at full
    cases full
  | some entry =>
    rw [found] at full
    change entry.count.toNat = maxCount at full
    have filled : entry.count ≠ 0 := by
      rintro none
      rw [none] at full
      cases full
    have key := Entry.isAt_iff.mp (List.find?_some found)
    have inside := List.mem_of_find?_eq_some found
    refine ⟨entry, key, rfl, ?_, fun front old behind split same => ?_, fun absent => ?_⟩
    · rw [List.append_nil]
      exact (if_neg filled).symm
    · have member : old ∈ store.entries := by
        rw [split]
        exact List.mem_append_right _ List.mem_cons_self
      rw [← List.inj_on_of_nodup_map distinct member inside same]
      exact split
    · exact absurd (List.mem_map_of_mem inside) absent

/-- The chunks for which there is room are stored. -/
theorem extends_take (distinct : store.keys.Nodup) (named : token ≠ .null)
    (few : store.countAt id token + chunks.length ≤ maxCount)
    (some : chunks = [] → store.countAt id token = maxCount) :
    store.Extends id token chunks.length chunks.flatten
      (store.take (chunks.map (Deposit.mk id token))).store := by
  cases chunks with
  | nil => exact extends_nothing distinct (some rfl)
  | cons bytes chunks =>
    rw [(take_all distinct named few).2 (List.cons_ne_nil _ _)]
    exact extends_put distinct few _

end Store

/-- All changes were made, and they led to a store. -/
def Progress.LeadsTo (made : Progress) (after : Store) : Prop :=
  made.outcome.result = .ok () ∧ made.store = after

namespace Store

variable {store : Store} {id : ObjectId} {token : Token}

/-! ### Bytes -/

/-- What becomes of bytes that are added as `items` instances of one size. -/
structure Cuts (store : Store) (id : ObjectId) (token : Token) (bytes : Bytes) (items : Nat)
    (made : Progress) : Prop where
  /-- Bytes that do not split evenly are refused, and nothing changes. -/
  refused : items = 0 ∨ bytes = [] ∨ ¬ items ∣ bytes.length →
    made.outcome.result = .error (.invalidParameter (.unevenSplit bytes.length items)) ∧
      made.store = store
  /-- Instances that can all be counted are all added. -/
  whole : items ≠ 0 → bytes ≠ [] → items ∣ bytes.length →
    store.countAt id token + items ≤ 4294967295 →
      made.outcome.result = .ok () ∧ store.Extends id token items bytes made.store
  /-- Otherwise as many are added as there is room for, and then it fails. -/
  partly : items ≠ 0 → bytes ≠ [] → items ∣ bytes.length →
    4294967295 < store.countAt id token + items →
      made.outcome.result = .error (.invalidParameter (.countOverflow id)) ∧
        store.Extends id token (4294967295 - store.countAt id token)
          (bytes.take ((4294967295 - store.countAt id token) * (bytes.length / items))) made.store

/-- Bytes that split evenly are taken piece by piece. -/
theorem addInstances_eq {bytes : Bytes} {items : Nat} (some : items ≠ 0) (filled : bytes ≠ [])
    (even : items ∣ bytes.length) : Access.live.addInstances id token bytes items store =
      store.take ((Access.pieces (bytes.length / items) bytes).map (Deposit.mk id token)) := by
  unfold Access.addInstances take
  rw [if_neg, List.map_map]
  · rfl
  · rintro (none | empty | uneven)
    · exact some none
    · exact filled (List.isEmpty_iff.mp empty)
    · exact uneven (Nat.mod_eq_zero_of_dvd even)

/-- **Bytes that can all be counted** are all added. -/
theorem addInstances_leadsTo (distinct : store.keys.Nodup) (named : token ≠ .null) {bytes : Bytes}
    {items : Nat} (some : items ≠ 0) (filled : bytes ≠ []) (even : items ∣ bytes.length)
    (few : store.countAt id token + items ≤ maxCount) :
    (Access.live.addInstances id token bytes items store).LeadsTo
      (store.put (store.grown id token items bytes)) := by
  obtain ⟨count, whole⟩ := Access.flatten_pieces even filled
  have filled' : Access.pieces (bytes.length / items) bytes ≠ [] := by
    intro none
    rw [none] at count
    exact some count.symm
  rw [← count] at few
  obtain ⟨result, stored⟩ := take_all distinct named few
  have last := stored filled'
  rw [count, whole] at last
  rw [addInstances_eq some filled even]
  exact ⟨result, last⟩

/-- **Bytes of any length** are refused, added whole, or added as far as they can be counted. -/
theorem cuts (distinct : store.keys.Nodup) (named : token ≠ .null) (bytes : Bytes) (items : Nat) :
    store.Cuts id token bytes items (Access.live.addInstances id token bytes items store) where
  refused uneven := by
    unfold Access.addInstances
    rw [if_pos]
    · exact ⟨rfl, rfl⟩
    · refine uneven.imp_right (Or.imp List.isEmpty_iff.mpr fun odd none => ?_)
      exact odd (Nat.dvd_of_mod_eq_zero none)
  whole some filled even few := by
    obtain ⟨result, stored⟩ := addInstances_leadsTo distinct named some filled even few
    rw [stored]
    exact ⟨result, extends_put distinct few bytes⟩
  partly some filled even many := by
    obtain ⟨count, -⟩ := Access.flatten_pieces even filled
    have below := countAt_le store id token
    rw [addInstances_eq some filled even]
    have excess : maxCount <
        store.countAt id token + (Access.pieces (bytes.length / items) bytes).length := by
      rw [count]
      exact many
    have room : maxCount - store.countAt id token ≤
        (Access.pieces (bytes.length / items) bytes).length := by omega
    obtain ⟨result, stored⟩ := take_some distinct named excess
    have length := List.length_take_of_le room
    have counted : store.countAt id token + ((Access.pieces (bytes.length / items) bytes).take
        (maxCount - store.countAt id token)).length ≤ maxCount := by omega
    have added := extends_take distinct named counted fun none => by
      rw [none, List.length_nil] at length
      omega
    rw [Access.length_pieces] at room
    rw [length, Access.flatten_take_pieces room, ← stored] at added
    exact ⟨result, added⟩

/-! ### Records -/

/-- However some records are added under a token, they lead to one store. -/
structure Agrees (store : Store) (carrier : Carrier) (token : Token)
    (records : List carrier.Item) (after : Store) : Prop where
  /-- The store has grown by the records. -/
  extended : store.Extends carrier.objectId token records.length
    (records.flatMap Record.encode) after
  /-- All records are added in one call. -/
  together : ((Call.addObjects carrier token records).make .live store).LeadsTo after
  /-- Each record is added in a call of its own. -/
  singly : (∀ answer ∈ (Call.run .live (records.map (Call.addObject carrier token)) store).1,
      answer.outcome.result = .ok ()) ∧
    (Call.run .live (records.map (Call.addObject carrier token)) store).2 = after
  /-- The bytes of the records are added as so many instances of one size, if they split evenly. The
  records need not have one size; but there have to be bytes, so they need a field. -/
  cut : Record.fields carrier.Item ≠ [] → records.length ∣ (records.flatMap Record.encode).length →
    ((Call.addInstances carrier.objectId token (records.flatMap Record.encode)
      records.length).make .live store).LeadsTo after
  /-- The records replace what is under the token, if that is nothing. -/
  replaced : (carrier.objectId, token) ∉ store.keys →
    Access.live.setObjects token records store = .ok after

/-- Records that can all be added are added by as many calls. -/
theorem run_addObject {carrier : Carrier} {records : List carrier.Item}
    (taken : (store.take (records.map (Deposit.ofRecord token))).outcome.result = .ok ()) :
    (∀ answer ∈ (Call.run .live (records.map (Call.addObject carrier token)) store).1,
        answer.outcome.result = .ok ()) ∧
      (Call.run .live (records.map (Call.addObject carrier token)) store).2 =
        (store.take (records.map (Deposit.ofRecord token))).store := by
  induction records generalizing store with
  | nil => exact ⟨List.forall_mem_nil _, rfl⟩
  | cons record records ih =>
    have room : (Deposit.ofRecord token record).met store < maxCount := by
      by_contra full
      rw [List.map_cons, (take_cons_full (Nat.le_of_not_lt full)).2] at taken
      cases taken
    obtain ⟨one, fine⟩ := take_one room
    obtain ⟨last, result⟩ :=
      @take_cons store (.ofRecord token record) (records.map (Deposit.ofRecord token)) room
    have made : (Call.addObject carrier token record).make .live store =
      store.take [Deposit.ofRecord token record] := rfl
    rw [List.map_cons, List.map_cons, last, Call.run_cons, made, one]
    obtain ⟨answers, stored⟩ := ih (result.symm.trans taken)
    exact ⟨List.forall_mem_cons.mpr ⟨fine, answers⟩, stored⟩

/-- **Records that can all be counted** lead to one store, however they are added. -/
theorem agrees (distinct : store.keys.Nodup) (named : token ≠ .null) {carrier : Carrier}
    {records : List carrier.Item} (some : records ≠ [])
    (few : store.countAt carrier.objectId token + records.length ≤ maxCount) :
    store.Agrees carrier token records (store.put
      (store.grown carrier.objectId token records.length (records.flatMap Record.encode))) := by
  have deposits : records.map (Deposit.ofRecord token) =
      (records.map Record.encode).map (Deposit.mk carrier.objectId token) :=
    List.map_map.symm
  have taken : (store.take (records.map (Deposit.ofRecord token))).LeadsTo (store.put
      (store.grown carrier.objectId token records.length (records.flatMap Record.encode))) := by
    rw [deposits]
    have counted : store.countAt carrier.objectId token + (records.map Record.encode).length ≤
        maxCount := by rwa [List.length_map]
    obtain ⟨result, stored⟩ := take_all distinct named counted
    refine ⟨result, (stored fun none => some (List.map_eq_nil_iff.mp none)).trans ?_⟩
    rw [List.length_map, List.flatMap_def]
  refine ⟨extends_put distinct few _, ?_, ?_, fun filled even => ?_, fun absent => ?_⟩
  · show (Access.live.addObjects token records store).LeadsTo _
    rwa [addObjects_eq_take]
  · rw [← taken.2]
    exact run_addObject taken.1
  · have long : records.length ≠ 0 := fun none => some (List.length_eq_zero_iff.mp none)
    have bytes : records.flatMap Record.encode ≠ [] := by
      obtain ⟨record, inside⟩ := List.exists_mem_of_ne_nil _ some
      exact fun none => Record.encode_ne_nil filled record (List.flatMap_eq_nil_iff.mp none _ inside)
    exact addInstances_leadsTo distinct named long bytes even few
  · have none : store.entryAt? carrier.objectId token = none :=
      List.find?_eq_none.mpr fun entry inside here =>
        absent (Entry.isAt_iff.mp here ▸ List.mem_map_of_mem inside)
    unfold countAt at few
    rw [none, Option.elim_none, Nat.zero_add] at few
    have fresh : store.grown carrier.objectId token records.length
        (records.flatMap Record.encode) = .ofRecords token records := by
      unfold grown countAt dataAt
      rw [none, Option.elim_none, Option.elim_none, Nat.zero_add]
      rfl
    rw [fresh]
    exact setObjects_eq few

/-- **The ways of adding many instances under a token agree**, in a store in which no two entries
have one key: records that can be counted lead to one store, added in one call, in a call for each,
or as bytes that split evenly; and if there was nothing before, replacing leads there as well. Bytes
of any length are refused if they do not split evenly, and otherwise added as far as they can be
counted. All types of records have a field. -/
theorem bulk_additions (store : Store) (distinct : store.keys.Nodup) (token : Token)
    (named : token ≠ .null) :
    (∀ (carrier : Carrier) (records : List carrier.Item), records ≠ [] →
      store.countAt carrier.objectId token + records.length ≤ 4294967295 →
        ∃ after, store.Agrees carrier token records after) ∧
    (∀ id bytes items, store.Cuts id token bytes items
      ((Call.addInstances id token bytes items).make .live store)) ∧
    ∀ carrier ∈ ⟨TableRequest⟩ :: recordTypes, Record.fields carrier.Item ≠ [] := by
  refine ⟨fun carrier records some few => ⟨_, agrees distinct named some few⟩,
    fun id bytes items => cuts distinct named bytes items, ?_⟩
  unfold recordTypes
  simp only [List.forall_mem_cons]
  decide

/-- An entry that has room for one instance more. -/
def nearlyFull : Store := ⟨[⟨⟨0⟩, ⟨5⟩, 4294967294, [1]⟩]⟩

/-- Of two bytes there is room for one; two records of another object are added, in whatever way. -/
theorem bulk_additions_crowded :
    nearlyFull.keys.Nodup ∧ (⟨5⟩ : Token) ≠ .null ∧
      (∃ after, nearlyFull.Agrees ⟨ItsIdentifier⟩ ⟨5⟩ [(⟨7⟩ : ItsIdentifier), ⟨8⟩] after) ∧
      nearlyFull.Cuts ⟨0⟩ ⟨5⟩ [2, 3] 2 ((Call.addInstances ⟨0⟩ ⟨5⟩ [2, 3] 2).make .live nearlyFull) ∧
      ((Call.addInstances ⟨0⟩ ⟨5⟩ [2, 3] 2).make .live nearlyFull).store.entries =
        [⟨⟨0⟩, ⟨5⟩, 4294967295, [1, 2]⟩] := by
  have distinct : nearlyFull.keys.Nodup := by decide
  have named : (⟨5⟩ : Token) ≠ .null := by decide
  obtain ⟨agree, cut, -⟩ := bulk_additions nearlyFull distinct ⟨5⟩ named
  exact ⟨distinct, named, agree ⟨ItsIdentifier⟩ [⟨7⟩, ⟨8⟩] (List.cons_ne_nil _ _) (by decide +kernel),
    cut ⟨0⟩ [2, 3] 2, by decide +kernel⟩

end Store

end FirmwareTables
