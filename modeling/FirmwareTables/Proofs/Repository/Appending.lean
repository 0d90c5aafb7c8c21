/-
**Adding one instance.**

A repository reads what it finds, puts the new instance behind it and stores the whole under exactly
the id and the token. Under a token what is found is one entry, so that the entry grows by the
instance. Under the null token all entries of the object are found, but only the entry of the null
token is written: what the other tokens hold is copied into it with every instance that is added.

* `Receives`: one entry of a store is replaced where it lies, or comes in front, and nothing else
  changes; `put_receives`: that is what storing does;
* `appends`: what adding an instance does, told from what is found;
* `addInstance_effect`: what this comes to under a token, under the null token, and under the null
  token over and over again.
-/

import FirmwareTables.Proofs.Repository.Calls
import FirmwareTables.Proofs.Repository.Contents
import FirmwareTables.Proofs.Repository.Deposits

namespace FirmwareTables

namespace Store

variable {before after store : Store} {entry : Entry} {id : ObjectId} {token : Token}

/-! ### The entry for an id and a token -/

/-- The entry for exactly an id and a token. -/
def entryAt? (store : Store) (id : ObjectId) (token : Token) : Option Entry :=
  store.entries.find? (Entry.isAt id token)

/-- The number of instances for exactly an id and a token. -/
def countAt (store : Store) (id : ObjectId) (token : Token) : Nat :=
  (store.entryAt? id token).elim 0 fun entry => entry.count.toNat

/-- The bytes of these instances. -/
def dataAt (store : Store) (id : ObjectId) (token : Token) : Bytes :=
  (store.entryAt? id token).elim [] fun entry => if entry.count = 0 then [] else entry.data

theorem filter_isAt {entries : List Entry} (distinct : (entries.map Entry.key).Nodup) :
    entries.filter (Entry.isAt id token) = (entries.find? (Entry.isAt id token)).toList := by
  induction entries with
  | nil => rfl
  | cons first entries ih =>
    obtain ⟨alone, distinct⟩ := List.nodup_cons.mp distinct
    by_cases here : first.isAt id token = true
    · have behind : entries.filter (Entry.isAt id token) = [] := by
        refine List.filter_eq_nil_iff.mpr fun other inside there => alone ?_
        rw [Entry.isAt_iff.mp here, ← Entry.isAt_iff.mp there]
        exact List.mem_map_of_mem inside
      rw [List.filter_cons_of_pos here, List.find?_cons_of_pos here, behind]
      rfl
    · rw [List.filter_cons_of_neg here, List.find?_cons_of_neg here, ih distinct]

/-- **Under a token** what is found is the entry for exactly the id and the token. -/
theorem found_eq_toList (distinct : store.keys.Nodup) (named : token ≠ .null) :
    store.found id token = (store.entryAt? id token).toList := by
  rw [entryAt?, ← filter_isAt distinct]
  refine List.filter_congr fun entry _ => ?_
  unfold Entry.isFound Entry.isAt Token.isNull
  rw [beq_eq_false_iff_ne.mpr named, Bool.false_or]

theorem total_toList (store : Store) (id : ObjectId) (token : Token) :
    total (store.entryAt? id token).toList = store.countAt id token := by
  unfold countAt
  cases store.entryAt? id token <;> rfl

theorem data_toList (store : Store) (id : ObjectId) (token : Token) :
    (if store.countAt id token = 0 then []
      else (store.entryAt? id token).toList.flatMap Entry.data) = store.dataAt id token := by
  unfold countAt dataAt
  cases store.entryAt? id token with
  | none => rfl
  | some entry =>
    have same : entry.count.toNat = 0 ↔ entry.count = 0 := UInt32.toNat_inj (b := 0)
    simp [same]

/-! ### Storing one entry -/

/-- A store receives an entry: it takes the place of the one with its id and its token, or comes in
front if there is none, and nothing else changes. -/
structure Receives (before : Store) (entry : Entry) (after : Store) : Prop where
  /-- The place is kept, and so is all that lies before and behind it. -/
  replaced : ∀ front old behind, before.entries = front ++ old :: behind → old.key = entry.key →
    after.entries = front ++ entry :: behind
  /-- What is new comes in front. -/
  added : entry.key ∉ before.keys → after.entries = entry :: before.entries

theorem replace?_append {front behind : List Entry} {old : Entry}
    (fresh : entry.key ∉ front.map Entry.key) (same : old.key = entry.key) :
    replace? entry (front ++ old :: behind) = some (front ++ entry :: behind) := by
  induction front with
  | nil => exact if_pos (Entry.isAt_iff.mpr same)
  | cons first front ih =>
    rw [List.map_cons, List.mem_cons, not_or] at fresh
    obtain ⟨apart, fresh⟩ := fresh
    rw [List.cons_append, replace?, if_neg fun here => apart (Entry.isAt_iff.mp here).symm, ih fresh]
    rfl

/-- **Storing** lets a store receive the entry. -/
theorem put_receives (distinct : store.keys.Nodup) (entry : Entry) :
    store.Receives entry (store.put entry) where
  replaced front old behind split same := by
    unfold keys at distinct
    rw [split, List.map_append, List.map_cons, same] at distinct
    have fresh : entry.key ∉ front.map Entry.key := fun inside =>
      (List.nodup_append.mp distinct).2.2 _ inside _ List.mem_cons_self rfl
    unfold put
    rw [split, replace?_append fresh same]
    rfl
  added new := by
    unfold put
    rw [replace?_eq_none_iff.mpr new]
    rfl

theorem nodup_put (distinct : store.keys.Nodup) : (store.put entry).keys.Nodup := by
  rw [keys_put]
  split
  · exact distinct
  · exact List.nodup_cons.mpr ⟨‹_›, distinct⟩

/-- What was stored last is what stands there. -/
theorem entryAt?_put (distinct : store.keys.Nodup) :
    (store.put entry).entryAt? entry.id entry.token = some entry := by
  have inside : entry ∈ (store.put entry).entries := (mem_put_iff distinct).mpr (.inl rfl)
  unfold entryAt?
  cases found : (store.put entry).entries.find? (Entry.isAt entry.id entry.token) with
  | none => exact absurd entry.isAt_self (List.find?_eq_none.mp found entry inside)
  | some other =>
    have same := Entry.isAt_iff.mp (List.find?_some found)
    rcases (mem_put_iff distinct).mp (List.mem_of_find?_eq_some found) with rfl | ⟨-, apart⟩
    · rfl
    · exact absurd same apart

/-! ### One instance -/

/-- What adding an instance comes to where `count` instances with the bytes `data` are met. -/
structure Appends (store : Store) (id : ObjectId) (token : Token) (bytes : Bytes) (count : Nat)
    (data : Bytes) (made : Progress) : Prop where
  /-- It succeeds exactly if one more can be counted. -/
  succeeds : made.outcome.result = .ok () ↔ count < 4294967295
  /-- Then the entry for the id and the token counts one more and has the bytes at its end, and
  nothing else changes. -/
  stored : count < 4294967295 → ∃ entry : Entry, entry.key = (id, token) ∧
    entry.count.toNat = count + 1 ∧ entry.data = data ++ bytes ∧ store.Receives entry made.store
  /-- If it fails, nothing changes at all. -/
  failed : made.outcome.result ≠ .ok () → made.store = store

end Store

namespace Deposit

/-- The bytes found where a deposit goes to, none if no instances are found. -/
def known (deposit : Deposit) (store : Store) : Bytes :=
  if deposit.met store = 0 then [] else (store.found deposit.id deposit.token).flatMap Entry.data

variable (deposit : Deposit) {store : Store}

theorem count_entry (room : deposit.met store < maxCount) :
    (deposit.entry store).count.toNat = deposit.met store + 1 := by
  show (UInt32.ofNat (deposit.met store + 1)).toNat = _
  rw [UInt32.toNat_ofNat']
  exact Nat.mod_eq_of_lt (Nat.lt_succ_of_le room)

/-- **Adding an instance** puts it behind what is found. -/
theorem appends (distinct : store.keys.Nodup) :
    store.Appends deposit.id deposit.token deposit.bytes (deposit.met store) (deposit.known store)
      (store.take [deposit]) := by
  by_cases room : deposit.met store < maxCount
  · obtain ⟨last, result⟩ := Store.take_one room
    refine ⟨iff_of_true result room, fun _ => ⟨deposit.entry store, rfl, deposit.count_entry room,
      rfl, ?_⟩, fun failed => absurd result failed⟩
    rw [last]
    exact Store.put_receives distinct _
  · obtain ⟨kept, refused⟩ := @Store.take_cons_full store deposit [] (Nat.le_of_not_lt room)
    refine ⟨iff_of_false ?_ room, fun enough => absurd enough room, fun _ => kept⟩
    rw [refused]
    exact nofun

end Deposit

namespace Store

variable {store : Store} {id : ObjectId} {token : Token}

theorem met_tagged (distinct : store.keys.Nodup) (named : token ≠ .null) (bytes : Bytes) :
    Deposit.met ⟨id, token, bytes⟩ store = store.countAt id token := by
  unfold Deposit.met
  rw [found_eq_toList distinct named, total_toList]

theorem known_tagged (distinct : store.keys.Nodup) (named : token ≠ .null) (bytes : Bytes) :
    Deposit.known ⟨id, token, bytes⟩ store = store.dataAt id token := by
  unfold Deposit.known
  rw [met_tagged distinct named bytes, found_eq_toList distinct named, data_toList]

/-! ### Under the null token -/

/-- The number of all instances of an object. -/
def countOf (store : Store) (id : ObjectId) : Nat := total (store.only id).entries

/-- The bytes of all instances of an object; none if there are no instances. -/
def dataOf (store : Store) (id : ObjectId) : Bytes :=
  if store.countOf id = 0 then [] else (store.only id).entries.flatMap Entry.data

/-- The entries that lie under a token. -/
def tagged (store : Store) : List Entry := store.entries.filter fun entry => entry.token != .null

/-- The number of instances of an object that lie under a token. -/
def countTagged (store : Store) (id : ObjectId) : Nat :=
  total (store.tagged.filter (Entry.isOf id))

/-- The null token finds all entries of an object. -/
theorem found_null (store : Store) (id : ObjectId) : store.found id .null = (store.only id).entries :=
  List.filter_congr fun entry _ => Bool.and_true (entry.id == id)

theorem total_filter (keep : Entry → Bool) (entries : List Entry) :
    total entries =
      total (entries.filter keep) + total (entries.filter fun entry => !keep entry) := by
  induction entries with
  | nil => rfl
  | cons first entries ih =>
    rw [total, ih]
    cases kept : keep first with
    | true =>
      rw [List.filter_cons_of_pos kept, List.filter_cons_of_neg (by simp [kept]), total,
        Nat.add_assoc]
    | false =>
      rw [List.filter_cons_of_neg (by simp [kept]), List.filter_cons_of_pos (by simp [kept]), total,
        Nat.add_left_comm]

/-- **All instances of an object** are those of the null token and those under other tokens. -/
theorem countOf_eq (distinct : store.keys.Nodup) (id : ObjectId) :
    store.countOf id = store.countAt id .null + store.countTagged id := by
  unfold countOf countTagged
  rw [total_filter (fun entry => entry.token == .null), ← total_toList, entryAt?,
    ← filter_isAt distinct]
  unfold only tagged
  rw [List.filter_filter, List.filter_filter, List.filter_filter]
  congr 3 <;> exact funext fun entry => Bool.and_comm _ _

/-- Storing under the null token leaves alone what lies under others. -/
theorem tagged_put {entry : Entry} (null : entry.token = .null) :
    (store.put entry).tagged = store.tagged := by
  refine filter_put fun other here => ?_
  have same := (Prod.mk.inj (Entry.isAt_iff.mp here)).2
  rw [same, null]
  rfl

/-- The number of calls that succeeded. -/
def successes (answers : List Call.Answer) : Nat :=
  answers.countP fun answer => answer.outcome.result.isOk

/-- Additions of instances under the null token, one after the other. -/
def appendNull (store : Store) (id : ObjectId) (chunks : List Bytes) : List Call.Answer × Store :=
  Call.run .live (chunks.map (Call.addInstance id .null)) store

/-- What adding instances under the null token comes to, over and over again; some of the additions
may be refused. -/
structure Folds (store : Store) (id : ObjectId) (answers : List Call.Answer) (after : Store) :
    Prop where
  /-- Each addition that succeeds adds all that lies under other tokens, and one instance more. -/
  count : after.countAt id .null =
    store.countAt id .null + successes answers * (store.countTagged id + 1)
  /-- What lies under other tokens stays as it is. -/
  tagged : after.tagged = store.tagged
  /-- Each of them adds one instance only if nothing lies under other tokens. -/
  single : after.countAt id .null = store.countAt id .null + successes answers ↔
    successes answers = 0 ∨ store.countTagged id = 0

theorem met_null (store : Store) (id : ObjectId) (bytes : Bytes) :
    Deposit.met ⟨id, .null, bytes⟩ store = store.countOf id := by
  unfold Deposit.met countOf
  rw [found_null]

theorem known_null (store : Store) (id : ObjectId) (bytes : Bytes) :
    Deposit.known ⟨id, .null, bytes⟩ store = store.dataOf id := by
  unfold Deposit.known dataOf
  rw [met_null, found_null]

/-- **Once**: an addition that succeeds counts all that is there, and one instance more. -/
theorem countAt_addInstance (distinct : store.keys.Nodup) (id : ObjectId) (bytes : Bytes)
    {made : Progress} (call : (Call.addInstance id .null bytes).make .live store = made) :
    made.store.keys.Nodup ∧ made.store.tagged = store.tagged ∧
      made.store.countAt id .null = store.countAt id .null +
        if made.outcome.result.isOk then store.countTagged id + 1 else 0 := by
  let deposit : Deposit := ⟨id, .null, bytes⟩
  obtain rfl : store.take [deposit] = made := call
  have met : deposit.met store = store.countOf id := met_null store id bytes
  by_cases room : deposit.met store < maxCount
  · obtain ⟨stored, fine⟩ := take_one room
    have there : (store.put (deposit.entry store)).entryAt? id .null = some (deposit.entry store) :=
      entryAt?_put distinct
    rw [stored, fine]
    refine ⟨nodup_put distinct, tagged_put rfl, ?_⟩
    have grown := deposit.count_entry room
    rw [met, countOf_eq distinct] at grown
    rw [countAt, there]
    exact grown
  · obtain ⟨kept, refused⟩ := @take_cons_full store deposit [] (Nat.le_of_not_lt room)
    rw [kept, refused]
    exact ⟨distinct, rfl, rfl⟩

/-- **Over and over again**: what lies under other tokens is counted once for each addition. -/
theorem countAt_appendNull (distinct : store.keys.Nodup) (id : ObjectId) (chunks : List Bytes) :
    (store.appendNull id chunks).2.tagged = store.tagged ∧
      (store.appendNull id chunks).2.countAt id .null = store.countAt id .null +
        successes (store.appendNull id chunks).1 * (store.countTagged id + 1) := by
  induction chunks generalizing store with
  | nil =>
    refine ⟨rfl, ?_⟩
    show _ = _ + 0 * _
    rw [Nat.zero_mul]
    rfl
  | cons bytes chunks ih =>
    obtain ⟨apart, same, counted⟩ := countAt_addInstance distinct id bytes rfl
    obtain ⟨tagged, count⟩ := ih apart
    have others : ((Call.addInstance id .null bytes).make .live store).store.countTagged id =
        store.countTagged id := by
      unfold countTagged
      rw [same]
    rw [counted, others] at count
    refine ⟨tagged.trans same, count.trans ?_⟩
    show _ = _ + successes (⟨id, _⟩ :: _) * _
    rw [successes, successes, List.countP_cons, Nat.add_mul, Nat.add_comm (_ * _), Nat.add_assoc]
    dsimp only
    split
    · rw [Nat.one_mul]
      rfl
    · rw [Nat.zero_mul]
      rfl

/-- **What adding an instance does**, to a store in which no two entries have one key. Under a token
the entry there grows by the instance; under the null token the entry there becomes all instances of
the object with the new one at their end. So additions under the null token add what lies under other
tokens again and again. -/
theorem addInstance_effect (store : Store) (distinct : store.keys.Nodup) (id : ObjectId) :
    (∀ token bytes, token ≠ .null →
      store.Appends id token bytes (store.countAt id token) (store.dataAt id token)
        ((Call.addInstance id token bytes).make .live store)) ∧
    (∀ bytes, store.Appends id .null bytes (store.countOf id) (store.dataOf id)
      ((Call.addInstance id .null bytes).make .live store)) ∧
    ∀ chunks, store.Folds id (store.appendNull id chunks).1 (store.appendNull id chunks).2 := by
  refine ⟨fun token bytes named => ?_, fun bytes => ?_, fun chunks => ?_⟩
  · rw [← met_tagged distinct named bytes, ← known_tagged distinct named bytes]
    exact Deposit.appends ⟨id, token, bytes⟩ distinct
  · rw [← met_null store id bytes, ← known_null store id bytes]
    exact Deposit.appends ⟨id, .null, bytes⟩ distinct
  · obtain ⟨tagged, count⟩ := countAt_appendNull distinct id chunks
    refine ⟨count, tagged, ?_⟩
    rw [count, Nat.mul_add, Nat.mul_one, Nat.add_comm (_ * _), ← Nat.add_assoc, Nat.add_eq_left]
    exact Nat.mul_eq_zero

/-- An instance under a token, and none under the null token. -/
def loneTagged : Store := ⟨[⟨⟨0⟩, ⟨5⟩, 1, [0x54]⟩]⟩

/-- Two additions under the null token store the instance of the token twice. -/
theorem addInstance_effect_lone :
    loneTagged.keys.Nodup ∧
      loneTagged.Folds ⟨0⟩ (loneTagged.appendNull ⟨0⟩ [[0x4e], [0x4f]]).1
        (loneTagged.appendNull ⟨0⟩ [[0x4e], [0x4f]]).2 ∧
      (loneTagged.appendNull ⟨0⟩ [[0x4e], [0x4f]]).2.entries =
        [⟨⟨0⟩, .null, 4, [0x54, 0x4e, 0x54, 0x4f]⟩, ⟨⟨0⟩, ⟨5⟩, 1, [0x54]⟩] := by
  have distinct : loneTagged.keys.Nodup := by decide
  exact ⟨distinct, (addInstance_effect loneTagged distinct ⟨0⟩).2.2 _, by decide +kernel⟩

end Store

end FirmwareTables
