/-
**A store holds what survives of its history.**

A store `Reflects` a history if its entries are exactly what survives of the history, each id and
token having one entry, and the entries lie in the order in which they were inserted, the latest in
front. Every operation keeps this up (`Reflects.step`), so that it holds of every run
(`reflects_run`).

* `keys_put`, `mem_put_iff`: what storing does to the keys and to the entries;
* `touches_delete_iff`, `touches_store_iff`: deleting takes away the entries that are found, storing
  replaces the one at exactly its key. The history knows this as touching.
-/

import FirmwareTables.Proofs.Related
import FirmwareTables.Proofs.Repository.Adding
import FirmwareTables.Proofs.Repository.History

namespace FirmwareTables

/-! ### Keys -/

namespace Entry

/-- What tells an entry from all others. -/
def key (entry : Entry) : ObjectId × Token := (entry.id, entry.token)

/-- The entry of a payload under an id and a token. -/
def holding (id : ObjectId) (token : Token) (descriptor : Descriptor) : Entry :=
  ⟨id, token, descriptor.count, descriptor.data⟩

variable {entry : Entry} {id : ObjectId} {token : Token}

theorem isAt_iff : entry.isAt id token = true ↔ entry.key = (id, token) := by
  simp [isAt, key]

theorem isFound_iff :
    entry.isFound id token = true ↔ entry.id = id ∧ (token = .null ∨ entry.token = token) := by
  simp [isFound, Token.isNull]

end Entry

namespace Store

variable {store : Store} {entry other : Entry} {entries replaced : List Entry}

theorem mem_of_mem_found {id : ObjectId} {token : Token} (inside : entry ∈ store.found id token) :
    entry ∈ store.entries ∧ entry.id = id := by
  obtain ⟨member, same⟩ := List.mem_filter.mp inside
  exact ⟨member, (Entry.isFound_iff.mp same).1⟩

/-- The ids and tokens of all entries. -/
def keys (store : Store) : List (ObjectId × Token) := store.entries.map Entry.key

theorem replace?_eq_none_iff : replace? entry entries = none ↔ entry.key ∉ entries.map Entry.key := by
  induction entries with
  | nil => simp [replace?]
  | cons first entries ih =>
    unfold replace?
    by_cases here : first.isAt entry.id entry.token = true
    · have same : entry.key = first.key := (Entry.isAt_iff.mp here).symm
      simp [here, same]
    · have apart : entry.key ≠ first.key := fun same => here (Entry.isAt_iff.mpr same.symm)
      simp [here, ih, apart]

theorem keys_replace? (done : replace? entry entries = some replaced) :
    replaced.map Entry.key = entries.map Entry.key := by
  induction entries generalizing replaced with
  | nil => cases done
  | cons first entries ih =>
    unfold replace? at done
    split at done
    · rename_i here
      cases done
      rw [List.map_cons, List.map_cons, Entry.isAt_iff.mp here]
      rfl
    · obtain ⟨rest, behind, rfl⟩ := Option.map_eq_some_iff.mp done
      rw [List.map_cons, List.map_cons, ih behind]

theorem mem_replace?_iff (distinct : (entries.map Entry.key).Nodup)
    (done : replace? entry entries = some replaced) :
    other ∈ replaced ↔ other = entry ∨ (other ∈ entries ∧ other.key ≠ entry.key) := by
  induction entries generalizing replaced with
  | nil => cases done
  | cons first entries ih =>
    obtain ⟨alone, distinct⟩ := List.nodup_cons.mp distinct
    unfold replace? at done
    split at done
    · rename_i here
      have same : first.key = entry.key := Entry.isAt_iff.mp here
      have behind : other ∈ entries → other.key ≠ entry.key := by
        rintro inside equal
        exact alone (List.mem_map.mpr ⟨other, inside, equal.trans same.symm⟩)
      cases done
      rw [List.mem_cons, List.mem_cons]
      refine or_congr_right ⟨fun inside => ⟨.inr inside, behind inside⟩, ?_⟩
      rintro ⟨rfl | inside, apart⟩
      · exact absurd same apart
      · exact inside
    · rename_i elsewhere
      obtain ⟨rest, behind, rfl⟩ := Option.map_eq_some_iff.mp done
      have apart : first.key ≠ entry.key := fun same => elsewhere (Entry.isAt_iff.mpr same)
      rw [List.mem_cons, List.mem_cons, ih distinct behind]
      constructor
      · rintro (rfl | rfl | ⟨inside, away⟩)
        · exact .inr ⟨.inl rfl, apart⟩
        · exact .inl rfl
        · exact .inr ⟨.inr inside, away⟩
      · rintro (rfl | ⟨rfl | inside, away⟩)
        · exact .inr (.inl rfl)
        · exact .inl rfl
        · exact .inr (.inr ⟨inside, away⟩)

/-- **The keys after storing**: a new one comes in front, a known one keeps its place. -/
theorem keys_put : (store.put entry).keys =
    if entry.key ∈ store.keys then store.keys else entry.key :: store.keys := by
  unfold keys put
  cases done : replace? entry store.entries with
  | some replaced =>
    have known : entry.key ∈ store.entries.map Entry.key := by
      by_contra new
      rw [replace?_eq_none_iff.mpr new] at done
      cases done
    rw [if_pos known]
    exact keys_replace? done
  | none =>
    rw [if_neg (replace?_eq_none_iff.mp done)]
    rfl

/-- **The entries after storing**: the new one, and the old ones under other keys. -/
theorem mem_put_iff (distinct : store.keys.Nodup) :
    other ∈ (store.put entry).entries ↔
      other = entry ∨ (other ∈ store.entries ∧ other.key ≠ entry.key) := by
  unfold put
  cases done : replace? entry store.entries with
  | some replaced => exact mem_replace?_iff distinct done
  | none =>
    have new := replace?_eq_none_iff.mp done
    show other ∈ entry :: store.entries ↔ _
    rw [List.mem_cons]
    refine or_congr_right ⟨fun inside => ⟨inside, fun same => new ?_⟩, And.left⟩
    exact List.mem_map.mpr ⟨other, inside, same⟩

/-! ### Storing a payload -/

variable {id : ObjectId} {token : Token} {descriptor : Descriptor}

/-- A payload of another object is refused, and nothing changes. -/
theorem step_of_foreign (store : Store) (token : Token) (foreign : descriptor.id ≠ id) :
    store.set id token (some descriptor) =
        .error (.invalidParameter (.foreignDescriptor descriptor.id id)) ∧
      store.step (.set id token (some descriptor)) = store := by
  have refused : store.set id token (some descriptor) =
      .error (.invalidParameter (.foreignDescriptor descriptor.id id)) := if_neg foreign
  refine ⟨refused, ?_⟩
  rw [step, refused]

theorem step_of_own (store : Store) (token : Token) (own : descriptor.id = id) :
    store.step (.set id token (some descriptor)) = store.put (.holding id token descriptor) := by
  have accepted : store.set id token (some descriptor) =
      .ok (store.put (.holding id token descriptor)) := if_pos own
  rw [step, accepted]

/-! ### The invariant -/

/-- The one of two keys was inserted after the other. -/
def IsLater (history : List Operation) (first second : ObjectId × Token) : Prop :=
  ∀ time before, InsertedAt history first.1 first.2 time →
    InsertedAt history second.1 second.2 before → before < time

/-- The entries of a store are what survives of a history, the latest in front. -/
structure Reflects (history : List Operation) (store : Store) : Prop where
  /-- No two entries have the same key. -/
  distinct : store.keys.Nodup
  /-- An entry in front of another was inserted later. -/
  ordered : store.keys.Pairwise (IsLater history)
  /-- The entries hold what survives. -/
  contents : ∀ entry, entry ∈ store.entries ↔ ∃ descriptor,
    Survives history entry.id entry.token descriptor ∧
      entry = .holding entry.id entry.token descriptor

variable {history : List Operation} {last : Operation} {time : Nat}

/-- Where something survived, only what was inserted before is in its place. -/
theorem InsertedAt.of_append (inserted : InsertedAt (history ++ [last]) id token time)
    (survives : Survives history id token descriptor) : InsertedAt history id token time := by
  rcases insertedAt_append.mp inserted with ⟨-, -, fresh⟩ | ⟨before, -⟩
  · exact absurd survives (fresh descriptor)
  · exact before

namespace Reflects

theorem mem_keys (reflects : Reflects history store) :
    (id, token) ∈ store.keys ↔ ∃ descriptor, Survives history id token descriptor := by
  unfold keys
  rw [List.mem_map]
  constructor
  · rintro ⟨entry, inside, same⟩
    obtain ⟨descriptor, survives, -⟩ := (reflects.contents entry).mp inside
    cases same
    exact ⟨descriptor, survives⟩
  · rintro ⟨descriptor, survives⟩
    exact ⟨.holding id token descriptor,
      (reflects.contents _).mpr ⟨descriptor, survives, rfl⟩, rfl⟩

/-- Keys that were there before lie in their order also after one operation more. -/
theorem pairwise_append (reflects : Reflects history store) {kept : List (ObjectId × Token)}
    (fewer : kept.Sublist store.keys) : kept.Pairwise (IsLater (history ++ [last])) := by
  refine (reflects.ordered.sublist fewer).imp_of_mem ?_
  intro first second firstInside secondInside later time before inserted earlier
  obtain ⟨_, one⟩ := reflects.mem_keys.mp (fewer.subset firstInside)
  obtain ⟨_, two⟩ := reflects.mem_keys.mp (fewer.subset secondInside)
  exact later time before (inserted.of_append one) (earlier.of_append two)

theorem empty : Reflects [] empty where
  distinct := .nil
  ordered := .nil
  contents _ :=
    ⟨fun inside => absurd inside List.not_mem_nil,
      fun ⟨_, survives, _⟩ => absurd survives not_survives_nil⟩

theorem step_clear (history : List Operation) :
    Reflects (history ++ [.clear]) Store.empty where
  distinct := .nil
  ordered := .nil
  contents entry := by
    refine ⟨fun inside => absurd inside List.not_mem_nil, ?_⟩
    rintro ⟨descriptor, survives, -⟩
    rcases survives_append.mp survives with ⟨absurd, -⟩ | ⟨-, untouched⟩
    · cases absurd
    · exact absurd (.inl (.inl rfl)) untouched

/-- An entry is found for deletion exactly if the operation deletes under its key. -/
theorem touches_delete_iff {entry : Entry} :
    (Operation.set id token none).Touches entry.id entry.token ↔ entry.isFound id token = true := by
  rw [Entry.isFound_iff]
  unfold Operation.Touches Operation.Deletes Operation.Stores
  simp only [reduceCtorEq, Operation.set.injEq, and_true, false_and, and_false, exists_false,
    or_false, false_or]
  constructor
  · rintro (⟨rfl, rfl⟩ | ⟨rfl, rfl⟩)
    · exact ⟨rfl, .inr rfl⟩
    · exact ⟨rfl, .inl rfl⟩
  · rintro ⟨rfl, rfl | rfl⟩
    · exact .inr ⟨rfl, rfl⟩
    · exact .inl ⟨rfl, rfl⟩

theorem step_delete (reflects : Reflects history store) (id : ObjectId) (token : Token) :
    Reflects (history ++ [.set id token none]) (store.delete id token) := by
  have fewer : (store.delete id token).keys.Sublist store.keys := List.filter_sublist.map _
  refine ⟨reflects.distinct.sublist fewer, reflects.pairwise_append fewer, fun entry => ?_⟩
  have stays : entry ∈ (store.delete id token).entries ↔
      entry ∈ store.entries ∧ ¬ entry.isFound id token = true := by
    unfold delete
    simp only [List.mem_filter, Bool.not_eq_true', Bool.not_eq_true]
  have none : ∀ descriptor, ¬ (Operation.set id token none).Stores entry.id entry.token
      descriptor := by
    rintro descriptor ⟨absurd, -⟩
    cases absurd
  rw [stays, reflects.contents]
  simp only [survives_append, touches_delete_iff, none, false_or]
  constructor
  · rintro ⟨⟨descriptor, survives, same⟩, spared⟩
    exact ⟨descriptor, ⟨survives, spared⟩, same⟩
  · rintro ⟨descriptor, ⟨survives, spared⟩, same⟩
    exact ⟨⟨descriptor, survives, same⟩, spared⟩

/-- A payload of another object is refused, and nothing comes of it. -/
theorem step_refused (reflects : Reflects history store) (token : Token)
    (foreign : descriptor.id ≠ id) :
    Reflects (history ++ [.set id token (some descriptor)]) store := by
  refine ⟨reflects.distinct, reflects.pairwise_append (.refl _), fun entry => ?_⟩
  have nothing : ∀ other, ¬ (Operation.set id token (some descriptor)).Stores entry.id entry.token
      other := by
    rintro other ⟨same, own⟩
    cases same
    exact foreign own
  have untouched : ¬ (Operation.set id token (some descriptor)).Touches entry.id entry.token := by
    rintro (deletes | ⟨other, stores⟩)
    · simp [Operation.Deletes] at deletes
    · exact nothing other stores
  rw [reflects.contents]
  simp only [survives_append, nothing, untouched, not_false_eq_true, and_true, false_or]

/-- The only key at which storing does something is its own. -/
theorem touches_store_iff (own : descriptor.id = id) {entry : Entry} :
    (Operation.set id token (some descriptor)).Touches entry.id entry.token ↔
      entry.key = (id, token) := by
  unfold Operation.Touches Operation.Deletes Operation.Stores Entry.key
  simp only [reduceCtorEq, Operation.set.injEq, and_false, or_false, false_or, Option.some.injEq,
    Prod.mk.injEq]
  constructor
  · rintro ⟨_, ⟨rfl, rfl, -⟩, -⟩
    exact ⟨rfl, rfl⟩
  · rintro ⟨rfl, rfl⟩
    exact ⟨descriptor, ⟨rfl, rfl, rfl⟩, own⟩

theorem step_store (reflects : Reflects history store) (token : Token)
    (own : descriptor.id = id) :
    Reflects (history ++ [.set id token (some descriptor)])
      (store.put (.holding id token descriptor)) := by
  have key : (Entry.holding id token descriptor).key = (id, token) := rfl
  refine ⟨?_, ?_, fun entry => ?_⟩
  · rw [keys_put]
    split
    · exact reflects.distinct
    · exact List.nodup_cons.mpr ⟨‹_›, reflects.distinct⟩
  · rw [keys_put]
    split
    · exact reflects.pairwise_append (.refl _)
    · rename_i new
      refine .cons ?_ (reflects.pairwise_append (.refl _))
      -- The new key is inserted now, and all others were before.
      intro second inside time before inserted earlier
      obtain ⟨_, survives⟩ := reflects.mem_keys.mp inside
      have past := (earlier.of_append survives).lt
      rcases insertedAt_append.mp inserted with ⟨now, -⟩ | ⟨again, -⟩
      · exact now ▸ past
      · exact absurd (reflects.mem_keys.mpr again.exists_survives) new
  · rw [mem_put_iff reflects.distinct, reflects.contents]
    simp only [survives_append, touches_store_iff own, key]
    constructor
    · rintro (rfl | ⟨⟨old, survives, same⟩, apart⟩)
      · exact ⟨descriptor, .inl ⟨rfl, own⟩, rfl⟩
      · exact ⟨old, .inr ⟨survives, apart⟩, same⟩
    · rintro ⟨new, ⟨same, -⟩ | ⟨survives, apart⟩, held⟩
      · cases same
        exact .inl held
      · exact .inr ⟨⟨new, survives, held⟩, apart⟩

/-- **One operation more.** -/
theorem step (reflects : Reflects history store) (last : Operation) :
    Reflects (history ++ [last]) (store.step last) := by
  cases last with
  | clear => exact step_clear history
  | set id token descriptor =>
    cases descriptor with
    | none => exact reflects.step_delete id token
    | some descriptor =>
      by_cases own : descriptor.id = id
      · rw [step_of_own store token own]
        exact reflects.step_store token own
      · rw [(step_of_foreign store token own).2]
        exact reflects.step_refused token own

end Reflects

/-- **Every run** leaves the store as its history says. -/
theorem reflects_run (history : List Operation) : Reflects history (run history) := by
  induction history using List.reverseRecOn with
  | nil => exact .empty
  | append_singleton history last ih =>
    rw [run_append]
    exact ih.step last

end Store

end FirmwareTables
