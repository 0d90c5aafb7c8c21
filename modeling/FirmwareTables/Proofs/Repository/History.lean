/-
**Histories of a store.**

A history is what was done to a store that was empty at first: payloads stored and deleted under ids
and tokens, and the store cleared, the latest operation last. What a store should hold can be told
from its history alone, without looking at any store.

* `Survives history id token descriptor`: the payload was accepted under the id and the token, and
  no later operation stored another one there or deleted it.
* `InsertedAt history id token time`: after `time` operations a payload came to where nothing had
  survived, and has not been deleted since. Storing again in its place leaves the time as it is.

Both are settled by the last operation and the history before it (`survives_append`,
`insertedAt_append`), and what survives has exactly one time (`existsUnique_insertedAt`).
-/

import FirmwareTables.Repository.Store
import Mathlib.Data.List.Basic
import Mathlib.Data.List.Induction
import Mathlib.Logic.ExistsUnique

namespace FirmwareTables.Store

/-- Something that is done to a store. -/
inductive Operation where
  /-- Stores a payload under an id and a token, or deletes what is there if none is given. -/
  | set (id : ObjectId) (token : Token) (descriptor : Option Descriptor)
  /-- Takes everything away. -/
  | clear

/-- The store after an operation, which leaves it as it is if it fails. -/
def step (store : Store) : Operation → Store
  | .set id token descriptor =>
    match store.set id token descriptor with
    | .ok after => after
    | .error _ => store
  | .clear => empty

/-- The store with a history. -/
def run (history : List Operation) : Store := history.foldl step empty

theorem run_append (history : List Operation) (last : Operation) :
    run (history ++ [last]) = (run history).step last := by
  unfold run
  rw [List.foldl_append]
  rfl

namespace Operation

variable (id : ObjectId) (token : Token) (operation : Operation)

/-- The operation is accepted and stores a payload under exactly an id and a token. -/
def Stores (descriptor : Descriptor) : Prop :=
  operation = set id token (some descriptor) ∧ descriptor.id = id

/-- The operation deletes what is under an id and a token. -/
def Deletes : Prop :=
  operation = clear ∨ operation = set id token none ∨ operation = set id .null none

/-- The operation stores or deletes under an id and a token. -/
def Touches : Prop := operation.Deletes id token ∨ ∃ descriptor, operation.Stores id token descriptor

end Operation

/-! ### What survives, and since when -/

section

variable (history : List Operation) (id : ObjectId) (token : Token)

/-- A payload was stored under an id and a token, and nothing was done there since. -/
def Survives (descriptor : Descriptor) : Prop :=
  ∃ before operation after, history = before ++ operation :: after ∧
    operation.Stores id token descriptor ∧ ∀ later ∈ after, ¬ later.Touches id token

/-- After some number of operations a payload was stored under an id and a token where none had
survived, and nothing was deleted there since. -/
def InsertedAt (time : Nat) : Prop :=
  ∃ before operation after, history = before ++ operation :: after ∧ before.length = time ∧
    (∃ descriptor, operation.Stores id token descriptor) ∧
    (∀ descriptor, ¬ Survives before id token descriptor) ∧
    ∀ later ∈ after, ¬ later.Deletes id token

end

variable {history : List Operation} {last : Operation} {id : ObjectId} {token : Token}
  {descriptor other : Descriptor} {time : Nat}

/-- An operation of a longer history is the last one, or one of those before. -/
theorem exists_split_append {holds : List Operation → Operation → List Operation → Prop} :
    (∃ before operation after,
        history ++ [last] = before ++ operation :: after ∧ holds before operation after) ↔
      holds history last [] ∨ ∃ before operation after,
        history = before ++ operation :: after ∧ holds before operation (after ++ [last]) := by
  constructor
  · rintro ⟨before, operation, after, same, held⟩
    rcases List.eq_nil_or_concat' after with rfl | ⟨rest, final, rfl⟩
    · obtain ⟨rfl, only⟩ := List.append_inj' same rfl
      cases only
      exact .inl held
    · rw [← List.cons_append, ← List.append_assoc] at same
      obtain ⟨rfl, only⟩ := List.append_inj' same rfl
      cases only
      exact .inr ⟨before, operation, rest, rfl, held⟩
  · rintro (held | ⟨before, operation, after, rfl, held⟩)
    · exact ⟨history, last, [], rfl, held⟩
    · exact ⟨before, operation, after ++ [last], by simp, held⟩

theorem not_survives_nil : ¬ Survives [] id token descriptor := by
  rintro ⟨before, operation, after, same, -⟩
  exact absurd same.symm (by simp)

/-- **What survives one operation more.** -/
theorem survives_append :
    Survives (history ++ [last]) id token descriptor ↔
      last.Stores id token descriptor ∨
        (Survives history id token descriptor ∧ ¬ last.Touches id token) := by
  unfold Survives
  rw [exists_split_append]
  simp only [List.not_mem_nil, false_implies, implies_true, and_true, List.mem_append,
    List.mem_singleton, or_imp, forall_and, forall_eq]
  refine or_congr_right ⟨?_, ?_⟩
  · rintro ⟨before, operation, after, same, stored, kept, spared⟩
    exact ⟨⟨before, operation, after, same, stored, kept⟩, spared⟩
  · rintro ⟨⟨before, operation, after, same, stored, kept⟩, spared⟩
    exact ⟨before, operation, after, same, stored, kept, spared⟩

/-- **When what survives was inserted**, one operation more being made. -/
theorem insertedAt_append :
    InsertedAt (history ++ [last]) id token time ↔
      (history.length = time ∧ (∃ descriptor, last.Stores id token descriptor) ∧
        ∀ descriptor, ¬ Survives history id token descriptor) ∨
        (InsertedAt history id token time ∧ ¬ last.Deletes id token) := by
  unfold InsertedAt
  rw [exists_split_append]
  simp only [List.not_mem_nil, false_implies, implies_true, and_true, List.mem_append,
    List.mem_singleton, or_imp, forall_and, forall_eq]
  refine or_congr_right ⟨?_, ?_⟩
  · rintro ⟨before, operation, after, same, past, stored, fresh, kept, spared⟩
    exact ⟨⟨before, operation, after, same, past, stored, fresh, kept⟩, spared⟩
  · rintro ⟨⟨before, operation, after, same, past, stored, fresh, kept⟩, spared⟩
    exact ⟨before, operation, after, same, past, stored, fresh, kept, spared⟩

/-- What stores under an id and a token does not delete there. -/
theorem Operation.Stores.not_deletes (stores : last.Stores id token descriptor) :
    ¬ last.Deletes id token := by
  obtain ⟨rfl, -⟩ := stores
  simp [Deletes]

theorem Operation.Stores.unique (first : last.Stores id token descriptor)
    (second : last.Stores id token other) : descriptor = other := by
  have same := first.1.symm.trans second.1
  simpa using same

/-- One payload at most survives under an id and a token. -/
theorem Survives.unique (first : Survives history id token descriptor)
    (second : Survives history id token other) : descriptor = other := by
  induction history using List.reverseRecOn with
  | nil => exact absurd first not_survives_nil
  | append_singleton history last ih =>
    rcases survives_append.mp first with stores | ⟨before, spared⟩
    · rcases survives_append.mp second with again | ⟨-, spared⟩
      · exact stores.unique again
      · exact absurd (.inr ⟨_, stores⟩) spared
    · rcases survives_append.mp second with stores | ⟨after, -⟩
      · exact absurd (.inr ⟨_, stores⟩) spared
      · exact ih before after

theorem InsertedAt.lt (inserted : InsertedAt history id token time) : time < history.length := by
  obtain ⟨before, operation, after, rfl, rfl, -⟩ := inserted
  simp

/-- What was inserted and not deleted survives, if only by what was stored in its place. -/
theorem InsertedAt.exists_survives (inserted : InsertedAt history id token time) :
    ∃ descriptor, Survives history id token descriptor := by
  induction history using List.reverseRecOn with
  | nil => exact absurd inserted.lt (Nat.not_lt_zero _)
  | append_singleton history last ih =>
    rcases insertedAt_append.mp inserted with ⟨-, ⟨descriptor, stores⟩, -⟩ | ⟨before, spared⟩
    · exact ⟨descriptor, survives_append.mpr (.inl stores)⟩
    · by_cases again : ∃ descriptor, last.Stores id token descriptor
      · obtain ⟨descriptor, stores⟩ := again
        exact ⟨descriptor, survives_append.mpr (.inl stores)⟩
      · obtain ⟨descriptor, survives⟩ := ih before
        exact ⟨descriptor, survives_append.mpr (.inr ⟨survives, not_or.mpr ⟨spared, again⟩⟩)⟩

/-- **What survives was inserted at one time.** -/
theorem existsUnique_insertedAt (survives : Survives history id token descriptor) :
    ∃! time, InsertedAt history id token time := by
  induction history using List.reverseRecOn generalizing descriptor with
  | nil => exact absurd survives not_survives_nil
  | append_singleton history last ih =>
    have spared : ¬ last.Deletes id token := by
      rcases survives_append.mp survives with stores | ⟨-, untouched⟩
      · exact stores.not_deletes
      · exact fun deletes => untouched (.inl deletes)
    simp only [insertedAt_append]
    by_cases held : ∃ descriptor, Survives history id token descriptor
    · obtain ⟨old, before⟩ := held
      obtain ⟨time, inserted, only⟩ := ih before
      refine ⟨time, .inr ⟨inserted, spared⟩, ?_⟩
      rintro again (⟨-, -, fresh⟩ | ⟨inserted, -⟩)
      · exact absurd before (fresh old)
      · exact only again inserted
    · rw [not_exists] at held
      rcases survives_append.mp survives with stores | ⟨before, -⟩
      · refine ⟨history.length, .inl ⟨rfl, ⟨_, stores⟩, held⟩, ?_⟩
        rintro again (⟨same, -⟩ | ⟨inserted, -⟩)
        · exact same.symm
        · obtain ⟨old, before⟩ := inserted.exists_survives
          exact absurd before (held old)
      · exact absurd before (held _)

end FirmwareTables.Store
