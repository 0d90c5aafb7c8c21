/-
**Which pair of equal items is found.**

A pair of equal items is two positions, one before the other, whose items a test takes for equal in
this order. The search finds the first pair in the order of the left position, then of the right one
(`IsFirst`), and nothing exactly if there is no pair. Nothing is asked of the test: it may tell the
order of its arguments, or refuse an item as its own equal.

* `findDuplicate?_eq_none`: no pair found, as a fact on the list alone;
* `isFirst_of_findDuplicate?`: a pair that is found is the first;
* `findDuplicate?_decides`: both, and that there is only one first pair.
-/

import FirmwareTables.Table.Duplicate
import Mathlib.Data.List.Basic

namespace FirmwareTables

namespace Duplicate

variable {α : Type} {equal : α → α → Bool} {first : α} {items rest : List α}
  {left right left' right' : Nat}

/-! ### Pairs -/

/-- The item at a position is taken for equal to the one at a later position. -/
def IsPair (equal : α → α → Bool) (items : List α) (left right : Nat) : Prop :=
  left < right ∧ ∃ one other, items[left]? = some one ∧ items[right]? = some other ∧
    equal one other = true

/-- A pair of which neither position can be an earlier one: no item before the left is the left one
of a pair, and none between the two is equal to the left. -/
structure IsFirst (equal : α → α → Bool) (items : List α) (left right : Nat) : Prop where
  /-- The two positions are a pair. -/
  pair : IsPair equal items left right
  /-- No position before the left one has a partner. -/
  leftmost : ∀ before < left, ∀ partner, ¬ IsPair equal items before partner
  /-- The left one has no partner before the right one. -/
  nearest : ∀ between < right, ¬ IsPair equal items left between

theorem not_isPair_zero : ¬ IsPair equal items left 0 := fun pair => Nat.not_lt_zero _ pair.1

theorem isPair_zero_succ :
    IsPair equal (first :: rest) 0 (right + 1) ↔
      ∃ other, rest[right]? = some other ∧ equal first other = true := by
  simp [IsPair]

theorem isPair_succ_succ :
    IsPair equal (first :: rest) (left + 1) (right + 1) ↔ IsPair equal rest left right := by
  simp [IsPair]

/-- There is one first pair at most. -/
theorem IsFirst.unique (one : IsFirst equal items left right)
    (other : IsFirst equal items left' right') : left = left' ∧ right = right' := by
  have same : left = left' := by
    rcases Nat.lt_trichotomy left left' with before | same | behind
    · exact absurd one.pair (other.leftmost left before right)
    · exact same
    · exact absurd other.pair (one.leftmost left' behind right')
  subst same
  refine ⟨rfl, ?_⟩
  rcases Nat.lt_trichotomy right right' with before | same | behind
  · exact absurd one.pair (other.nearest right before)
  · exact same
  · exact absurd other.pair (one.nearest right' behind)

/-- The first item and the nearest of those behind it that are equal to it. -/
theorem isFirst_zero_succ {index : Nat} (found : rest.findIdx? (equal first) = some index) :
    IsFirst equal (first :: rest) 0 (index + 1) := by
  obtain ⟨inside, same, others⟩ := List.findIdx?_eq_some_iff_getElem.mp found
  refine ⟨isPair_zero_succ.mpr ⟨rest[index], List.getElem?_eq_getElem inside, same⟩,
    fun before negative => absurd negative (Nat.not_lt_zero _), fun between nearer => ?_⟩
  cases between with
  | zero => exact not_isPair_zero
  | succ between =>
    intro pair
    obtain ⟨other, there, same⟩ := isPair_zero_succ.mp pair
    have early := Nat.lt_of_succ_lt_succ nearer
    rw [List.getElem?_eq_getElem (Nat.lt_trans early inside), Option.some.injEq] at there
    rw [← there] at same
    exact others between early same

/-- A first pair stays first behind an item that is equal to none of those after it. -/
theorem IsFirst.succ_succ (alone : rest.findIdx? (equal first) = none)
    (pair : IsFirst equal rest left right) :
    IsFirst equal (first :: rest) (left + 1) (right + 1) := by
  have apart := List.findIdx?_eq_none_iff.mp alone
  refine ⟨isPair_succ_succ.mpr pair.pair, fun before earlier partner => ?_,
    fun between nearer => ?_⟩
  · cases partner with
    | zero => exact not_isPair_zero
    | succ partner =>
      cases before with
      | zero =>
        intro both
        obtain ⟨other, there, same⟩ := isPair_zero_succ.mp both
        rw [apart other (List.mem_of_getElem? there)] at same
        exact Bool.false_ne_true same
      | succ before =>
        rw [isPair_succ_succ]
        exact pair.leftmost before (Nat.lt_of_succ_lt_succ earlier) partner
  · cases between with
    | zero => exact not_isPair_zero
    | succ between =>
      rw [isPair_succ_succ]
      exact pair.nearest between (Nat.lt_of_succ_lt_succ nearer)

end Duplicate

/-! ### The search -/

section

open Duplicate

variable {α : Type} {equal : α → α → Bool} {items : List α}

/-- **No pair is found** exactly if no item is equal to a later one. -/
theorem findDuplicate?_eq_none :
    findDuplicate? equal items = none ↔
      items.Pairwise fun left right => equal left right = false := by
  induction items with
  | nil => exact iff_of_true rfl .nil
  | cons first rest ih =>
    rw [findDuplicate?, List.pairwise_cons, ← ih]
    cases found : rest.findIdx? (equal first) with
    | none =>
      have apart := List.findIdx?_eq_none_iff.mp found
      dsimp only
      rw [Option.map_eq_none_iff, and_iff_right apart]
    | some index =>
      obtain ⟨inside, same, _⟩ := List.findIdx?_eq_some_iff_getElem.mp found
      refine iff_of_false (Option.some_ne_none _) fun both => ?_
      rw [both.1 _ (List.getElem_mem inside)] at same
      exact Bool.false_ne_true same

theorem pairwise_iff_not_isPair :
    (items.Pairwise fun left right => equal left right = false) ↔
      ∀ left right, ¬ IsPair equal items left right := by
  rw [List.pairwise_iff_getElem]
  constructor
  · rintro apart left right ⟨before, one, other, here, there, same⟩
    obtain ⟨inside, rfl⟩ := List.getElem?_eq_some_iff.mp here
    obtain ⟨within, rfl⟩ := List.getElem?_eq_some_iff.mp there
    rw [apart left right inside within before] at same
    exact Bool.false_ne_true same
  · intro none left right inside within before
    refine Bool.eq_false_iff.mpr fun same => none left right ?_
    exact ⟨before, _, _, List.getElem?_eq_getElem inside, List.getElem?_eq_getElem within, same⟩

/-- **A pair that is found** is the first. -/
theorem isFirst_of_findDuplicate? {left right : Nat}
    (found : findDuplicate? equal items = some (left, right)) :
    IsFirst equal items left right := by
  induction items generalizing left right with
  | nil => cases found
  | cons first rest ih =>
    rw [findDuplicate?] at found
    cases partner : rest.findIdx? (equal first) with
    | some index =>
      rw [partner] at found
      cases found
      exact isFirst_zero_succ partner
    | none =>
      rw [partner] at found
      obtain ⟨⟨left', right'⟩, later, same⟩ := Option.map_eq_some_iff.mp found
      cases same
      exact (ih later).succ_succ partner

/-- **The search for equal items** finds nothing exactly if there is no pair, and a pair exactly if
it is the first. -/
theorem findDuplicate?_decides (equal : α → α → Bool) (items : List α) :
    (findDuplicate? equal items = none ↔ ∀ left right, ¬ IsPair equal items left right) ∧
      ∀ left right, findDuplicate? equal items = some (left, right) ↔
        IsFirst equal items left right := by
  have missing :
      findDuplicate? equal items = none ↔ ∀ left right, ¬ IsPair equal items left right :=
    findDuplicate?_eq_none.trans pairwise_iff_not_isPair
  refine ⟨missing, fun left right => ⟨isFirst_of_findDuplicate?, fun first => ?_⟩⟩
  cases search : findDuplicate? equal items with
  | none => exact absurd first.pair (missing.mp search left right)
  | some pair =>
    obtain ⟨rfl, rfl⟩ := (isFirst_of_findDuplicate? search).unique first
    rfl

/-- A test that tells the order of its arguments. -/
example :
    findDuplicate? (fun left right : Nat => left + 1 == right) [4, 3, 5, 4] = some (0, 2) := by
  decide

end

end FirmwareTables
