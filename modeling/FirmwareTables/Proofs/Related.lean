/-
**Lists related item by item.**

What one list says of another that is related to it: each item has its partner, at the same place
(`getElem?_of_forall₂`) and somewhere in the list (`exists_of_forall₂`). Two such relations can be
joined (`forall₂_trans`) or hold both (`forall₂_and`), and the partners of some items can be told from those of the items before
and behind them (`forall₂_filter`).
-/

import Mathlib.Data.List.Forall2

namespace FirmwareTables

variable {α β γ : Type} {related : α → β → Prop} {left : List α} {right : List β}

theorem exists_of_forall₂ (all : List.Forall₂ related left right) {item : α}
    (inside : item ∈ left) : ∃ other ∈ right, related item other := by
  induction all with
  | nil => cases inside
  | cons first _ ih =>
    rcases List.mem_cons.mp inside with rfl | inside
    · exact ⟨_, List.mem_cons_self, first⟩
    · obtain ⟨other, member, same⟩ := ih inside
      exact ⟨other, List.mem_cons_of_mem _ member, same⟩

theorem getElem?_of_forall₂ (all : List.Forall₂ related left right) {number : Nat} {item : α}
    (here : left[number]? = some item) :
    ∃ other, right[number]? = some other ∧ related item other := by
  induction all generalizing number with
  | nil => cases here
  | cons first _ ih =>
    cases number with
    | zero =>
      cases here
      exact ⟨_, rfl, first⟩
    | succ number => exact ih here

/-- A list has a related one exactly if each of its items has a partner. -/
theorem exists_forall₂ :
    (∃ right, List.Forall₂ related left right) ↔ ∀ item ∈ left, ∃ other, related item other := by
  induction left with
  | nil => exact ⟨fun _ _ absurd => (nomatch absurd), fun _ => ⟨[], .nil⟩⟩
  | cons item left ih =>
    rw [List.forall_mem_cons, ← ih]
    constructor
    · rintro ⟨_, _ | ⟨first, rest⟩⟩
      exact ⟨⟨_, first⟩, ⟨_, rest⟩⟩
    · rintro ⟨⟨_, first⟩, ⟨_, rest⟩⟩
      exact ⟨_, .cons first rest⟩

/-- What holds of an item and its partner, and of this one and its own, holds of the outer two. -/
theorem forall₂_trans {first : α → β → Prop} {second : β → γ → Prop} {both : α → γ → Prop}
    {middle : List β} {last : List γ}
    (join : ∀ start mid stop, first start mid → second mid stop → both start stop)
    (one : List.Forall₂ first left middle) (other : List.Forall₂ second middle last) :
    List.Forall₂ both left last := by
  induction one generalizing last with
  | nil =>
    cases other
    exact .nil
  | cons here behind ih =>
    cases other with
    | cons there rest => exact .cons (join _ _ _ here there) (ih rest)

/-- Items related in two ways are related in both. -/
theorem forall₂_and {other : α → β → Prop} (one : List.Forall₂ related left right)
    (two : List.Forall₂ other left right) :
    List.Forall₂ (fun item partner => related item partner ∧ other item partner) left right := by
  induction one with
  | nil => exact .nil
  | cons here _ ih =>
    cases two with
    | cons there behind => exact .cons ⟨here, there⟩ (ih behind)

/-- The partners of items in the middle are those that are kept, if those of the others are not. -/
theorem forall₂_filter (keep : β → Bool) (front : List α) {behind : List α}
    (all : List.Forall₂ related (front ++ (left ++ behind)) right)
    (before : ∀ item ∈ front, ∀ other, related item other → keep other = false)
    (stay : ∀ item ∈ left, ∀ other, related item other → keep other = true)
    (after : ∀ item ∈ behind, ∀ other, related item other → keep other = false) :
    List.Forall₂ related left (right.filter keep) := by
  induction front generalizing right with
  | cons item front ih =>
    cases all with
    | cons first rest =>
      rw [List.filter_cons_of_neg]
      · exact ih rest fun other inside => before other (List.mem_cons_of_mem _ inside)
      · rw [before item List.mem_cons_self _ first]
        exact Bool.false_ne_true
  | nil =>
    induction left generalizing right with
    | cons item left ih =>
      cases all with
      | cons first rest =>
        rw [List.filter_cons_of_pos (stay item List.mem_cons_self _ first)]
        exact .cons first
          (ih (fun other inside => stay other (List.mem_cons_of_mem _ inside)) rest)
    | nil =>
      have none : right.filter keep = [] := by
        rw [List.filter_eq_nil_iff]
        intro other inside
        obtain ⟨item, member, same⟩ := exists_of_forall₂ all.flip inside
        rw [after item member other same]
        exact Bool.false_ne_true
      rw [none]
      exact .nil

end FirmwareTables
