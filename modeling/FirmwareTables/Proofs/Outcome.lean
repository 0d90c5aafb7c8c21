/-
**Outcomes of steps that may fail.**

A build is a sequence of steps, each of which gives a value or an error. Two kinds of statement are
made about such a sequence.

* What a value says of the steps: `bind_eq_ok`, `map_eq_ok` and `mapM_eq_ok` take a successful
  sequence apart, step by step; `bind_eq_error` and `mapM_eq_error` find the step over which a
  sequence fails.
* What all outcomes are like: `Meets good bad` says of an outcome that its value is `good` or its
  error `bad`, and goes through a sequence by `Meets.bind` and `Meets.mapM`.
-/

import FirmwareTables.Repository.Reading
import Mathlib.Data.List.Forall2

namespace FirmwareTables

variable {ε δ α β : Type}

/-! ### Taking a success apart -/

theorem bind_eq_ok {first : Except ε α} {next : α → Except ε β} {value : β} :
    (first >>= next) = .ok value ↔ ∃ middle, first = .ok middle ∧ next middle = .ok value := by
  cases first with
  | error error => exact ⟨nofun, fun ⟨_, absurd, _⟩ => nomatch absurd⟩
  | ok middle =>
    constructor
    · intro done
      exact ⟨middle, rfl, done⟩
    · rintro ⟨_, same, done⟩
      cases same
      exact done

theorem bind_eq_error {first : Except ε α} {next : α → Except ε β} {error : ε} :
    (first >>= next) = .error error ↔
      first = .error error ∨ ∃ middle, first = .ok middle ∧ next middle = .error error := by
  cases first with
  | error cause =>
    constructor
    · rintro ⟨⟩
      exact .inl rfl
    · rintro (⟨⟨⟩⟩ | ⟨_, absurd, _⟩)
      · rfl
      · cases absurd
  | ok middle =>
    constructor
    · intro failed
      exact .inr ⟨middle, rfl, failed⟩
    · rintro (absurd | ⟨_, same, failed⟩)
      · cases absurd
      · cases same
        exact failed

theorem map_eq_ok {change : α → β} {outcome : Except ε α} {value : β} :
    change <$> outcome = .ok value ↔ ∃ middle, outcome = .ok middle ∧ change middle = value := by
  cases outcome with
  | error error => exact ⟨nofun, fun ⟨_, absurd, _⟩ => nomatch absurd⟩
  | ok middle =>
    exact ⟨fun done => ⟨middle, rfl, Except.ok.inj done⟩,
      fun ⟨_, same, done⟩ => by cases same; cases done; rfl⟩

theorem mapError_eq_ok {change : ε → δ} {outcome : Except ε α} {value : α} :
    outcome.mapError change = .ok value ↔ outcome = .ok value := by
  cases outcome <;> simp [Except.mapError]

theorem exists_of_isOk {outcome : Except ε α} (fine : outcome.isOk = true) :
    ∃ value, outcome = .ok value := by
  cases outcome with
  | ok value => exact ⟨value, rfl⟩
  | error error => cases fine

/-- A list of steps gives a list of values, one for each step. -/
theorem mapM_eq_ok {step : α → Except ε β} {items : List α} {values : List β} :
    items.mapM step = .ok values ↔
      List.Forall₂ (fun item value => step item = .ok value) items values := by
  induction items generalizing values with
  | nil =>
    rw [List.mapM_nil, List.forall₂_nil_left_iff]
    exact ⟨fun done => (Except.ok.inj done).symm, fun empty => by rw [empty]; rfl⟩
  | cons item items ih =>
    rw [List.mapM_cons, bind_eq_ok]
    constructor
    · rintro ⟨first, made, done⟩
      obtain ⟨rest, others, done⟩ := bind_eq_ok.mp done
      cases done
      exact .cons made (ih.mp others)
    · rintro (_ | ⟨made, others⟩)
      exact ⟨_, made, bind_eq_ok.mpr ⟨_, ih.mpr others, rfl⟩⟩

/-- A list of steps fails as the first of them that fails. -/
theorem mapM_eq_error {step : α → Except ε β} {items : List α} {error : ε} :
    items.mapM step = .error error ↔ ∃ before item behind, items = before ++ item :: behind ∧
      (∀ earlier ∈ before, ∃ value, step earlier = .ok value) ∧ step item = .error error := by
  induction items with
  | nil =>
    refine iff_of_false nofun ?_
    rintro ⟨before, item, behind, split, -⟩
    exact absurd split.symm (List.append_ne_nil_of_right_ne_nil _ (List.cons_ne_nil _ _))
  | cons first items ih =>
    rw [List.mapM_cons]
    cases made : step first with
    | error cause =>
      constructor
      · rintro ⟨⟩
        exact ⟨[], first, items, rfl, List.forall_mem_nil _, made⟩
      · rintro ⟨before, item, behind, split, fine, failed⟩
        cases before with
        | nil =>
          cases split
          rw [← made, failed]
          rfl
        | cons head before =>
          cases split
          obtain ⟨value, good⟩ := fine first List.mem_cons_self
          cases made.symm.trans good
    | ok value =>
      have tail : (Except.ok value >>= fun value => items.mapM step >>= fun values =>
          pure (value :: values)) = .error error ↔ items.mapM step = .error error := by
        cases items.mapM step with
        | error cause => exact Iff.rfl
        | ok values => exact iff_of_false nofun nofun
      refine tail.trans (ih.trans ?_)
      constructor
      · rintro ⟨before, item, behind, rfl, fine, failed⟩
        exact ⟨first :: before, item, behind, rfl,
          List.forall_mem_cons.mpr ⟨⟨value, made⟩, fine⟩, failed⟩
      · rintro ⟨before, item, behind, split, fine, failed⟩
        cases before with
        | nil =>
          cases split
          cases made.symm.trans failed
        | cons head before =>
          cases split
          exact ⟨before, item, behind, rfl, fun earlier inside =>
            fine earlier (List.mem_cons_of_mem _ inside), failed⟩

/-! ### What all outcomes are like -/

/-- An outcome is a value that is `good` or an error that is `bad`. -/
def Meets (good : α → Prop) (bad : ε → Prop) : Except ε α → Prop
  | .ok value => good value
  | .error error => bad error

namespace Meets

variable {good : α → Prop} {bad : ε → Prop} {outcome : Except ε α}

theorem of_error {error : ε} (meets : Meets good bad outcome) (failed : outcome = .error error) :
    bad error := by
  rw [failed] at meets
  exact meets

theorem mono {better : α → Prop} {worse : ε → Prop} (meets : Meets good bad outcome)
    (values : ∀ value, good value → better value) (errors : ∀ error, bad error → worse error) :
    Meets better worse outcome := by
  cases outcome with
  | ok value => exact values value meets
  | error error => exact errors error meets

/-- A value meets whatever it satisfies, and what is known of it comes along. -/
theorem keep (meets : Meets good bad outcome) :
    Meets (fun value => good value ∧ outcome = .ok value) bad outcome := by
  cases outcome with
  | ok value => exact ⟨meets, rfl⟩
  | error error => exact meets

theorem bind {next : α → Except ε β} {later : β → Prop} (first : Meets good bad outcome)
    (rest : ∀ value, good value → Meets later bad (next value)) :
    Meets later bad (outcome >>= next) := by
  cases outcome with
  | ok value => exact rest value first
  | error error => exact first

theorem map {change : α → β} {later : β → Prop} (first : Meets good bad outcome)
    (rest : ∀ value, good value → later (change value)) : Meets later bad (change <$> outcome) := by
  cases outcome with
  | ok value => exact rest value first
  | error error => exact first

theorem mapError {change : ε → δ} {worse : δ → Prop} (first : Meets good bad outcome)
    (errors : ∀ error, bad error → worse (change error)) :
    Meets good worse (outcome.mapError change) := by
  cases outcome with
  | ok value => exact first
  | error error => exact errors error first

/-- If every step of a list meets something, so does the list. -/
theorem mapM {step : α → Except ε β} {each : β → Prop} {items : List α}
    (steps : ∀ item ∈ items, Meets each bad (step item)) :
    Meets (fun values => ∀ value ∈ values, each value) bad (items.mapM step) := by
  induction items with
  | nil => exact fun _ inside => nomatch inside
  | cons item items ih =>
    rw [List.mapM_cons]
    refine (steps item List.mem_cons_self).bind fun first held => ?_
    have tail := ih fun other inside => steps other (List.mem_cons_of_mem _ inside)
    refine tail.bind fun rest all => ?_
    intro value inside
    rcases List.mem_cons.mp inside with rfl | inside
    · exact held
    · exact all value inside

end Meets

/-! ### The outcome of readings -/

namespace Reading

@[simp] theorem result_mapError (change : ε → δ) (reading : Reading ε α) :
    (reading.mapError change).result = reading.result.mapError change := rfl

@[simp] theorem result_foldlM (step : β → α → Reading ε β) (start : β) (items : List α) :
    (items.foldlM step start).result =
      items.foldlM (fun state item => (step state item).result) start := by
  induction items generalizing start with
  | nil => rfl
  | cons item items ih => simp only [List.foldlM_cons, result_bind, ih]

end Reading

end FirmwareTables
