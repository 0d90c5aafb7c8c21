/-
**No callback is lost or fired twice.**

The callbacks that have not ended are those that wait, those that an install has taken and not yet
fired, and those that run: the `inside` of a ledger. A step keeps them all, takes a new one in, or
lets one out that ended for good (`Effect`).

* `Accounts`, an invariant of every run: a callback inside has always ended with `unsupported`, one
  that is out ended with something else, and each is fired as often as it ended or runs;
* `IsOut.next`: what is out stays out and is never fired again.
-/

import FirmwareTables.Proofs.Manager.Ledger
import Mathlib.Data.List.Nodup
import Mathlib.Data.List.Perm.Basic

namespace FirmwareTables

/-! ### What a history tells -/

namespace Event

/-- The number of a callback that is registered. -/
def registration? : Event → Option Nat
  | registered number => some number
  | _ => none

/-- How a callback ends, if it does. -/
def outcome? (number : Nat) : Event → Option (Except RepositoryError Unit)
  | ended _ other outcome => if other = number then some outcome else none
  | _ => none

/-- Whether a callback is fired. -/
def isFiring (number : Nat) : Event → Bool
  | fired _ other => other == number
  | _ => false

/-- The callback that is fired at a depth. -/
def firedAt? (depth : Nat) : Event → Option Nat
  | fired other number => if other = depth then some number else none
  | _ => none

/-- Whether a callback at a depth ends well. -/
def isCompletion (depth : Nat) : Event → Bool
  | ended other _ (.ok ()) => other == depth
  | _ => false

end Event

section

variable (history : List Event)

/-- The callbacks registered, in order. -/
def registrations : List Nat := history.filterMap Event.registration?

/-- How a callback ended each time. -/
def outcomes (number : Nat) : List (Except RepositoryError Unit) :=
  history.filterMap (Event.outcome? number)

/-- How often a callback was fired. -/
def firings (number : Nat) : Nat := history.countP (Event.isFiring number)

/-- The callbacks fired at a depth, in order. -/
def firedAt (depth : Nat) : List Nat := history.filterMap (Event.firedAt? depth)

/-- How many callbacks at a depth ended well. -/
def completedAt (depth : Nat) : Nat := history.countP (Event.isCompletion depth)

end

section

variable (history events : List Event) (number depth : Nat)

@[simp] theorem registrations_append :
    registrations (history ++ events) = registrations history ++ registrations events :=
  List.filterMap_append

@[simp] theorem outcomes_append :
    outcomes (history ++ events) number = outcomes history number ++ outcomes events number :=
  List.filterMap_append

@[simp] theorem firings_append :
    firings (history ++ events) number = firings history number + firings events number :=
  List.countP_append

@[simp] theorem firedAt_append :
    firedAt (history ++ events) depth = firedAt history depth ++ firedAt events depth :=
  List.filterMap_append

@[simp] theorem completedAt_append :
    completedAt (history ++ events) depth =
      completedAt history depth + completedAt events depth :=
  List.countP_append

theorem outcomes_ended (other : Nat) (outcome : Except RepositoryError Unit) :
    outcomes [.ended depth other outcome] number = if other = number then [outcome] else [] := by
  by_cases same : other = number
  · rw [if_pos same]
    exact List.filterMap_cons_some (if_pos same)
  · rw [if_neg same]
    exact List.filterMap_cons_none (if_neg same)

theorem firings_fired (other : Nat) :
    firings [.fired depth other] number = if other = number then 1 else 0 := by
  unfold firings
  rw [List.countP_singleton]
  exact if_congr beq_iff_eq rfl rfl

theorem firedAt_fired (other : Nat) :
    firedAt [.fired other number] depth = if other = depth then [number] else [] := by
  by_cases same : other = depth
  · rw [if_pos same]
    exact List.filterMap_cons_some (if_pos same)
  · rw [if_neg same]
    exact List.filterMap_cons_none (if_neg same)

theorem completedAt_ended (other : Nat) :
    completedAt [.ended other number (.ok ())] depth = if other = depth then 1 else 0 := by
  unfold completedAt
  rw [List.countP_singleton]
  exact if_congr beq_iff_eq rfl rfl

end

/-! ### Conservation -/

namespace Ledger

/-- The callbacks that have not ended for good. -/
def inside (ledger : Ledger) : List Nat := ledger.pending ++ ledger.stack.flatMap Activity.inside

/-- The callbacks that run. -/
def running (ledger : Ledger) : List Nat := ledger.stack.flatMap Activity.running

variable {before after ledger : Ledger} {history events : List Event}

theorem running_subset (ledger : Ledger) : ledger.running ⊆ ledger.inside := by
  intro number runs
  obtain ⟨activity, member, here⟩ := List.mem_flatMap.mp runs
  refine List.mem_append_right _ (List.mem_flatMap.mpr ⟨activity, member, ?_⟩)
  cases activity with
  | active other => exact here
  | installing queue completed => cases here

@[simp] theorem inside_credit (below : List Activity) :
    (Activity.credit below).flatMap Activity.inside = below.flatMap Activity.inside := by
  unfold Activity.credit
  split <;> rfl

@[simp] theorem running_credit (below : List Activity) :
    (Activity.credit below).flatMap Activity.running = below.flatMap Activity.running := by
  unfold Activity.credit
  split <;> rfl

/-- What a step means for the callbacks that have not ended for good. -/
inductive Effect (before : Ledger) (events : List Event) (after : Ledger) : Prop
  /-- They are all kept; if one of them ended, it waits again. -/
  | keeps (same : after.inside.Perm before.inside)
    (registered : after.registered = before.registered) (quiet : registrations events = [])
    (retried : ∀ number, ∀ outcome ∈ outcomes events number,
      number ∈ before.inside ∧ outcome = .error .unsupported)
  /-- A new one enters. -/
  | enters (joined : after.inside.Perm (before.registered :: before.inside))
    (registered : after.registered = before.registered + 1)
    (seen : registrations events = [before.registered])
    (quiet : ∀ number, outcomes events number = [])
  /-- One of them ends for good. -/
  | leaves (number : Nat) (outcome : Except RepositoryError Unit)
    (parted : before.inside.Perm (number :: after.inside))
    (registered : after.registered = before.registered) (quiet : registrations events = [])
    (final : outcome ≠ .error .unsupported)
    (ends : ∀ other, outcomes events other = if number = other then [outcome] else [])

/-- **Every step** has one of these effects. -/
theorem Step.effect (step : Step before events after) : Effect before events after := by
  have silent : ∀ {number : Nat} {outcome : Except RepositoryError Unit},
      outcome ∈ ([] : List (Except RepositoryError Unit)) →
        number ∈ before.inside ∧ outcome = .error .unsupported := nofun
  cases step with
  | none => exact .keeps (.refl _) rfl rfl fun _ _ => silent
  | changed => exact .keeps (.refl _) rfl rfl fun _ _ => silent
  | waits =>
    refine .enters ?_ rfl rfl fun _ => rfl
    unfold inside
    rw [List.append_assoc]
    exact List.perm_middle
  | begins free => exact .enters List.perm_middle rfl rfl fun _ => rfl
  | opens => exact .keeps (.refl _) rfl rfl fun _ _ => silent
  | refuses error => exact .keeps (.refl _) rfl rfl fun _ _ => silent
  | fires => exact .keeps (.refl _) rfl rfl fun _ _ => silent
  | closes => exact .keeps (.refl _) rfl rfl fun _ _ => silent
  | @completes _ _ number pending below =>
    refine .leaves number (.ok ()) ?_ rfl rfl nofun fun _ => outcomes_ended _ _ _ _
    unfold inside
    rw [inside_credit]
    exact List.perm_middle
  | @retries _ _ number pending below =>
    refine .keeps ?_ rfl rfl fun other outcome ended => ?_
    · unfold inside
      rw [List.append_assoc]
      exact List.Perm.refl _
    · rw [outcomes_ended] at ended
      split at ended
      · rename_i same
        refine ⟨List.mem_append_right _ ?_, List.mem_singleton.mp ended⟩
        rw [← same]
        exact List.mem_cons_self
      · cases ended
  | @fails _ _ number pending below error final =>
    refine .leaves number (.error error) List.perm_middle rfl rfl ?_ fun _ =>
      outcomes_ended _ _ _ _
    exact fun same => final (Except.error.inj same)

namespace Effect

/-- Only callbacks inside end. -/
theorem outcomes_of_not_mem (effect : Effect before events after) {number : Nat}
    (out : number ∉ before.inside) : outcomes events number = [] := by
  cases effect with
  | keeps same registered quiet retried =>
    exact List.eq_nil_iff_forall_not_mem.mpr fun outcome member =>
      out (retried number outcome member).1
  | enters joined registered seen quiet => exact quiet number
  | leaves ended outcome parted registered quiet final ends =>
    rw [ends, if_neg]
    rintro rfl
    exact out (parted.mem_iff.mpr List.mem_cons_self)

theorem registrations_eq (effect : Effect before events after)
    (registered : registrations history = List.range before.registered) :
    registrations (history ++ events) = List.range after.registered := by
  rw [registrations_append, registered]
  cases effect with
  | keeps same registered quiet retried => rw [quiet, registered, List.append_nil]
  | enters joined registered seen quiet => rw [seen, registered, List.range_succ]
  | leaves ended outcome parted registered quiet final ends =>
    rw [quiet, registered, List.append_nil]

theorem le_registered (effect : Effect before events after) :
    before.registered ≤ after.registered := by
  cases effect with
  | keeps same registered quiet retried => exact Nat.le_of_eq registered.symm
  | enters joined registered seen quiet => omega
  | leaves ended outcome parted registered quiet final ends => exact Nat.le_of_eq registered.symm

theorem nodup (effect : Effect before events after) (nodup : before.inside.Nodup)
    (new : before.registered ∉ before.inside) : after.inside.Nodup := by
  cases effect with
  | keeps same registered quiet retried => exact same.nodup_iff.mpr nodup
  | enters joined registered seen quiet =>
    exact joined.nodup_iff.mpr (List.nodup_cons.mpr ⟨new, nodup⟩)
  | leaves ended outcome parted registered quiet final ends =>
    exact (List.nodup_cons.mp (parted.nodup_iff.mp nodup)).2

/-- A callback is inside because it was and has not ended for good, or because it is new. -/
theorem of_mem (effect : Effect before events after) (nodup : before.inside.Nodup) {number : Nat}
    (inside : number ∈ after.inside) :
    (number ∈ before.inside ∧ ∀ outcome ∈ outcomes events number, outcome = .error .unsupported) ∨
      number = before.registered ∧ after.registered = before.registered + 1 := by
  cases effect with
  | keeps same registered quiet retried =>
    exact .inl ⟨same.mem_iff.mp inside, fun outcome member => (retried number outcome member).2⟩
  | enters joined registered seen quiet =>
    rcases List.mem_cons.mp (joined.mem_iff.mp inside) with rfl | inside
    · exact .inr ⟨rfl, registered⟩
    · refine .inl ⟨inside, fun outcome member => ?_⟩
      rw [quiet] at member
      cases member
  | leaves ended outcome parted registered quiet final ends =>
    refine .inl ⟨parted.mem_iff.mpr (List.mem_cons_of_mem _ inside), fun other member => ?_⟩
    rw [ends, if_neg] at member
    · cases member
    · rintro rfl
      exact (List.nodup_cons.mp (parted.nodup_iff.mp nodup)).1 inside

/-- A callback is out because it was, or because it has just ended for good. -/
theorem of_not_mem (effect : Effect before events after) {number : Nat}
    (known : number < after.registered) (out : number ∉ after.inside) :
    (number < before.registered ∧ number ∉ before.inside) ∨
      ∃ outcome, outcomes events number = [outcome] ∧ outcome ≠ .error .unsupported := by
  cases effect with
  | keeps same registered quiet retried =>
    exact .inl ⟨registered ▸ known, fun inside => out (same.mem_iff.mpr inside)⟩
  | enters joined registered seen quiet =>
    have apart : number ≠ before.registered := fun same =>
      out (joined.mem_iff.mpr (same ▸ List.mem_cons_self))
    exact .inl ⟨by omega, fun inside => out (joined.mem_iff.mpr (List.mem_cons_of_mem _ inside))⟩
  | leaves ended outcome parted registered quiet final ends =>
    by_cases same : ended = number
    · exact .inr ⟨outcome, by rw [ends, if_pos same], final⟩
    · refine .inl ⟨registered ▸ known, fun inside => ?_⟩
      rcases List.mem_cons.mp (parted.mem_iff.mp inside) with rfl | inside
      · exact same rfl
      · exact out inside

end Effect

/-- A step fires as often as callbacks end or start to run. -/
theorem Step.balance (step : Step before events after) (number : Nat) :
    firings events number + before.running.count number =
      (outcomes events number).length + after.running.count number := by
  have ends : ∀ other (outcome : Except RepositoryError Unit) (depth : Nat),
      (outcomes [.ended depth other outcome] number).length = [other].count number := by
    intro other outcome depth
    rw [outcomes_ended, List.count_singleton, apply_ite List.length]
    exact if_congr beq_iff_eq.symm rfl rfl
  have fires : ∀ other depth, firings [.fired depth other] number = [other].count number := by
    intro other depth
    rw [firings_fired, List.count_singleton]
    exact if_congr beq_iff_eq.symm rfl rfl
  have joins : ∀ other (below : List Activity),
      (other :: below.flatMap Activity.running).count number =
        [other].count number + (below.flatMap Activity.running).count number :=
    fun other below => @List.count_append _ _ number [other] (below.flatMap Activity.running)
  cases step with
  | none | changed | waits | opens | refuses | closes => rfl
  | @begins registered pending stack free =>
    exact (congrArg (· + _) (fires registered stack.length)).trans
      ((joins registered stack).symm.trans (Nat.zero_add _).symm)
  | @fires _ _ other _ _ _ below =>
    exact (congrArg (· + _) (fires other (below.length + 1))).trans
      ((joins other below).symm.trans (Nat.zero_add _).symm)
  | @completes _ _ other _ below =>
    rw [ends]
    unfold running
    rw [running_credit]
    exact (Nat.zero_add _).trans (joins other below)
  | @retries _ _ other _ below =>
    rw [ends]
    exact (Nat.zero_add _).trans (joins other below)
  | @fails _ _ other _ below error final =>
    rw [ends]
    exact (Nat.zero_add _).trans (joins other below)

/-- What a history and a ledger have to do with each other, callback by callback. -/
structure Accounts (history : List Event) (ledger : Ledger) : Prop where
  /-- The callbacks registered have their numbers in order. -/
  registered : registrations history = List.range ledger.registered
  /-- No callback is inside twice. -/
  nodup : ledger.inside.Nodup
  /-- Those inside are registered. -/
  known : ∀ number ∈ ledger.inside, number < ledger.registered
  /-- Those not registered have not ended. -/
  fresh : ∀ number, ledger.registered ≤ number → outcomes history number = []
  /-- Those inside have always been left to wait. -/
  retried : ∀ number ∈ ledger.inside, ∀ outcome ∈ outcomes history number,
    outcome = .error .unsupported
  /-- The others have ended for good. -/
  final : ∀ number < ledger.registered, number ∉ ledger.inside →
    ∃ outcome, (outcomes history number).getLast? = some outcome ∧ outcome ≠ .error .unsupported
  /-- Each has been fired as often as it has ended or runs. -/
  balance : ∀ number,
    firings history number = (outcomes history number).length + ledger.running.count number

theorem Accounts.start : Accounts [] ⟨false, 0, [], []⟩ where
  registered := rfl
  nodup := .nil
  known := nofun
  fresh _ _ := rfl
  retried := nofun
  final := nofun
  balance _ := rfl

/-- **A step keeps the accounts.** -/
theorem Accounts.next (accounts : Accounts history before) (step : Step before events after) :
    Accounts (history ++ events) after where
  registered := step.effect.registrations_eq accounts.registered
  nodup := step.effect.nodup accounts.nodup fun inside =>
    Nat.lt_irrefl _ (accounts.known _ inside)
  known number inside := by
    rcases step.effect.of_mem accounts.nodup inside with ⟨inside, _⟩ | ⟨rfl, registered⟩
    · exact Nat.lt_of_lt_of_le (accounts.known number inside) step.effect.le_registered
    · omega
  fresh number unknown := by
    have unknown := Nat.le_trans step.effect.le_registered unknown
    have out : number ∉ before.inside := fun inside =>
      Nat.not_lt_of_le unknown (accounts.known number inside)
    rw [outcomes_append, accounts.fresh number unknown, step.effect.outcomes_of_not_mem out]
    rfl
  retried number inside outcome member := by
    rw [outcomes_append] at member
    rcases step.effect.of_mem accounts.nodup inside with ⟨inside, retried⟩ | ⟨rfl, _⟩
    · rcases List.mem_append.mp member with earlier | now
      · exact accounts.retried number inside outcome earlier
      · exact retried outcome now
    · have new : before.registered ∉ before.inside := fun inside =>
        Nat.lt_irrefl _ (accounts.known _ inside)
      rw [accounts.fresh _ (Nat.le_refl _), step.effect.outcomes_of_not_mem new] at member
      cases member
  final number known out := by
    rw [outcomes_append]
    rcases step.effect.of_not_mem known out with ⟨known, out⟩ | ⟨outcome, now, final⟩
    · rw [step.effect.outcomes_of_not_mem out, List.append_nil]
      exact accounts.final number known out
    · rw [now, List.getLast?_concat]
      exact ⟨outcome, rfl, final⟩
  balance number := by
    have earlier := accounts.balance number
    have now := step.balance number
    rw [firings_append, outcomes_append, List.length_append]
    omega

/-- A callback that was registered and is no longer inside. -/
def IsOut (number : Nat) (ledger : Ledger) : Prop :=
  number < ledger.registered ∧ number ∉ ledger.inside

/-- **What is out stays out** and is not fired. -/
theorem IsOut.next {number : Nat} (out : IsOut number before) (nodup : before.inside.Nodup)
    (step : Step before events after) : IsOut number after ∧ firings events number = 0 := by
  have later : number ∉ after.inside := by
    intro inside
    rcases step.effect.of_mem nodup inside with ⟨inside, _⟩ | ⟨rfl, _⟩
    · exact out.2 inside
    · exact Nat.lt_irrefl _ out.1
  have idle : before.running.count number = 0 :=
    List.count_eq_zero.mpr fun runs => out.2 (before.running_subset runs)
  have still : after.running.count number = 0 :=
    List.count_eq_zero.mpr fun runs => later (after.running_subset runs)
  have balance := step.balance number
  rw [step.effect.outcomes_of_not_mem out.2, still, idle] at balance
  exact ⟨⟨Nat.lt_of_lt_of_le out.1 step.effect.le_registered, later⟩, balance⟩

end Ledger

end FirmwareTables
