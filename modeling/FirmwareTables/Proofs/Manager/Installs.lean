/-
**What an install fires and answers.**

An install that has not ended stands at its depth, whatever goes on above it. It has fired, at the
depth above its own, the callbacks that it took and no longer holds, and it has counted those of
them that ended well; callbacks fired by others have other depths. This is what `Follows` says, and
`Follows.next` that every step keeps it.
-/

import FirmwareTables.Proofs.Manager.Conservation

namespace FirmwareTables

/-- What goes on at a depth. -/
def Activity.at? : List Activity → Nat → Option Activity
  | [], _ => none
  | activity :: below, depth => if depth = below.length then some activity else at? below depth

namespace Activity

theorem lt_of_at? {stack : List Activity} {depth : Nat} {activity : Activity}
    (there : at? stack depth = some activity) : depth < stack.length := by
  induction stack with
  | nil => cases there
  | cons first below ih =>
    unfold at? at there
    rw [List.length_cons]
    split at there
    · omega
    · exact Nat.lt_succ_of_lt (ih there)

theorem at?_top (activity : Activity) (below : List Activity) :
    at? (activity :: below) below.length = some activity := if_pos rfl

theorem at?_below (activity : Activity) {below : List Activity} {depth : Nat}
    (lower : depth < below.length) : at? (activity :: below) depth = at? below depth :=
  if_neg (Nat.ne_of_lt lower)

/-- Below a callback that runs. -/
theorem at?_of_active {number depth completed : Nat} {queue : List Nat} {below : List Activity}
    (there : at? (active number :: below) depth = some (installing queue completed)) :
    at? below depth = some (installing queue completed) := by
  unfold at? at there
  split at there
  · cases there
  · exact there

/-- An install right below the top is about to fire. -/
theorem isFiring_of_at? {depth completed : Nat} {queue : List Nat} {stack : List Activity}
    (there : at? stack depth = some (installing queue completed))
    (last : stack.length = depth + 1) : IsFiring stack := by
  cases stack with
  | nil => cases there
  | cons top below =>
    have here : depth = below.length := Nat.succ.inj last.symm
    rw [here, at?_top] at there
    exact ⟨queue, completed, below, congrArg (· :: below) (Option.some.inj there)⟩

/-- A callback that ends well is counted by the install right below it, and by no other. -/
theorem at?_credit {depth completed : Nat} {queue : List Nat} {below : List Activity}
    (there : at? below depth = some (installing queue completed)) :
    at? (credit below) depth =
      some (installing queue (completed + if below.length = depth + 1 then 1 else 0)) := by
  have lower := lt_of_at? there
  unfold credit
  split
  · rename_i others count rest
    rw [List.length_cons] at lower
    by_cases here : depth = rest.length
    · rw [here, at?_top] at there
      cases there
      rw [here, at?_top, if_pos List.length_cons]
    · have deeper : depth < rest.length := by omega
      rw [at?_below _ deeper] at there
      rw [at?_below _ deeper, there, if_neg (by rw [List.length_cons]; omega)]
      rfl
  · rename_i other
    rw [there, if_neg]
    · rfl
    · intro last
      obtain ⟨_, _, _, same⟩ := isFiring_of_at? there last
      exact other _ _ _ same

end Activity

namespace Ledger

open Activity

variable {before after : Ledger} {history events : List Event} {depth : Nat}

/-- **An install in a step**: unless it ends, it stays where it is, fires what it then no longer
holds and counts what ends well right above it. -/
theorem Step.install {queue : List Nat} {completed : Nat} (step : Step before events after)
    (there : at? before.stack depth = some (.installing queue completed))
    (runs : ∀ number, .closed depth number ∉ events) :
    ∃ rest, at? after.stack depth =
        some (.installing rest (completed + completedAt events (depth + 1))) ∧
      firedAt events (depth + 1) ++ rest = queue := by
  have lower := lt_of_at? there
  cases step with
  | none | changed | waits | refuses => exact ⟨queue, there, rfl⟩
  | @begins registered pending stack free =>
    have apart : stack.length ≠ depth + 1 := fun last => free (isFiring_of_at? there last)
    refine ⟨queue, (at?_below _ lower).trans there, ?_⟩
    change firedAt [.fired stack.length registered] (depth + 1) ++ queue = queue
    rw [firedAt_fired, if_neg apart]
    rfl
  | opens => exact ⟨queue, (at?_below _ lower).trans there, rfl⟩
  | @fires _ _ number count pending others below =>
    rw [firedAt_fired]
    by_cases here : depth = below.length
    · rw [here, at?_top] at there
      cases there
      refine ⟨others, ?_, by rw [if_pos (congrArg (· + 1) here.symm)]; rfl⟩
      rw [here, at?_below _ (Nat.lt_succ_self _), at?_top]
      rfl
    · have deeper : depth < below.length := Nat.lt_of_le_of_ne (Nat.le_of_lt_succ lower) here
      refine ⟨queue, ?_, by rw [if_neg (by omega)]; rfl⟩
      rw [at?_below _ deeper] at there
      rw [at?_below _ (Nat.lt_succ_of_lt deeper), at?_below _ deeper]
      exact there
  | @closes _ _ count pending below =>
    have apart : depth ≠ below.length := by
      rintro rfl
      exact runs count List.mem_cons_self
    have deeper : depth < below.length := Nat.lt_of_le_of_ne (Nat.le_of_lt_succ lower) apart
    exact ⟨queue, (at?_below _ deeper).symm.trans there, rfl⟩
  | @completes _ _ number pending below =>
    refine ⟨queue, ?_, rfl⟩
    rw [completedAt_ended]
    exact at?_credit (at?_of_active there)
  | retries => exact ⟨queue, at?_of_active there, rfl⟩
  | fails final => exact ⟨queue, at?_of_active there, rfl⟩

/-- An install that ends has nothing left to fire. -/
theorem Step.closing {completed : Nat} (step : Step before events after)
    (ends : .closed depth completed ∈ events) :
    events = [.closed depth completed] ∧
      at? before.stack depth = some (.installing [] completed) := by
  cases step with
  | @closes _ _ count pending below =>
    cases List.mem_singleton.mp ends
    exact ⟨rfl, at?_top _ below⟩
  | none => cases ends
  | changed | waits | begins | opens | refuses | fires | completes | retries | fails => simp at ends

/-- An install that starts takes all callbacks that wait. -/
theorem Step.opening {queue : List Nat} (step : Step before events after)
    (starts : .opened depth (.ok queue) ∈ events) :
    events = [.opened depth (.ok queue)] ∧ queue = before.pending ∧ after.pending = [] ∧
      at? after.stack depth = some (.installing queue 0) := by
  cases step with
  | @opens _ _ pending stack =>
    cases List.mem_singleton.mp starts
    exact ⟨rfl, rfl, rfl, at?_top _ stack⟩
  | none => cases starts
  | changed | waits | begins | refuses | fires | closes | completes | retries | fails =>
    simp at starts

/-! ### Over a history -/

/-- What a history and a ledger have to do with each other, install by install. -/
structure Follows (history : List Event) (ledger : Ledger) : Prop where
  /-- An install that has not ended stands at its depth. -/
  stands : ∀ {earlier during : List Event} {depth : Nat} {queue : List Nat},
    history = earlier ++ .opened depth (.ok queue) :: during →
      (∀ completed, .closed depth completed ∉ during) →
        ∃ rest, at? ledger.stack depth =
            some (.installing rest (completedAt during (depth + 1))) ∧
          firedAt during (depth + 1) ++ rest = queue
  /-- An install that has ended has fired what it took and has counted what ended well. -/
  ended : ∀ {earlier during later : List Event} {depth completed : Nat} {queue : List Nat},
    history = earlier ++ .opened depth (.ok queue) :: (during ++ .closed depth completed :: later) →
      (∀ number, .closed depth number ∉ during) →
        firedAt during (depth + 1) = queue ∧ completed = completedAt during (depth + 1)

theorem Follows.start (ledger : Ledger) : Follows [] ledger where
  stands same := absurd same.symm (by simp)
  ended same := absurd same.symm (by simp)

/-- An event of a history that goes on is one of the history or of what follows. -/
theorem append_eq_append_cons {history events front back : List Event} {event : Event}
    (same : history ++ events = front ++ event :: back) :
    (∃ middle, history = front ++ event :: middle ∧ back = middle ++ events) ∨
      ∃ middle, front = history ++ middle ∧ events = middle ++ event :: back := by
  rcases List.append_eq_append_iff.mp same with ⟨middle, front, rest⟩ | ⟨middle, whole, rest⟩
  · exact .inr ⟨middle, front, rest⟩
  · cases middle with
    | nil => exact .inr ⟨[], by rw [List.append_nil, whole, List.append_nil], rest.symm⟩
    | cons first middle =>
      obtain ⟨rfl, tail⟩ := List.cons.inj rest
      exact .inl ⟨middle, whole, tail⟩

/-- An event that is seen alone has none before and none behind it. -/
theorem alone_of_eq {events front back : List Event} {event : Event} (alone : events = [event])
    (here : events = front ++ event :: back) : front = [] ∧ back = [] := by
  have lengths := congrArg List.length (alone.symm.trans here)
  simp only [List.length_append, List.length_cons, List.length_nil] at lengths
  exact ⟨List.length_eq_zero_iff.mp (by omega), List.length_eq_zero_iff.mp (by omega)⟩

/-- **A step keeps track of all installs.** -/
theorem Follows.next (follows : Follows history before) (step : Step before events after) :
    Follows (history ++ events) after where
  stands {earlier during depth queue} same runs := by
    rcases append_eq_append_cons same with ⟨middle, past, rfl⟩ | ⟨_, _, now⟩
    · obtain ⟨rest, there, fired⟩ := follows.stands past fun completed ends =>
        runs completed (List.mem_append_left _ ends)
      obtain ⟨left, stays, fires⟩ := step.install there fun completed ends =>
        runs completed (List.mem_append_right _ ends)
      refine ⟨left, ?_, ?_⟩
      · rw [completedAt_append]
        exact stays
      · rw [firedAt_append, List.append_assoc, fires, fired]
    · have starts : .opened depth (.ok queue) ∈ events := by
        rw [now]
        exact List.mem_append_right _ List.mem_cons_self
      obtain ⟨only, _, _, there⟩ := step.opening starts
      rw [(alone_of_eq only now).2]
      exact ⟨queue, there, rfl⟩
  ended {earlier during later depth completed queue} same runs := by
    rw [← List.cons_append, ← List.append_assoc] at same
    rcases append_eq_append_cons same with ⟨middle, past, _⟩ | ⟨middle, past, now⟩
    · rw [List.append_assoc, List.cons_append] at past
      exact follows.ended past runs
    · have ends : .closed depth completed ∈ events := by
        rw [now]
        exact List.mem_append_right _ List.mem_cons_self
      obtain ⟨only, there⟩ := step.closing ends
      rw [(alone_of_eq only now).1, List.append_nil] at past
      obtain ⟨rest, stands, fired⟩ := follows.stands past.symm runs
      rw [there] at stands
      cases stands
      rw [List.append_nil] at fired
      exact ⟨fired, rfl⟩

end Ledger

end FirmwareTables
