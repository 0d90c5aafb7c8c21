/-
**Coming to an end.**

What goes on with a manager comes to an end or goes on for ever: a callback may install and register
without bound. `Finishes` says of what is going on that it ends, with all that is seen until then.

* `Finishes.unique`: there is one way in which it can end;
* `Finishes.run`: it belongs to the run that led to it.
-/

import FirmwareTables.Proofs.Manager.Ledger

namespace FirmwareTables

variable {σ : Type}

namespace Machine

/-- What is going on comes to an end, with all that is seen of it. -/
inductive Finishes : Machine σ → List Event → Machine σ → Prop
  /-- Nothing is going on. -/
  | rest {machine : Machine σ} (idle : machine.isIdle) : Finishes machine [] machine
  /-- One step first. -/
  | step {machine final : Machine σ} {events : List Event} (busy : machine.isIdle = false) :
    Finishes machine.step events final → Finishes machine (machine.seen ++ events) final

namespace Finishes

variable {start machine final other : Machine σ} {history events others : List Event}

theorem isIdle (finishes : Finishes machine events final) : final.isIdle := by
  induction finishes with
  | rest idle => exact idle
  | step _ _ ih => exact ih

/-- **There is one way** in which what is going on comes to an end. -/
theorem unique (one : Finishes machine events final) (another : Finishes machine others other) :
    events = others ∧ final = other := by
  induction one generalizing others other with
  | rest idle =>
    cases another with
    | rest => exact ⟨rfl, rfl⟩
    | step busy => exact absurd (idle.symm.trans busy) (by decide)
  | step busy _ ih =>
    cases another with
    | rest idle => exact absurd (idle.symm.trans busy) (by decide)
    | step _ later =>
      obtain ⟨rfl, rfl⟩ := ih later
      exact ⟨rfl, rfl⟩

/-- It is part of the run that led to it. -/
theorem run (finishes : Finishes machine events final) :
    ∀ {history : List Event}, Run start history machine → Run start (history ++ events) final := by
  induction finishes with
  | rest =>
    intro history run
    rwa [List.append_nil]
  | step busy _ ih =>
    intro history run
    rw [← List.append_assoc]
    exact ih (run.next (.step busy))

end Finishes

/-- A callback that does not ask to wait is gone when it ends. -/
theorem endCallback_of_final (manager : Manager σ) (callback : Callback σ)
    (below : List (Frame σ)) {outcome : Except RepositoryError Unit}
    (final : outcome ≠ .error .unsupported) : endCallback manager callback outcome below =
      ⟨manager, if outcome.isOk then countCompleted below else below, none⟩ := by
  cases outcome with
  | ok done => rfl
  | error error =>
    cases error with
    | unsupported => exact absurd rfl final
    | _ => rfl

end Machine

end FirmwareTables
