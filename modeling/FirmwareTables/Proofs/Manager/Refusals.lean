/-
**Installs that are refused.**

The first install stores the default vendor record, which fails where as many vendor records are
stored already as can be counted; no other install fails. A refused install leaves everything as it
was but for the mark that the manager is installed. That mark is what tells the first install from
later ones, so that no later install stores the record: the next one takes the callbacks that wait
and fires them, record or no record.

* `Configuration.seed_eq`: when the record can be stored;
* `Manager.openInstall_eq_error`: which installs are refused;
* `install_refusals`: what a refused install leaves behind, and what an accepted one does first;
* `retry_unseeded`: a manager that is installed, without a vendor record, after a refused install
  was tried again.
-/

import FirmwareTables.Proofs.Manager.Callbacks
import FirmwareTables.Proofs.Repository.Appending

namespace FirmwareTables

/-- The number of vendor records that are stored. -/
def Configuration.vendors (configuration : Configuration) : Nat :=
  configuration.store.countOf (Record.objectId ManagerInfo)

/-- **Storing the default vendor record** fails only where no more can be counted. -/
theorem Configuration.seed_eq (configuration : Configuration) :
    configuration.seed =
      if configuration.vendors < maxCount then
        .ok { configuration with
          store := configuration.store.put
            ((Deposit.ofRecord .null (default : ManagerInfo)).entry configuration.store) }
      else .error (.invalidParameter (.countOverflow (Record.objectId ManagerInfo))) := by
  have met : (Deposit.ofRecord .null (default : ManagerInfo)).met configuration.store =
    configuration.vendors := Store.met_null _ _ _
  have made := (Deposit.ofRecord .null (default : ManagerInfo)).change_eq configuration.store
  rw [met] at made
  unfold seed
  show Except.map _ ((Deposit.ofRecord .null (default : ManagerInfo)).change _).result = _
  rw [made]
  split <;> rfl

section

variable {σ : Type}

namespace Manager

variable (manager : Manager σ)

/-- **An install is refused** exactly if it is the first one and no more vendor records can be
counted. -/
theorem openInstall_eq_error {error : RepositoryError} :
    manager.openInstall.2 = .error error ↔
      (manager.installed = false ∧ maxCount ≤ manager.configuration.vendors) ∧
        error = .invalidParameter (.countOverflow (Record.objectId ManagerInfo)) := by
  cases marked : manager.installed with
  | true => simp [openInstall_of_installed manager marked]
  | false =>
    have seed := manager.configuration.seed_eq
    by_cases room : manager.configuration.vendors < maxCount
    · rw [if_pos room] at seed
      simp [openInstall_of_seeded manager marked seed, Nat.not_le.mpr room]
    · rw [if_neg room] at seed
      simp [openInstall_of_refused manager marked seed, Nat.le_of_not_lt room, eq_comm]

end Manager

/-! ### Refused and accepted -/

/-- What a refused install leaves behind. -/
structure Machine.IsRefused (machine next : Machine σ) (error : RepositoryError) : Prop where
  /-- Nothing was going on; there was no room for one vendor record more. -/
  outside : machine.isIdle ∧
    error = .invalidParameter (.countOverflow (Record.objectId ManagerInfo))
  /-- What is configured and which callbacks wait stays as it was, but the manager is marked. -/
  marked : next = ⟨machine.manager.marked, [], some (.error error)⟩
  /-- From then on every install is accepted, takes the callbacks that wait, and stores nothing. -/
  unseeded : ∀ {later events : List Event} {middle last : Machine σ} {depth : Nat}
    {taken : Except RepositoryError (List Nat)},
    Run next later middle → Move middle events last → .opened depth taken ∈ events →
      taken = .ok (numbers middle.manager.pending) ∧
        last.manager.configuration = middle.manager.configuration

/-- What the first install does if it is accepted. -/
structure Machine.IsSeeded (machine next : Machine σ) (history : List Event) : Prop where
  /-- The default vendor record is stored. -/
  stored : machine.manager.configuration.seed = .ok next.manager.configuration
  /-- So far nothing was fired; what waited is fired now. -/
  first : (∀ depth number, .fired depth number ∉ history) ∧
    next.stack = [.installing machine.manager.pending 0]

namespace Move

variable {machine next : Machine σ} {events : List Event}

/-- A manager that is installed stays so. -/
theorem installed (move : Move machine events next) (present : machine.manager.installed = true) :
    next.manager.installed = true := by
  rcases move.changes_ledger.installed with ⟨same, -⟩ | ⟨now, -⟩
  · exact same.trans present
  · exact now

/-- An install of an installed manager is accepted and stores nothing. -/
theorem opens_of_installed (move : Move machine events next)
    (present : machine.manager.installed = true) {depth : Nat}
    {taken : Except RepositoryError (List Nat)} (opens : .opened depth taken ∈ events) :
    taken = .ok (numbers machine.manager.pending) ∧
      next.manager.configuration = machine.manager.configuration := by
  obtain ⟨rfl, below, rfl, -⟩ := move.opens opens
  refine ⟨?_, configuration_startInstall machine.manager below present⟩
  rw [machine.manager.openInstall_of_installed present]
  rfl

end Move

namespace Run

theorem installed {start machine : Machine σ} {history : List Event}
    (run : Run start history machine) (present : start.manager.installed = true) :
    machine.manager.installed = true := by
  induction run with
  | start => exact present
  | next _ move ih => exact move.installed ih

variable {host : σ} {machine : Machine σ} {history : List Event}

/-- With a manager that is not installed nothing goes on. -/
theorem idle (run : Run (.atRest (.new host)) history machine)
    (absent : machine.manager.installed = false) : machine.stack = [] := by
  by_contra busy
  have present := run.begins.busy fun none => busy (List.map_eq_nil_iff.mp none)
  exact Bool.false_ne_true (absent.symm.trans present)

/-- A manager that is not installed has fired nothing. -/
theorem unfired (run : Run (.atRest (.new host)) history machine)
    (absent : machine.manager.installed = false) (depth number : Nat) :
    .fired depth number ∉ history := by
  induction run with
  | start => exact List.not_mem_nil
  | @next _ _ before _ earlier move ih =>
    have earlier_absent : before.manager.installed = false := by
      by_contra present
      rw [Bool.not_eq_false] at present
      exact Bool.false_ne_true (absent.symm.trans (move.installed present))
    intro fired
    rcases List.mem_append.mp fired with past | now
    · exact ih earlier_absent past
    · have present := earlier.begins.fires move.changes_ledger now
      exact Bool.false_ne_true (earlier_absent.symm.trans present)

end Run

/-- **Installs that are refused**, of a manager that was new once. An install is refused if and only
if it is the first one and no more vendor records can be counted. Then the manager is left as it was
but for the mark that it is installed, and because of this mark no later install stores the vendor
record. A first install that is accepted stores it before any callback is fired. -/
theorem install_refusals {host : σ} {history events : List Event} {machine next : Machine σ}
    {depth : Nat} {taken : Except RepositoryError (List Nat)}
    (run : Run (.atRest (.new host)) history machine) (move : Move machine events next)
    (opens : .opened depth taken ∈ events) :
    ((∃ error, taken = .error error) ↔ machine.manager.installed = false ∧
      4294967295 ≤ machine.manager.configuration.vendors) ∧
    (∀ error, taken = .error error → machine.IsRefused next error) ∧
    ∀ queue, machine.manager.installed = false → taken = .ok queue →
      machine.IsSeeded next history := by
  obtain ⟨rfl, below, rfl, resting⟩ := move.opens opens
  have refused (error : RepositoryError) :
      machine.manager.openInstall.2.map numbers = .error error ↔
        machine.manager.openInstall.2 = .error error := by
    cases machine.manager.openInstall.2 <;> simp [Except.map]
  refine ⟨?_, fun error failed => ?_, fun queue absent accepted => ?_⟩
  · simp only [refused, Manager.openInstall_eq_error, exists_and_left, exists_eq, and_true]
    rfl
  · obtain ⟨⟨absent, full⟩, rfl⟩ := machine.manager.openInstall_eq_error.mp ((refused error).mp failed)
    have idle := List.isEmpty_iff.mpr (run.idle absent)
    have seed := machine.manager.configuration.seed_eq
    rw [if_neg (Nat.not_lt.mpr full)] at seed
    obtain rfl := resting idle
    have marked := Machine.startInstall_of_error []
      (machine.manager.openInstall_of_refused absent seed)
    refine ⟨⟨idle, rfl⟩, marked, fun later again opened => ?_⟩
    refine again.opens_of_installed (later.installed ?_) opened
    rw [marked]
    rfl
  · cases seeded : machine.manager.configuration.seed with
    | error error =>
      rw [machine.manager.openInstall_of_refused absent seeded] at accepted
      cases accepted
    | ok configuration =>
      obtain rfl := resting (List.isEmpty_iff.mpr (run.idle absent))
      rw [Machine.startInstall_of_ok [] (machine.manager.openInstall_of_seeded absent seeded)]
      exact ⟨seeded, run.unfired absent, rfl⟩

end

/-- As many vendor records as can be counted. -/
def crowded : Configuration :=
  ⟨⟨[⟨Record.objectId ManagerInfo, ⟨1⟩, 4294967295, [0]⟩]⟩, 0⟩

/-- A manager whose host has stored them and then registered a callback. -/
def crowdedManager : Manager Unit :=
  Manager.enqueue ⟨crowded, (), false, [], 1⟩ ⟨0, 0, fun _ => .finish (.ok ())⟩

theorem run_crowded : Run (.atRest (.new ())) [.changed, .registered 0] (.atRest crowdedManager) :=
  (Run.start.next (.change rfl crowded ())).next (.register rfl fun _ => .finish (.ok ()))

/-- The first install of this manager is refused. -/
theorem install_refusals_crowded :
    Run (.atRest (.new ())) [.changed, .registered 0] (.atRest crowdedManager) ∧
      Move (.atRest crowdedManager) (crowdedManager.installing 0) crowdedManager.install ∧
        Machine.IsRefused (.atRest crowdedManager) crowdedManager.install
          (.invalidParameter (.countOverflow (Record.objectId ManagerInfo))) := by
  have move : Move (.atRest crowdedManager) (crowdedManager.installing 0) crowdedManager.install :=
    .install rfl
  exact ⟨run_crowded, move, (install_refusals run_crowded move List.mem_cons_self).2.1 _ rfl⟩

/-- **A refused install that is tried again.** The manager was not installed; the refused install
leaves it marked. When the stored records are deleted and the install is tried again, it fires the
callback, and no vendor record is stored. -/
theorem retry_unseeded :
    Run (.atRest (.new ())) [.changed, .registered 0] (.atRest crowdedManager) ∧
      crowdedManager.installed = false ∧
      crowdedManager.install.answer =
        some (.error (.invalidParameter (.countOverflow (Record.objectId ManagerInfo)))) ∧
      crowdedManager.install.manager.installed = true ∧
      ∃ last : Machine Unit,
        Run crowdedManager.install [.changed, .opened 0 (.ok [0]), .fired 1 0, .ended 1 0 (.ok ()),
          .closed 0 1] last ∧
        last.answer = some (.ok 1) ∧ last.manager.configuration.vendors = 0 := by
  have emptied := (@Run.start _ crowdedManager.install).next (.change rfl .empty ())
  have again := (((emptied.next (.install rfl)).next (.step rfl)).next (.step rfl)).next (.step rfl)
  exact ⟨run_crowded, rfl, rfl, rfl, _, again, rfl, rfl⟩

end FirmwareTables
