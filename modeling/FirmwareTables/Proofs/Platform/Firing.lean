/-
**Descriptions that callbacks apply.**

The callback of a description applies it when it is fired. On an installed manager no description
is refused with `unsupported` (`populate_final`), so that no such callback ever waits again.

* `script_step`: whenever such a callback acts, its manager is installed, and its step is that of
  applying the description;
* `fire_steps`: what is left when such a callback was fired is what applying the description leaves;
* `installing_finishes`: an install that fires them ends where applying the descriptions one after
  the other ends, and has counted those that were accepted;
* `register_finishes`, `register_steps`: after the installation, registering is applying.
-/

import FirmwareTables.Proofs.Manager.Callbacks
import FirmwareTables.Proofs.Manager.Finishing
import FirmwareTables.Proofs.Platform.Applying

namespace FirmwareTables

variable {σ : Type}

open Machine

/-! ### Applying descriptions one after the other -/

namespace Platform

/-- Applies descriptions one after the other, whatever comes of each. -/
def applyAll : List Platform → Manager σ → List (Except PlatformError Unit) × Manager σ
  | [], manager => ([], manager)
  | platform :: platforms, manager =>
    let (outcome, manager) := platform.apply manager
    let (outcomes, manager) := applyAll platforms manager
    (outcome :: outcomes, manager)

/-- How many descriptions are accepted. -/
def accepted (outcomes : List (Except PlatformError Unit)) : Nat := outcomes.countP Except.isOk

variable (platform : Platform) (platforms : List Platform)

theorem applyAll_cons (manager : Manager σ) : applyAll (platform :: platforms) manager =
    ((platform.apply manager).1 :: (applyAll platforms (platform.apply manager).2).1,
      (applyAll platforms (platform.apply manager).2).2) := rfl

theorem length_applyAll (manager : Manager σ) :
    (applyAll platforms manager).1.length = platforms.length := by
  induction platforms generalizing manager with
  | nil => rfl
  | cons platform platforms ih => rw [applyAll_cons, List.length_cons, ih, List.length_cons]

/-- Descriptions change only what is configured. -/
theorem applyAll_others (manager : Manager σ) : ∃ configuration,
    (applyAll platforms manager).2 = { manager with configuration := configuration } := by
  induction platforms generalizing manager with
  | nil => exact ⟨manager.configuration, rfl⟩
  | cons platform platforms ih => exact ih (platform.apply manager).2

/-- How many callbacks are registered makes no difference. -/
theorem apply_registered (manager : Manager σ) (registered : Nat) :
    platform.apply { manager with registered := registered } =
      ((platform.apply manager).1, { (platform.apply manager).2 with registered := registered }) :=
  rfl

theorem applyAll_registered (manager : Manager σ) (registered : Nat) :
    applyAll platforms { manager with registered := registered } =
      ((applyAll platforms manager).1,
        { (applyAll platforms manager).2 with registered := registered }) := by
  induction platforms generalizing manager with
  | nil => rfl
  | cons platform platforms ih =>
    rw [applyAll_cons, apply_registered, ih, applyAll_cons]

/-! ### A refused description does not wait -/

/-- What is wrong with a description is no matter of the repository. -/
theorem validate_ne_repository {error : RepositoryError} :
    platform.validate ≠ .error (.repository error) := by
  intro failed
  unfold validate at failed
  rcases bind_eq_error.mp failed with vendor | ⟨_, _, failed⟩
  · cases VendorSection.toInfo_eq_error.mp vendor
  rcases bind_eq_error.mp failed with names | ⟨_, _, references⟩
  · obtain ⟨_, _, _, _, _, fault⟩ := checkNames_eq_error.mp names
    cases fault
  · obtain ⟨_, _, _, _, _, _, cause⟩ := checkReferences_eq_error.mp references
    cases cause

/-- **On an installed manager no description is refused with `unsupported`**, also not when its
error is turned into one of the repository. -/
theorem populate_final (configuration : Configuration) :
    (platform.populate true configuration).1.mapError PlatformError.toRepositoryError ≠
      .error .unsupported := by
  unfold populate
  rw [if_neg (by decide)]
  cases consistent : platform.validate with
  | error error =>
    cases error with
    | repository cause => exact absurd consistent platform.validate_ne_repository
    | disk | malformed | invalid | unknownReference | duplicateName => exact nofun
  | ok done =>
    change (platform.addAll configuration).1.mapError PlatformError.toRepositoryError ≠ _
    cases failed : (platform.addAll configuration).1 with
    | ok _ => exact nofun
    | error error =>
      obtain ⟨id, rfl⟩ := platform.addAll_eq_error consistent failed
      exact nofun

/-! ### The callback of a description -/

/-- The callback of a description. -/
def callback (platform : Platform) (number : Nat) : Callback σ :=
  ⟨number, 0, fun _ => platform.script⟩

/-- The callbacks of descriptions that are registered one after the other. -/
def callbacks : Nat → List Platform → List (Callback σ)
  | _, [] => []
  | first, platform :: platforms => platform.callback first :: callbacks (first + 1) platforms

/-- What is seen when a callback that was fired has applied its description. -/
def serving (depth number : Nat) (outcome : Except PlatformError Unit) : List Event :=
  [.changed, .ended depth number (outcome.mapError PlatformError.toRepositoryError)]

/-- What is seen when an install fires the callbacks of descriptions. -/
def served : Nat → List (Except PlatformError Unit) → List Event
  | _, [] => []
  | first, outcome :: outcomes =>
    .fired 1 first :: (serving 1 first outcome ++ served (first + 1) outcomes)

/-- On an installed manager a description is tried as its callback tries it. -/
theorem apply_of_installed {manager : Manager σ} (installed : manager.installed) :
    platform.apply manager = ((platform.populate true manager.configuration).1,
      { manager with configuration := (platform.populate true manager.configuration).2 }) := by
  unfold apply
  rw [installed]

/-- **Whenever a description acts, its manager is installed**, whatever was done with it since it
was new: the step is that of applying the description. -/
theorem script_step {host : σ} {history : List Event} {machine : Machine σ}
    (run : Run (.atRest (.new host)) history machine) {callback : Callback σ}
    {below : List (Frame σ)} (acts : machine.stack = .running callback platform.script :: below) :
    machine.manager.installed ∧ machine.step =
      ⟨(platform.apply machine.manager).2, .running callback (.finish
        ((platform.apply machine.manager).1.mapError PlatformError.toRepositoryError)) :: below,
        none⟩ := by
  have busy : machine.ledger.stack ≠ [] := by
    unfold ledger
    rw [acts]
    exact List.cons_ne_nil _ _
  have installed : machine.manager.installed := run.begins.busy busy
  refine ⟨installed, ?_⟩
  rw [platform.apply_of_installed installed]
  obtain ⟨manager, stack, answer⟩ := machine
  cases (acts : stack = _)
  rfl

/-- **A callback that is fired on an installed manager** applies its description in two steps and is
gone. -/
theorem fire_steps (manager : Manager σ) (installed : manager.installed) (number : Nat)
    (below : List (Frame σ)) :
    (Machine.mk manager (fire (platform.callback number) :: below) none).step.step =
      ⟨(platform.apply manager).2,
        if (platform.apply manager).1.isOk then countCompleted below else below, none⟩ := by
  rw [platform.apply_of_installed installed]
  have ends := endCallback_of_final
    { manager with configuration := (platform.populate true manager.configuration).2 }
    { (platform.callback number : Callback σ) with fired := 1 } below
    (platform.populate_final manager.configuration)
  have same : ((platform.populate true manager.configuration).1.mapError
      PlatformError.toRepositoryError).isOk =
        (platform.populate true manager.configuration).1.isOk := by
    cases (platform.populate true manager.configuration).1 <;> rfl
  rw [same] at ends
  exact ends

theorem fire_finishes (manager : Manager σ) (installed : manager.installed) (number : Nat)
    (below : List (Frame σ)) {events : List Event} {final : Machine σ}
    (rest : Finishes ⟨(platform.apply manager).2,
      if (platform.apply manager).1.isOk then countCompleted below else below, none⟩ events final) :
    Finishes ⟨manager, fire (platform.callback number) :: below, none⟩
      (serving below.length number (platform.apply manager).1 ++ events) final := by
  rw [← platform.fire_steps manager installed number] at rest
  obtain ⟨configuration, host, flag, pending, registered⟩ := manager
  cases (installed : flag = true)
  exact .step rfl (.step rfl rest)

/-! ### Registering after the installation -/

theorem startRegister_eq {manager : Manager σ} (installed : manager.installed)
    (below : List (Frame σ)) : startRegister manager (fun _ => platform.script) below =
      ⟨{ manager with registered := manager.registered + 1 },
        fire (platform.callback manager.registered) :: below, none⟩ := by
  unfold startRegister Manager.countCallback
  exact if_pos installed

/-- **After the installation** a description that is registered from outside is applied at once. -/
theorem register_finishes {manager : Manager σ} (installed : manager.installed) :
    Finishes (platform.register manager)
      (serving 0 manager.registered (platform.apply manager).1)
      (atRest { (platform.apply manager).2 with registered := manager.registered + 1 }) := by
  unfold register Manager.register
  rw [platform.startRegister_eq installed]
  have still : (if (platform.apply manager).1.isOk then countCompleted [] else []) =
      ([] : List (Frame σ)) := by split <;> rfl
  have rest : Finishes (atRest { (platform.apply manager).2 with
      registered := manager.registered + 1 }) [] _ := .rest rfl
  have fired := platform.fire_finishes { manager with registered := manager.registered + 1 }
    installed manager.registered [] (by rw [apply_registered, still]; exact rest)
  rw [apply_registered] at fired
  exact fired

/-- So is one that a callback registers, which then goes on. -/
theorem register_steps {manager : Manager σ} (installed : manager.installed)
    (callback : Callback σ) (next : Script σ) (below : List (Frame σ)) :
    (Machine.mk manager (.running callback (.register (fun _ => platform.script) next) :: below)
      none).step.step.step =
      ⟨{ (platform.apply manager).2 with registered := manager.registered + 1 },
        .running callback next :: below, none⟩ := by
  have starts : (Machine.mk manager (.running callback
      (.register (fun _ => platform.script) next) :: below) none).step =
        startRegister manager (fun _ => platform.script) (.running callback next :: below) := rfl
  rw [starts, platform.startRegister_eq installed]
  have applied := platform.fire_steps { manager with registered := manager.registered + 1 }
    installed manager.registered (.running callback next :: below)
  rw [applied, apply_registered]
  have still : (if (platform.apply manager).1.isOk then
      countCompleted (.running callback next :: below) else .running callback next :: below) =
        .running callback next :: below := by split <;> rfl
  rw [still]

/-! ### Installs that fire descriptions -/

theorem accepted_cons (outcome : Except PlatformError Unit)
    (outcomes : List (Except PlatformError Unit)) :
    accepted (outcome :: outcomes) = (if outcome.isOk then 1 else 0) + accepted outcomes := by
  unfold accepted
  rw [List.countP_cons, Nat.add_comm]

theorem countCompleted_installing (good : Bool) (queue : List (Callback σ)) (completed : Nat) :
    (if good then countCompleted [.installing queue completed] else [.installing queue completed]) =
      [.installing queue (completed + if good then 1 else 0)] := by
  cases good <;> rfl

/-- **An install that fires descriptions** ends where applying them one after the other ends, and
counts those that are accepted. -/
theorem installing_finishes (manager : Manager σ) (installed : manager.installed)
    (first completed : Nat) :
    Finishes ⟨manager, [.installing (callbacks first platforms) completed], none⟩
      (served first (applyAll platforms manager).1 ++
        [.closed 0 (completed + accepted (applyAll platforms manager).1)])
      ⟨(applyAll platforms manager).2, [],
        some (.ok (completed + accepted (applyAll platforms manager).1))⟩ := by
  induction platforms generalizing manager first completed with
  | nil => exact .step rfl (.rest rfl)
  | cons platform platforms ih =>
    have rest := ih (platform.apply manager).2 installed (first + 1)
      (completed + if (platform.apply manager).1.isOk then 1 else 0)
    rw [← countCompleted_installing, Nat.add_assoc, ← accepted_cons] at rest
    have fired := platform.fire_finishes manager installed first _ rest
    rw [applyAll_cons, served, List.cons_append, List.append_assoc]
    exact .step rfl fired

theorem firings_served (outcomes : List (Except PlatformError Unit)) (first number : Nat) :
    firings (served first outcomes) number =
      if first ≤ number ∧ number < first + outcomes.length then 1 else 0 := by
  induction outcomes generalizing first with
  | nil => exact (if_neg (by rw [List.length_nil]; omega)).symm
  | cons outcome outcomes ih =>
    have apart : served first (outcome :: outcomes) =
        [.fired 1 first] ++ (serving 1 first outcome ++ served (first + 1) outcomes) := rfl
    have still : firings (serving 1 first outcome) number = 0 := rfl
    rw [apart, firings_append, firings_append, firings_fired, still, ih, List.length_cons]
    split_ifs <;> omega

/-- How the callback of a description ends when an install fires it. -/
theorem outcomes_served (results : List (Except PlatformError Unit)) (first number : Nat) :
    outcomes (served first results) number =
      if first ≤ number then
        (results[number - first]?.map (Except.mapError PlatformError.toRepositoryError)).toList
      else [] := by
  induction results generalizing first with
  | nil => exact (ite_self _).symm
  | cons result results ih =>
    have apart : served first (result :: results) = [.fired 1 first, .changed] ++
        ([.ended 1 first (result.mapError PlatformError.toRepositoryError)] ++
          served (first + 1) results) := rfl
    have still : outcomes [.fired 1 first, .changed] number = [] := rfl
    rw [apart, outcomes_append, outcomes_append, outcomes_ended, still, ih, List.nil_append]
    rcases Nat.lt_trichotomy first number with before | rfl | behind
    · have later : number - first = number - (first + 1) + 1 := by omega
      rw [if_neg (by omega), if_pos (Nat.succ_le_of_lt before), if_pos (by omega), later,
        List.getElem?_cons_succ]
      rfl
    · rw [if_pos rfl, if_neg (by omega), if_pos (Nat.le_refl _), Nat.sub_self]
      rfl
    · rw [if_neg (by omega), if_neg (by omega), if_neg (by omega)]
      rfl

end Platform

end FirmwareTables
