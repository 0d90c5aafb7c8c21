/-
**Descriptions applied later are applied the same.**

A description can be registered before the manager is installed, and is then applied by the install,
or it can be applied when the manager is installed. `Deferred` and `Immediate` are these two orders
for a list of descriptions; each ends, and in one way only.

* `registers_waiting`: before the installation descriptions only wait, in order;
* `exists_orders`: how the two orders end;
* `deferral_agrees`: they agree in all that is configured, and no description is applied again.
-/

import FirmwareTables.Proofs.Manager.Callbacks
import FirmwareTables.Proofs.Platform.Firing

namespace FirmwareTables

variable {σ : Type}

open Machine

namespace Platform

variable (platform : Platform) (platforms : List Platform)

/-! ### Registering before the installation -/

/-- Descriptions are registered from outside, one after the other, with all that is seen of it. -/
inductive Registers : List Platform → Machine σ → List Event → Machine σ → Prop
  /-- No description is left. -/
  | nil {machine : Machine σ} : Registers [] machine [] machine
  /-- One description, with all that it sets off, and then the others. -/
  | cons {platform : Platform} {platforms : List Platform} {machine next final : Machine σ}
    {events others : List Event} (idle : machine.isIdle) :
    Finishes (platform.register machine.manager) events next →
      Registers platforms next others final →
        Registers (platform :: platforms) machine
          (machine.manager.registering 0 ++ events ++ others) final

namespace Registers

variable {start machine final other : Machine σ} {history events others : List Event}
  {platforms : List Platform}

theorem unique (one : Registers platforms machine events final)
    (another : Registers platforms machine others other) : events = others ∧ final = other := by
  induction one generalizing others other with
  | nil =>
    cases another
    exact ⟨rfl, rfl⟩
  | cons _ ends _ ih =>
    cases another with
    | cons _ same later =>
      obtain ⟨rfl, rfl⟩ := ends.unique same
      obtain ⟨rfl, rfl⟩ := ih later
      exact ⟨rfl, rfl⟩

theorem run (registers : Registers platforms machine events final) :
    ∀ {history : List Event}, Run start history machine → Run start (history ++ events) final := by
  induction registers with
  | nil =>
    intro history run
    rwa [List.append_nil]
  | cons idle ends _ ih =>
    intro history run
    rw [← List.append_assoc, ← List.append_assoc]
    exact ih (ends.run (run.next (.register idle _)))

theorem isIdle (registers : Registers platforms machine events final) (idle : machine.isIdle) :
    final.isIdle := by
  induction registers with
  | nil => exact idle
  | cons _ ends _ ih => exact ih ends.isIdle

end Registers

/-- A manager with which descriptions were registered. -/
def waiting (platforms : List Platform) (manager : Manager σ) : Manager σ :=
  { manager with
    pending := manager.pending ++ callbacks manager.registered platforms
    registered := manager.registered + platforms.length }

/-- **Before the installation** descriptions only wait, in order. -/
theorem registers_waiting (manager : Manager σ) (absent : manager.installed = false) :
    Registers platforms (atRest manager)
      ((List.range' manager.registered platforms.length).map .registered)
      (atRest (waiting platforms manager)) := by
  induction platforms generalizing manager with
  | nil =>
    have same : waiting [] manager = manager := by
      unfold waiting callbacks
      rw [List.append_nil]
      rfl
    rw [same]
    exact .nil
  | cons platform platforms ih =>
    obtain ⟨configuration, host, flag, pending, registered⟩ := manager
    cases (absent : flag = false)
    have rest := ih ⟨configuration, host, false, pending ++ [platform.callback registered],
      registered + 1⟩ rfl
    have same : waiting (platform :: platforms) ⟨configuration, host, false, pending, registered⟩ =
        waiting platforms ⟨configuration, host, false, pending ++ [platform.callback registered],
          registered + 1⟩ := by
      unfold waiting
      rw [List.append_assoc, List.length_cons, Nat.add_right_comm, Nat.add_assoc registered]
      rfl
    rw [same]
    exact .cons rfl (.rest rfl) rest

/-! ### The two orders -/

/-- A new manager, with which descriptions are registered and which is then installed. -/
def Deferred (platforms : List Platform) (host : σ) (history : List Event) (final : Machine σ) :
    Prop :=
  ∃ registrations between events,
    Registers platforms (atRest (.new host)) registrations between ∧
      Finishes between.manager.install events final ∧
        history = registrations ++ between.manager.installing 0 ++ events

/-- A new manager that is installed, and to which descriptions are then applied. -/
def Immediate (platforms : List Platform) (host : σ)
    (outcomes : List (Except PlatformError Unit)) (manager : Manager σ) : Prop :=
  ∃ events ready, Finishes (Manager.new host).install events ready ∧
    applyAll platforms ready.manager = (outcomes, manager)

/-- What is left after the two orders. -/
structure Agree (platforms : List Platform) (history : List Event) (final : Machine σ)
    (outcomes : List (Except PlatformError Unit)) (manager : Manager σ) : Prop where
  /-- The same is stored, in the same order, and as many tokens are issued. -/
  configuration : final.manager.configuration = manager.configuration
  /-- Both managers are installed. -/
  installed : final.manager.installed = true ∧ manager.installed = true
  /-- They differ in nothing but the number of callbacks that were registered. -/
  others : final.manager = { manager with registered := platforms.length }
  /-- The install answers how many descriptions are accepted when they are applied. -/
  answer : final.answer = some (.ok (accepted outcomes))
  /-- No callback waits. -/
  pending : final.manager.pending = []
  /-- Each description was applied once. -/
  once : ∀ number < platforms.length, firings history number = 1
  /-- It ended as it does when it is applied, with an error of the repository for one of its own. -/
  ended : ∀ (number : Nat) (outcome : Except PlatformError Unit), outcomes[number]? = some outcome →
    FirmwareTables.outcomes history number = [outcome.mapError PlatformError.toRepositoryError]
  /-- It is never applied again, whatever is done with the manager. -/
  never : ∀ {later : List Event} {next : Machine σ}, Run final later next →
    ∀ number < platforms.length, firings later number = 0
  /-- Further installs change nothing. -/
  again : Finishes final.manager.install [.closed 0 0] ⟨final.manager, [], some (.ok 0)⟩

/-- Registering descriptions comes to the same as applying them. -/
structure Defers (platforms : List Platform) (host : σ) : Prop where
  /-- Registering them and then installing the manager comes to an end. -/
  deferred : ∃ history final, Deferred platforms host history final
  /-- Installing the manager and then applying them does, too. -/
  immediate : ∃ outcomes manager, Immediate platforms host outcomes manager
  /-- However the two orders end, they agree. -/
  agree : ∀ {history : List Event} {final : Machine σ}
    {outcomes : List (Except PlatformError Unit)} {manager : Manager σ},
    Deferred platforms host history final → Immediate platforms host outcomes manager →
      Agree platforms history final outcomes manager
  /-- A description that is registered from outside with an installed manager is applied at once. -/
  outside : ∀ (platform : Platform) (manager : Manager σ), manager.installed →
    Finishes (platform.register manager)
      (serving 0 manager.registered (platform.apply manager).1)
      (atRest { (platform.apply manager).2 with registered := manager.registered + 1 })
  /-- So is one that a callback registers, which then goes on. -/
  within : ∀ (platform : Platform) (manager : Manager σ) (callback : Callback σ)
    (next : Script σ) (below : List (Frame σ)), manager.installed →
    (Machine.mk manager (.running callback (.register (fun _ => platform.script) next) :: below)
      none).step.step.step =
      ⟨{ (platform.apply manager).2 with registered := manager.registered + 1 },
        .running callback next :: below, none⟩

/-- The first install of a manager stores the default vendor record, and takes what waits. -/
theorem exists_install (host : σ) : ∃ configuration, ∀ pending registered,
    (Manager.mk .empty host false pending registered).install =
      ⟨⟨configuration, host, true, [], registered⟩, [.installing pending 0], none⟩ := by
  obtain ⟨configuration, seeded⟩ : ∃ configuration, Configuration.empty.seed = .ok configuration :=
    ⟨_, rfl⟩
  exact ⟨configuration, fun pending registered =>
    startInstall_of_ok [] (Manager.openInstall_of_seeded _ rfl seeded)⟩

/-- An installed manager without callbacks is installed again to no effect. -/
theorem install_again (configuration : Configuration) (host : σ) (registered : Nat) :
    Finishes (Manager.mk configuration host true [] registered).install [.closed 0 0]
      ⟨⟨configuration, host, true, [], registered⟩, [], some (.ok 0)⟩ :=
  .step rfl (.rest rfl)

/-- **How the two orders end.** -/
theorem exists_orders (platforms : List Platform) (host : σ) :
    ∃ configuration outcomes,
      let manager : Manager σ := ⟨configuration, host, true, [], 0⟩
      Immediate platforms host outcomes manager ∧
        Deferred platforms host
          ((List.range' 0 platforms.length).map .registered ++
            (waiting platforms (.new host)).installing 0 ++
            (served 0 outcomes ++ [.closed 0 (0 + accepted outcomes)]))
          ⟨{ manager with registered := platforms.length }, [],
            some (.ok (0 + accepted outcomes))⟩ ∧
        outcomes.length = platforms.length := by
  obtain ⟨seeded, installs⟩ := exists_install host
  have first := installs [] 0
  have ready := install_again seeded host 0
  have applied := applyAll_registered platforms ⟨seeded, host, true, [], 0⟩ platforms.length
  obtain ⟨configuration, changed⟩ := applyAll_others platforms ⟨seeded, host, true, [], 0⟩
  have fires := installing_finishes platforms ⟨seeded, host, true, [], platforms.length⟩ rfl 0 0
  rw [applied, changed] at fires
  refine ⟨configuration, (applyAll platforms ⟨seeded, host, true, [], 0⟩).1, ?_, ?_, ?_⟩
  · refine ⟨[.closed 0 0], ⟨⟨seeded, host, true, [], 0⟩, [], some (.ok 0)⟩, ?_,
      Prod.ext rfl changed⟩
    rw [Manager.new, first]
    exact .step rfl (.rest rfl)
  · refine ⟨_, _, _, registers_waiting platforms (.new host) rfl, ?_, rfl⟩
    have second := installs (callbacks 0 platforms) platforms.length
    have start : (atRest (waiting platforms (.new host))).manager =
        ⟨.empty, host, false, callbacks 0 platforms, platforms.length⟩ := by
      unfold waiting
      rw [atRest]
      exact congrArg (Manager.mk .empty host false (callbacks 0 platforms)) (Nat.zero_add _)
    rw [start, second]
    exact fires
  · exact length_applyAll platforms _

/-- There is one way in which registering and installing ends. -/
theorem Deferred.unique {platforms : List Platform} {host : σ} {history others : List Event}
    {final other : Machine σ} (one : Deferred platforms host history final)
    (another : Deferred platforms host others other) : history = others ∧ final = other := by
  obtain ⟨_, _, _, registers, ends, rfl⟩ := one
  obtain ⟨_, _, _, registers', ends', rfl⟩ := another
  obtain ⟨rfl, rfl⟩ := registers.unique registers'
  obtain ⟨rfl, rfl⟩ := ends.unique ends'
  exact ⟨rfl, rfl⟩

/-- There is one way in which installing and applying ends. -/
theorem Immediate.unique {platforms : List Platform} {host : σ}
    {outcomes others : List (Except PlatformError Unit)} {manager other : Manager σ}
    (one : Immediate platforms host outcomes manager)
    (another : Immediate platforms host others other) : outcomes = others ∧ manager = other := by
  obtain ⟨_, _, ends, applied⟩ := one
  obtain ⟨_, _, ends', applied'⟩ := another
  obtain ⟨rfl, rfl⟩ := ends.unique ends'
  exact Prod.mk.inj (applied.symm.trans applied')

/-- Registering and installing is a run of the manager. -/
theorem Deferred.run {platforms : List Platform} {host : σ} {history : List Event}
    {final : Machine σ} (deferred : Deferred platforms host history final) :
    Run (.atRest (.new host)) history final := by
  obtain ⟨registrations, between, events, registers, ends, rfl⟩ := deferred
  exact ends.run ((registers.run .start).next (.install (registers.isIdle rfl)))

theorem firings_registrations (first count number : Nat) :
    firings ((List.range' first count).map .registered) number = 0 := by
  refine List.countP_eq_zero.mpr fun event inside => ?_
  obtain ⟨other, _, rfl⟩ := List.mem_map.mp inside
  exact Bool.false_ne_true

theorem outcomes_registrations (first count number : Nat) :
    outcomes ((List.range' first count).map .registered) number = [] := by
  refine List.filterMap_eq_nil_iff.mpr fun event inside => ?_
  obtain ⟨other, _, rfl⟩ := List.mem_map.mp inside
  rfl

/-- **Deferred and immediate population agree**, whichever descriptions are refused, and why. -/
theorem deferral_agrees (platforms : List Platform) (host : σ) : Defers platforms host := by
  obtain ⟨configuration, outcomes, immediate, deferred, lengths⟩ := exists_orders platforms host
  refine ⟨⟨_, _, deferred⟩, ⟨_, _, immediate⟩, fun one another => ?_, ?_, ?_⟩
  · obtain ⟨rfl, rfl⟩ := deferred.unique one
    obtain ⟨rfl, rfl⟩ := immediate.unique another
    refine ⟨rfl, ⟨rfl, rfl⟩, rfl, by rw [Nat.zero_add], rfl, fun number known => ?_,
      fun number outcome there => ?_, fun run number known => ?_, install_again _ _ _⟩
    · have opened : firings ((waiting platforms (.new host)).installing 0) number = 0 := rfl
      have closed : firings [.closed 0 (0 + accepted outcomes)] number = 0 := rfl
      rw [firings_append, firings_append, firings_append, firings_registrations, opened, closed,
        firings_served, if_pos ⟨Nat.zero_le _, by omega⟩]
    · have opened : FirmwareTables.outcomes ((waiting platforms (.new host)).installing 0) number =
          [] := rfl
      have closed : FirmwareTables.outcomes [.closed 0 (0 + accepted outcomes)] number = [] := rfl
      rw [outcomes_append, outcomes_append, outcomes_append, outcomes_registrations, opened, closed,
        outcomes_served, if_pos (Nat.zero_le _), Nat.sub_zero, there]
      rfl
    · exact Run.firings_of_isOut deferred.run.accounts ⟨known, List.not_mem_nil⟩ run
  · exact fun platform manager installed => platform.register_finishes installed
  · exact fun platform manager callback next below installed =>
      platform.register_steps installed callback next below

end Platform

end FirmwareTables
