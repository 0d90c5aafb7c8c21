/-
**What a manager is seen to do.**

A manager that nothing is going on with can be called: a callback is registered, the manager is
installed, the host changes what is configured. Otherwise what is going on makes a step, and it may
call the manager in turn. A `Run` is any finite sequence of these moves; its history lists what was
seen, each event with its depth, which is how many callbacks and installs were going on below.

* `Ledger`: what a manager does with the numbers of its callbacks, apart from their scripts;
* `Ledger.Step`: the few ways in which a ledger changes;
* `Move.changes_ledger`: every move of a manager is one of them.
-/

import FirmwareTables.Manager.Machine

namespace FirmwareTables

/-! ### Events and runs -/

/-- What is seen of a manager. -/
inductive Event where
  /-- A callback is registered. -/
  | registered (number : Nat)
  /-- The manager is installed and takes the callbacks that wait, or fails to. -/
  | opened (depth : Nat) (taken : Except RepositoryError (List Nat))
  /-- A callback is fired. -/
  | fired (depth number : Nat)
  /-- A callback ends. -/
  | ended (depth number : Nat) (outcome : Except RepositoryError Unit)
  /-- An install ends and answers how many of its callbacks ended well. -/
  | closed (depth completed : Nat)
  /-- The configuration or the host's own state is changed. -/
  | changed

/-- The numbers of callbacks. -/
def numbers {σ : Type} (callbacks : List (Callback σ)) : List Nat := callbacks.map Callback.number

section

variable {σ : Type}

namespace Manager

/-- What is seen when a callback is registered. -/
def registering (manager : Manager σ) (depth : Nat) : List Event :=
  .registered manager.registered ::
    if manager.installed then [.fired depth manager.registered] else []

/-- What is seen when the manager is installed. -/
def installing (manager : Manager σ) (depth : Nat) : List Event :=
  [.opened depth (manager.openInstall.2.map numbers)]

end Manager

namespace Machine

/-- A manager with which nothing is going on. -/
def atRest (manager : Manager σ) : Machine σ := ⟨manager, [], none⟩

/-- What is seen in the next step. -/
def seen (machine : Machine σ) : List Event :=
  match machine.stack with
  | .running callback (.finish outcome) :: below => [.ended below.length callback.number outcome]
  | .running _ (.act _ _) :: _ => [.changed]
  | .running _ (.register _ _) :: below => machine.manager.registering (below.length + 1)
  | .running _ (.install _) :: below => machine.manager.installing (below.length + 1)
  | .installing [] completed :: below => [.closed below.length completed]
  | .installing (callback :: _) _ :: below => [.fired (below.length + 1) callback.number]
  | _ => []

end Machine

/-- What can happen next, and what is seen of it. -/
inductive Move : Machine σ → List Event → Machine σ → Prop
  /-- What is going on makes a step. -/
  | step {machine : Machine σ} (busy : machine.isIdle = false) :
    Move machine machine.seen machine.step
  /-- A callback is registered from outside. -/
  | register {machine : Machine σ} (idle : machine.isIdle) (scripts : Nat → Script σ) :
    Move machine (machine.manager.registering 0) (machine.manager.register scripts)
  /-- The manager is installed from outside. -/
  | install {machine : Machine σ} (idle : machine.isIdle) :
    Move machine (machine.manager.installing 0) machine.manager.install
  /-- The host changes what is configured or its own state. -/
  | change {machine : Machine σ} (idle : machine.isIdle) (configuration : Configuration)
    (host : σ) :
    Move machine [.changed]
      (.atRest { machine.manager with configuration := configuration, host := host })

/-- Some moves one after the other, with all that is seen of them. -/
inductive Run (start : Machine σ) : List Event → Machine σ → Prop
  /-- Nothing has happened. -/
  | start : Run start [] start
  /-- One more move. -/
  | next {history events : List Event} {machine next : Machine σ} :
    Run start history machine → Move machine events next → Run start (history ++ events) next

end

/-! ### Ledgers -/

/-- One thing that is going on, by the numbers of its callbacks. -/
inductive Activity where
  /-- A callback runs, or waits for an install of its own. -/
  | active (number : Nat)
  /-- An install fires callbacks, of which some have ended well. -/
  | installing (queue : List Nat) (completed : Nat)

/-- What a manager does with its callbacks. -/
structure Ledger where
  /-- Whether the manager is installed. -/
  installed : Bool
  /-- How many callbacks were registered. -/
  registered : Nat
  /-- The callbacks that wait. -/
  pending : List Nat
  /-- What is going on, the latest in front. -/
  stack : List Activity

namespace Activity

/-- The callbacks of an activity that have not ended. -/
def inside : Activity → List Nat
  | active number => [number]
  | installing queue _ => queue

/-- The callbacks of an activity that run. -/
def running : Activity → List Nat
  | active number => [number]
  | installing _ _ => []

/-- An install is about to fire a callback or to end, so nobody calls the manager. -/
def IsFiring (stack : List Activity) : Prop :=
  ∃ queue completed below, stack = .installing queue completed :: below

/-- Counts a callback that ended well, if an install fired it. -/
def credit : List Activity → List Activity
  | installing queue completed :: below => installing queue (completed + 1) :: below
  | stack => stack

end Activity

namespace Ledger

/-- How a ledger changes. -/
inductive Step : Ledger → List Event → Ledger → Prop
  /-- Nothing happens. -/
  | none {ledger : Ledger} : Step ledger [] ledger
  /-- Something else is changed. -/
  | changed {ledger : Ledger} : Step ledger [.changed] ledger
  /-- A new callback waits for the installation. -/
  | waits {registered : Nat} {pending : List Nat} {stack : List Activity} :
    Step ⟨false, registered, pending, stack⟩ [.registered registered]
      ⟨false, registered + 1, pending ++ [registered], stack⟩
  /-- A new callback is fired at once. -/
  | begins {registered : Nat} {pending : List Nat} {stack : List Activity}
    (free : ¬ Activity.IsFiring stack) :
    Step ⟨true, registered, pending, stack⟩ [.registered registered, .fired stack.length registered]
      ⟨true, registered + 1, pending, .active registered :: stack⟩
  /-- An install takes the callbacks that wait. -/
  | opens {installed : Bool} {registered : Nat} {pending : List Nat} {stack : List Activity} :
    Step ⟨installed, registered, pending, stack⟩ [.opened stack.length (.ok pending)]
      ⟨true, registered, [], .installing pending 0 :: stack⟩
  /-- The first install fails. -/
  | refuses {registered : Nat} {pending : List Nat} {stack : List Activity} (error : RepositoryError) :
    Step ⟨false, registered, pending, stack⟩ [.opened stack.length (.error error)]
      ⟨true, registered, pending, stack⟩
  /-- An install fires the next of its callbacks. -/
  | fires {installed : Bool} {registered number completed : Nat} {pending queue : List Nat}
    {below : List Activity} :
    Step ⟨installed, registered, pending, .installing (number :: queue) completed :: below⟩
      [.fired (below.length + 1) number]
      ⟨installed, registered, pending, .active number :: .installing queue completed :: below⟩
  /-- An install has fired its callbacks. -/
  | closes {installed : Bool} {registered completed : Nat} {pending : List Nat}
    {below : List Activity} :
    Step ⟨installed, registered, pending, .installing [] completed :: below⟩
      [.closed below.length completed] ⟨installed, registered, pending, below⟩
  /-- A callback ends well. -/
  | completes {installed : Bool} {registered number : Nat} {pending : List Nat}
    {below : List Activity} :
    Step ⟨installed, registered, pending, .active number :: below⟩
      [.ended below.length number (.ok ())] ⟨installed, registered, pending, Activity.credit below⟩
  /-- A callback ends and waits for the next install. -/
  | retries {installed : Bool} {registered number : Nat} {pending : List Nat} {below : List Activity} :
    Step ⟨installed, registered, pending, .active number :: below⟩
      [.ended below.length number (.error .unsupported)]
      ⟨installed, registered, pending ++ [number], below⟩
  /-- A callback fails. -/
  | fails {installed : Bool} {registered number : Nat} {pending : List Nat} {below : List Activity}
    {error : RepositoryError} (final : error ≠ .unsupported) :
    Step ⟨installed, registered, pending, .active number :: below⟩
      [.ended below.length number (.error error)] ⟨installed, registered, pending, below⟩

end Ledger

/-! ### How an install starts -/

section

variable {σ : Type}

namespace Manager

variable (manager : Manager σ)

/-- The manager, marked as installed. -/
def marked : Manager σ := { manager with installed := true }

/-- An install that is not the first one takes the callbacks that wait, and that is all. -/
theorem openInstall_of_installed (present : manager.installed = true) :
    manager.openInstall = ({ manager with pending := [] }, .ok manager.pending) := by
  obtain ⟨configuration, host, installed, pending, registered⟩ := manager
  cases present
  rfl

/-- The first install stores the default vendor record and takes the callbacks that wait. -/
theorem openInstall_of_seeded (absent : manager.installed = false) {configuration : Configuration}
    (seeded : manager.configuration.seed = .ok configuration) :
    manager.openInstall =
      ({ manager with configuration := configuration, installed := true, pending := [] },
        .ok manager.pending) := by
  unfold openInstall
  rw [absent, if_neg Bool.false_ne_true, seeded]

/-- If the record cannot be stored, the manager is marked, and nothing else happens. -/
theorem openInstall_of_refused (absent : manager.installed = false) {error : RepositoryError}
    (refused : manager.configuration.seed = .error error) :
    manager.openInstall = (manager.marked, .error error) := by
  unfold openInstall
  rw [absent, if_neg Bool.false_ne_true, refused]
  rfl

end Manager

namespace Machine

variable {manager after : Manager σ} (below : List (Frame σ))

/-- An install that is accepted is going to fire what it took. -/
theorem startInstall_of_ok {queue : List (Callback σ)}
    (opened : manager.openInstall = (after, .ok queue)) :
    startInstall manager below = ⟨after, .installing queue 0 :: below, none⟩ := by
  unfold startInstall
  rw [opened]

/-- An install that is refused ends at once. -/
theorem startInstall_of_error {error : RepositoryError}
    (opened : manager.openInstall = (after, .error error)) :
    startInstall manager below = deliver after (.error error) below := by
  unfold startInstall
  rw [opened]

end Machine

end

/-! ### The ledger of a manager -/

section

variable {σ : Type}

/-- What is going on, by number. -/
def Frame.activity : Frame σ → Activity
  | .running callback _ => .active callback.number
  | .waiting callback _ => .active callback.number
  | .installing queue completed => .installing (numbers queue) completed

/-- The ledger of a manager. -/
def Machine.ledger (machine : Machine σ) : Ledger :=
  ⟨machine.manager.installed, machine.manager.registered, numbers machine.manager.pending,
    machine.stack.map Frame.activity⟩

open Machine

variable (manager : Manager σ) (below : List (Frame σ))

/-- Whoever waits for an install goes on in its place. -/
theorem ledger_deliver (answer : Except RepositoryError Nat) :
    (deliver manager answer below).ledger =
      ⟨manager.installed, manager.registered, numbers manager.pending, below.map Frame.activity⟩ := by
  unfold deliver
  split <;> rfl

theorem stack_countCompleted : (countCompleted below).map Frame.activity =
    Activity.credit (below.map Frame.activity) := by
  unfold countCompleted
  split
  · rfl
  · rename_i other
    cases below with
    | nil => rfl
    | cons frame below =>
      cases frame with
      | running | waiting => rfl
      | installing queue completed => exact absurd rfl (other queue completed below)

theorem startRegister_step (scripts : Nat → Script σ)
    (free : ¬ Activity.IsFiring (below.map Frame.activity)) :
    Ledger.Step ⟨manager.installed, manager.registered, numbers manager.pending,
        below.map Frame.activity⟩
      (manager.registering below.length) (startRegister manager scripts below).ledger := by
  obtain ⟨configuration, host, installed, pending, registered⟩ := manager
  rw [← List.length_map Frame.activity]
  cases installed with
  | false =>
    have waits : (startRegister ⟨configuration, host, false, pending, registered⟩ scripts
        below).ledger =
        ⟨false, registered + 1, numbers pending ++ [registered], below.map Frame.activity⟩ := by
      unfold ledger startRegister Manager.enqueue numbers
      rw [if_neg (by exact Bool.false_ne_true), List.map_append]
      rfl
    rw [waits]
    exact .waits
  | true => exact .begins free

theorem startInstall_step :
    Ledger.Step ⟨manager.installed, manager.registered, numbers manager.pending,
        below.map Frame.activity⟩
      (manager.installing below.length) (startInstall manager below).ledger := by
  rw [← List.length_map Frame.activity]
  unfold Manager.installing
  cases marked : manager.installed with
  | true =>
    have opened := manager.openInstall_of_installed marked
    rw [startInstall_of_ok below opened, opened, ledger, marked]
    exact .opens
  | false =>
    cases seeded : manager.configuration.seed with
    | ok configuration =>
      have opened := manager.openInstall_of_seeded marked seeded
      rw [startInstall_of_ok below opened, opened]
      exact .opens
    | error error =>
      have opened := manager.openInstall_of_refused marked seeded
      rw [startInstall_of_error below opened, opened, ledger_deliver]
      exact .refuses error

theorem endCallback_step (callback : Callback σ) (outcome : Except RepositoryError Unit) :
    Ledger.Step ⟨manager.installed, manager.registered, numbers manager.pending,
        .active callback.number :: below.map Frame.activity⟩
      [.ended below.length callback.number outcome]
      (endCallback manager callback outcome below).ledger := by
  rw [← List.length_map Frame.activity]
  unfold endCallback
  split
  · unfold ledger
    rw [stack_countCompleted]
    exact .completes
  · unfold ledger Manager.enqueue numbers
    rw [List.map_append]
    exact .retries
  · rename_i error other
    exact .fails other

theorem closeInstall_step (completed : Nat) :
    Ledger.Step ⟨manager.installed, manager.registered, numbers manager.pending,
        .installing [] completed :: below.map Frame.activity⟩
      [.closed below.length completed] (deliver manager (.ok completed) below).ledger := by
  rw [← List.length_map Frame.activity, ledger_deliver]
  exact .closes

theorem fireNext_step (callback : Callback σ) (queue : List (Callback σ)) (completed : Nat) :
    Ledger.Step ⟨manager.installed, manager.registered, numbers manager.pending,
        .installing (callback.number :: numbers queue) completed :: below.map Frame.activity⟩
      [.fired (below.length + 1) callback.number]
      (Machine.mk manager (fire callback :: .installing queue completed :: below) none).ledger := by
  rw [← List.length_map Frame.activity]
  exact .fires

/-- **Every move** changes the ledger in one of its ways. -/
theorem Move.changes_ledger {machine next : Machine σ} {events : List Event}
    (move : Move machine events next) : machine.ledger.Step events next.ledger := by
  cases move with
  | step busy =>
    obtain ⟨manager, stack, answer⟩ := machine
    cases stack with
    | nil => cases busy
    | cons frame below =>
      cases frame with
      | running callback script =>
        cases script with
        | finish outcome => exact endCallback_step manager below callback outcome
        | act change next => exact .changed
        | register scripts next =>
          refine startRegister_step manager (.running callback next :: below) scripts ?_
          rintro ⟨_, _, _, same⟩
          cases same
        | install next => exact startInstall_step manager (.waiting callback next :: below)
      | waiting callback next => exact .none
      | installing queue completed =>
        cases queue with
        | nil => exact closeInstall_step manager below completed
        | cons callback queue => exact fireNext_step manager below callback queue completed
  | register idle scripts =>
    obtain ⟨manager, stack, answer⟩ := machine
    cases stack with
    | nil =>
      refine startRegister_step manager [] scripts ?_
      rintro ⟨_, _, _, same⟩
      cases same
    | cons frame below => cases idle
  | install idle =>
    obtain ⟨manager, stack, answer⟩ := machine
    cases stack with
    | nil => exact startInstall_step manager []
    | cons frame below => cases idle
  | change idle configuration host =>
    obtain ⟨manager, stack, answer⟩ := machine
    cases stack with
    | nil => exact .changed
    | cons frame below => cases idle

end

end FirmwareTables
