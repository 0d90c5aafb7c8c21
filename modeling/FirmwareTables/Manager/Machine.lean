/-
**Firing callbacks.**

Callbacks may register callbacks and install the manager while they run, to any depth. A `Machine`
is a manager together with the stack of what is going on: callbacks that run, callbacks that wait
for an install of their own to end, and installs that fire the callbacks they took. `Machine.step`
makes one step of the uppermost of them; a machine whose stack is empty is at rest.

A callback that ends with `unsupported` waits for the next install; one that ends otherwise is gone.
An install counts the callbacks among those it took that ended well.
-/

import FirmwareTables.Manager.Basic

namespace FirmwareTables

/-- One thing that is going on. -/
inductive Frame (σ : Type) where
  /-- A callback runs. -/
  | running (callback : Callback σ) (script : Script σ)
  /-- A callback waits for its install to end. -/
  | waiting (callback : Callback σ) (next : Except RepositoryError Nat → Script σ)
  /-- An install fires callbacks, of which some have ended well. -/
  | installing (queue : List (Callback σ)) (completed : Nat)

/-- A manager and what is going on with it, the latest in front. -/
structure Machine (σ : Type) where
  /-- The manager. -/
  manager : Manager σ
  /-- What is going on. -/
  stack : List (Frame σ)
  /-- What the outermost install came to, if it has ended. -/
  answer : Option (Except RepositoryError Nat)

namespace Machine

variable {σ : Type}

/-- Whether nothing is going on. -/
def isIdle (machine : Machine σ) : Bool := machine.stack.isEmpty

/-- Starts a script of a callback that is fired. -/
def fire (callback : Callback σ) : Frame σ :=
  .running { callback with fired := callback.fired + 1 } (callback.scripts callback.fired)

/-- Tells what waits for an install that it has ended. -/
def deliver (manager : Manager σ) (answer : Except RepositoryError Nat) :
    List (Frame σ) → Machine σ
  | .waiting callback next :: rest => ⟨manager, .running callback (next answer) :: rest, none⟩
  | stack => ⟨manager, stack, some answer⟩

/-- Starts an install above what is going on. -/
def startInstall (manager : Manager σ) (below : List (Frame σ)) : Machine σ :=
  match manager.openInstall with
  | (manager, .ok queue) => ⟨manager, .installing queue 0 :: below, none⟩
  | (manager, .error error) => deliver manager (.error error) below

/-- Registers a callback, which is fired at once if the manager is installed. -/
def startRegister (manager : Manager σ) (scripts : Nat → Script σ) (below : List (Frame σ)) :
    Machine σ :=
  let callback := manager.nextCallback scripts
  let manager := manager.countCallback
  if manager.installed then ⟨manager, fire callback :: below, none⟩
  else ⟨manager.enqueue callback, below, none⟩

/-- Counts a callback that ended well, if an install fired it. -/
def countCompleted : List (Frame σ) → List (Frame σ)
  | .installing queue completed :: rest => .installing queue (completed + 1) :: rest
  | stack => stack

/-- Ends a callback. -/
def endCallback (manager : Manager σ) (callback : Callback σ)
    (outcome : Except RepositoryError Unit) (below : List (Frame σ)) : Machine σ :=
  match outcome with
  | .ok () => ⟨manager, countCompleted below, none⟩
  | .error .unsupported => ⟨manager.enqueue callback, below, none⟩
  | .error _ => ⟨manager, below, none⟩

/-- Makes one step of what is going on. -/
def step (machine : Machine σ) : Machine σ :=
  let manager := machine.manager
  match machine.stack with
  | [] => machine
  | .running callback script :: below =>
    match script with
    | .finish outcome => endCallback manager callback outcome below
    | .act change next =>
      let state := (manager.configuration, manager.host)
      let (configuration, host) := change state
      ⟨{ manager with configuration := configuration, host := host },
        .running callback (next state) :: below, none⟩
    | .register scripts next => startRegister manager scripts (.running callback next :: below)
    | .install next => startInstall manager (.waiting callback next :: below)
  | .waiting _ _ :: _ => machine
  | .installing [] completed :: below => deliver manager (.ok completed) below
  | .installing (callback :: queue) completed :: below =>
    ⟨manager, fire callback :: .installing queue completed :: below, none⟩

end Machine

namespace Manager

variable {σ : Type}

/-- Installs the manager. -/
def install (manager : Manager σ) : Machine σ := Machine.startInstall manager []

/-- Registers a callback. -/
def register (manager : Manager σ) (scripts : Nat → Script σ) : Machine σ :=
  Machine.startRegister manager scripts []

end Manager

end FirmwareTables
