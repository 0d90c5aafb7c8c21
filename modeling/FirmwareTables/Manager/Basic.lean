/-
**The configuration manager.**

A manager holds a configuration (what is stored, and how many tokens are issued) and callbacks that
wait for its installation. A callback is a script for each time that it is fired; a script changes
the configuration and the host's own state, registers callbacks, installs, and ends with an
outcome.

Installing marks the manager as installed, stores the default vendor record if that was not done
before, and takes the waiting callbacks to fire them. If the record cannot be stored, the mark
stays and the callbacks are not taken.
-/

import FirmwareTables.Record.Manager
import FirmwareTables.Repository.Access

namespace FirmwareTables

/-- What a manager configures. -/
structure Configuration where
  /-- What is stored. -/
  store : Store
  /-- How many tokens are issued. -/
  issued : Nat
  deriving DecidableEq, Inhabited

namespace Configuration

/-- The configuration of a new manager. -/
def empty : Configuration := ⟨.empty, 0⟩

/-- A token that was never issued before. -/
def newToken (configuration : Configuration) : Token × Configuration :=
  (.next configuration.issued, { configuration with issued := configuration.issued + 1 })

/-- Stores the default vendor record behind those that are there. -/
def seed (configuration : Configuration) : Except RepositoryError Configuration :=
  (Access.live.addObject .null (default : ManagerInfo) configuration.store).result.map fun store =>
    { configuration with store := store }

end Configuration

/-- The number of instances of each object with a name. -/
def View.describe (view : View) : Reading RepositoryError (List (ObjectId × Nat)) :=
  ObjectId.named.mapM fun id => do return (id, ← view.countOnly id)

/-- What a callback does when it is fired. The type of the host's own state is a parameter. -/
inductive Script (σ : Type) where
  /-- Ends with an outcome. -/
  | finish (outcome : Except RepositoryError Unit)
  /-- Changes the configuration and the host's state, and goes on as they were before. -/
  | act (change : Configuration × σ → Configuration × σ) (next : Configuration × σ → Script σ)
  /-- Registers a callback, given by its scripts. -/
  | register (scripts : Nat → Script σ) (next : Script σ)
  /-- Installs the manager, and goes on with the number of callbacks completed. -/
  | install (next : Except RepositoryError Nat → Script σ)

/-- A registered callback. -/
structure Callback (σ : Type) where
  /-- How many callbacks were registered before it. -/
  number : Nat
  /-- How often it was fired. -/
  fired : Nat
  /-- What it does, by how often it was fired before. -/
  scripts : Nat → Script σ

/-- A configuration manager, with a host's own state beside it. -/
structure Manager (σ : Type) where
  /-- What is configured. -/
  configuration : Configuration
  /-- The host's own state. -/
  host : σ
  /-- Whether the manager is installed. -/
  installed : Bool
  /-- The callbacks that wait, the first to be fired in front. -/
  pending : List (Callback σ)
  /-- How many callbacks were registered. -/
  registered : Nat

namespace Manager

variable {σ : Type}

/-- A new manager. -/
def new (host : σ) : Manager σ := ⟨.empty, host, false, [], 0⟩

/-- The fields of a manager. -/
def debugText (manager : Manager σ) : String :=
  let entries := Digits.decimal manager.configuration.store.entries.length
  let issued := Digits.decimal manager.configuration.issued
  s!"ConfigurationManager \x7b installed: {manager.installed}, entry_count: {entries}, " ++
  s!"tokens_issued: {issued} \x7d"

/-- Lets a callback wait. -/
def enqueue (manager : Manager σ) (callback : Callback σ) : Manager σ :=
  { manager with pending := manager.pending ++ [callback] }

/-- The callback that is registered next. -/
def nextCallback (manager : Manager σ) (scripts : Nat → Script σ) : Callback σ :=
  ⟨manager.registered, 0, scripts⟩

/-- Counts one more callback as registered. -/
def countCallback (manager : Manager σ) : Manager σ :=
  { manager with registered := manager.registered + 1 }

/-- Marks the manager as installed and takes the waiting callbacks, unless the default vendor record
has to be stored first and cannot be. -/
def openInstall (manager : Manager σ) : Manager σ × Except RepositoryError (List (Callback σ)) :=
  let seeded :=
    if manager.installed then .ok manager.configuration else manager.configuration.seed
  let manager := { manager with installed := true }
  match seeded with
  | .error error => (manager, .error error)
  | .ok configuration =>
    ({ manager with configuration := configuration, pending := [] }, .ok manager.pending)

end Manager

end FirmwareTables
