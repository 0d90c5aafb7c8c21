/-
**Changing a repository.**

An `Access` is a way into a store: how its content reads, and what storing does to it. `live` is
the store itself; `frozen` shows a store as it once was and refuses to store anything.

A single change reads, hands back what it read and stores last, so that it either yields the
changed store or leaves everything as it was. A sequence of changes stops at the first that fails
and keeps what was stored before.
-/

import FirmwareTables.Repository.Store

namespace FirmwareTables

/-- A way into a store. -/
structure Access where
  /-- What the store shows. -/
  view : Store → View
  /-- What storing does. -/
  set : ObjectId → Token → Option Descriptor → Store → Except RepositoryError Store

/-- A change of a store: the changed store, or why nothing changed. -/
abbrev Change := Store → Reading RepositoryError Store

/-- How far a sequence of changes came. -/
structure Progress where
  /-- The store after the changes that were made. -/
  store : Store
  /-- Whether all changes were made. -/
  outcome : Reading RepositoryError Unit

namespace Change

/-- Makes changes one after the other, up to the first that fails. -/
def inOrder : List Change → Store → Progress
  | [], store => ⟨store, pure ()⟩
  | change :: changes, store =>
    let made := change store
    match made.result with
    | .error error => ⟨store, ⟨.error error, made.freed⟩⟩
    | .ok store =>
      let rest := inOrder changes store
      ⟨rest.store, ⟨rest.outcome.result, made.freed + rest.outcome.freed⟩⟩

end Change

namespace Access

/-- The store itself. -/
def live : Access := ⟨Store.view, fun id token descriptor store => store.set id token descriptor⟩

/-- A store as it once was. -/
def frozen (snapshot : Store) : Access :=
  ⟨fun _ => snapshot.view, fun _ _ _ _ => .error .readOnly⟩

/-- The instances under an id and a token, with one more at the end. -/
def appended (view : View) (id : ObjectId) (token : Token) (bytes : Bytes) :
    Reading RepositoryError (Nat × Bytes) :=
  match view.get id token with
  | .ok descriptor => do
    view.release descriptor
    return (descriptor.count.toNat + 1, descriptor.data ++ bytes)
  | .error error => if error.isNotFound then pure (1, bytes) else .fail error

/-- Adds one instance behind those under an id and a token. -/
def addInstance (access : Access) (id : ObjectId) (token : Token) (bytes : Bytes) : Change :=
  fun store => do
    let (count, data) ← appended (access.view store) id token bytes
    if maxCount < count then .fail (.invalidParameter (.countOverflow id))
    else
      Reading.ofExcept
        (access.set id token (some ⟨id, token, UInt32.ofNat count, data⟩) store)

/-- Cuts bytes into pieces of one size, dropping what is left over. -/
def pieces (size : Nat) (bytes : Bytes) : List Bytes :=
  (List.range (bytes.length / size)).map fun index => (bytes.drop (index * size)).take size

/-- Adds bytes that are `items` instances of one size. -/
def addInstances (access : Access) (id : ObjectId) (token : Token) (bytes : Bytes) (items : Nat)
    (store : Store) : Progress :=
  if items = 0 ∨ bytes.isEmpty ∨ bytes.length % items ≠ 0 then
    ⟨store, .fail (.invalidParameter (.unevenSplit bytes.length items))⟩
  else
    Change.inOrder ((pieces (bytes.length / items) bytes).map (access.addInstance id token)) store

/-- Deletes the instances under an id and a token, of which there has to be one. -/
def removeInstance (access : Access) (id : ObjectId) (token : Token) : Change := fun store => do
  let view := access.view store
  let descriptor ← Reading.ofExcept (view.get id token)
  view.release descriptor
  Reading.ofExcept (access.set id token none store)

variable {α : Type} [Record α]

/-- Adds one record. -/
def addObject (access : Access) (token : Token) (record : α) : Change :=
  access.addInstance (Record.objectId α) token (Record.encode record)

/-- Adds records one after the other. -/
def addObjects (access : Access) (token : Token) (records : List α) : Store → Progress :=
  Change.inOrder (records.map (access.addObject token))

/-- Puts records in the place of those under a token. -/
def setObjects (access : Access) (token : Token) (records : List α) (store : Store) :
    Except RepositoryError Store := do
  let descriptor ← Descriptor.ofList records token
  access.set (Record.objectId α) token (some descriptor) store

end Access

end FirmwareTables
