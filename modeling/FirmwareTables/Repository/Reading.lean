/-
**Reading from a repository.**

A `View` is what a repository shows: its protocol revision, the answer for every object id and
token, and its verdict when a payload is handed back. From revision 1.1 on a reader has to hand
every non-empty payload back. A `Reading` is the outcome of some reads: what came of them, and how
many payloads were handed back on the way.

`Reading.result` turns the steps of a reading into the steps of `Except` (`result_bind`,
`result_mapM`), so that nothing but the outcome matters where handing back has no effect.
-/

import FirmwareTables.Repository.Descriptor

namespace FirmwareTables

/-- The outcome of reads, and the number of payloads handed back. -/
structure Reading (ε α : Type) where
  /-- What came of the reads. -/
  result : Except ε α
  /-- The number of payloads handed back. -/
  freed : Nat

namespace Reading

variable {ε α β : Type}

/-- A reading that needs no repository. -/
def ofExcept (result : Except ε α) : Reading ε α := ⟨result, 0⟩

/-- A reading that fails. -/
def fail (error : ε) : Reading ε α := ofExcept (.error error)

/-- One reading after another. -/
def andThen (first : Reading ε α) (next : α → Reading ε β) : Reading ε β :=
  match first.result with
  | .ok value =>
    let second := next value
    ⟨second.result, first.freed + second.freed⟩
  | .error error => ⟨.error error, first.freed⟩

instance : Monad (Reading ε) where
  pure value := ofExcept (.ok value)
  bind := andThen

instance : LawfulMonad (Reading ε) :=
  LawfulMonad.mk' (Reading ε)
    (fun ⟨result, freed⟩ => by cases result <;> rfl)
    (fun _ _ => by simp [pure, bind, andThen, ofExcept])
    (fun ⟨result, freed⟩ _ _ => by
      cases result with
      | error => rfl
      | ok value =>
        simp only [bind, andThen]
        split <;> simp_all [Nat.add_assoc])

instance : MonadLift (Except ε) (Reading ε) := ⟨ofExcept⟩

/-- The same reading with another kind of error. -/
def mapError {δ : Type} (change : ε → δ) (reading : Reading ε α) : Reading δ α :=
  ⟨reading.result.mapError change, reading.freed⟩

@[simp] theorem result_ofExcept (result : Except ε α) : (ofExcept result).result = result := rfl

@[simp] theorem result_pure (value : α) : (pure value : Reading ε α).result = .ok value := rfl

@[simp] theorem result_bind (first : Reading ε α) (next : α → Reading ε β) :
    (first >>= next).result = first.result >>= fun value => (next value).result := by
  cases first with
  | mk result freed => cases result <;> rfl

@[simp] theorem result_map (change : α → β) (reading : Reading ε α) :
    (change <$> reading).result = change <$> reading.result := by
  cases reading with
  | mk result freed => cases result <;> rfl

@[simp] theorem result_mapM (step : α → Reading ε β) (items : List α) :
    (items.mapM step).result = items.mapM fun item => (step item).result := by
  induction items with
  | nil => rfl
  | cons item items ih => simp [List.mapM_cons, ih]

end Reading

/-- What a repository shows. -/
structure View where
  /-- The revision of the protocol between the repository and its readers. -/
  revision : Revision
  /-- The instances under an object id and a token. -/
  get : ObjectId → Token → Except RepositoryError Descriptor
  /-- What becomes of a payload that is handed back. -/
  free : Descriptor → Except RepositoryError Unit

namespace View

/-- The first protocol revision in which payloads are handed back. -/
def handBackSince : Revision := .make 1 1

/-- Whether payloads have to be handed back. -/
def requiresFree (view : View) : Bool := handBackSince.raw ≤ view.revision.raw

/-- Hands a payload back, if there is one and it has to be. -/
def release (view : View) (descriptor : Descriptor) : Reading RepositoryError Unit :=
  if view.requiresFree && !descriptor.isEmpty then ⟨view.free descriptor, 1⟩ else pure ()

/-- The number of instances of an object. -/
def countOnly (view : View) (id : ObjectId) : Reading RepositoryError Nat :=
  match view.get id .null with
  | .ok descriptor => do
    view.release descriptor
    return descriptor.count.toNat
  | .error error => if error.isNotFound then pure 0 else .fail error

/-- The bytes of all instances of an object. -/
def getSingle (view : View) (id : ObjectId) : Reading RepositoryError Bytes :=
  match view.get id .null with
  | .ok descriptor => do
    view.release descriptor
    return descriptor.data
  | .error error => .fail error

variable {α : Type} [Record α]

/-- The records of a type under a token. -/
def getList (α : Type) [Record α] (view : View) (token : Token) :
    Reading RepositoryError (List α) := do
  let descriptor ← Reading.ofExcept (view.get (Record.objectId α) token)
  view.release descriptor
  descriptor.toList

/-- The records of a type under a token, none if nothing is found. -/
def getListOrEmpty (α : Type) [Record α] (view : View) (token : Token) :
    Reading RepositoryError (List α) :=
  let reading := view.getList α token
  match reading.result with
  | .ok _ => reading
  | .error error => if error.isNotFound then ⟨.ok [], reading.freed⟩ else reading

/-- The first record of a type. -/
def getObject (α : Type) [Record α] (view : View) : Reading RepositoryError α := do
  match ← view.getList α .null with
  | record :: _ => return record
  | [] => .fail (.notFound (Record.objectId α) .null)

end View

end FirmwareTables
