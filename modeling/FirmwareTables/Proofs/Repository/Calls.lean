/-
**Calls of a repository do not interfere.**

A call is addressed to one object. In a run of calls, in which some may fail, an object sees nothing
but the calls that are addressed to it (`run_filter`): its entries after the run and the outcomes of
these calls are those of a run that makes no other calls.

* `agree_of_filter_eq`: runs of which some objects see the same calls leave the same of them;
* `filter_swap`, `Inserted.filter_eq`: so do calls to different objects in either order, and runs
  into which calls to other objects are inserted.
-/

import FirmwareTables.Proofs.Record.Codec
import FirmwareTables.Proofs.Repository.Separation

namespace FirmwareTables

/-! ### Calls -/

/-- A call of a repository that may change it. -/
inductive Call where
  /-- Stores a payload, or deletes what is there if none is given. -/
  | set (id : ObjectId) (token : Token) (descriptor : Option Descriptor)
  /-- Adds an instance. -/
  | addInstance (id : ObjectId) (token : Token) (bytes : Bytes)
  /-- Adds bytes that are some instances of one size. -/
  | addInstances (id : ObjectId) (token : Token) (bytes : Bytes) (items : Nat)
  /-- Removes instances. -/
  | removeInstance (id : ObjectId) (token : Token)
  /-- Adds a record. -/
  | addObject (carrier : Carrier) (token : Token) (record : carrier.Item)
  /-- Adds records one after the other. -/
  | addObjects (carrier : Carrier) (token : Token) (records : List carrier.Item)

namespace Call

/-- The object that a call is addressed to. -/
def id : Call → ObjectId
  | set id _ _ | addInstance id _ _ | addInstances id _ _ _ | removeInstance id _ => id
  | addObject carrier _ _ | addObjects carrier _ _ => carrier.objectId

/-- Makes a call: how far it comes, and its outcome. -/
def make (access : Access) : Call → Store → Progress
  | set id token descriptor =>
    Change.inOrder [fun store => Reading.ofExcept (access.set id token descriptor store)]
  | addInstance id token bytes => Change.inOrder [access.addInstance id token bytes]
  | addInstances id token bytes items => access.addInstances id token bytes items
  | removeInstance id token => Change.inOrder [access.removeInstance id token]
  | addObject _ token record => Change.inOrder [access.addObject token record]
  | addObjects _ token records => access.addObjects token records

/-- Whether a call is addressed to an object. -/
def isTo (id : ObjectId) (call : Call) : Bool := call.id == id

/-- **Every call** concerns only the object that it is addressed to. -/
theorem isWithin {access : Access} (within : access.IsLocal) (call : Call) :
    IsWithin call.id (call.make access) := by
  cases call with
  | set id token descriptor => exact (within.change id token descriptor).isWithin
  | addInstance id token bytes => exact (within.addInstance id token bytes).isWithin
  | addInstances id token bytes items => exact within.addInstances id token bytes items
  | removeInstance id token => exact (within.removeInstance id token).isWithin
  | addObject carrier token record =>
    exact (within.addInstance carrier.objectId token (Record.encode record)).isWithin
  | addObjects carrier token records => exact within.addObjects token records

/-! ### Runs -/

/-- The outcome of a call. -/
structure Answer where
  /-- The object that the call was addressed to. -/
  id : ObjectId
  /-- What came of it. -/
  outcome : Reading RepositoryError Unit

/-- Whether an answer is to a call that was addressed to an object. -/
def Answer.isTo (id : ObjectId) (answer : Answer) : Bool := answer.id == id

/-- Makes calls one after the other, whatever comes of each. -/
def run (access : Access) : List Call → Store → List Answer × Store
  | [], store => ([], store)
  | call :: calls, store =>
    let made := call.make access store
    let (answers, after) := run access calls made.store
    (⟨call.id, made.outcome⟩ :: answers, after)

variable {access : Access} {id : ObjectId} {calls others : List Call} {store other : Store}

theorem run_cons (call : Call) (calls : List Call) (store : Store) :
    run access (call :: calls) store =
      (⟨call.id, (call.make access store).outcome⟩ ::
          (run access calls (call.make access store).store).1,
        (run access calls (call.make access store).store).2) := rfl

/-- **Of a run an object sees only the calls that are addressed to it**, with their outcomes. -/
theorem run_filter (within : access.IsLocal) (same : store.only id = other.only id) :
    (run access calls store).2.only id =
        (run access (calls.filter (isTo id)) other).2.only id ∧
      (run access calls store).1.filter (Answer.isTo id) =
        (run access (calls.filter (isTo id)) other).1 := by
  induction calls generalizing store other with
  | nil => exact ⟨same, rfl⟩
  | cons call calls ih =>
    have apart := call.isWithin within
    rw [run_cons]
    by_cases own : call.isTo id = true
    · have here : call.id = id := eq_of_beq own
      subst here
      -- The call does on both sides what it does to the entries of the object alone.
      have one := apart.inside store
      have another := apart.inside other
      rw [same, another, Progress.mk.injEq] at one
      obtain ⟨stores, outcomes⟩ := one
      obtain ⟨left, right⟩ := ih stores.symm
      rw [List.filter_cons_of_pos own, run_cons]
      refine ⟨left, ?_⟩
      have answered : Answer.isTo call.id ⟨call.id, (call.make access store).outcome⟩ = true := own
      dsimp only
      rw [List.filter_cons_of_pos answered, right, outcomes]
    · have foreign : id ≠ call.id := fun here => own (beq_iff_eq.mpr here.symm)
      obtain ⟨left, right⟩ := ih ((apart.apart store id foreign).trans same)
      rw [List.filter_cons_of_neg own]
      refine ⟨left, ?_⟩
      have unanswered : ¬ Answer.isTo id ⟨call.id, (call.make access store).outcome⟩ = true := own
      dsimp only
      rw [List.filter_cons_of_neg unanswered, right]

/-- **Runs of which some objects see the same calls** leave the same of them. -/
theorem agree_of_filter_eq (within : access.IsLocal) (ids : List ObjectId)
    (same : ∀ id ∈ ids, calls.filter (isTo id) = others.filter (isTo id)) (store : Store) :
    View.Agree ids (access.view (run access calls store).2)
      (access.view (run access others store).2) := by
  refine within.agree fun id inside => ?_
  rw [(run_filter within rfl).1, same id inside, ← (run_filter within rfl).1]

/-- An object sees the same of calls that are addressed to different ones, in either order. -/
theorem filter_swap {one another : Call} (apart : one.id ≠ another.id) (before later : List Call)
    (id : ObjectId) : (before ++ one :: another :: later).filter (isTo id) =
      (before ++ another :: one :: later).filter (isTo id) := by
  rw [List.filter_append, List.filter_append]
  refine congrArg (before.filter (isTo id) ++ ·) ?_
  by_cases first : one.isTo id = true
  · have second : ¬ another.isTo id = true := fun here =>
      apart ((eq_of_beq first).trans (eq_of_beq here).symm)
    rw [List.filter_cons_of_pos first, List.filter_cons_of_neg second,
      List.filter_cons_of_neg second, List.filter_cons_of_pos first]
  · rw [List.filter_cons_of_neg first, List.filter_cons, List.filter_cons,
      List.filter_cons_of_neg first]

/-- A run into which calls are inserted that are addressed to none of some objects. -/
inductive Inserted (ids : List ObjectId) : List Call → List Call → Prop
  /-- Nothing is left of both runs. -/
  | nil : Inserted ids [] []
  /-- A call of both runs. -/
  | keep (call : Call) {calls others : List Call} :
    Inserted ids calls others → Inserted ids (call :: calls) (call :: others)
  /-- A call that is inserted. -/
  | insert (call : Call) (foreign : call.id ∉ ids) {calls others : List Call} :
    Inserted ids calls others → Inserted ids calls (call :: others)

theorem Inserted.filter_eq {ids : List ObjectId} (inserted : Inserted ids calls others)
    (inside : id ∈ ids) : calls.filter (isTo id) = others.filter (isTo id) := by
  induction inserted with
  | nil => rfl
  | keep call _ ih => rw [List.filter_cons, List.filter_cons, ih]
  | insert call foreign _ ih =>
    rw [ih, List.filter_cons_of_neg]
    intro here
    exact foreign (eq_of_beq here ▸ inside)

end Call

end FirmwareTables
