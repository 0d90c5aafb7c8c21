/-
**Objects lie apart in a store.**

The entries of all objects lie in one list. `Store.only` takes those of one object out of it, and
what a repository offers does to these what it would do if there were no others, and nothing to
those of any other object.

* `only_put`, `only_delete`: storing and deleting, entry by entry;
* `Change.IsLocal`, `IsWithin`: what that means of a change and of a sequence of changes;
* `Access.IsLocal.addInstance`, `Access.IsLocal.removeInstance`: so it is with all that reads before
  it stores.
-/

import FirmwareTables.Proofs.Repository.Adding

namespace FirmwareTables

/-! ### The part of a store that belongs to an object -/

namespace Entry

/-- Whether an entry belongs to an object. -/
def isOf (id : ObjectId) (entry : Entry) : Bool := entry.id == id

theorem isOf_self (entry : Entry) : entry.isOf entry.id = true := beq_self_eq_true _

theorem isOf_of_isAt {entry : Entry} {id : ObjectId} {token : Token}
    (here : entry.isAt id token = true) : entry.isOf id = true := (Bool.and_eq_true_iff.mp here).1

theorem isOf_of_isFound {entry : Entry} {id : ObjectId} {token : Token}
    (found : entry.isFound id token = true) : entry.isOf id = true :=
  (Bool.and_eq_true_iff.mp found).1

/-- An entry belongs to one object only. -/
theorem eq_of_isOf {entry : Entry} {id other : ObjectId} (one : entry.isOf id = true)
    (another : entry.isOf other = true) : id = other :=
  (eq_of_beq one).symm.trans (eq_of_beq another)

end Entry

namespace Store

/-- The entries of one object, in their order. -/
def only (id : ObjectId) (store : Store) : Store := ⟨store.entries.filter (Entry.isOf id)⟩

variable {store : Store} {id other : ObjectId} {token : Token} {entry : Entry}

/-- What is found under an id are entries of this object. -/
theorem found_only : (store.only id).found id token = store.found id token := by
  unfold found only
  rw [List.filter_filter]
  refine List.filter_congr fun entry _ => ?_
  rw [Bool.and_eq_left_iff_imp]
  exact Entry.isOf_of_isFound

theorem only_idem (id : ObjectId) (store : Store) : (store.only id).only id = store.only id := by
  unfold only
  rw [List.filter_filter]
  simp only [Bool.and_self]

/-- **Reading** needs nothing but the entries of the object. -/
theorem get_only : (store.only id).get id token = store.get id token := by
  unfold get
  rw [found_only]

theorem replace?_filter {entries : List Entry} :
    replace? entry (entries.filter (Entry.isOf entry.id)) =
      (replace? entry entries).map (List.filter (Entry.isOf entry.id)) := by
  induction entries with
  | nil => rfl
  | cons first entries ih =>
    by_cases own : first.isOf entry.id = true
    · rw [List.filter_cons_of_pos own]
      unfold replace?
      by_cases here : first.isAt entry.id entry.token = true
      · rw [if_pos here, if_pos here, Option.map_some, List.filter_cons_of_pos entry.isOf_self]
      · rw [if_neg here, if_neg here, ih, Option.map_map, Option.map_map]
        exact congrArg (Option.map · _) (funext fun rest => (List.filter_cons_of_pos own).symm)
    · have elsewhere : ¬ first.isAt entry.id entry.token = true := fun here =>
        own (Entry.isOf_of_isAt here)
      rw [List.filter_cons_of_neg own, ih]
      conv_rhs => unfold replace?
      rw [if_neg elsewhere, Option.map_map]
      exact congrArg (Option.map · _) (funext fun rest => (List.filter_cons_of_neg own).symm)

/-- **Storing** is storing among the entries of the object. -/
theorem only_put : (store.put entry).only entry.id = (store.only entry.id).put entry := by
  unfold put only
  rw [replace?_filter]
  cases replace? entry store.entries with
  | none => exact congrArg Store.mk (List.filter_cons_of_pos entry.isOf_self)
  | some replaced => rfl

theorem only_put_of_ne (apart : other ≠ entry.id) :
    (store.put entry).only other = store.only other := by
  refine congrArg Store.mk (filter_put fun first here => ?_)
  exact Bool.eq_false_iff.mpr fun own => apart (Entry.eq_of_isOf own (Entry.isOf_of_isAt here))

/-- **Deleting** is deleting among the entries of the object. -/
theorem only_delete : (store.delete id token).only id = (store.only id).delete id token := by
  unfold delete only
  rw [List.filter_comm]

theorem only_delete_of_ne (apart : other ≠ id) :
    (store.delete id token).only other = store.only other := by
  unfold delete only
  rw [List.filter_filter]
  refine congrArg Store.mk (List.filter_congr fun entry _ => ?_)
  rw [Bool.and_eq_left_iff_imp]
  intro own
  rw [Bool.not_eq_true', Bool.eq_false_iff]
  exact fun found => apart (Entry.eq_of_isOf own (Entry.isOf_of_isFound found))

theorem set_of_own {descriptor : Descriptor} (own : descriptor.id = id) :
    store.set id token (some descriptor) =
      .ok (store.put ⟨id, token, descriptor.count, descriptor.data⟩) := if_pos own

theorem set_of_foreign {descriptor : Descriptor} (foreign : descriptor.id ≠ id) :
    store.set id token (some descriptor) =
      .error (.invalidParameter (.foreignDescriptor descriptor.id id)) := if_neg foreign

theorem only_set (descriptor : Option Descriptor) : (store.only id).set id token descriptor =
    (store.set id token descriptor).map (only id) := by
  cases descriptor with
  | none => exact congrArg Except.ok only_delete.symm
  | some descriptor =>
    by_cases own : descriptor.id = id
    · rw [set_of_own own, set_of_own own]
      exact congrArg Except.ok only_put.symm
    · rw [set_of_foreign own, set_of_foreign own]
      rfl

theorem only_set_of_ne {descriptor : Option Descriptor} {after : Store}
    (done : store.set id token descriptor = .ok after) (apart : other ≠ id) :
    after.only other = store.only other := by
  cases descriptor with
  | none =>
    cases done
    exact only_delete_of_ne apart
  | some descriptor =>
    by_cases own : descriptor.id = id
    · rw [set_of_own own] at done
      cases done
      exact only_put_of_ne apart
    · rw [set_of_foreign own] at done
      cases done

end Store

/-! ### Views -/

/-- Two views show the same of some objects. -/
structure View.Agree (ids : List ObjectId) (one other : View) : Prop where
  /-- They follow the same protocol. -/
  revision : one.revision = other.revision
  /-- They take payloads back alike. -/
  free : one.free = other.free
  /-- They give the same under the ids of these objects. -/
  get : ∀ id ∈ ids, ∀ token, one.get id token = other.get id token

namespace View.Agree

variable {ids : List ObjectId} {one other : View} {id : ObjectId}

theorem release_eq (agree : Agree ids one other) (descriptor : Descriptor) :
    one.release descriptor = other.release descriptor := by
  unfold release requiresFree
  rw [agree.revision, agree.free]

theorem appended_eq (agree : Agree ids one other) (inside : id ∈ ids) (token : Token)
    (bytes : Bytes) :
    Access.appended one id token bytes = Access.appended other id token bytes := by
  unfold Access.appended
  rw [agree.get id inside token]
  cases other.get id token with
  | ok descriptor =>
    dsimp only
    rw [agree.release_eq]
  | error error => rfl

end View.Agree

/-! ### Changes -/

/-- A way into a store in which what belongs to an object is apart from all the rest. -/
structure Access.IsLocal (access : Access) : Prop where
  /-- All stores follow one protocol. -/
  revision : ∀ store other, (access.view store).revision = (access.view other).revision
  /-- All stores take payloads back alike. -/
  free : ∀ store other, (access.view store).free = (access.view other).free
  /-- Reading gives the same without the other objects. -/
  get : ∀ store id token,
    (access.view (store.only id)).get id token = (access.view store).get id token
  /-- Storing does the same without the other objects. -/
  set : ∀ store id token descriptor, access.set id token descriptor (Store.only id store) =
    (access.set id token descriptor store).map (Store.only id)
  /-- Storing does nothing to the other objects. -/
  apart : ∀ {store id token descriptor after}, access.set id token descriptor store = .ok after →
    ∀ other ≠ id, after.only other = store.only other

namespace Access

theorem live_isLocal : live.IsLocal where
  revision _ _ := rfl
  free _ _ := rfl
  get _ _ _ := Store.get_only
  set _ _ _ descriptor := Store.only_set descriptor
  apart done _ apart := Store.only_set_of_ne done apart

theorem frozen_isLocal (snapshot : Store) : (frozen snapshot).IsLocal where
  revision _ _ := rfl
  free _ _ := rfl
  get _ _ _ := rfl
  set _ _ _ _ := rfl
  apart done := by cases done

/-- **Stores with the same entries of some objects** show the same of them. -/
theorem IsLocal.agree {access : Access} (within : access.IsLocal) {ids : List ObjectId}
    {store other : Store} (same : ∀ id ∈ ids, store.only id = other.only id) :
    View.Agree ids (access.view store) (access.view other) where
  revision := within.revision store other
  free := within.free store other
  get id inside token := by
    rw [← within.get store, same id inside, within.get other]

/-- An object looks the same without the others. -/
theorem IsLocal.agree_only {access : Access} (within : access.IsLocal) (id : ObjectId)
    (store : Store) : View.Agree [id] (access.view (store.only id)) (access.view store) := by
  refine within.agree fun other inside => ?_
  rw [List.mem_singleton.mp inside, Store.only_idem]

end Access

theorem Reading.freed_map {ε α β : Type} (change : α → β) (reading : Reading ε α) :
    (change <$> reading).freed = reading.freed := by
  obtain ⟨result, freed⟩ := reading
  cases result <;> rfl

/-- A change that concerns one object. -/
structure Change.IsLocal (id : ObjectId) (change : Change) : Prop where
  /-- It does the same without the other objects. -/
  inside : ∀ store, change (store.only id) = Store.only id <$> change store
  /-- It does nothing to the other objects. -/
  apart : ∀ {store after}, (change store).result = .ok after →
    ∀ other ≠ id, after.only other = store.only other

/-- Changes, as many as are made, that concern one object. -/
structure IsWithin (id : ObjectId) (action : Store → Progress) : Prop where
  /-- They do the same without the other objects. -/
  inside : ∀ store, action (store.only id) =
    ⟨(action store).store.only id, (action store).outcome⟩
  /-- They do nothing to the other objects. -/
  apart : ∀ store, ∀ other ≠ id, (action store).store.only other = store.only other

namespace Change

variable {id : ObjectId} {change : Change} {changes : List Change} {store after : Store}

theorem inOrder_of_error {error : RepositoryError} (failed : (change store).result = .error error) :
    inOrder (change :: changes) store = ⟨store, ⟨.error error, (change store).freed⟩⟩ := by
  rw [inOrder]
  dsimp only
  rw [failed]

theorem inOrder_of_ok (made : (change store).result = .ok after) :
    inOrder (change :: changes) store =
      ⟨(inOrder changes after).store, ⟨(inOrder changes after).outcome.result,
        (change store).freed + (inOrder changes after).outcome.freed⟩⟩ := by
  rw [inOrder]
  dsimp only
  rw [made]

/-- **Changes one after the other** concern an object if each of them does. -/
theorem isWithin_inOrder (all : ∀ change ∈ changes, change.IsLocal id) :
    IsWithin id (inOrder changes) := by
  induction changes with
  | nil => exact ⟨fun _ => rfl, fun _ _ _ => rfl⟩
  | cons change changes ih =>
    obtain ⟨first, rest⟩ := List.forall_mem_cons.mp all
    have behind := ih rest
    refine ⟨fun store => ?_, fun store other apart => ?_⟩
    · have result : (change (store.only id)).result =
          (change store).result.map (Store.only id) := by
        rw [first.inside, Reading.result_map]
        rfl
      have freed : (change (store.only id)).freed = (change store).freed := by
        rw [first.inside, Reading.freed_map]
      cases made : (change store).result with
      | error error =>
        rw [made] at result
        rw [inOrder_of_error made, inOrder_of_error result, freed]
      | ok after =>
        rw [made] at result
        rw [inOrder_of_ok made, inOrder_of_ok result, freed, behind.inside]
    · cases made : (change store).result with
      | error error => rw [inOrder_of_error made]
      | ok after =>
        rw [inOrder_of_ok made]
        exact (behind.apart after other apart).trans (first.apart made other apart)

/-- A change by itself. -/
theorem IsLocal.isWithin (within : change.IsLocal id) : IsWithin id (inOrder [change]) :=
  isWithin_inOrder fun _ inside => by rwa [List.mem_singleton.mp inside]

end Change

/-! ### The changes that a repository offers -/

namespace Access.IsLocal

variable {access : Access} {id : ObjectId} {token : Token}

/-- Storing or deleting a payload. -/
theorem change (within : access.IsLocal) (id : ObjectId) (token : Token)
    (descriptor : Option Descriptor) :
    Change.IsLocal id fun store => Reading.ofExcept (access.set id token descriptor store) where
  inside store := by
    rw [within.set]
    cases access.set id token descriptor store <;> rfl
  apart done := within.apart done

/-- **Adding an instance** reads and stores under one id. -/
theorem addInstance (within : access.IsLocal) (id : ObjectId) (token : Token) (bytes : Bytes) :
    (access.addInstance id token bytes).IsLocal id where
  inside store := by
    unfold Access.addInstance
    rw [(within.agree_only id store).appended_eq List.mem_cons_self, map_bind]
    refine congrArg _ (funext fun read => ?_)
    obtain ⟨count, data⟩ := read
    dsimp only
    split
    · rfl
    · exact (within.change id token _).inside store
  apart {store after} done := by
    unfold Access.addInstance at done
    rw [Reading.result_bind] at done
    obtain ⟨⟨count, data⟩, _, done⟩ := bind_eq_ok.mp done
    dsimp only at done
    split at done
    · cases done
    · exact within.apart done

/-- **Removing instances** reads and deletes under one id. -/
theorem removeInstance (within : access.IsLocal) (id : ObjectId) (token : Token) :
    (access.removeInstance id token).IsLocal id where
  inside store := by
    unfold Access.removeInstance
    have agree := within.agree_only id store
    dsimp only
    rw [agree.get id List.mem_cons_self token, map_bind]
    refine congrArg _ (funext fun descriptor => ?_)
    rw [agree.release_eq, map_bind]
    exact congrArg _ (funext fun _ => (within.change id token none).inside store)
  apart {store after} done := by
    unfold Access.removeInstance at done
    simp only [Reading.result_bind, Reading.result_ofExcept] at done
    obtain ⟨descriptor, _, done⟩ := bind_eq_ok.mp done
    obtain ⟨_, _, done⟩ := bind_eq_ok.mp done
    exact within.apart done

/-- Adding many instances is adding one after the other. -/
theorem addInstances (within : access.IsLocal) (id : ObjectId) (token : Token) (bytes : Bytes)
    (items : Nat) : IsWithin id (access.addInstances id token bytes items) := by
  have each : IsWithin id
      (Change.inOrder ((Access.pieces (bytes.length / items) bytes).map
        (access.addInstance id token))) := by
    refine Change.isWithin_inOrder fun change inside => ?_
    obtain ⟨piece, _, rfl⟩ := List.mem_map.mp inside
    exact within.addInstance id token piece
  by_cases uneven : items = 0 ∨ bytes.isEmpty ∨ bytes.length % items ≠ 0
  · have refused : access.addInstances id token bytes items = fun store =>
        ⟨store, .fail (.invalidParameter (.unevenSplit bytes.length items))⟩ :=
      funext fun _ => if_pos uneven
    rw [refused]
    exact ⟨fun _ => rfl, fun _ _ _ => rfl⟩
  · have made : access.addInstances id token bytes items =
        Change.inOrder ((Access.pieces (bytes.length / items) bytes).map
          (access.addInstance id token)) := funext fun _ => if_neg uneven
    rwa [made]

variable {α : Type} [Record α]

/-- Adding records is adding their bytes. -/
theorem addObjects (within : access.IsLocal) (token : Token) (records : List α) :
    IsWithin (Record.objectId α) (access.addObjects token records) := by
  refine Change.isWithin_inOrder fun change inside => ?_
  obtain ⟨record, _, rfl⟩ := List.mem_map.mp inside
  exact within.addInstance _ token (Record.encode record)

end Access.IsLocal

end FirmwareTables
