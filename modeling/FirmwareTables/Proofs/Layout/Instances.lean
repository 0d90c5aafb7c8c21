/-
**The records behind a category.**

A view `Lists` the records that it counts: none if it counts none, and else those that it gives
under the null token. While a view stays as it is, counting and listing cannot disagree
(`getList_of_count`), so that a category of records loads exactly one node for each of the records
listed (`loads_iff`) and never finds their number changed (`isSteady`).
-/

import FirmwareTables.Proofs.Layout.Filling

namespace FirmwareTables

/-! ### The records of a descriptor -/

namespace Descriptor

variable {α : Type} [Record α]

theorem length_readRecords {id : ObjectId} {count remaining index : Nat} {bytes rest : Bytes}
    {records : List α}
    (done : readRecords id count remaining index bytes = .ok (records, rest)) :
    records.length = remaining := by
  induction remaining generalizing index bytes records with
  | zero =>
    cases done
    rfl
  | succ remaining ih =>
    unfold readRecords at done
    split at done
    · cases done
    split at done
    · cases done
    · rename_i tail
      cases done
      rw [List.length_cons, ih tail]

theorem readRecords_error {id : ObjectId} {count remaining index : Nat} {bytes : Bytes}
    {error : RepositoryError}
    (failed : readRecords (α := α) id count remaining index bytes = .error error) :
    ∃ mismatch, error = .badBufferSize id mismatch := by
  induction remaining generalizing index bytes with
  | zero => cases failed
  | succ remaining ih =>
    unfold readRecords at failed
    split at failed
    · cases failed
      exact ⟨_, rfl⟩
    split at failed
    · rename_i tail
      cases failed
      exact ih tail
    · cases failed

theorem toList_eq (descriptor : Descriptor) :
    descriptor.toList (α := α) =
      readRecords descriptor.id descriptor.count.toNat descriptor.count.toNat 0 descriptor.data >>=
        fun read => if read.2.isEmpty then .ok read.1
          else .error (.badBufferSize descriptor.id
            (.trailing read.2.length descriptor.count.toNat)) := rfl

/-- A descriptor holds as many records as it counts. -/
theorem length_toList {descriptor : Descriptor} {records : List α}
    (done : descriptor.toList = .ok records) : records.length = descriptor.count.toNat := by
  rw [toList_eq] at done
  obtain ⟨⟨read, rest⟩, made, done⟩ := bind_eq_ok.mp done
  dsimp only at done
  split at done
  · cases done
    exact length_readRecords made
  · cases done

/-- Bytes that are not the records counted are a matter of their size. -/
theorem toList_error {descriptor : Descriptor} {error : RepositoryError}
    (failed : descriptor.toList (α := α) = .error error) :
    ∃ mismatch, error = .badBufferSize descriptor.id mismatch := by
  rw [toList_eq] at failed
  cases made : readRecords (α := α) descriptor.id descriptor.count.toNat
      descriptor.count.toNat 0 descriptor.data with
  | error cause =>
    rw [made] at failed
    cases failed
    exact readRecords_error made
  | ok read =>
    rw [made] at failed
    change (if read.2.isEmpty then Except.ok read.1 else .error _) = .error error at failed
    split at failed
    · cases failed
    · cases failed
      exact ⟨_, rfl⟩

end Descriptor

/-! ### Counting and listing -/

namespace View

variable {α : Type} [Record α] {view : View}

/-- Where instances are counted, listing them is reading what they are stored as. -/
theorem getList_of_count {count : Nat}
    (counted : (view.countOnly (Record.objectId α)).result = .ok count) (some : count ≠ 0) :
    ∃ descriptor : Descriptor, descriptor.count.toNat = count ∧
      (view.getList α .null).result = descriptor.toList := by
  unfold countOnly at counted
  cases got : view.get (Record.objectId α) .null with
  | error error =>
    rw [got] at counted
    dsimp only at counted
    split at counted
    · cases counted
      exact absurd rfl some
    · cases counted
  | ok descriptor =>
    rw [got] at counted
    simp only [Reading.result_bind, bind_eq_ok] at counted
    obtain ⟨_, released, done⟩ := counted
    cases done
    refine ⟨descriptor, rfl, ?_⟩
    unfold getList
    simp only [Reading.result_bind, Reading.result_ofExcept, got]
    show ((view.release descriptor).result >>= fun _ => descriptor.toList) = _
    rw [released]
    rfl

/-- Such a list is never taken for an empty one, whatever is wrong with it. -/
theorem getListOrEmpty_of_count {count : Nat}
    (counted : (view.countOnly (Record.objectId α)).result = .ok count) (some : count ≠ 0) :
    (view.getListOrEmpty α .null).result = (view.getList α .null).result := by
  obtain ⟨descriptor, _, read⟩ := getList_of_count (α := α) counted some
  unfold getListOrEmpty
  dsimp only
  split
  · rfl
  · rename_i error failed
    rw [read] at failed
    obtain ⟨mismatch, rfl⟩ := Descriptor.toList_error failed
    rfl

theorem length_getList {count : Nat} {records : List α}
    (counted : (view.countOnly (Record.objectId α)).result = .ok count) (some : count ≠ 0)
    (done : (view.getList α .null).result = .ok records) : records.length = count := by
  obtain ⟨descriptor, same, read⟩ := getList_of_count (α := α) counted some
  rw [← same]
  exact Descriptor.length_toList (read.symm.trans done)

/-- The records of a type that a view counts, none if it counts none. -/
def Lists (view : View) (records : List α) : Prop :=
  (view.countOnly (Record.objectId α)).result = .ok records.length ∧
    (records ≠ [] → (view.getList α .null).result = .ok records)

/-- A view lists one list of records of a type only. -/
theorem Lists.unique {first second : List α} (one : view.Lists first) (other : view.Lists second) :
    first = second := by
  have same : first.length = second.length := Except.ok.inj (one.1.symm.trans other.1)
  by_cases empty : first = []
  · rw [empty] at same ⊢
    exact (List.length_eq_zero_iff.mp same.symm).symm
  · have filled : second ≠ [] := by
      intro none
      rw [none] at same
      exact empty (List.length_eq_zero_iff.mp same)
    exact Except.ok.inj ((one.2 empty).symm.trans (other.2 filled))

end View

/-! ### Categories of records -/

namespace Category

variable {α : Type} [Record α] {category : Category} {view : View}
  {check : List α → Except TableError Unit} {node : α → Node}

/-- A category whose nodes are made from the records of a type. -/
def IsOf (category : Category) (check : List α → Except TableError Unit) (node : α → Node) : Prop :=
  category.id = Record.objectId α ∧ category.load = (ofChecked α category.name check node).load

/-- **How many nodes a category may have**: one at least if required, one at most if single. -/
theorem checkCount_eq_ok {count : Nat} : category.checkCount count = .ok () ↔
    (category.required → count ≠ 0) ∧ (category.singleton → count ≤ 1) := by
  unfold checkCount
  by_cases missing : category.required ∧ count = 0
  · rw [if_pos missing]
    exact ⟨nofun, fun both => absurd missing.2 (both.1 missing.1)⟩
  rw [if_neg missing]
  by_cases several : category.singleton ∧ 1 < count
  · rw [if_pos several]
    exact ⟨nofun, fun both => absurd several.2 (Nat.not_lt.mpr (both.2 several.1))⟩
  rw [if_neg several]
  refine iff_of_true rfl ⟨fun required none => missing ⟨required, none⟩, fun singleton => ?_⟩
  exact Nat.not_lt.mp fun more => several ⟨singleton, more⟩

theorem count_eq_ok {count : Nat} :
    (category.count view).result = .ok count ↔
      (view.countOnly category.id).result = .ok count ∧ category.checkCount count = .ok () := by
  unfold Category.count
  simp only [Reading.result_bind, bind_eq_ok, Reading.result_mapError, mapError_eq_ok,
    Reading.result_ofExcept]
  constructor
  · rintro ⟨_, counted, ⟨⟩, checked, done⟩
    cases done
    exact ⟨counted, checked⟩
  · rintro ⟨counted, checked⟩
    exact ⟨count, counted, (), checked, rfl⟩

theorem load_eq_ok {nodes : List Node} (source : category.IsOf check node) {count : Nat}
    (counted : (view.countOnly category.id).result = .ok count) (some : count ≠ 0) :
    (category.load view).result = .ok nodes ↔
      ∃ records, (view.getList α .null).result = .ok records ∧ check records = .ok () ∧
        nodes = records.map node := by
  rw [source.1] at counted
  rw [source.2]
  unfold ofChecked
  simp only [Reading.result_bind, bind_eq_ok, Reading.result_mapError, mapError_eq_ok,
    Reading.result_ofExcept, View.getListOrEmpty_of_count counted some]
  constructor
  · rintro ⟨records, listed, ⟨⟩, checked, done⟩
    cases done
    exact ⟨records, listed, checked, rfl⟩
  · rintro ⟨records, listed, checked, rfl⟩
    exact ⟨records, listed, (), checked, rfl⟩

/-- **What a category of records loads**: a node for each of the records listed. -/
theorem loads_iff (source : category.IsOf check node) {nodes : List Node} :
    category.Loads view nodes ↔
      ∃ records : List α, view.Lists records ∧ nodes = records.map node ∧
        category.checkCount records.length = .ok () ∧ (records ≠ [] → check records = .ok ()) := by
  constructor
  · rintro ⟨counted, load⟩
    obtain ⟨counted, checked⟩ := count_eq_ok.mp counted
    by_cases empty : nodes = []
    · subst empty
      rw [source.1] at counted
      exact ⟨[], ⟨counted, fun absurd => absurd.elim rfl⟩, rfl, checked,
        fun absurd => absurd.elim rfl⟩
    · have some : nodes.length ≠ 0 := fun none => empty (List.length_eq_zero_iff.mp none)
      obtain ⟨records, listed, allowed, rfl⟩ := (load_eq_ok source counted some).mp (load empty)
      rw [source.1] at counted
      rw [List.length_map] at counted checked
      exact ⟨records, ⟨counted, fun _ => listed⟩, rfl, checked, fun _ => allowed⟩
  · rintro ⟨records, ⟨counted, listed⟩, rfl, checked, allowed⟩
    rw [← source.1] at counted
    refine ⟨count_eq_ok.mpr (by rw [List.length_map]; exact ⟨counted, checked⟩), fun filled => ?_⟩
    have some : records ≠ [] := fun none => filled (by rw [none]; rfl)
    exact (load_eq_ok source counted fun none => some (List.length_eq_zero_iff.mp none)).mpr
      ⟨records, listed some, allowed some, rfl⟩

/-- All nodes made from records are of a sort if each of them is. -/
theorem IsOf.allNodes {sort : Node → Prop} (source : category.IsOf check node)
    (each : ∀ record, sort (node record)) : category.AllNodes sort := by
  intro view nodes load made inside
  rw [source.2] at load
  unfold ofChecked at load
  simp only [Reading.result_bind, bind_eq_ok] at load
  obtain ⟨records, _, _, _, done⟩ := load
  cases done
  obtain ⟨record, _, rfl⟩ := List.mem_map.mp inside
  exact each record

theorem checkCount_meets {bad : TableError → Prop}
    (absent : category.required → bad (.invalidParameter (.noNodes category.name)))
    (several : category.singleton → ∀ count,
      bad (.invalidParameter (.notSingle count category.name))) (count : Nat) :
    Meets (fun _ => True) bad (category.checkCount count) := by
  unfold checkCount
  split
  · rename_i required
    exact absent required.1
  split
  · rename_i singleton
    exact several singleton.1 count
  · exact trivial

/-- **A category of records** fails as its view and its check do, or over the limits. -/
theorem IsOf.isSteady (source : category.IsOf check node) {limits : Limits}
    {bad : TableError → Prop} (sized : ∀ record, ∃ size, (node record).size = .ok size)
    (counting : Meets (fun _ => True) (bad ∘ TableError.repository)
      (view.countOnly (Record.objectId α)).result)
    (listing : ∀ count, (view.countOnly (Record.objectId α)).result = .ok count → count ≠ 0 →
      Meets (fun _ => True) (bad ∘ TableError.repository) (view.getList α .null).result)
    (absent : category.required → bad (.invalidParameter (.noNodes category.name)))
    (several : category.singleton → ∀ count,
      bad (.invalidParameter (.notSingle count category.name)))
    (checking : ∀ records, Meets (fun _ => True) bad (check records))
    (tooLong : ∀ size, bad (.invalidParameter (.longNode category.name size limits.maxNode)))
    (total : bad (.invalidParameter (.longTotal limits.maxTable))) :
    category.IsSteady view limits bad where
  count := by
    unfold Category.count
    simp only [Reading.result_bind, Reading.result_ofExcept, source.1]
    refine Meets.bind (Meets.mapError counting fun _ same => same) fun count _ => ?_
    exact (checkCount_meets absent several count).bind fun _ _ => trivial
  load count counted some := by
    have counted := (count_eq_ok.mp counted).1
    rw [source.1] at counted
    rw [source.2]
    unfold ofChecked
    simp only [Reading.result_bind, Reading.result_ofExcept, Reading.result_mapError,
      View.getListOrEmpty_of_count counted some]
    have listed := listing _ counted some
    refine Meets.bind (Meets.mapError listed.keep fun _ same => same) fun records both => ?_
    refine (checking records).bind fun _ _ => ?_
    refine ⟨by rw [List.length_map, View.length_getList counted some both.2], fun made inside => ?_⟩
    obtain ⟨record, _, rfl⟩ := List.mem_map.mp inside
    exact sized record
  node := tooLong
  table := total

end Category

end FirmwareTables
