/-
**What stored descriptions can be refused for.**

From a store with a record about the vendor, a table can be refused only for its request, or because
there is too much of something or no processor (`IsExcess`): a category of records that are found as
they are fails in these ways only (`steady_excess`), and so does the table as soon as its nodes can
be written (`TableKind.build_refused`).
-/

import FirmwareTables.Proofs.Generator.Assembly
import FirmwareTables.Proofs.Platform.Listing
import FirmwareTables.Proofs.Platform.Populating

namespace FirmwareTables

/-! ### Errors -/

/-- There is too much of something, or no processor. -/
inductive TableError.IsExcess : TableError → Prop where
  /-- There is no processor. -/
  | absent : IsExcess (.invalidParameter (.noNodes "GICC affinity"))
  /-- A node is too long. -/
  | node (category : String) (size limit : Nat) :
    IsExcess (.invalidParameter (.longNode category size limit))
  /-- All nodes together are too long. -/
  | table (limit : Nat) : IsExcess (.invalidParameter (.longTotal limit))
  /-- There are too many instances of an object to count. -/
  | count (id : ObjectId) : IsExcess (.repository (.invalidParameter (.countOverflow id)))

/-- A table is refused over a parameter, and if its request is accepted, over too much of
something. -/
structure TableError.IsRefusal (profile : Profile) (request : TableRequest) (error : TableError) :
    Prop where
  /-- The error is about a parameter. -/
  invalid : error.isInvalidParameter = true
  /-- Nothing is missing. -/
  found : error.isNotFound = false
  /-- The cause, if it is not the request. -/
  excess : profile.checkRequest request = .ok () → error.IsExcess

theorem TableError.IsExcess.isRefusal {profile : Profile} {request : TableRequest}
    {error : TableError} (excess : error.IsExcess) : error.IsRefusal profile request := by
  refine ⟨?_, ?_, fun _ => excess⟩
  · cases excess <;> rfl
  · cases excess <;> rfl

theorem Profile.checkRequest_refused {profile : Profile} {request : TableRequest}
    {error : TableError} (failed : profile.checkRequest request = .error error) :
    error.IsRefusal profile request := by
  have invalid : ∃ cause, error = .invalidParameter cause := by
    unfold checkRequest at failed
    split at failed
    · cases failed
      exact ⟨_, rfl⟩
    split at failed
    · cases failed
      exact ⟨_, rfl⟩
    split at failed
    · cases failed
      exact ⟨_, rfl⟩
    · cases failed
  obtain ⟨cause, rfl⟩ := invalid
  refine ⟨rfl, rfl, fun accepted => ?_⟩
  rw [failed] at accepted
  cases accepted

/-! ### Steps of a build -/

/-- **A category of records that are found as they are** fails over limits only. -/
theorem Category.IsOf.steady_excess {α : Type} [Record α] {category : Category} {node : α → Node}
    (source : category.IsOf (fun _ => .ok ()) node)
    (sized : ∀ record, ∃ size, (node record).size = .ok size)
    (named : category.required → category.name = "GICC affinity") (single : ¬ category.singleton)
    {store : Store} {records : List α} (finds : store.Finds .null records)
    (readable : ∀ record ∈ records, Record.IsReadable record) (limits : Limits) :
    category.IsSteady store.view limits TableError.IsExcess := by
  have counts := Store.countOnly_eq finds
  refine source.isSteady sized ?_ ?_ (fun required => ?_) (fun singleton => absurd singleton single)
    (fun _ => trivial) (fun size => .node _ _ _) (.table _)
  · rw [counts]
    by_cases many : maxCount < records.length
    · rw [if_pos many]
      exact TableError.IsExcess.count _
    · rw [if_neg many]
      exact trivial
  · intro count counted some
    rw [counts] at counted
    by_cases many : maxCount < records.length
    · rw [if_pos many] at counted
      cases counted
    · rw [if_neg many] at counted
      cases counted
      have filled : records ≠ [] := by
        rintro rfl
        exact some rfl
      rw [Store.getList_of_finds finds readable (Nat.le_of_not_lt many) filled]
      exact trivial
  · rw [named required]
    exact .absent

theorem HasVendor.exists_getObject {store : Store} (vendor : HasVendor store) :
    ∃ info, (store.view.getObject ManagerInfo).result = .ok info := by
  obtain ⟨info, found⟩ := vendor
  have few : [info].length ≤ maxCount := (by decide : 1 ≤ maxCount)
  have listed := Store.getList_of_finds (Store.finds_of_listOf found few)
    (Record.areReadable (by decide) _) few (List.cons_ne_nil _ _)
  refine ⟨info, ?_⟩
  unfold View.getObject
  rw [Reading.result_bind, listed]
  rfl

/-- **A table is refused** as its categories are, once its nodes and its fields can be written. -/
theorem TableKind.build_refused {kind : TableKind} (regular : kind.IsRegular) {store : Store}
    (vendor : HasVendor store)
    (steady : ∀ category ∈ kind.layout.categories,
      category.IsSteady store.view kind.layout.limits TableError.IsExcess)
    {request : TableRequest}
    (drawn : ∀ plan, (kind.layout.plan store.view).result = .ok plan → ∀ place ∈ plan.placed,
      ∃ image, place.node.image ⟨store.view, plan.index, request.revision⟩ = .ok image)
    (filled : ∀ plan, (kind.layout.plan store.view).result = .ok plan →
      ∃ fields, kind.fields plan = .ok fields) {error : TableError}
    (failed : (kind.build request store.view).result = .error error) :
    error.IsRefusal kind.toProfile request := by
  cases checked : kind.checkRequest request with
  | error cause =>
    rw [build_eq regular, checked] at failed
    cases failed
    exact Profile.checkRequest_refused checked
  | ok accepted =>
    obtain ⟨info, read⟩ := vendor.exists_getObject
    have meets := @build_meets kind request store.view regular TableError.IsExcess
    refine TableError.IsExcess.isRefusal (Meets.of_error (meets ?_ ?_ ?_ ?_ ?_) failed)
    · rw [checked]
      exact trivial
    · rw [read]
      exact trivial
    · exact Layout.plan_meets regular.narrow steady
    · intro plan planned place inside
      obtain ⟨image, made⟩ := drawn plan planned place inside
      rw [made]
      exact trivial
    · intro plan planned
      obtain ⟨fields, made⟩ := filled plan planned
      rw [made]
      exact trivial

end FirmwareTables
