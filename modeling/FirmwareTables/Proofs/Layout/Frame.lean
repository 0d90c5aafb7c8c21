/-
**What filling leaves alone.**

Letting a node write itself into its slice changes the slice and nothing else. Where the slices of
some nodes are blank and do not overlap (`Plan.Blank`), every one of them is therefore still blank
when its turn comes, and in the end holds the node's image, whatever the order was: `filled_iff`
says what the buffer is in words that do not mention the order. A plan's places are of this sort, so
that a table can be filled in any order (`populate_frame`).

A node gets hold of nothing but its slice, whose length it cannot change; of a `Node`, which is free
to hand back any buffer, this has to be asked (`Node.KeepsLength`).

* `Blank.step`: what one node does to the buffer;
* `Blank.filled_iff`: what all of them do;
* `Blank.error_iff`: the only failure is that of the first image that fails.
-/

import FirmwareTables.Generator.Mcfg
import FirmwareTables.Proofs.Layout.Geometry
import FirmwareTables.Proofs.Table.Walk

namespace FirmwareTables

/-! ### Slices that are written and slices that are not -/

namespace Bytes

variable {bytes after patch : Bytes} {offset length : Nat}

/-- A patch stands where it was put. -/
theorem slice?_overwrite (fits : offset + patch.length ≤ bytes.length) :
    (bytes.overwrite offset patch).slice? offset patch.length = some patch := by
  unfold overwrite
  rw [List.append_assoc]
  refine slice?_middle _ ?_ rfl
  rw [List.length_take]
  omega

/-- A slice is the same in byte strings that agree there. -/
theorem slice?_congr (same : after.length = bytes.length)
    (agree : ∀ position, offset ≤ position → position < offset + length →
      after[position]? = bytes[position]?) :
    after.slice? offset length = bytes.slice? offset length := by
  unfold slice?
  rw [same]
  by_cases inside : offset + length ≤ bytes.length
  · rw [if_pos inside, if_pos inside]
    congr 1
    ext1 number
    by_cases within : number < length
    · rw [List.getElem?_take_of_lt within, List.getElem?_take_of_lt within, List.getElem?_drop,
        List.getElem?_drop]
      exact agree _ (by omega) (by omega)
    · rw [List.getElem?_eq_none (by rw [List.length_take]; omega),
        List.getElem?_eq_none (by rw [List.length_take]; omega)]
  · rw [if_neg inside, if_neg inside]

theorem slice?_zeros {total : Nat} (inside : offset + length ≤ total) :
    (zeros total).slice? offset length = some (zeros length) := by
  rw [zeros_split (by omega : offset ≤ total), zeros_split (by omega : length ≤ total - offset)]
  exact slice?_middle _ (length_zeros _) (length_zeros _)

end Bytes

/-! ### Filling one slice -/

namespace Plan

/-- Lets nodes write themselves into a buffer, in some order. -/
def fillFrom (context : Context) (order : List Placed) (buffer : Bytes) :
    Except TableError Bytes :=
  (order.foldlM (fill context) buffer).result

/-- Nodes whose slices of a buffer are blank and do not overlap. -/
structure Blank (order : List Placed) (buffer : Bytes) : Prop where
  /-- Every place is as long as its node tells. -/
  known : ∀ place ∈ order, place.node.size = .ok place.entry.size
  /-- Every node keeps the length of its slice. -/
  keeps : ∀ place ∈ order, place.node.KeepsLength
  /-- Every slice holds zeros. -/
  blank : ∀ place ∈ order, buffer.slice? place.entry.offset place.entry.size =
    some (Bytes.zeros place.entry.size)
  /-- No position belongs to two places. -/
  apart : order.Pairwise fun place behind => ∀ position,
    ¬ (place.entry.Covers position ∧ behind.entry.Covers position)

/-- The images of nodes stand in their slices, and everything else is as it was. -/
structure Filled (context : Context) (order : List Placed) (buffer after : Bytes) : Prop where
  /-- The buffer is as long as it was. -/
  length : after.length = buffer.length
  /-- Every slice holds the image of its node. -/
  images : ∀ place ∈ order, ∃ image, place.node.image context = .ok image ∧
    after.slice? place.entry.offset place.entry.size = some image
  /-- What belongs to none of the places is as it was. -/
  frame : ∀ position, (∀ place ∈ order, ¬ place.entry.Covers position) →
    after[position]? = buffer[position]?

variable {context : Context} {order others : List Placed} {place : Placed}
  {buffer after : Bytes}

theorem fillFrom_nil : fillFrom context [] buffer = .ok buffer := rfl

theorem fillFrom_cons : fillFrom context (place :: order) buffer =
    (fill context buffer place).result >>= fillFrom context order := by
  unfold fillFrom
  rw [List.foldlM_cons, Reading.result_bind]

/-- A node whose slice is blank puts its image there. -/
theorem fill_of_blank (known : place.node.size = .ok place.entry.size)
    (blank : buffer.slice? place.entry.offset place.entry.size =
      some (Bytes.zeros place.entry.size)) :
    (fill context buffer place).result =
      buffer.overwrite place.entry.offset <$> place.node.image context := by
  have slice : (buffer.drop place.entry.offset).take place.entry.size =
      Bytes.zeros place.entry.size := by
    unfold Bytes.slice? at blank
    split at blank
    · exact Option.some.inj blank
    · cases blank
  have image : place.node.image context =
      (place.node.write context (Writer.start (Bytes.zeros place.entry.size))).result >>=
        Writer.finish := by
    unfold Node.image
    rw [known]
    rfl
  unfold fill
  simp only [Reading.result_bind, Reading.result_ofExcept, Reading.result_pure, slice, image]
  cases (place.node.write context (Writer.start (Bytes.zeros place.entry.size))).result with
  | error error => rfl
  | ok writer =>
    show writer.finish >>= _ = _ <$> writer.finish
    cases writer.finish <;> rfl

namespace Filled

theorem nil : Filled context [] buffer buffer :=
  ⟨rfl, List.forall_mem_nil _, fun _ _ => rfl⟩

/-- There is one buffer only in which everything is as it should be. -/
theorem unique {other : Bytes} (one : Filled context order buffer after)
    (two : Filled context order buffer other) : after = other := by
  -- Every byte is either part of an image or as it was before.
  ext1 position
  by_cases covered : ∃ place ∈ order, place.entry.Covers position
  · obtain ⟨place, inside, first, last⟩ := covered
    obtain ⟨image, made, here⟩ := one.images place inside
    obtain ⟨_, again, there⟩ := two.images place inside
    cases made.symm.trans again
    rw [Bytes.getElem?_of_slice? here first last, Bytes.getElem?_of_slice? there first last]
  · have outside : ∀ place ∈ order, ¬ place.entry.Covers position :=
      fun place inside here => covered ⟨place, inside, here⟩
    rw [one.frame position outside, two.frame position outside]

theorem perm (filled : Filled context order buffer after) (same : order.Perm others) :
    Filled context others buffer after where
  length := filled.length
  images place inside := filled.images place (same.mem_iff.mpr inside)
  frame position outside :=
    filled.frame position fun place inside => outside place (same.mem_iff.mp inside)

end Filled

namespace Blank

theorem perm (blank : Blank order buffer) (same : order.Perm others) : Blank others buffer where
  known place inside := blank.known place (same.mem_iff.mpr inside)
  keeps place inside := blank.keeps place (same.mem_iff.mpr inside)
  blank place inside := blank.blank place (same.mem_iff.mpr inside)
  apart := (same.pairwise_iff fun both position here => both position here.symm).mp blank.apart

theorem length_image (blank : Blank (place :: order) buffer) {image : Bytes}
    (made : place.node.image context = .ok image) : image.length = place.entry.size :=
  Except.ok.inj ((Node.length_image (blank.keeps _ List.mem_cons_self) made).symm.trans
    (blank.known _ List.mem_cons_self))

theorem inside (blank : Blank order buffer) (member : place ∈ order) :
    place.entry.offset + place.entry.size ≤ buffer.length := by
  have here := blank.blank place member
  unfold Bytes.slice? at here
  split at here
  · assumption
  · cases here

/-- **One node** leaves its image in its slice and everything else as it was; the slices of the
others are still blank. -/
theorem step (blank : Blank (place :: order) buffer) {image : Bytes}
    (made : place.node.image context = .ok image) :
    Filled context [place] buffer (buffer.overwrite place.entry.offset image) ∧
      Blank order (buffer.overwrite place.entry.offset image) := by
  have size := blank.length_image made
  have fits : place.entry.offset + image.length ≤ buffer.length := by
    rw [size]
    exact blank.inside List.mem_cons_self
  have length := Bytes.length_overwrite fits
  have frame : ∀ position, ¬ place.entry.Covers position →
      (buffer.overwrite place.entry.offset image)[position]? = buffer[position]? := by
    intro position outside
    refine Bytes.getElem?_overwrite_of_outside fits ?_
    rw [size]
    exact outside
  obtain ⟨first, apart⟩ := List.pairwise_cons.mp blank.apart
  constructor
  · refine ⟨length, List.forall_mem_singleton.mpr ⟨image, made, ?_⟩, fun position outside => ?_⟩
    · rw [← size]
      exact Bytes.slice?_overwrite fits
    · exact frame position (outside place List.mem_cons_self)
  · refine ⟨fun other inside => blank.known other (List.mem_cons_of_mem _ inside),
      fun other inside => blank.keeps other (List.mem_cons_of_mem _ inside),
      fun other inside => ?_, apart⟩
    -- Nothing of the other slices belongs to this one, so that they are as they were: blank.
    rw [← blank.blank other (List.mem_cons_of_mem _ inside)]
    refine Bytes.slice?_congr length fun position low high => frame position fun here => ?_
    exact first other inside position ⟨here, low, high⟩

end Blank

/-! ### Filling all of them -/

namespace Blank

theorem filled_of_ok (blank : Blank order buffer)
    (done : fillFrom context order buffer = .ok after) : Filled context order buffer after := by
  induction order generalizing buffer with
  | nil =>
    cases done
    exact .nil
  | cons place order ih =>
    rw [fillFrom_cons, fill_of_blank (blank.known _ List.mem_cons_self)
      (blank.blank _ List.mem_cons_self)] at done
    obtain ⟨middle, written, done⟩ := bind_eq_ok.mp done
    obtain ⟨image, made, rfl⟩ := map_eq_ok.mp written
    obtain ⟨here, behind⟩ := blank.step made
    have rest := ih behind done
    have apart := (List.pairwise_cons.mp blank.apart).1
    refine ⟨rest.length.trans here.length, List.forall_mem_cons.mpr ⟨?_, rest.images⟩, ?_⟩
    · -- What comes behind leaves the slice of the first node alone.
      obtain ⟨_, again, stands⟩ := here.images place List.mem_cons_self
      refine ⟨_, again, (Bytes.slice?_congr rest.length fun position low high => ?_).trans stands⟩
      exact rest.frame position fun other inside covers =>
        apart other inside position ⟨⟨low, high⟩, covers⟩
    · intro position outside
      obtain ⟨first, others⟩ := List.forall_mem_cons.mp outside
      rw [rest.frame position others, here.frame position (List.forall_mem_singleton.mpr first)]

/-- After some of the nodes the slices of the others are still blank. -/
theorem rest (blank : Blank (order ++ others) buffer)
    (done : fillFrom context order buffer = .ok after) : Blank others after := by
  induction order generalizing buffer with
  | nil =>
    cases done
    exact blank
  | cons place order ih =>
    rw [fillFrom_cons, fill_of_blank (blank.known _ List.mem_cons_self)
      (blank.blank _ List.mem_cons_self)] at done
    obtain ⟨middle, written, done⟩ := bind_eq_ok.mp done
    obtain ⟨image, made, rfl⟩ := map_eq_ok.mp written
    exact ih (blank.step made).2 done

/-- **Filling fails** as the first image that fails. -/
theorem error_iff (blank : Blank order buffer) {error : TableError} :
    fillFrom context order buffer = .error error ↔ ∃ front place back,
      order = front ++ place :: back ∧
      (∀ earlier ∈ front, ∃ image, earlier.node.image context = .ok image) ∧
      place.node.image context = .error error := by
  induction order generalizing buffer with
  | nil =>
    rw [fillFrom_nil]
    constructor
    · intro absurd
      cases absurd
    · rintro ⟨front, place, back, split, -⟩
      cases front <;> cases split
  | cons first order ih =>
    rw [fillFrom_cons, fill_of_blank (blank.known _ List.mem_cons_self)
      (blank.blank _ List.mem_cons_self)]
    cases made : first.node.image context with
    | error cause =>
      constructor
      · intro failed
        cases failed
        exact ⟨[], first, order, rfl, List.forall_mem_nil _, made⟩
      · rintro ⟨front, place, back, split, earlier, failed⟩
        cases front with
        | nil =>
          cases split
          rw [← made, failed]
          rfl
        | cons head front =>
          cases split
          obtain ⟨_, absurd⟩ := earlier first List.mem_cons_self
          cases made.symm.trans absurd
    | ok image =>
      refine (ih (blank.step made).2).trans ?_
      constructor
      · rintro ⟨front, place, back, rfl, earlier, failed⟩
        exact ⟨first :: front, place, back, rfl,
          List.forall_mem_cons.mpr ⟨⟨image, made⟩, earlier⟩, failed⟩
      · rintro ⟨front, place, back, split, earlier, failed⟩
        cases front with
        | nil =>
          cases split
          cases made.symm.trans failed
        | cons head front =>
          cases split
          exact ⟨front, place, back, rfl, (List.forall_mem_cons.mp earlier).2, failed⟩

/-- **Filling succeeds** with the one buffer in which everything is as it should be. -/
theorem filled_iff (blank : Blank order buffer) :
    fillFrom context order buffer = .ok after ↔ Filled context order buffer after := by
  refine ⟨blank.filled_of_ok, fun filled => ?_⟩
  cases done : fillFrom context order buffer with
  | ok other => rw [filled.unique (blank.filled_of_ok done)]
  | error error =>
    obtain ⟨front, place, back, rfl, _, failed⟩ := blank.error_iff.mp done
    obtain ⟨_, made, _⟩ := filled.images place (List.mem_append_right _ List.mem_cons_self)
    cases made.symm.trans failed

end Blank

/-! ### Filling a plan -/

/-- A plan is filled without any node touching what is not its own. -/
structure IsFramed (plan : Plan) (view : View) (revision : UInt8) : Prop where
  /-- Every slice is behind the header and inside of the table. -/
  inside : ∀ place ∈ plan.placed, plan.headerLength ≤ place.entry.offset ∧
    place.entry.offset + place.entry.size ≤ plan.totalLength
  /-- The table has its length, a blank header, and in every slice what its node writes alone. -/
  table : ∀ bytes, (plan.populate view revision).result = .ok bytes →
    bytes.length = plan.totalLength ∧
      (∀ position < plan.headerLength, bytes[position]? = some 0) ∧
      ∀ place ∈ plan.placed, ∃ image,
        place.node.image ⟨view, plan.index, revision⟩ = .ok image ∧
          bytes.slice? place.entry.offset place.entry.size = some image
  /-- There is no table exactly if a node fails, and the first of them tells why. -/
  failure : ∀ error, (plan.populate view revision).result = .error error ↔
    ∃ front place back, plan.placed = front ++ place :: back ∧
      (∀ earlier ∈ front, ∃ image,
        earlier.node.image ⟨view, plan.index, revision⟩ = .ok image) ∧
      place.node.image ⟨view, plan.index, revision⟩ = .error error
  /-- In any other order the nodes fill the same table. -/
  order : ∀ order, order.Perm plan.placed → ∀ bytes,
    fillFrom ⟨view, plan.index, revision⟩ order (Bytes.zeros plan.totalLength) = .ok bytes ↔
      (plan.populate view revision).result = .ok bytes
  /-- In any order a node whose turn it is finds its slice blank, and changes nothing else. -/
  turn : ∀ front place back buffer, (front ++ place :: back).Perm plan.placed →
    fillFrom ⟨view, plan.index, revision⟩ front (Bytes.zeros plan.totalLength) = .ok buffer →
      buffer.length = plan.totalLength ∧
      buffer.slice? place.entry.offset place.entry.size =
        some (Bytes.zeros place.entry.size) ∧
      ∀ after, (fill ⟨view, plan.index, revision⟩ buffer place).result = .ok after →
        Filled ⟨view, plan.index, revision⟩ [place] buffer after

/-- Places one behind the other are blank slices of a buffer of zeros. -/
theorem blank_of_lies {limits : Limits} {offset last : Nat} {nodes : List (String × Node)}
    {placed : List Placed} (lies : Lies limits offset nodes placed last)
    (keeps : ∀ place ∈ placed, place.node.KeepsLength) : Blank placed (Bytes.zeros last) where
  known place inside := (lies.entry_eq place inside).2.1
  keeps := keeps
  blank _ inside := Bytes.slice?_zeros (lies.tiles.inside _ (List.mem_map_of_mem inside)).2
  apart := List.pairwise_map.mp lies.tiles.disjoint

/-- The header is never part of a slice, and stays blank. -/
theorem blank_header {limits : Limits} {offset last : Nat} {nodes : List (String × Node)}
    {placed : List Placed} {bytes : Bytes} (lies : Lies limits offset nodes placed last)
    (filled : Filled context placed (Bytes.zeros last) bytes) :
    ∀ position < offset, bytes[position]? = some 0 := by
  intro position before
  have outside : ∀ place ∈ placed, ¬ place.entry.Covers position := by
    intro place member covers
    have := (lies.tiles.inside _ (List.mem_map_of_mem member)).1
    have := covers.1
    omega
  have := lies.offset_le
  rw [filled.frame position outside, Bytes.zeros, List.getElem?_replicate_of_lt (by omega)]

/-- **The second phase**, for every plan whose nodes leave the lengths of their slices as they are:
each node writes its own slice, which it finds blank, and what comes of it depends neither on the
order nor on the other nodes. -/
theorem populate_frame {layout : Layout} {planned : View} {plan : Plan}
    (made : (layout.plan planned).result = .ok plan)
    (keeps : ∀ place ∈ plan.placed, place.node.KeepsLength) (view : View) (revision : UInt8) :
    plan.IsFramed view revision := by
  obtain ⟨header, groups, _, lies⟩ := Layout.plan_eq_ok.mp made
  rw [← header] at lies
  have blank := blank_of_lies lies keeps
  have populate : (plan.populate view revision).result =
      fillFrom ⟨view, plan.index, revision⟩ plan.placed (Bytes.zeros plan.totalLength) := rfl
  refine ⟨fun place inside => ?_, fun bytes done => ?_, fun error => ?_, fun order same bytes => ?_,
    fun front place back buffer same done => ?_⟩
  · exact lies.tiles.inside _ (List.mem_map_of_mem inside)
  · have filled := blank.filled_of_ok (populate.symm.trans done)
    exact ⟨filled.length.trans (Bytes.length_zeros _), blank_header lies filled, filled.images⟩
  · rw [populate]
    exact blank.error_iff
  · -- What the buffer is does not mention the order, and the other order is blank as well.
    rw [populate, (blank.perm same.symm).filled_iff, blank.filled_iff]
    exact ⟨fun filled => filled.perm same, fun filled => filled.perm same.symm⟩
  · have mixed := blank.perm same.symm
    have front : Blank front (Bytes.zeros plan.totalLength) := by
      refine ⟨fun other inside => mixed.known other (List.mem_append_left _ inside),
        fun other inside => mixed.keeps other (List.mem_append_left _ inside),
        fun other inside => mixed.blank other (List.mem_append_left _ inside),
        (List.pairwise_append.mp mixed.apart).1⟩
    have behind := mixed.rest done
    refine ⟨(front.filled_of_ok done).length.trans (Bytes.length_zeros _),
      behind.blank place List.mem_cons_self, fun after written => ?_⟩
    rw [fill_of_blank (behind.known _ List.mem_cons_self)
      (behind.blank _ List.mem_cons_self)] at written
    obtain ⟨image, drawn, rfl⟩ := map_eq_ok.mp written
    exact (behind.step drawn).1

/-- Two ranges of configuration space. -/
def twoRanges : Store :=
  ⟨[⟨Record.objectId ConfigSpace, .null, 2,
    [⟨4096, 0, 0, 127⟩, ⟨8192, 1, 0, 255⟩].flatMap (Record.encode (α := ConfigSpace))⟩]⟩

/-- Two ranges write themselves into a table of configuration space, each into its own slice. -/
theorem populate_frame_ranges : ∃ plan : Plan,
    (Mcfg.layout.plan twoRanges.view).result = .ok plan ∧ plan.placed.length = 2 ∧
      (∀ place ∈ plan.placed, place.node.KeepsLength) ∧ plan.IsFramed twoRanges.view 1 := by
  let plan : Plan := ⟨44, 76,
    [⟨⟨.null, "PCI configuration space", 44, 16⟩, Mcfg.configSpace ⟨4096, 0, 0, 127⟩⟩,
      ⟨⟨.null, "PCI configuration space", 60, 16⟩, Mcfg.configSpace ⟨8192, 1, 0, 255⟩⟩]⟩
  have made : (Mcfg.layout.plan twoRanges.view).result = .ok plan := rfl
  have keeps : ∀ place ∈ plan.placed, place.node.KeepsLength := by
    intro place inside
    rcases List.mem_pair.mp inside with rfl | rfl <;> exact Node.ofPieces_keepsLength
  exact ⟨plan, made, rfl, keeps, populate_frame made keeps _ 1⟩

end Plan

end FirmwareTables
