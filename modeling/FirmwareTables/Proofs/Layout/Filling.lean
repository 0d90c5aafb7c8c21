/-
**What a filled table consists of.**

`Node.image` is what a node writes alone, into zeros of its size. When nodes lie one behind the
other, letting each of them write itself into its slice of one buffer gives the header's zeros and
then the images, in order (`populate_eq`): a node sees zeros whatever was written before, and what
it writes stays. The only error is that of the first image that fails.

* `ofPieces_image`: the image of a node of pieces is what its pieces amount to, provided that they
  always have the node's size.
-/

import FirmwareTables.Proofs.Layout.Placement
import FirmwareTables.Proofs.Table.Pieces

namespace FirmwareTables

/-! ### Images -/

namespace Node

/-- What a node writes alone, into zeros of its size. -/
def image (context : Context) (node : Node) : Except TableError Bytes := do
  let size ← node.size
  let writer ← (node.write context (Writer.start (Bytes.zeros size))).result
  writer.finish

/-- A node that leaves the length of its slice as it is. -/
def KeepsLength (node : Node) : Prop :=
  ∀ context writer after, (node.write context writer).result = .ok after →
    after.buffer.length = writer.buffer.length

theorem length_image {node : Node} (keeps : node.KeepsLength) {context : Context} {bytes : Bytes}
    (done : node.image context = .ok bytes) : node.size = .ok bytes.length := by
  unfold image at done
  obtain ⟨size, known, done⟩ := bind_eq_ok.mp done
  obtain ⟨writer, written, done⟩ := bind_eq_ok.mp done
  have same := keeps _ _ _ written
  unfold Writer.finish at done
  split at done
  · cases done
    rw [known, same, Writer.start, Bytes.length_zeros]
  · cases done

/-- The pieces of a node always have the node's size. -/
def AreExact (size : Nat) (pieces : Context → Reading TableError (List Piece)) : Prop :=
  ∀ context made, (pieces context).result = .ok made → (Piece.encodeAll made).length = size

variable {token : Token} {size : Nat} {pieces : Context → Reading TableError (List Piece)}

theorem ofPieces_keepsLength : (ofPieces token size pieces).KeepsLength := by
  intro context writer after done
  unfold ofPieces at done
  simp only [Reading.result_bind, bind_eq_ok, Reading.result_ofExcept] at done
  obtain ⟨made, _, put⟩ := done
  exact Writer.length_putEach put

/-- **The image of a node of pieces** is what its pieces amount to. -/
theorem ofPieces_image (exact : AreExact size pieces) (context : Context) :
    (ofPieces token size pieces).image context = Piece.encodeAll <$> (pieces context).result := by
  unfold image ofPieces
  simp only [Reading.result_bind, Reading.result_ofExcept]
  cases made : (pieces context).result with
  | error error => rfl
  | ok made' => exact Writer.putEach_fill (exact context made' made)

/-- The image of a node of pieces in other words, which always have the node's size. -/
theorem ofPieces_image_eq {parts : Context → Except TableError Bytes}
    (same : ∀ context, Piece.encodeAll <$> (pieces context).result = parts context)
    (exact : ∀ context bytes, parts context = .ok bytes → bytes.length = size) (context : Context) :
    (ofPieces token size pieces).image context = parts context := by
  rw [← same context]
  refine ofPieces_image (fun context made done => ?_) context
  refine exact context _ ?_
  rw [← same context, done]
  rfl

end Node

/-- All nodes that a category loads are of some sort. -/
def Category.AllNodes (category : Category) (sort : Node → Prop) : Prop :=
  ∀ view nodes, (category.load view).result = .ok nodes → ∀ node ∈ nodes, sort node

/-- Images lie one behind the other just as their nodes do. -/
theorem Lies.length_images {context : Context} {limits : Limits} {offset last : Nat}
    {nodes : List (String × Node)} {placed : List Placed} {images : List Bytes}
    (lies : Lies limits offset nodes placed last)
    (keeps : ∀ place ∈ placed, place.node.KeepsLength)
    (drawn : List.Forall₂ (fun place image => place.node.image context = .ok image) placed images) :
    offset + images.flatten.length = last := by
  induction lies generalizing images with
  | nil =>
    cases drawn
    rfl
  | @cons offset size last name node nodes placed known node_fits table_fits start_fits length_fits
      rest ih =>
    cases drawn with
    | cons here others =>
      have same := Except.ok.inj
        (known.symm.trans (Node.length_image (keeps _ List.mem_cons_self) here))
      have tail := ih (fun place inside => keeps place (List.mem_cons_of_mem _ inside)) others
      rw [List.flatten_cons, List.length_append, ← same]
      omega

/-! ### Filling a buffer -/

namespace Plan

/-- A node writes itself into its slice, behind which the buffer is blank. -/
theorem fill_blank {context : Context} (place : Placed) {front : Bytes} {room : Nat}
    (start : place.entry.offset = front.length) (known : place.node.size = .ok place.entry.size)
    (fits : place.entry.size ≤ room) (keeps : place.node.KeepsLength) :
    (fill context (front ++ Bytes.zeros room) place).result =
      (fun image => front ++ image ++ Bytes.zeros (room - place.entry.size)) <$>
        place.node.image context := by
  have apart := Bytes.zeros_split fits
  have slice : ((front ++ Bytes.zeros room).drop place.entry.offset).take place.entry.size =
      Bytes.zeros place.entry.size := by
    rw [start, List.drop_left, apart]
    exact List.take_left' (Bytes.length_zeros _)
  have image : place.node.image context =
      (place.node.write context (Writer.start (Bytes.zeros place.entry.size))).result >>=
        Writer.finish := by
    unfold Node.image
    rw [known]
    rfl
  unfold fill
  simp only [Reading.result_bind, Reading.result_ofExcept, Reading.result_pure, slice]
  have length : ∀ bytes, place.node.image context = .ok bytes →
      place.node.size = .ok bytes.length := fun _ => Node.length_image keeps
  rw [image] at length ⊢
  generalize (place.node.write context (Writer.start (Bytes.zeros place.entry.size))).result =
    outcome at length ⊢
  cases outcome with
  | error error => rfl
  | ok writer =>
    show writer.finish >>= _ = _ <$> writer.finish
    cases done : writer.finish with
    | error error => rfl
    | ok written =>
      have same : written.length = place.entry.size :=
        (Except.ok.inj ((length written done).symm.trans known))
      show Except.ok _ = Except.ok _
      rw [start, apart, Bytes.overwrite_append (by rw [same, Bytes.length_zeros])]
      simp only [List.append_assoc]

/-- Nodes that lie one behind the other write themselves, behind what was written before. -/
theorem foldlM_fill {context : Context} {limits : Limits} {offset last : Nat}
    {nodes : List (String × Node)} {placed : List Placed} {front : Bytes}
    (lies : Lies limits offset nodes placed last) (start : offset = front.length)
    (keeps : ∀ place ∈ placed, place.node.KeepsLength) :
    placed.foldlM (fun buffer place => (fill context buffer place).result)
        (front ++ Bytes.zeros (last - offset)) =
      (fun images => front ++ images.flatten) <$>
        placed.mapM fun place => place.node.image context := by
  induction lies generalizing front with
  | nil offset => simp [Bytes.zeros, List.mapM_nil]
  | @cons offset size last name node nodes placed known node_fits table_fits start_fits length_fits
      rest ih =>
    have behind := rest.offset_le
    have here := keeps _ List.mem_cons_self
    rw [List.foldlM_cons, List.mapM_cons,
      fill_blank ⟨⟨node.token, name, offset, size⟩, node⟩ start known
        (by show size ≤ last - offset; omega) here]
    dsimp only
    cases done : node.image context with
    | error error => rfl
    | ok image =>
      have same : size = image.length :=
        Except.ok.inj (known.symm.trans (Node.length_image here done))
      have tail := @ih (front ++ image) (by rw [List.length_append, ← same, start])
        fun place inside => keeps place (List.mem_cons_of_mem _ inside)
      show List.foldlM _ (front ++ image ++ Bytes.zeros (last - offset - size)) placed = _
      rw [Nat.sub_sub, tail]
      cases placed.mapM fun place => place.node.image context with
      | error error => rfl
      | ok images =>
        show Except.ok (front ++ image ++ images.flatten) = .ok (front ++ (image :: images).flatten)
        rw [List.append_assoc, List.flatten_cons]

/-- **A filled table** is zeros for its header and then the images of its nodes, in order. -/
theorem populate_eq {plan : Plan} {view : View} {revision : UInt8} {limits : Limits}
    {nodes : List (String × Node)}
    (lies : Lies limits plan.headerLength nodes plan.placed plan.totalLength)
    (keeps : ∀ place ∈ plan.placed, place.node.KeepsLength) :
    (plan.populate view revision).result =
      (fun images => Bytes.zeros plan.headerLength ++ images.flatten) <$>
        plan.placed.mapM fun place => place.node.image ⟨view, plan.index, revision⟩ := by
  have blank : Bytes.zeros plan.totalLength =
      Bytes.zeros plan.headerLength ++ Bytes.zeros (plan.totalLength - plan.headerLength) :=
    Bytes.zeros_split lies.offset_le
  unfold populate
  rw [Reading.result_foldlM, blank]
  exact foldlM_fill lies (Bytes.length_zeros _).symm keeps

end Plan

end FirmwareTables
