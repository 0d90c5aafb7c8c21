/-
**What a consumer finds in a filled table.**

Where nodes lie one behind the other and each of them states its own length, a walk from the first
node on meets each node where it was placed, at its type and with its size (`Lies.walk`), and the
bytes that stand there are its image (`Lies.slices`). A reference leads to the first node that
carries the token (`Index.resolve_eq_ok`).
-/

import FirmwareTables.Proofs.Layout.Filling
import FirmwareTables.Proofs.Related
import FirmwareTables.Proofs.Table.Walk

namespace FirmwareTables

/-! ### Where references lead -/

theorem Index.resolve_eq_ok {index : Index} {token : Token} {offset : Nat} :
    index.resolve token = .ok offset ↔
      token.isNull = false ∧ ∃ place entry,
        index.findIdx? (fun entry => entry.token == token) = some place ∧
        index[place]? = some entry ∧ entry.offset = offset := by
  unfold resolve
  cases null : token.isNull with
  | true => exact ⟨nofun, fun ⟨absurd, _⟩ => nomatch absurd⟩
  | false =>
    rw [if_neg Bool.false_ne_true, List.find?_eq_bind_findIdx?_getElem?]
    cases found : index.findIdx? fun entry => entry.token == token with
    | none => exact ⟨nofun, fun ⟨_, _, _, absurd, _⟩ => nomatch absurd⟩
    | some place =>
      obtain ⟨inside, _, _⟩ := List.findIdx?_eq_some_iff_getElem.mp found
      have entry : index[place]? = some index[place] := List.getElem?_eq_getElem inside
      rw [Option.bind_some, entry]
      constructor
      · intro done
        exact ⟨rfl, place, _, rfl, entry, Except.ok.inj done⟩
      · rintro ⟨_, _, other, same, first, rfl⟩
        cases same
        rw [entry] at first
        cases first
        rfl

/-- The image of a node stands where a structure is met, and states the type that is met. -/
def Node.StandsAt (form : LengthForm) (context : Context) (bytes : Bytes) (node : Node)
    (met : Met) : Prop :=
  ∃ image, node.image context = .ok image ∧ form.States met.type image ∧
    bytes.slice? met.offset met.length = some image

namespace Lies

variable {limits : Limits} {offset last : Nat} {nodes : List (String × Node)}
  {placed : List Placed} {images : List Bytes} {context : Context}

/-! ### Where images stand -/

/-- **The image of each node** stands where the node lies. -/
theorem slices (lies : Lies limits offset nodes placed last)
    (keeps : ∀ place ∈ placed, place.node.KeepsLength)
    (drawn : List.Forall₂ (fun place image => place.node.image context = .ok image) placed images)
    {front : Bytes} (start : front.length = offset) :
    List.Forall₂ (fun (place : Placed) image => place.node.image context = .ok image ∧
      (front ++ images.flatten).slice? place.entry.offset place.entry.size = some image)
      placed images := by
  induction lies generalizing front images with
  | nil =>
    cases drawn
    exact .nil
  | @cons offset size last name node nodes placed known node_fits table_fits start_fits length_fits
      rest ih =>
    cases drawn with
    | @cons _ image _ images first others =>
      have same : image.length = size := Except.ok.inj
        ((Node.length_image (keeps _ List.mem_cons_self) first).symm.trans known)
      have behind := @ih images (fun place inside => keeps place (List.mem_cons_of_mem _ inside))
        others (front ++ image) (by rw [List.length_append, start, same])
      rw [List.append_assoc] at behind
      rw [List.flatten_cons]
      exact .cons ⟨first, Bytes.slice?_middle images.flatten start same⟩ behind

theorem slice?_image (lies : Lies limits offset nodes placed last)
    (keeps : ∀ place ∈ placed, place.node.KeepsLength)
    (drawn : List.Forall₂ (fun place image => place.node.image context = .ok image) placed images)
    {front : Bytes} (start : front.length = offset) {number : Nat} {place : Placed}
    (here : placed[number]? = some place) :
    ∃ image, place.node.image context = .ok image ∧
      (front ++ images.flatten).slice? place.entry.offset place.entry.size = some image := by
  obtain ⟨image, _, stands⟩ := getElem?_of_forall₂ (lies.slices keeps drawn start) here
  exact ⟨image, stands⟩

/-! ### Walking from node to node -/

/-- **A walk** over nodes that state their own lengths meets each of them. -/
theorem walk {form : LengthForm} {types : List UInt8}
    (lies : Lies limits offset nodes placed last)
    (keeps : ∀ place ∈ placed, place.node.KeepsLength)
    (drawn : List.Forall₂ (fun place image => place.node.image context = .ok image) placed images)
    (states : List.Forall₂ (fun type image => form.States type image) types images)
    {front : Bytes} (start : front.length = offset) :
    form.walk (front ++ images.flatten) offset =
      some (List.zipWith (fun type (place : Placed) =>
        ⟨place.entry.offset, type, place.entry.size⟩) types placed) := by
  induction lies generalizing front images types with
  | nil =>
    cases drawn
    cases states
    rw [List.flatten_nil, List.append_nil, ← start]
    exact form.walk_length front
  | @cons offset size last name node nodes placed known node_fits table_fits start_fits length_fits
      rest ih =>
    cases drawn with
    | @cons _ image _ images first others =>
      cases states with
      | cons stated behind =>
        have same : image.length = size := Except.ok.inj
          ((Node.length_image (keeps _ List.mem_cons_self) first).symm.trans known)
        have tail := @ih images _ (fun place inside => keeps place (List.mem_cons_of_mem _ inside))
          others behind (front ++ image) (by rw [List.length_append, start, same])
        rw [List.append_assoc] at tail
        rw [List.flatten_cons, ← start, form.walk_append front _ stated, start, same, tail]
        rfl

/-- What the walk meets are the nodes. -/
theorem standsAt {form : LengthForm} {types : List UInt8} {bytes : Bytes}
    (slices : List.Forall₂ (fun (place : Placed) image => place.node.image context = .ok image ∧
      bytes.slice? place.entry.offset place.entry.size = some image) placed images)
    (states : List.Forall₂ (fun type image => form.States type image) types images) :
    List.Forall₂ (fun (place : Placed) met => place.node.StandsAt form context bytes met) placed
      (List.zipWith (fun type (place : Placed) =>
        ⟨place.entry.offset, type, place.entry.size⟩) types placed) := by
  induction slices generalizing types with
  | nil =>
    cases states
    exact .nil
  | cons first _ ih =>
    cases states with
    | cons stated behind => exact .cons ⟨_, first.1, stated, first.2⟩ (ih behind)

end Lies

end FirmwareTables
