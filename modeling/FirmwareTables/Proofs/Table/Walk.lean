/-
**Walking through a table.**

A consumer knows no more of a table's body than that every structure starts with its type and its
length. `walk` goes from structure to structure by those lengths until the bytes end; it gives up
where a length is zero or leads past the end, so that no step of a walk that succeeds reads outside
the table.

* `walk_append`: a structure that states its own length is met, and the walk goes on behind it;
* `walk_inside`: whatever a walk meets lies inside of the bytes;
* `walk_covers`: from its offset on, a walk leaves no byte out.
-/

import FirmwareTables.Proofs.Table.Pieces

namespace FirmwareTables

/-! ### Reading inside of byte strings -/

namespace Bytes

theorem slice?_append (front bytes : Bytes) (offset length : Nat) :
    (front ++ bytes).slice? (front.length + offset) length = bytes.slice? offset length := by
  unfold slice?
  rw [List.length_append, List.drop_append, List.drop_eq_nil_of_le (by omega),
    Nat.add_sub_cancel_left, List.nil_append]
  by_cases inside : offset + length ≤ bytes.length
  · rw [if_pos inside, if_pos (by omega)]
  · rw [if_neg inside, if_neg (by omega)]

theorem slice?_append_of_le {bytes : Bytes} (rest : Bytes) {offset length : Nat}
    (inside : offset + length ≤ bytes.length) :
    (bytes ++ rest).slice? offset length = bytes.slice? offset length := by
  unfold slice?
  rw [if_pos inside, if_pos (by rw [List.length_append]; omega),
    List.drop_append_of_le_length (by omega),
    List.take_append_of_le_length (by rw [List.length_drop]; omega)]

/-- What stands in the middle of a byte string is read there. -/
theorem slice?_middle {front middle : Bytes} (rest : Bytes) {offset length : Nat}
    (start : front.length = offset) (same : middle.length = length) :
    (front ++ (middle ++ rest)).slice? offset length = some middle := by
  rw [← start, ← Nat.add_zero front.length, slice?_append,
    slice?_append_of_le rest (by omega)]
  unfold slice?
  rw [if_pos (by omega), List.drop_zero, ← same, List.take_length]

/-- A number of fewer bytes than are read for it is read back. -/
theorem read?_middle {front : Bytes} (rest : Bytes) {offset width number : Nat}
    (start : front.length = offset) (small : number < capacity width) :
    (front ++ (ofNat width number ++ rest)).read? offset width = some number := by
  unfold read?
  rw [slice?_middle rest start (length_ofNat width number), Option.map_some, toNat_ofNat,
    Nat.mod_eq_of_lt small]

theorem read16?_middle (front rest : Bytes) {offset : Nat} (value : UInt16)
    (start : front.length = offset) :
    (front ++ ((Piece.half value).encode ++ rest)).read16? offset = some value := by
  unfold read16?
  rw [Piece.encode, read?_middle rest start value.toNat_lt, Option.map_some, UInt16.ofNat_toNat]

theorem read32?_middle (front rest : Bytes) {offset : Nat} (value : UInt32)
    (start : front.length = offset) :
    (front ++ ((Piece.word value).encode ++ rest)).read32? offset = some value := by
  unfold read32?
  rw [Piece.encode, read?_middle rest start value.toNat_lt, Option.map_some, UInt32.ofNat_toNat]

/-- What is read inside of a slice is read inside of the whole. -/
theorem slice?_slice {bytes part : Bytes} {offset length shift width : Nat}
    (there : bytes.slice? offset length = some part) (inside : shift + width ≤ part.length) :
    bytes.slice? (offset + shift) width = part.slice? shift width := by
  unfold slice? at there
  split at there
  · rename_i within
    cases there
    rw [List.length_take, List.length_drop] at inside
    unfold slice?
    rw [if_pos (by omega), if_pos (by rw [List.length_take, List.length_drop]; exact inside),
      List.drop_take, List.drop_drop, List.take_take, Nat.min_eq_left (by omega)]
  · cases there

/-- A byte of a slice is a byte of the whole. -/
theorem getElem?_of_slice? {bytes part : Bytes} {offset length position : Nat}
    (there : bytes.slice? offset length = some part) (first : offset ≤ position)
    (last : position < offset + length) : bytes[position]? = part[position - offset]? := by
  unfold slice? at there
  split at there
  · cases there
    rw [List.getElem?_take_of_lt (by omega), List.getElem?_drop, Nat.add_sub_cancel' first]
  · cases there

theorem read32?_slice {bytes part : Bytes} {offset length shift : Nat} {value : UInt32}
    (there : bytes.slice? offset length = some part) (read : part.read32? shift = some value) :
    bytes.read32? (offset + shift) = some value := by
  have inside : shift + 4 ≤ part.length := by
    by_contra outside
    unfold read32? read? slice? at read
    rw [if_neg outside] at read
    cases read
  unfold read32? read? at read ⊢
  rw [slice?_slice there inside, read]

end Bytes

/-! ### Walking -/

/-- How a structure states its length, behind the byte of its type. -/
inductive LengthForm where
  /-- In one byte. -/
  | short
  /-- In two bytes. -/
  | long

/-- A structure that a walk meets. -/
structure Met where
  /-- Where the structure starts. -/
  offset : Nat
  /-- Its type. -/
  type : UInt8
  /-- Its length. -/
  length : Nat
  deriving DecidableEq

namespace LengthForm

/-- The length that a structure states. -/
def length? (form : LengthForm) (bytes : Bytes) (offset : Nat) : Option Nat :=
  match form with
  | short => bytes[offset + 1]?.map UInt8.toNat
  | long => (bytes.read16? (offset + 1)).map UInt16.toNat

/-- The structure at an offset. -/
def met? (form : LengthForm) (bytes : Bytes) (offset : Nat) : Option Met := do
  return ⟨offset, ← bytes[offset]?, ← form.length? bytes offset⟩

/-- The structures that a consumer meets from an offset to the end. -/
def walk (form : LengthForm) (bytes : Bytes) (offset : Nat) : Option (List Met) :=
  if offset = bytes.length then some []
  else
    match form.met? bytes offset with
    | none => none
    | some met =>
      if _inside : 0 < met.length ∧ offset + met.length ≤ bytes.length then
        (walk form bytes (offset + met.length)).map (met :: ·)
      else none
termination_by bytes.length - offset

/-- A structure states its type and its own length. -/
def States (form : LengthForm) (type : UInt8) (bytes : Bytes) : Prop :=
  0 < bytes.length ∧ form.met? bytes 0 = some ⟨0, type, bytes.length⟩

/-- A structure starts with its type. -/
theorem States.first {form : LengthForm} {type : UInt8} {bytes : Bytes}
    (states : form.States type bytes) : bytes[0]? = some type := by
  obtain ⟨first, known, stated⟩ := Option.bind_eq_some_iff.mp states.2
  obtain ⟨length, -, stated⟩ := Option.bind_eq_some_iff.mp stated
  cases stated
  exact known

/-- A structure states one type only. -/
theorem States.unique {form : LengthForm} {first second : UInt8} {bytes : Bytes}
    (one : form.States first bytes) (other : form.States second bytes) : first = second := by
  have same := one.2.symm.trans other.2
  rw [Option.some.injEq, Met.mk.injEq] at same
  exact same.2.1

/-- A structure that starts with its type and its length in one byte. -/
theorem states_short {type length : UInt8} {rest : Bytes} (same : rest.length + 2 = length.toNat) :
    short.States type (type :: length :: rest) := by
  refine ⟨Nat.succ_pos _, ?_⟩
  show some (Met.mk 0 type length.toNat) = _
  rw [← same]
  rfl

/-- A structure that starts with its type and its length in two bytes. -/
theorem states_long {type : UInt8} {length : Nat} {rest : Bytes} (same : rest.length + 3 = length)
    (small : length ≤ 65535) :
    long.States type (type :: ((Piece.half (UInt16.ofNat length)).encode ++ rest)) := by
  have stated : Bytes.read16? (type :: ((Piece.half (UInt16.ofNat length)).encode ++ rest)) 1 =
      some (UInt16.ofNat length) :=
    Bytes.read16?_middle [type] rest _ rfl
  have whole : (UInt16.ofNat length).toNat = length := by
    rw [UInt16.toNat_ofNat']
    exact Nat.mod_eq_of_lt (by omega)
  refine ⟨Nat.succ_pos _, ?_⟩
  unfold met? length?
  dsimp only
  rw [Nat.zero_add, stated]
  show some (Met.mk 0 type (UInt16.ofNat length).toNat) = some (Met.mk 0 type (List.length _))
  rw [whole, List.length_cons, List.length_append, Piece.length_encode_half, ← same]
  congr 2
  omega

theorem walk_length (form : LengthForm) (bytes : Bytes) :
    form.walk bytes bytes.length = some [] := by
  unfold walk
  rw [if_pos rfl]

/-- What a structure states of itself does not depend on what stands before and behind it. -/
theorem met?_append (form : LengthForm) (front rest : Bytes) {bytes : Bytes} {met : Met}
    (stated : form.met? bytes 0 = some met) :
    form.met? (front ++ (bytes ++ rest)) front.length =
      some ⟨front.length, met.type, met.length⟩ := by
  unfold met? at stated ⊢
  obtain ⟨type, first, stated⟩ := Option.bind_eq_some_iff.mp stated
  obtain ⟨length, known, stated⟩ := Option.bind_eq_some_iff.mp stated
  cases stated
  have inside : (front ++ (bytes ++ rest))[front.length]? = some type := by
    rw [List.getElem?_append_right (Nat.le_refl _), Nat.sub_self,
      List.getElem?_append_left (List.getElem?_eq_some_iff.mp first).1, first]
  have same : form.length? (front ++ (bytes ++ rest)) front.length = some length := by
    cases form with
    | short =>
      unfold length? at known ⊢
      dsimp only at known ⊢
      obtain ⟨byte, second, rfl⟩ := Option.map_eq_some_iff.mp known
      rw [List.getElem?_append_right (Nat.le_add_right _ _), Nat.add_sub_cancel_left,
        List.getElem?_append_left (by simpa using (List.getElem?_eq_some_iff.mp second).1)]
      rw [Nat.zero_add] at second
      rw [second]
      rfl
    | long =>
      unfold length? Bytes.read16? Bytes.read? at known ⊢
      dsimp only at known ⊢
      have within : 0 + 1 + 2 ≤ bytes.length := by
        by_contra outside
        unfold Bytes.slice? at known
        rw [if_neg outside] at known
        cases known
      rw [Bytes.slice?_append, Bytes.slice?_append_of_le rest (by omega), ← Nat.zero_add 1]
      exact known
  rw [inside, same]
  rfl

/-- **One step of a walk**: a structure that states its own length is met. -/
theorem walk_append (form : LengthForm) (front rest : Bytes) {type : UInt8} {bytes : Bytes}
    (states : form.States type bytes) :
    form.walk (front ++ (bytes ++ rest)) front.length =
      (form.walk (front ++ (bytes ++ rest)) (front.length + bytes.length)).map
        (⟨front.length, type, bytes.length⟩ :: ·) := by
  have met := form.met?_append front rest states.2
  have some := states.1
  have length : (front ++ (bytes ++ rest)).length = front.length + bytes.length + rest.length := by
    rw [List.length_append, List.length_append, Nat.add_assoc]
  conv => lhs; unfold walk
  rw [if_neg (by omega), met]
  dsimp only
  rw [dif_pos ⟨some, by omega⟩]

/-- A walk that meets nothing has come to the end. -/
theorem walk_eq_nil {form : LengthForm} {bytes : Bytes} {offset : Nat}
    (done : form.walk bytes offset = some []) : offset = bytes.length := by
  unfold walk at done
  split at done
  · assumption
  split at done
  · cases done
  split at done
  · obtain ⟨_, _, same⟩ := Option.map_eq_some_iff.mp done
    cases same
  · cases done

/-- **A walk goes from structure to structure**, each of which has a length and lies inside. -/
theorem walk_eq_cons {form : LengthForm} {bytes : Bytes} {offset : Nat} {met : Met}
    {mets : List Met} (done : form.walk bytes offset = some (met :: mets)) :
    met.offset = offset ∧ 0 < met.length ∧ offset + met.length ≤ bytes.length ∧
      form.walk bytes (offset + met.length) = some mets := by
  unfold walk at done
  split at done
  · cases done
  split at done
  · cases done
  rename_i first stated
  split at done
  · rename_i inside
    obtain ⟨rest, walked, same⟩ := Option.map_eq_some_iff.mp done
    cases same
    unfold met? at stated
    obtain ⟨type, _, stated⟩ := Option.bind_eq_some_iff.mp stated
    obtain ⟨length, _, stated⟩ := Option.bind_eq_some_iff.mp stated
    cases stated
    exact ⟨rfl, inside.1, inside.2, walked⟩
  · cases done

/-- **No step of a walk reads outside of the bytes.** -/
theorem walk_inside {form : LengthForm} {bytes : Bytes} {offset : Nat} {mets : List Met}
    (done : form.walk bytes offset = some mets) :
    ∀ met ∈ mets, offset ≤ met.offset ∧ 0 < met.length ∧
      met.offset + met.length ≤ bytes.length := by
  induction mets generalizing offset with
  | nil => exact List.forall_mem_nil _
  | cons first mets ih =>
    obtain ⟨rfl, some, inside, walked⟩ := walk_eq_cons done
    intro met member
    rcases List.mem_cons.mp member with rfl | member
    · exact ⟨Nat.le_refl _, some, inside⟩
    · have later := ih walked met member
      exact ⟨Nat.le_trans (Nat.le_add_right _ _) later.1, later.2⟩

/-- **A walk leaves nothing out**: each byte from its offset on belongs to a structure. -/
theorem walk_covers {form : LengthForm} {bytes : Bytes} {offset : Nat} {mets : List Met}
    (done : form.walk bytes offset = some mets) {place : Nat} (behind : offset ≤ place)
    (inside : place < bytes.length) :
    ∃ met ∈ mets, met.offset ≤ place ∧ place < met.offset + met.length := by
  induction mets generalizing offset with
  | nil =>
    rw [walk_eq_nil done] at behind
    exact absurd inside (Nat.not_lt.mpr behind)
  | cons first mets ih =>
    obtain ⟨rfl, -, -, walked⟩ := walk_eq_cons done
    by_cases here : place < first.offset + first.length
    · exact ⟨first, List.mem_cons_self, behind, here⟩
    · obtain ⟨met, member, there⟩ := ih walked (Nat.le_of_not_lt here)
      exact ⟨met, List.mem_cons_of_mem _ member, there⟩

end LengthForm

end FirmwareTables
