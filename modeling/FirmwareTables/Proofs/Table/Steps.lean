/-
**What a run of steps leaves in a buffer.**

A writer is taken through any steps, forth and back, and goes on after those that fail. What it
leaves can be told from the pieces that were put and the places they were put at (`placed`): each
byte is that of the last piece written over it, or the byte that was there (`lastOver?`). A run of
zeros is passed over and writes nothing.

* `step_eq`: a step is made exactly if it ends inside the buffer, and what it does then;
* `getElem?_trace`: the trace of a run, moment by moment;
* `getElem?_run`: every byte after a run;
* `standsAt_of_isKept`: a piece that was put and not written over since stands there;
* `run_blank`: without seeking, the pieces fill a blank buffer one after the other;
* `steps_accounted`: all of this for every buffer and every list of steps.
-/

import FirmwareTables.Proofs.Table.Checksum

namespace FirmwareTables

/-! ### The last piece over a place -/

namespace Piece

/-- The bytes that a piece writes. -/
def written : Piece → Bytes
  | .zeros _ => []
  | piece => piece.encode

/-- The byte that a piece, put at a place, writes at a position. -/
def over? (piece : Piece) (place position : Nat) : Option UInt8 :=
  if place ≤ position then piece.written[position - place]? else none

theorem length_written_le (piece : Piece) : piece.written.length ≤ piece.length := by
  cases piece <;> simp [written, length]

end Piece

namespace Form

/-- The byte at a position of the last piece written over it, if there is one. -/
def lastOver? (form : Form) (position : Nat) : Option UInt8 :=
  form.reverse.findSome? fun field => field.2.over? field.1 position

/-- A piece was put at a place, and none that was put later has been written over it. -/
def IsKept (form : Form) (place : Nat) (piece : Piece) : Prop :=
  ∃ earlier later, form = earlier ++ (place, piece) :: later ∧
    ∀ field ∈ later, ∀ position, place ≤ position → position < place + piece.length →
      field.2.over? field.1 position = none

theorem lastOver?_append (first second : Form) (position : Nat) :
    lastOver? (first ++ second) position =
      (lastOver? second position).or (lastOver? first position) := by
  simp [lastOver?, List.findSome?_append]

theorem lastOver?_eq_none {form : Form} {position : Nat}
    (clear : ∀ field ∈ form, field.2.over? field.1 position = none) :
    lastOver? form position = none := by
  simpa [lastOver?] using clear

end Form

namespace Bytes

/-- A slice is known by its bytes. -/
theorem slice?_of_getElem? {bytes part : Bytes} {offset : Nat} (wide : 0 < part.length)
    (same : ∀ index < part.length, bytes[offset + index]? = part[index]?) :
    bytes.slice? offset part.length = some part := by
  have inside : offset + part.length ≤ bytes.length := by
    have final : part.length - 1 < part.length := by omega
    have last := same _ final
    rw [List.getElem?_eq_getElem final] at last
    have reached := (List.getElem?_eq_some_iff.mp last).1
    omega
  unfold slice?
  rw [if_pos inside]
  congr 1
  ext1 index
  by_cases within : index < part.length
  · rw [List.getElem?_take_of_lt within, List.getElem?_drop, same index within]
  · rw [List.getElem?_eq_none (by rw [List.length_take]; omega),
      List.getElem?_eq_none (by omega)]

end Bytes

namespace Writer

/-! ### One step -/

/-- Where a step ends. -/
def target (writer : Writer) : WriterStep → Nat
  | .put piece => writer.position + piece.length
  | .seek position => position

/-- The buffer after a step that is made. -/
def patched (writer : Writer) : WriterStep → Bytes
  | .put piece => writer.buffer.overwrite writer.position piece.written
  | .seek _ => writer.buffer

/-- How a step misses the buffer. -/
def overrun (writer : Writer) : WriterStep → Overrun
  | .put (.zeros length) => .skip length writer.position writer.buffer.length
  | .put piece => .write piece.length writer.position writer.buffer.length
  | .seek position => .seek position writer.buffer.length

/-- The writer after a step, made or not. -/
def attempt (writer : Writer) (step : WriterStep) : Writer :=
  match writer.step step with
  | .ok after => after
  | .error _ => writer

/-- The piece that a step puts, if it puts one, with the place it puts it at. -/
def stamp (writer : Writer) : WriterStep → Form
  | .put piece => if (writer.put piece).isOk then [(writer.position, piece)] else []
  | .seek _ => []

variable {writer : Writer} {step : WriterStep} {steps : List WriterStep} {buffer : Bytes}

/-- **A step is made** exactly if it ends inside the buffer. -/
theorem step_eq (writer : Writer) (step : WriterStep) :
    writer.step step =
      if writer.target step ≤ writer.buffer.length then
        .ok ⟨writer.patched step, writer.target step⟩
      else .error (.badBufferSize (writer.overrun step)) := by
  cases step with
  | seek position => rfl
  | put piece =>
    have size := piece.length_encode
    cases piece with
    | zeros length =>
      have same : writer.buffer.overwrite writer.position [] = writer.buffer := by
        simp [Bytes.overwrite]
      show writer.skip length = _
      rw [skip, patched, Piece.written, same]
      rfl
    | byte | half | word | long | bytes =>
      show write _ _ = _
      rw [write, size]
      rfl

theorem attempt_of_fits (fits : writer.target step ≤ writer.buffer.length) :
    writer.attempt step = ⟨writer.patched step, writer.target step⟩ := by
  rw [attempt, step_eq, if_pos fits]

theorem attempt_of_lacks (lacks : writer.buffer.length < writer.target step) :
    writer.attempt step = writer := by
  rw [attempt, step_eq, if_neg (Nat.not_le.mpr lacks)]

theorem attempt_of_ok {after : Writer} (made : writer.step step = .ok after) :
    writer.attempt step = after := by
  rw [attempt, made]

theorem stamp_put {piece : Piece} (fits : writer.target (.put piece) ≤ writer.buffer.length) :
    writer.stamp (.put piece) = [(writer.position, piece)] := by
  have made : writer.put piece = .ok _ := (step_eq writer (.put piece)).trans (if_pos fits)
  rw [stamp, made]
  rfl

theorem stamp_of_lacks (lacks : writer.buffer.length < writer.target step) :
    writer.stamp step = [] := by
  cases step with
  | seek position => rfl
  | put piece =>
    have refused : writer.put piece = .error _ :=
      (step_eq writer (.put piece)).trans (if_neg (Nat.not_le.mpr lacks))
    rw [stamp, refused]
    rfl

/-- **The length of the buffer** stays. -/
theorem length_attempt (writer : Writer) (step : WriterStep) :
    (writer.attempt step).buffer.length = writer.buffer.length := by
  by_cases fits : writer.target step ≤ writer.buffer.length
  · rw [attempt_of_fits fits]
    cases step with
    | seek position => rfl
    | put piece =>
      have size := piece.length_written_le
      have inside : writer.position + piece.length ≤ writer.buffer.length := fits
      exact Bytes.length_overwrite (by omega)
  · rw [attempt_of_lacks (Nat.lt_of_not_le fits)]

/-- **The position** stays inside. -/
theorem position_attempt (inside : writer.position ≤ writer.buffer.length) (step : WriterStep) :
    (writer.attempt step).position ≤ writer.buffer.length := by
  by_cases fits : writer.target step ≤ writer.buffer.length
  · rw [attempt_of_fits fits]
    exact fits
  · rw [attempt_of_lacks (Nat.lt_of_not_le fits)]
    exact inside

/-- **Every byte** after a step. -/
theorem getElem?_attempt (writer : Writer) (step : WriterStep) (position : Nat) :
    (writer.attempt step).buffer[position]? =
      ((writer.stamp step).lastOver? position).or writer.buffer[position]? := by
  by_cases fits : writer.target step ≤ writer.buffer.length
  · rw [attempt_of_fits fits]
    cases step with
    | seek place => rfl
    | put piece =>
      have size := piece.length_written_le
      have inside : writer.position + piece.length ≤ writer.buffer.length := fits
      rw [stamp_put fits]
      refine (Bytes.getElem?_overwrite (by omega) position).trans ?_
      simp [Form.lastOver?, Piece.over?]
  · have lacks := Nat.lt_of_not_le fits
    rw [attempt_of_lacks lacks, stamp_of_lacks lacks]
    rfl

/-! ### Many steps -/

/-- The writer after steps, going on after those that fail. -/
def run (writer : Writer) : List WriterStep → Writer
  | [] => writer
  | step :: steps => (writer.attempt step).run steps

/-- The pieces that steps put, with the places they put them at. -/
def placed (writer : Writer) : List WriterStep → Form
  | [] => []
  | step :: steps => writer.stamp step ++ (writer.attempt step).placed steps

theorem run_concat (writer : Writer) (steps : List WriterStep) (step : WriterStep) :
    writer.run (steps ++ [step]) = (writer.run steps).attempt step := by
  induction steps generalizing writer with
  | nil => rfl
  | cons first steps ih => exact ih _

/-- Each moment of a trace is the outcome of a step and the writer after it. -/
theorem trace_cons (writer : Writer) (step : WriterStep) (steps : List WriterStep) :
    writer.trace (step :: steps) =
      ((writer.step step).map fun _ => (), writer.attempt step) ::
        (writer.attempt step).trace steps := by
  rw [trace, attempt]
  cases writer.step step <;> rfl

theorem getElem?_trace (writer : Writer) (earlier : List WriterStep) (step : WriterStep)
    (later : List WriterStep) :
    (writer.trace (earlier ++ step :: later))[earlier.length]? =
      some (((writer.run earlier).step step).map fun _ => (), writer.run (earlier ++ [step])) := by
  induction earlier generalizing writer with
  | nil =>
    rw [List.nil_append, trace_cons]
    rfl
  | cons first earlier ih =>
    rw [List.cons_append, trace_cons, List.length_cons, List.getElem?_cons_succ, ih]
    rfl

theorem length_run (writer : Writer) (steps : List WriterStep) :
    (writer.run steps).buffer.length = writer.buffer.length := by
  induction steps generalizing writer with
  | nil => rfl
  | cons step steps ih => rw [run, ih, length_attempt]

/-- **Position and length** at every moment of a trace. -/
theorem inside_trace (inside : writer.position ≤ writer.buffer.length) (steps : List WriterStep) :
    ∀ moment ∈ writer.trace steps, moment.2.position ≤ writer.buffer.length ∧
      moment.2.buffer.length = writer.buffer.length := by
  induction steps generalizing writer with
  | nil => exact List.forall_mem_nil _
  | cons step steps ih =>
    have same := length_attempt writer step
    have first := position_attempt inside step
    rw [trace_cons, List.forall_mem_cons]
    refine ⟨⟨first, same⟩, ?_⟩
    rw [← same] at first ⊢
    exact ih first

/-- **Every byte** after any steps is that of the last piece written over it, or as it was. -/
theorem getElem?_run (writer : Writer) (steps : List WriterStep) (position : Nat) :
    (writer.run steps).buffer[position]? =
      ((writer.placed steps).lastOver? position).or writer.buffer[position]? := by
  induction steps generalizing writer with
  | nil => rfl
  | cons step steps ih =>
    rw [run, placed, ih, getElem?_attempt, Form.lastOver?_append, Option.or_assoc]

/-- **A piece that was not written over** stands where it was put. -/
theorem standsAt_of_isKept {place : Nat} {piece : Piece}
    (kept : (writer.placed steps).IsKept place piece) (whole : piece.written = piece.encode)
    (wide : 0 < piece.length) : piece.StandsAt (writer.run steps).buffer place := by
  obtain ⟨earlier, later, same, clear⟩ := kept
  rw [← piece.length_encode] at wide
  refine Bytes.slice?_of_getElem? wide fun index within => ?_
  have uncovered : Form.lastOver? later (place + index) = none := by
    refine Form.lastOver?_eq_none fun field inside => ?_
    rw [piece.length_encode] at within
    exact clear field inside _ (Nat.le_add_right _ _) (Nat.add_lt_add_left within _)
  have own : Form.lastOver? [(place, piece)] (place + index) = piece.encode[index]? := by
    simp [Form.lastOver?, Piece.over?, whole]
  rw [getElem?_run, same, List.append_cons, Form.lastOver?_append, Form.lastOver?_append,
    uncovered, own, List.getElem?_eq_getElem within]
  rfl

/-- **Without seeking** the pieces follow each other on a blank buffer, and those that do not fit
are left out. -/
theorem run_blank (front : Bytes) (room : Nat) (straight : ∀ position, .seek position ∉ steps)
    {pieces : List Piece}
    (put : (placed ⟨front ++ Bytes.zeros room, front.length⟩ steps).map Prod.snd = pieces) :
    run ⟨front ++ Bytes.zeros room, front.length⟩ steps =
      ⟨front ++ Piece.encodeAll pieces ++ Bytes.zeros (room - (Piece.encodeAll pieces).length),
        (front ++ Piece.encodeAll pieces).length⟩ := by
  -- What is put joins the front, and the rest of the buffer is still blank.
  induction steps generalizing front room pieces with
  | nil =>
    cases put
    simp [run, placed]
  | cons step steps ih =>
    have others : ∀ position, .seek position ∉ steps :=
      fun position inside => straight position (List.mem_cons_of_mem _ inside)
    cases step with
    | seek position => exact absurd List.mem_cons_self (straight position)
    | put piece =>
      rw [placed, List.map_append] at put
      rw [run]
      by_cases fits : piece.encode.length ≤ room
      · have made := put_blank front fits
        have moved : attempt ⟨front ++ Bytes.zeros room, front.length⟩ (.put piece) = _ :=
          attempt_of_ok made
        rw [moved] at put ⊢
        rw [stamp, made] at put
        cases put
        rw [ih _ _ others rfl]
        simp [Except.isOk, Except.toBool, Nat.sub_sub]
      · have lacks : (front ++ Bytes.zeros room).length < front.length + piece.length := by
          rw [List.length_append, Bytes.length_zeros, ← piece.length_encode]
          omega
        rw [stamp_of_lacks lacks, attempt_of_lacks lacks] at put
        rw [attempt_of_lacks lacks]
        exact ih front room others put

/-! ### The account of a run -/

/-- What the steps of a writer over a buffer come to. -/
structure IsAccounted (buffer : Bytes) (steps : List WriterStep) : Prop where
  /-- The position stays inside the buffer, and the buffer keeps its length. -/
  inside : ∀ moment ∈ (start buffer).trace steps,
    moment.2.position ≤ buffer.length ∧ moment.2.buffer.length = buffer.length
  /-- A step that ends inside is made. -/
  made : ∀ earlier step later, steps = earlier ++ step :: later →
    ((start buffer).run earlier).target step ≤ buffer.length →
      ((start buffer).trace steps)[earlier.length]? =
          some (.ok (), (start buffer).run (earlier ++ [step])) ∧
        ((start buffer).run (earlier ++ [step])).position =
          ((start buffer).run earlier).target step
  /-- Any other step fails, and neither the buffer nor the position changes. -/
  refused : ∀ earlier step later, steps = earlier ++ step :: later →
    buffer.length < ((start buffer).run earlier).target step →
      ((start buffer).trace steps)[earlier.length]? =
          some (.error (.badBufferSize (((start buffer).run earlier).overrun step)),
            (start buffer).run (earlier ++ [step])) ∧
        (start buffer).run (earlier ++ [step]) = (start buffer).run earlier
  /-- Each byte is that of the last piece written over it, or the one that was there. -/
  contents : ∀ position, ((start buffer).run steps).buffer[position]? =
    (((start buffer).placed steps).lastOver? position).or buffer[position]?
  /-- Without seeking, a blank buffer holds the pieces one after the other, and then zeros. -/
  straight : (∀ position, .seek position ∉ steps) → buffer = Bytes.zeros buffer.length →
    (start buffer).run steps =
      let bytes := Piece.encodeAll (((start buffer).placed steps).map Prod.snd)
      ⟨bytes ++ Bytes.zeros (buffer.length - bytes.length), bytes.length⟩
  /-- A 16-bit number that was not written over is read where it was put. -/
  read16 : ∀ place value, ((start buffer).placed steps).IsKept place (.half value) →
    ((start buffer).run steps).buffer.read16? place = some value
  /-- A 32-bit number that was not written over is read where it was put. -/
  read32 : ∀ place value, ((start buffer).placed steps).IsKept place (.word value) →
    ((start buffer).run steps).buffer.read32? place = some value
  /-- A 64-bit number that was not written over is read where it was put. -/
  read64 : ∀ place value, ((start buffer).placed steps).IsKept place (.long value) →
    ((start buffer).run steps).buffer.read64? place = some value
  /-- The buffer is handed out exactly if the position has reached its end. -/
  finish : ((start buffer).run steps).finish =
    if ((start buffer).run steps).position = buffer.length then
      .ok ((start buffer).run steps).buffer
    else .error (.badBufferSize
      (.unfinished ((start buffer).run steps).position buffer.length))

/-- **Whatever steps are made**, what they come to is known from the pieces that were put. -/
theorem steps_accounted (buffer : Bytes) (steps : List WriterStep) :
    IsAccounted buffer steps where
  inside := inside_trace (Nat.zero_le _) steps
  made earlier step later same fits := by
    subst same
    have before := length_run (start buffer) earlier
    change _ = buffer.length at before
    rw [← before] at fits
    rw [getElem?_trace, step_eq, if_pos fits, run_concat, attempt_of_fits fits]
    exact ⟨rfl, rfl⟩
  refused earlier step later same lacks := by
    subst same
    have before := length_run (start buffer) earlier
    change _ = buffer.length at before
    rw [← before] at lacks
    rw [getElem?_trace, step_eq, if_neg (Nat.not_le.mpr lacks), run_concat,
      attempt_of_lacks lacks]
    exact ⟨rfl, rfl⟩
  contents := getElem?_run (start buffer) steps
  straight forward blank := by
    have filled := run_blank [] buffer.length forward rfl
    rw [List.nil_append, ← blank] at filled
    exact filled
  read16 place value kept :=
    Bytes.read16?_of_read? (standsAt_of_isKept kept rfl (Nat.succ_pos _)).isReadAt
  read32 place value kept :=
    Bytes.read32?_of_read? (standsAt_of_isKept kept rfl (Nat.succ_pos _)).isReadAt
  read64 place value kept :=
    Bytes.read64?_of_read? (standsAt_of_isKept kept rfl (Nat.succ_pos _)).isReadAt
  finish := by
    have size := length_run (start buffer) steps
    change _ = buffer.length at size
    rw [Writer.finish, size]

/-- The last number does not fit, and the one before it is over a part of the first. -/
example : (run (start (Bytes.zeros 5))
      [.put (.word 0x04030201), .seek 1, .put (.half 0xbbaa), .seek 4, .put (.half 7)]).buffer =
    [0x01, 0xaa, 0xbb, 0x04, 0x00] := rfl

end Writer

end FirmwareTables
