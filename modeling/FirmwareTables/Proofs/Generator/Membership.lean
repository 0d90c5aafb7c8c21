/-
**Who is registered after a run of calls.**

A registry changes by calls only: a generator is registered, or one is taken out by its id. A call
that fails leaves the registry as it is, so the accepted calls tell everything that it shows. Under
an id there is the generator that was registered there and not taken out since (`IsLive`), and all
of these stand in the order in which they were registered (`live`). In the built-in registry its
generators were registered first (`run_founding`).

* `mem_live`, `live_append`: who is live, and what later calls leave of those that are;
* `Follows.call`, `Follows.run`: a registry keeps to its history, call by call, and so over a run;
* `Follows.find?_eq_some`: no two generators having one id, a look-up finds whoever is live;
* `calls_recorded`: all that a registry shows after a run of calls.
-/

import FirmwareTables.Generator.Registry
import Mathlib.Data.List.Nodup

namespace FirmwareTables.Registry

/-! ### Calls and their history -/

/-- A call that changes a registry. -/
inductive Call where
  /-- Registers a generator. -/
  | register (generator : Generator)
  /-- Takes out the generator with an id. -/
  | deregister (id : GeneratorId)

/-- What a call answers, a generator that is taken out being handed back, and the registry after
it. -/
def call (registry : Registry) : Call → Except TableError (Option Generator) × Registry
  | .register generator =>
    match registry.register generator with
    | .ok after => (.ok none, after)
    | .error error => (.error error, registry)
  | .deregister id =>
    match registry.deregister id with
    | .ok (generator, after) => (.ok (some generator), after)
    | .error error => (.error error, registry)

/-- The registry after calls, made one after the other. -/
def run (registry : Registry) : List Call → Registry
  | [] => registry
  | call :: calls => (registry.call call).2.run calls

/-- Those of the calls that are accepted. -/
def accepted (registry : Registry) : List Call → List Call
  | [] => []
  | call :: calls =>
    if (registry.call call).1.isOk then call :: (registry.call call).2.accepted calls
    else (registry.call call).2.accepted calls

variable {registry : Registry} {history later : List Call} {generator : Generator}
  {id : GeneratorId}

theorem run_append (registry : Registry) (earlier later : List Call) :
    registry.run (earlier ++ later) = (registry.run earlier).run later := by
  induction earlier generalizing registry with
  | nil => rfl
  | cons call earlier ih => exact ih _

theorem accepted_append (registry : Registry) (earlier later : List Call) :
    registry.accepted (earlier ++ later) =
      registry.accepted earlier ++ (registry.run earlier).accepted later := by
  induction earlier generalizing registry with
  | nil => rfl
  | cons call earlier ih =>
    rw [List.cons_append, accepted, accepted, run, ih]
    split
    · rw [List.cons_append]
    · rfl

/-- The calls that register the built-in generators. -/
def founding : List Call := builtin.generators.map .register

/-- **The built-in registry** is what these calls, all of them accepted, make of the empty one. -/
theorem run_founding : empty.run founding = builtin ∧ empty.accepted founding = founding :=
  ⟨rfl, rfl⟩

/-! ### Live generators -/

/-- The ids under which calls take generators out. -/
def takenOut : List Call → List GeneratorId
  | [] => []
  | .register _ :: calls => takenOut calls
  | .deregister id :: calls => id :: takenOut calls

/-- A generator was registered, and its id was not taken out since. -/
def IsLive (history : List Call) (generator : Generator) : Prop :=
  ∃ before after, history = before ++ .register generator :: after ∧ generator.id ∉ takenOut after

/-- The generators that are live, in the order in which they were registered. -/
def live : List Call → List Generator
  | [] => []
  | .register generator :: later =>
    if generator.id ∈ takenOut later then live later else generator :: live later
  | .deregister _ :: later => live later

theorem takenOut_append (earlier later : List Call) :
    takenOut (earlier ++ later) = takenOut earlier ++ takenOut later := by
  induction earlier with
  | nil => rfl
  | cons call earlier ih => cases call <;> simp [takenOut, ih]

/-- A generator is live since the first call, or since a later one. -/
theorem isLive_cons {call : Call} :
    IsLive (call :: later) generator ↔
      (call = .register generator ∧ generator.id ∉ takenOut later) ∨ IsLive later generator := by
  simp only [IsLive, List.cons_eq_append_iff]
  constructor
  · rintro ⟨before, after, ⟨rfl, same⟩ | ⟨front, rfl, same⟩, kept⟩
    · cases same
      exact .inl ⟨rfl, kept⟩
    · exact .inr ⟨front, after, same, kept⟩
  · rintro (⟨rfl, kept⟩ | ⟨front, after, same, kept⟩)
    · exact ⟨[], later, .inl ⟨rfl, rfl⟩, kept⟩
    · exact ⟨call :: front, after, .inr ⟨front, rfl, same⟩, kept⟩

/-- **The list has all live generators**, and no others. -/
theorem mem_live : generator ∈ live history ↔ IsLive history generator := by
  induction history with
  | nil => simp [live, IsLive]
  | cons call later ih =>
    rw [isLive_cons, ← ih]
    cases call with
    | deregister id => simp [live]
    | register other =>
      rw [live]
      by_cases out : other.id ∈ takenOut later
      · rw [if_pos out, or_iff_right]
        rintro ⟨same, kept⟩
        cases same
        exact kept out
      · rw [if_neg out, List.mem_cons]
        refine or_congr ⟨?_, ?_⟩ Iff.rfl
        · rintro rfl
          exact ⟨rfl, out⟩
        · rintro ⟨same, -⟩
          cases same
          rfl

/-- Later calls leave those whose ids they do not take out, and add their own. -/
theorem live_append (earlier later : List Call) :
    live (earlier ++ later) =
      ((live earlier).filter fun generator => generator.id ∉ takenOut later) ++ live later := by
  induction earlier with
  | nil => rfl
  | cons call earlier ih =>
    cases call with
    | deregister id => exact ih
    | register generator =>
      rw [List.cons_append, live, live, ih, takenOut_append]
      by_cases soon : generator.id ∈ takenOut earlier
      · rw [if_pos soon, if_pos (List.mem_append_left _ soon)]
      · by_cases late : generator.id ∈ takenOut later
        · rw [if_neg soon, if_pos (List.mem_append_right _ late), List.filter_cons_of_neg]
          simpa using late
        · rw [if_neg soon, if_neg, List.filter_cons_of_pos, List.cons_append]
          · simpa using late
          · rw [List.mem_append, not_or]
            exact ⟨soon, late⟩

theorem live_concat_register (history : List Call) (generator : Generator) :
    live (history ++ [.register generator]) = live history ++ [generator] := by
  rw [live_append]
  simp [live, takenOut]

theorem live_concat_deregister (history : List Call) (id : GeneratorId) :
    live (history ++ [.deregister id]) =
      (live history).filter fun generator => generator.id ≠ id := by
  rw [live_append]
  simp [live, takenOut]

/-! ### Look-ups -/

/-- Where no two generators have one id, taking out the first with an id takes out all of them. -/
theorem eraseP_eq_filter {generators : List Generator}
    (distinct : (generators.map fun generator => generator.id).Nodup) (id : GeneratorId) :
    generators.eraseP (fun generator => generator.id == id) =
      generators.filter fun generator => generator.id ≠ id := by
  induction generators with
  | nil => rfl
  | cons first rest ih =>
    obtain ⟨alone, others⟩ := List.nodup_cons.mp distinct
    by_cases same : first.id = id
    · subst same
      rw [List.eraseP_cons_of_pos (by simp), List.filter_cons_of_neg (by simp)]
      refine (List.filter_eq_self.mpr fun other inside => ?_).symm
      exact decide_eq_true fun equal => alone (List.mem_map.mpr ⟨other, inside, equal⟩)
    · rw [List.eraseP_cons_of_neg (by simpa using same),
        List.filter_cons_of_pos (by simpa using same), ih others]

/-- A registry keeps to a history: it lists the live generators, and their ids are distinct. -/
structure Follows (history : List Call) (registry : Registry) : Prop where
  /-- What is listed is what is live, in the same order. -/
  generators : registry.generators = live history
  /-- No id is listed twice. -/
  distinct : (registry.generators.map fun generator => generator.id).Nodup

namespace Follows

theorem empty : Follows [] .empty := ⟨rfl, List.nodup_nil⟩

theorem mem (follows : Follows history registry) :
    generator ∈ registry.generators ↔ IsLive history generator := by
  rw [follows.generators, mem_live]

/-- **A look-up finds whoever is live.** -/
theorem find?_eq_some (follows : Follows history registry) :
    registry.find? id = some generator ↔ generator.id = id ∧ IsLive history generator := by
  rw [← follows.mem]
  constructor
  · intro found
    have named := List.find?_some found
    exact ⟨eq_of_beq named, List.mem_of_find?_eq_some found⟩
  · rintro ⟨rfl, inside⟩
    cases found : registry.find? generator.id with
    | none => exact absurd (List.find?_eq_none.mp found generator inside) (by simp)
    | some other =>
      have named := List.find?_some found
      have member := List.mem_of_find?_eq_some found
      rw [List.inj_on_of_nodup_map follows.distinct member inside (eq_of_beq named)]

theorem find?_eq_none (follows : Follows history registry) :
    registry.find? id = none ↔ ∀ generator, IsLive history generator → generator.id ≠ id := by
  rw [Option.eq_none_iff_forall_ne_some]
  simp only [ne_eq, follows.find?_eq_some, not_and]
  exact forall_congr' fun generator => imp_not_comm

end Follows

/-! ### What a call answers -/

theorem call_register_taken {holder : Generator}
    (taken : registry.find? generator.id = some holder) :
    registry.call (.register generator) =
      (.error (.invalidParameter (.generatorTaken generator.id)), registry) := by
  simp only [call, register, taken]

theorem call_register_new (free : registry.find? generator.id = none) :
    registry.call (.register generator) = (.ok none, ⟨registry.generators ++ [generator]⟩) := by
  simp only [call, register, free]

theorem call_deregister_absent (absent : registry.find? id = none) :
    registry.call (.deregister id) = (.error (.notFound (.generator id)), registry) := by
  simp only [call, deregister, absent]

theorem call_deregister_found (found : registry.find? id = some generator) :
    registry.call (.deregister id) = (.ok (some generator),
      ⟨registry.generators.eraseP fun generator => generator.id == id⟩) := by
  simp only [call, deregister, found]

/-- **A generator that is registered under a new id** is handed back when this id is taken out, and
the registry is the one that it was. -/
theorem call_register_deregister (free : registry.find? generator.id = none) :
    ∃ after, registry.call (.register generator) = (.ok none, after) ∧
      after.call (.deregister generator.id) = (.ok (some generator), registry) := by
  have others : ∀ other ∈ registry.generators, ¬ (other.id == generator.id) = true :=
    List.find?_eq_none.mp free
  refine ⟨_, call_register_new free, ?_⟩
  have found : find? ⟨registry.generators ++ [generator]⟩ generator.id = some generator := by
    show List.find? _ (registry.generators ++ [generator]) = _
    rw [List.find?_append, List.find?_eq_none.mpr others]
    simp
  rw [call_deregister_found found, List.eraseP_append_right _ others,
    List.eraseP_cons_of_pos (by simp), List.append_nil]

/-! ### What a registry shows -/

namespace Follows

/-- **One accepted call more.** -/
theorem call {call : Call} (follows : Follows history registry)
    (fine : (registry.call call).1.isOk = true) :
    Follows (history ++ [call]) (registry.call call).2 := by
  cases call with
  | register generator =>
    cases free : registry.find? generator.id with
    | some holder =>
      rw [call_register_taken free] at fine
      cases fine
    | none =>
      rw [call_register_new free]
      refine ⟨?_, ?_⟩
      · rw [live_concat_register, follows.generators]
      · rw [List.map_append, List.nodup_append]
        refine ⟨follows.distinct, List.nodup_singleton _, fun id inside other last same => ?_⟩
        obtain ⟨holder, member, rfl⟩ := List.mem_map.mp inside
        rw [List.map_singleton, List.mem_singleton] at last
        exact List.find?_eq_none.mp free holder member (beq_iff_eq.mpr (same.trans last))
  | deregister id =>
    cases found : registry.find? id with
    | none =>
      rw [call_deregister_absent found] at fine
      cases fine
    | some generator =>
      rw [call_deregister_found found]
      refine ⟨?_, ?_⟩
      · rw [live_concat_deregister, ← follows.generators]
        exact eraseP_eq_filter follows.distinct id
      · exact follows.distinct.sublist (List.eraseP_sublist.map _)

end Follows

/-- **A call that fails** changes nothing. -/
theorem call_of_not_isOk {call : Call} (failed : ¬ (registry.call call).1.isOk = true) :
    (registry.call call).2 = registry := by
  cases call with
  | register generator =>
    cases free : registry.find? generator.id with
    | some holder => rw [call_register_taken free]
    | none =>
      rw [call_register_new free] at failed
      exact absurd rfl failed
  | deregister id =>
    cases found : registry.find? id with
    | none => rw [call_deregister_absent found]
    | some generator =>
      rw [call_deregister_found found] at failed
      exact absurd rfl failed

namespace Follows

/-- **A registry keeps to its history** over any run of calls. -/
theorem run (follows : Follows history registry) (calls : List Call) :
    Follows (history ++ registry.accepted calls) (registry.run calls) := by
  induction calls generalizing history registry with
  | nil =>
    rw [accepted, List.append_nil]
    exact follows
  | cons call calls ih =>
    rw [accepted, Registry.run]
    split
    · rename_i fine
      have further := ih (follows.call fine)
      rwa [List.append_assoc] at further
    · rename_i failed
      rw [call_of_not_isOk failed]
      exact ih follows

end Follows

/-- What a registry shows whose accepted calls are a history. -/
structure Shows (history : List Call) (registry : Registry) : Prop where
  /-- No two generators have one id. -/
  distinct : (registry.generators.map fun generator => generator.id).Nodup
  /-- Under an id there is the generator that was registered there and not taken out since. -/
  found : ∀ id generator,
    registry.find? id = some generator ↔ generator.id = id ∧ IsLive history generator
  /-- Under other ids there is none. -/
  missing : ∀ id,
    registry.find? id = none ↔ ∀ generator, IsLive history generator → generator.id ≠ id
  /-- The generators are listed in the order in which they were registered. -/
  listed : registry.generators = live history
  /-- Of those with a signature the first in this order is found. -/
  first : ∀ signature generator, registry.findSignature? signature = some generator ↔
    ∃ before after, live history = before ++ generator :: after ∧
      generator.signature = signature ∧ ∀ other ∈ before, other.signature ≠ signature
  /-- A generator whose id is taken is refused, and nothing changes. -/
  taken : ∀ generator holder, IsLive history holder → holder.id = generator.id →
    registry.call (.register generator) =
      (.error (.invalidParameter (.generatorTaken generator.id)), registry)
  /-- An id that is not taken cannot be taken out, and nothing changes. -/
  absent : ∀ id, (∀ generator, IsLive history generator → generator.id ≠ id) →
    registry.call (.deregister id) = (.error (.notFound (.generator id)), registry)
  /-- A live generator is handed back when its id is taken out. -/
  removed : ∀ generator, IsLive history generator →
    ∃ after, registry.call (.deregister generator.id) = (.ok (some generator), after)
  /-- A generator with a new id is registered, and taking it out again restores the registry. -/
  restored : ∀ generator, (∀ holder, IsLive history holder → holder.id ≠ generator.id) →
    ∃ after, registry.call (.register generator) = (.ok none, after) ∧
      after.call (.deregister generator.id) = (.ok (some generator), registry)

theorem Follows.shows (follows : Follows history registry) : Shows history registry where
  distinct := follows.distinct
  found id generator := follows.find?_eq_some
  missing id := follows.find?_eq_none
  listed := follows.generators
  first signature generator := by
    unfold findSignature?
    rw [List.find?_eq_some_iff_append, follows.generators, beq_iff_eq]
    constructor
    · rintro ⟨named, before, after, same, others⟩
      exact ⟨before, after, same, named, fun other inside => by simpa using others other inside⟩
    · rintro ⟨before, after, same, named, others⟩
      exact ⟨named, before, after, same, fun other inside => by simpa using others other inside⟩
  taken generator holder alive same :=
    call_register_taken (follows.find?_eq_some.mpr ⟨same, alive⟩)
  absent id nobody := call_deregister_absent (follows.find?_eq_none.mpr nobody)
  removed generator alive :=
    ⟨_, call_deregister_found (follows.find?_eq_some.mpr ⟨rfl, alive⟩)⟩
  restored generator nobody := call_register_deregister (follows.find?_eq_none.mpr nobody)

/-- **After any run of calls** a registry that was empty, or had the built-in generators, shows what
the accepted calls say. -/
theorem calls_recorded (calls : List Call) :
    Shows (empty.accepted calls) (empty.run calls) ∧
      Shows (founding ++ builtin.accepted calls) (builtin.run calls) := by
  refine ⟨(Follows.empty.run calls).shows, ?_⟩
  obtain ⟨founded, whole⟩ := run_founding
  have follows := Follows.empty.run (founding ++ calls)
  rw [List.nil_append, run_append, accepted_append, founded, whole] at follows
  exact follows.shows

end FirmwareTables.Registry
