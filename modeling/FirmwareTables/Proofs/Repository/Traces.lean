/-
**Reading a store by its history.**

The answers of a store after any run, told from the history of the run: under a token the payload
that survives there (`get_of_survives`), under the null token all payloads that survive of the
object, the one inserted last in front (`exists_survivors`). `traces_run` puts these together with
what a single operation does and leaves alone.
-/

import FirmwareTables.Proofs.Repository.Contents
import Mathlib.Data.List.Nodup
import Mathlib.Data.List.Perm.Lattice

namespace FirmwareTables.Store

variable {history : List Operation} {store : Store} {id : ObjectId} {token : Token}
  {descriptor : Descriptor}

/-! ### Reading under a token -/

/-- A token other than the null token finds one entry at most. -/
theorem found_eq (reflects : Reflects history store) (named : token ≠ .null)
    (survives : Survives history id token descriptor) :
    store.found id token = [.holding id token descriptor] := by
  have here : Entry.holding id token descriptor ∈ store.found id token :=
    List.mem_filter.mpr ⟨(reflects.contents _).mpr ⟨descriptor, survives, rfl⟩,
      Entry.isFound_iff.mpr ⟨rfl, .inr rfl⟩⟩
  have only : ∀ entry ∈ store.found id token, entry = .holding id token descriptor := by
    intro entry inside
    obtain ⟨inside, found⟩ := List.mem_filter.mp inside
    obtain ⟨other, stays, same⟩ := (reflects.contents entry).mp inside
    obtain ⟨rfl, null | rfl⟩ := Entry.isFound_iff.mp found
    · exact absurd null named
    · exact same.trans (by rw [stays.unique survives])
  have apart : (store.found id token).Nodup :=
    (List.Nodup.of_map Entry.key reflects.distinct).filter _
  refine List.perm_singleton.mp ((List.perm_ext_iff_of_nodup apart (List.nodup_singleton _)).mpr ?_)
  intro entry
  rw [List.mem_singleton]
  exact ⟨only entry, fun same => same ▸ here⟩

theorem found_eq_nil (reflects : Reflects history store) (named : token ≠ .null)
    (lost : ∀ descriptor, ¬ Survives history id token descriptor) : store.found id token = [] := by
  refine List.filter_eq_nil_iff.mpr fun entry inside found => ?_
  obtain ⟨descriptor, survives, -⟩ := (reflects.contents entry).mp inside
  obtain ⟨rfl, null | rfl⟩ := Entry.isFound_iff.mp found
  · exact named null
  · exact lost descriptor survives

/-- **Reading under a token** gives the payload that survives there, unless it counts nothing. -/
theorem get_of_survives (reflects : Reflects history store) (named : token ≠ .null)
    (survives : Survives history id token descriptor) :
    store.get id token =
      if descriptor.count = 0 then .error (.notFound id token)
      else .ok ⟨id, token, descriptor.count, descriptor.data⟩ := by
  have few : descriptor.count.toNat ≤ maxCount := Nat.le_of_lt_succ descriptor.count.toNat_lt
  have count : total [Entry.holding id token descriptor] = descriptor.count.toNat := rfl
  unfold get
  dsimp only
  rw [found_eq reflects named survives, count, if_neg (Nat.not_lt.mpr few), UInt32.ofNat_toNat]
  by_cases none : descriptor.count = 0
  · rw [if_pos none, if_pos (by rw [none]; rfl)]
  · have some : descriptor.count.toNat ≠ 0 := fun zero => none (UInt32.toNat_inj.mp zero)
    rw [if_neg none, if_neg some]
    simp [Entry.holding]

/-- Where nothing survives, nothing is found. -/
theorem get_of_lost (reflects : Reflects history store) (named : token ≠ .null)
    (lost : ∀ descriptor, ¬ Survives history id token descriptor) :
    store.get id token = .error (.notFound id token) := by
  unfold get
  dsimp only
  rw [found_eq_nil reflects named lost]
  rfl

/-! ### Reading all of an object -/

/-- The number of instances in some payloads. -/
def countAll : List Descriptor → Nat
  | [] => 0
  | descriptor :: rest => descriptor.count.toNat + countAll rest

/-- The payloads of an object that survive, under their tokens and in the order of reading. -/
structure Survivors (history : List Operation) (id : ObjectId) (tokens : List Token)
    (payloads : List Descriptor) : Prop where
  /-- No token comes twice. -/
  distinct : tokens.Nodup
  /-- The tokens are those under which something survives. -/
  complete : ∀ token, token ∈ tokens ↔ ∃ descriptor, Survives history id token descriptor
  /-- What survives was inserted at one time. -/
  inserted : ∀ token ∈ tokens, ∃! time, InsertedAt history id token time
  /-- What was inserted later comes first. -/
  ordered : tokens.Pairwise fun first second => IsLater history (id, first) (id, second)
  /-- The payloads are those that survive under the tokens. -/
  survive : List.Forall₂ (Survives history id) tokens payloads

/-- **All that survives of an object** is what the null token finds. -/
theorem exists_survivors (reflects : Reflects history store) (id : ObjectId) :
    ∃ tokens payloads, Survivors history id tokens payloads ∧
      List.Forall₂ (fun entry descriptor => entry = .holding id entry.token descriptor)
        (store.found id .null) payloads := by
  have own : ∀ entry, entry ∈ store.found id .null ↔ entry ∈ store.entries ∧ entry.id = id := by
    intro entry
    unfold found
    rw [List.mem_filter, Entry.isFound_iff]
    exact and_congr_right fun _ => and_iff_left (.inl rfl)
  have fewer : ((store.found id .null).map Entry.key).Sublist store.keys :=
    List.filter_sublist.map _
  -- All entries found are of one object, so that their keys differ just as their tokens do.
  have keys : (store.found id .null).map Entry.key =
      ((store.found id .null).map Entry.token).map fun token => (id, token) := by
    rw [List.map_map]
    exact List.map_congr_left fun entry inside => by rw [← ((own entry).mp inside).2]; rfl
  have complete : ∀ token, token ∈ (store.found id .null).map Entry.token ↔
      ∃ descriptor, Survives history id token descriptor := by
    intro token
    rw [← reflects.mem_keys, Store.keys, List.mem_map, List.mem_map]
    constructor
    · rintro ⟨entry, inside, rfl⟩
      obtain ⟨stored, rfl⟩ := (own entry).mp inside
      exact ⟨entry, stored, rfl⟩
    · rintro ⟨entry, inside, same⟩
      cases same
      exact ⟨entry, (own entry).mpr ⟨inside, rfl⟩, rfl⟩
  obtain ⟨payloads, held⟩ : ∃ payloads, List.Forall₂ (fun entry descriptor =>
      Survives history id entry.token descriptor ∧ entry = .holding id entry.token descriptor)
      (store.found id .null) payloads := by
    refine exists_forall₂.mpr fun entry inside => ?_
    obtain ⟨stored, rfl⟩ := (own entry).mp inside
    exact (reflects.contents entry).mp stored
  refine ⟨_, payloads, ⟨?_, complete, ?_, ?_, ?_⟩, held.imp fun _ _ both => both.2⟩
  · have distinct := reflects.distinct.sublist fewer
    rw [keys] at distinct
    exact distinct.of_map _
  · intro token inside
    obtain ⟨descriptor, survives⟩ := (complete token).mp inside
    exact existsUnique_insertedAt survives
  · have ordered := reflects.ordered.sublist fewer
    rw [keys] at ordered
    exact List.pairwise_map.mp ordered
  · exact List.forall₂_map_left_iff.mpr (held.imp fun _ _ both => both.1)

theorem total_holding {entries : List Entry} {payloads : List Descriptor}
    (held : List.Forall₂ (fun entry descriptor => entry = Entry.holding id entry.token descriptor)
      entries payloads) :
    total entries = countAll payloads ∧
      entries.flatMap Entry.data = payloads.flatMap Descriptor.data := by
  induction held with
  | nil => exact ⟨rfl, rfl⟩
  | cons first _ ih =>
    rw [total, countAll, List.flatMap_cons, List.flatMap_cons, ih.1, ih.2, first]
    exact ⟨rfl, rfl⟩

/-- **Reading all of an object** puts its payloads together, if they can be counted. -/
theorem get_null_eq {payloads : List Descriptor}
    (held : List.Forall₂ (fun entry descriptor => entry = Entry.holding id entry.token descriptor)
      (store.found id .null) payloads) :
    store.get id .null =
      if maxCount < countAll payloads then .error (.invalidParameter (.countOverflow id))
      else if countAll payloads = 0 then .error (.notFound id .null)
      else .ok ⟨id, .null, UInt32.ofNat (countAll payloads), payloads.flatMap Descriptor.data⟩ := by
  obtain ⟨count, data⟩ := total_holding held
  unfold get
  dsimp only
  rw [count, data]

/-! ### The whole trace -/

/-- What a store answers, told from a history, and what single operations do to it. -/
structure Traces (history : List Operation) (store : Store) : Prop where
  /-- No two entries have one id and one token. -/
  distinct : store.entries.Pairwise fun first second =>
    ¬ (first.id = second.id ∧ first.token = second.token)
  /-- Under a token there is the payload stored last, if nothing deleted it and it counts
  something. -/
  survives : ∀ id token descriptor, token ≠ .null → Survives history id token descriptor →
    store.get id token =
      if descriptor.count = 0 then .error (.notFound id token)
      else .ok ⟨id, token, descriptor.count, descriptor.data⟩
  /-- Under other tokens there is nothing. -/
  lost : ∀ id token, token ≠ .null → (∀ descriptor, ¬ Survives history id token descriptor) →
    store.get id token = .error (.notFound id token)
  /-- The null token stands for all that survives of an object, the latest insertion first. -/
  all : ∀ id, ∃ tokens payloads, Survivors history id tokens payloads ∧
    (store.get id .null = .error (.notFound id .null) ↔ countAll payloads = 0) ∧
    ((∃ refusal, store.get id .null = .error (.invalidParameter refusal)) ↔
      4294967295 < countAll payloads) ∧
    (countAll payloads ≠ 0 → countAll payloads ≤ 4294967295 → ∃ count : UInt32,
      count.toNat = countAll payloads ∧
        store.get id .null = .ok ⟨id, .null, count, payloads.flatMap Descriptor.data⟩)
  /-- Storing under the null token leaves the entries of other tokens alone. -/
  storeNull : ∀ id descriptor,
    (store.step (.set id .null (some descriptor))).entries.filter (fun entry =>
      entry.token != .null) = store.entries.filter fun entry => entry.token != .null
  /-- Deleting under the null token deletes all entries of the object, and no other. -/
  deleteNull : ∀ id, (store.step (.set id .null none)).entries =
    store.entries.filter fun entry => entry.id != id
  /-- The payload of another object is refused, and nothing changes. -/
  refused : ∀ id token descriptor, descriptor.id ≠ id →
    store.set id token (some descriptor) =
        .error (.invalidParameter (.foreignDescriptor descriptor.id id)) ∧
      store.step (.set id token (some descriptor)) = store

/-- **Storing under the null token** leaves the entries of other tokens alone. -/
theorem filter_step_null (store : Store) (id : ObjectId) (descriptor : Descriptor) :
    (store.step (.set id .null (some descriptor))).entries.filter (fun entry =>
      entry.token != .null) = store.entries.filter fun entry => entry.token != .null := by
  by_cases own : descriptor.id = id
  · rw [step_of_own store .null own]
    refine filter_put fun other here => ?_
    have same := (Prod.mk.inj (Entry.isAt_iff.mp here)).2
    simpa [Entry.holding] using same
  · rw [(step_of_foreign store .null own).2]

/-- **The store after any run** answers as the history of the run says. -/
theorem traces_run (history : List Operation) : Traces history (run history) := by
  have reflects := reflects_run history
  refine ⟨?_, ?_, ?_, fun id => ?_, ?_, fun id => ?_, ?_⟩
  · have apart := List.pairwise_map.mp reflects.distinct
    exact apart.imp fun differ same => differ (Prod.ext same.1 same.2)
  · exact fun id token descriptor named survives => get_of_survives reflects named survives
  · exact fun id token named lost => get_of_lost reflects named lost
  · obtain ⟨tokens, payloads, survivors, held⟩ := exists_survivors reflects id
    refine ⟨tokens, payloads, survivors, ?_⟩
    rw [get_null_eq held, maxCount]
    refine ⟨?_, ?_, fun some few => ⟨_, UInt32.toNat_ofNat_of_lt' (Nat.lt_succ_of_le few), ?_⟩⟩
    · split
      · rename_i many
        exact ⟨nofun, fun none => by omega⟩
      · simp
    · split
      · rename_i many
        exact ⟨fun _ => many, fun _ => ⟨_, rfl⟩⟩
      · rename_i few
        refine ⟨?_, fun many => absurd many few⟩
        rintro ⟨refusal, failed⟩
        split at failed <;> cases failed
    · rw [if_neg (Nat.not_lt.mpr few), if_neg some]
  · exact fun id descriptor => filter_step_null _ id descriptor
  · show List.filter _ _ = _
    refine List.filter_congr fun entry _ => ?_
    simp [Entry.isFound, Token.isNull, bne]
  · exact fun id token descriptor foreign => step_of_foreign _ token foreign

end FirmwareTables.Store
