/-
**Tables from the registry.**

A table that the registry of built-in generators returns is one that some regular kind of table
built, with its checksum closed (`builtin_build_eq_ok`). It is of the signature that was requested,
which its first four bytes say (`builtin_signature`).
-/

import FirmwareTables.Generator.Registry
import FirmwareTables.Proofs.Generator.Structures
import FirmwareTables.Proofs.Iort.Inventory

namespace FirmwareTables

/-- The kinds of tables of the built-in generators. -/
def builtinKinds : List TableKind := [Iort.kind, Mcfg.kind, Madt.kind, Srat.kind]

theorem builtinKinds_regular : ∀ kind ∈ builtinKinds, kind.IsRegular := by
  simp only [builtinKinds, List.forall_mem_cons]
  exact ⟨Iort.isRegular, Mcfg.isRegular, Madt.isRegular, Srat.isRegular, List.forall_mem_nil _⟩

/-- The checksum is not in the first bytes. -/
theorem Table.take_finalize (table : Table) {length : Nat} (front : length ≤ checksumOffset) :
    table.finalize.bytes.take length = table.bytes.take length := by
  unfold finalize
  split
  · rfl
  · dsimp only
    rw [List.take_set_of_le front, List.take_set_of_le front]

variable {request : TableRequest} {view : View} {table : Table}

/-- **What the registry returns** is a table of some built-in kind, its checksum closed. -/
theorem builtin_build_eq_ok (done : (Registry.builtin.build request view).result = .ok table) :
    ∃ kind ∈ builtinKinds, ∃ raw, (kind.build request view).result = .ok raw ∧
      table = raw.finalize := by
  unfold Registry.build at done
  split at done
  · rename_i generator found
    obtain ⟨raw, built, finished⟩ := bind_eq_ok.mp ((Reading.result_bind _ _).symm.trans done)
    have member : generator ∈ builtinKinds.map TableKind.generator :=
      List.mem_of_find?_eq_some found
    obtain ⟨kind, inside, rfl⟩ := List.mem_map.mp member
    exact ⟨kind, inside, raw, built, (Except.ok.inj finished).symm⟩
  · cases done

/-- **A request is accepted** if it names the id, the signature and a revision in the range. -/
theorem Profile.checkRequest_eq_ok {profile : Profile} :
    profile.checkRequest request = .ok () ↔ request.generatorId = profile.id ∧
      request.signature = profile.signature ∧ profile.minRevision ≤ request.revision ∧
      request.revision ≤ profile.revision := by
  unfold checkRequest
  by_cases id : request.generatorId = profile.id
  case neg =>
    rw [if_pos id]
    exact iff_of_false nofun fun all => id all.1
  rw [if_neg (not_not_intro id), and_iff_right id]
  by_cases signature : request.signature = profile.signature
  case neg =>
    rw [if_pos signature]
    exact iff_of_false nofun fun all => signature all.1
  rw [if_neg (not_not_intro signature), and_iff_right signature]
  by_cases outside : request.revision < profile.minRevision ∨ profile.revision < request.revision
  · rw [if_pos outside]
    refine iff_of_false nofun fun all => ?_
    exact outside.elim (UInt8.not_lt.mpr all.1) (UInt8.not_lt.mpr all.2)
  · rw [if_neg outside]
    obtain ⟨low, high⟩ := not_or.mp outside
    exact iff_of_true rfl ⟨UInt8.not_lt.mp low, UInt8.not_lt.mp high⟩

/-- A request that is checked is for the signature. -/
theorem Profile.signature_of_checkRequest {profile : Profile}
    (accepted : profile.checkRequest request = .ok ()) :
    request.signature = profile.signature := (checkRequest_eq_ok.mp accepted).2.1

/-- **A table says what was requested**, in its first four bytes. -/
theorem builtin_signature (done : (Registry.builtin.build request view).result = .ok table) :
    request.signature ∈ builtinKinds.map (·.signature) ∧
      table.bytes.take 4 = request.signature.bytes := by
  obtain ⟨kind, inside, raw, built, rfl⟩ := builtin_build_eq_ok done
  obtain ⟨accepted, info, plan, images, fields, _, _, _, _, same⟩ :=
    (TableKind.build_eq_ok (builtinKinds_regular kind inside)).mp built
  have own := Profile.signature_of_checkRequest accepted
  refine ⟨?_, ?_⟩
  · rw [own]
    exact List.mem_map_of_mem inside
  · have four : request.signature.bytes.length = 4 := Bytes.length_ofNat 4 _
    have front : raw.bytes = request.signature.bytes ++ (raw.bytes.drop 4) := by
      rw [same]
      rfl
    rw [Table.take_finalize raw (by decide), front, List.take_left' four]

end FirmwareTables
