/-
**The files that a build leaves.**

Each table that is built goes into a file that is named for its signature. When a build into an
empty directory has succeeded, a file of the directory holds the table of the last request for the
signature that it is named for (`Leaves.files`). So a table is on the disk only if every later
request with the same signature gives the same table, and all tables are exactly if requests for one
signature never give different ones (`Leaves.complete`); otherwise a table is lost although the build
says that it was written (`build_files_lost`).
-/

import FirmwareTables.CommandLine.Outcome
import FirmwareTables.Proofs.Disk
import FirmwareTables.Proofs.Generator.Registered
import FirmwareTables.Proofs.Identifier.Naming

namespace FirmwareTables.CommandLine

/-- The name of the file of a table. -/
def fileName (signature : Signature) : String := signature.text ++ ".aml"

/-- A request, and the table that was built for it. -/
abbrev Answered := TableRequest × Table

/-- Every table was built for its request. -/
def AreBuilt (view : View) (answered : List Answered) : Prop :=
  ∀ pair ∈ answered, (Registry.builtin.build pair.1 view).result = .ok pair.2

/-- The requests that a build answers. -/
def wanted (filter : Option Signature) (requests : List TableRequest) : List TableRequest :=
  requests.filter fun request => filter.all fun signature => signature == request.signature

/-! ### Names of files -/

/-- The signatures of all tables that can be built. -/
def signatures : List Signature := builtinKinds.map (·.signature)

theorem fileName_isPlain : ∀ signature ∈ signatures, Path.IsPlain (fileName signature) := by
  have all : ∀ signature ∈ signatures, '/' ∉ (fileName signature).toList ∧
      fileName signature ≠ "" ∧ fileName signature ≠ "." ∧ fileName signature ≠ ".." := by
    decide +kernel
  intro signature inside
  obtain ⟨single, some, dot, dots⟩ := all signature inside
  exact ⟨single, some, dot, dots⟩

theorem fileName_injective : ∀ one ∈ signatures, ∀ other ∈ signatures,
    fileName one = fileName other → one = other := by
  decide +kernel

theorem fileName_ne_sink : ∀ signature ∈ signatures, ∀ directory : Path,
    directory ++ [fileName signature] ≠ Disk.sink := by
  have all : ∀ signature ∈ signatures, fileName signature ≠ "null" := by decide +kernel
  intro signature inside directory same
  have last := congrArg List.getLast? same
  rw [List.getLast?_concat] at last
  exact all signature inside (Option.some.inj last)

/-! ### Building one table after the other -/

variable {view : View} {directory : String} {disk after : Disk}

/-- **A table is written** to the file in the directory that is named for its signature. -/
theorem buildOne_eq_ok {request : TableRequest} {built : Built}
    (done : buildOne view (some directory) disk request = .ok (built, after)) :
    ∃ table, (Registry.builtin.build request view).result = .ok table ∧
      after = disk.put (Path.place directory ++ [fileName request.signature]) table.bytes := by
  unfold buildOne at done
  obtain ⟨table, made, done⟩ := bind_eq_ok.mp done
  obtain ⟨disk', written, done⟩ := bind_eq_ok.mp done
  have table_ok := mapError_eq_ok.mp made
  have write_ok : disk' = disk.put (Path.place (Path.join directory (fileName request.signature)))
      table.bytes := Disk.write_eq_ok (mapError_eq_ok.mp written)
  have plain := fileName_isPlain _ (builtin_signature table_ok).1
  rw [Path.place_join directory plain] at write_ok
  cases done
  exact ⟨table, table_ok, write_ok⟩

/-- Where the table of a request goes to. -/
def target (directory : String) (pair : Answered) : Path :=
  Path.place directory ++ [fileName pair.1.signature]

/-- **All tables are written**, one after the other. -/
theorem buildEach_eq_none {requests : List TableRequest} {rows : List Built}
    (done : buildEach view (some directory) disk requests = (rows, after, none)) :
    ∃ answered : List Answered, answered.map Prod.fst = requests ∧ AreBuilt view answered ∧
      after = disk.putEach (target directory) (fun pair => pair.2.bytes) answered := by
  induction requests generalizing disk rows with
  | nil =>
    cases done
    exact ⟨[], rfl, fun _ absurd => (nomatch absurd), rfl⟩
  | cons request requests ih =>
    unfold buildEach at done
    split at done
    · cases done
    · rename_i built between made
      obtain ⟨table, table_ok, rfl⟩ := buildOne_eq_ok made
      cases rest : buildEach view (some directory)
          (disk.put (Path.place directory ++ [fileName request.signature]) table.bytes) requests with
      | mk others outcome =>
        obtain ⟨last, failure⟩ := outcome
        rw [rest] at done
        cases done
        obtain ⟨answered, same, built, stored⟩ := ih rest
        refine ⟨(request, table) :: answered, congrArg (request :: ·) same, ?_, stored⟩
        exact List.forall_mem_cons.mpr ⟨table_ok, built⟩

/-! ### What is on the disk in the end -/

/-- What a build leaves in a directory that was empty. -/
structure Leaves (after : Disk) (place : Path) (answered : List Answered) : Prop where
  /-- A file holds the table of the last request for the signature that it is named for. -/
  files : ∀ name, after.file? (place ++ [name]) =
    (answered.reverse.find? fun pair => fileName pair.1.signature == name).map
      fun pair => pair.2.bytes
  /-- All tables are there exactly if requests for one signature give one table. -/
  complete : (∀ pair ∈ answered, ∃ name, after.file? (place ++ [name]) = some pair.2.bytes) ↔
    ∀ one ∈ answered, ∀ other ∈ answered, one.1.signature = other.1.signature → one.2 = other.2

/-- Files in a directory that was empty hold what was put there last. -/
theorem files_putEach {answered : List Answered} (built : AreBuilt view answered)
    (empty : ∀ name, disk.file? (Path.place directory ++ [name]) = none) (name : String) :
    (disk.putEach (target directory) (fun pair => pair.2.bytes) answered).file?
        (Path.place directory ++ [name]) =
      (answered.reverse.find? fun pair => fileName pair.1.signature == name).map
        fun pair => pair.2.bytes := by
  have real : ∀ pair ∈ answered, target directory pair ≠ Disk.sink := fun pair inside =>
    fileName_ne_sink _ (builtin_signature (built pair inside)).1 _
  have own : (fun pair : Answered => target directory pair == Path.place directory ++ [name]) =
      fun pair => fileName pair.1.signature == name := by
    funext pair
    unfold target
    rw [Bool.eq_iff_iff, beq_iff_eq, beq_iff_eq]
    exact ⟨fun same => (List.cons.inj (List.append_cancel_left same)).1, fun same => by rw [same]⟩
  rw [Disk.file?_putEach real, own, empty]
  cases answered.reverse.find? fun pair => fileName pair.1.signature == name <;> rfl

section

variable {place : Path} {answered : List Answered} (built : AreBuilt view answered)
  (files : ∀ name, after.file? (place ++ [name]) =
    (answered.reverse.find? fun pair => fileName pair.1.signature == name).map
      fun pair => pair.2.bytes)

include built files

/-- A file with the table of a request is named for the signature of the request, which the table
starts with. -/
theorem name_of_file {pair : Answered} (inside : pair ∈ answered) {name : String}
    (found : after.file? (place ++ [name]) = some pair.2.bytes) :
    name = fileName pair.1.signature := by
  rw [files name] at found
  obtain ⟨last, here, same⟩ := Option.map_eq_some_iff.mp found
  have member := List.mem_reverse.mp (List.mem_of_find?_eq_some here)
  have named : (fileName last.1.signature == name) = true :=
    @List.find?_some _ (fun pair : Answered => fileName pair.1.signature == name) _ _ here
  have first := (builtin_signature (built last member)).2
  rw [same, (builtin_signature (built pair inside)).2] at first
  rw [← eq_of_beq named, ← Signature.ofBytes_bytes last.1.signature, ← first,
    Signature.ofBytes_bytes]

/-- If requests for one signature give one table, it is in the file named for the signature. -/
theorem file_of_same {pair : Answered} (inside : pair ∈ answered)
    (same : ∀ other ∈ answered, other.1.signature = pair.1.signature → other.2 = pair.2) :
    after.file? (place ++ [fileName pair.1.signature]) = some pair.2.bytes := by
  rw [files]
  cases here : answered.reverse.find? fun other =>
      fileName other.1.signature == fileName pair.1.signature with
  | none =>
    have lost := List.find?_eq_none.mp here pair (List.mem_reverse.mpr inside)
    exact absurd (beq_self_eq_true _) lost
  | some last =>
    have member := List.mem_reverse.mp (List.mem_of_find?_eq_some here)
    have named : (fileName last.1.signature == fileName pair.1.signature) = true :=
      @List.find?_some _ (fun other : Answered =>
        fileName other.1.signature == fileName pair.1.signature) _ _ here
    have signature := fileName_injective _ (builtin_signature (built last member)).1 _
      (builtin_signature (built pair inside)).1 (eq_of_beq named)
    rw [Option.map_some, same last member signature]

theorem leaves_of_files : Leaves after place answered where
  files := files
  complete := by
    constructor
    -- A file of another name starts with another signature, so both tables are in the same file.
    · intro all one here other there same
      obtain ⟨name, found⟩ := all one here
      obtain ⟨label, known⟩ := all other there
      rw [name_of_file built files here found, same, ← name_of_file built files there known,
        known] at found
      exact congrArg Table.mk (Option.some.inj found).symm
    · intro same pair inside
      refine ⟨fileName pair.1.signature, file_of_same built files inside fun other there own => ?_⟩
      exact same other there pair inside own

end

/-! ### Builds that succeed -/

theorem prepareBuild_eq_ok {store : Store} {filter : Option Signature}
    {requests : List TableRequest}
    (done : prepareBuild disk store (some directory) filter = .ok (requests, after)) :
    ∃ all, (Registry.requests store.view).result = .ok all ∧ requests = wanted filter all ∧
      after.files = disk.files := by
  unfold prepareBuild at done
  obtain ⟨all, read, done⟩ := bind_eq_ok.mp done
  dsimp only at done
  split at done
  · cases done
  · obtain ⟨between, made, done⟩ := bind_eq_ok.mp done
    cases done
    exact ⟨all, mapError_eq_ok.mp read, rfl, Disk.files_makeDirectories (mapError_eq_ok.mp made)⟩

/-- A build, once the description is loaded. -/
theorem build_eq {format : Format} {path : String} {out : Option String}
    {filter : Option Signature} {store : Store} (load : loadStore disk path = .ok store) :
    build disk format path out filter =
      match prepareBuild disk store out filter with
      | .error trail => ⟨"", disk, some trail⟩
      | .ok (requests, ready) =>
        let (built, after, failure) := buildEach store.view out ready requests
        let printed := match format, failure with
          | .json, some _ => ""
          | _, _ => printRows format Built.line Built.tree built
        ⟨printed, after, failure⟩ := by
  unfold build
  rw [load]
  dsimp only [bind, Except.bind]
  cases prepareBuild disk store out filter <;> rfl

/-- A build that succeeds loads the description, finds what is wanted, and builds all of it. -/
theorem build_eq_none {format : Format} {path : String} {out : Option String}
    {filter : Option Signature} (done : (build disk format path out filter).failure = none) :
    ∃ store requests ready rows, loadStore disk path = .ok store ∧
      prepareBuild disk store out filter = .ok (requests, ready) ∧
      buildEach store.view out ready requests =
        (rows, (build disk format path out filter).disk, none) := by
  cases load : loadStore disk path with
  | error trail =>
    unfold build at done
    rw [load] at done
    cases done
  | ok store =>
    rw [build_eq load] at done ⊢
    cases prepare : prepareBuild disk store out filter with
    | error trail =>
      rw [prepare] at done
      cases done
    | ok prepared =>
      rw [prepare] at done
      obtain ⟨requests, ready⟩ := prepared
      refine ⟨store, requests, ready, (buildEach store.view out ready requests).1, rfl, prepare,
        ?_⟩
      exact Prod.ext rfl (Prod.ext rfl done)

/-- **What a build leaves** that succeeds into an empty directory: the requests of the description
are answered in order, each with its table, and a file holds the last one that it is named for. -/
theorem build_files {disk : Disk} {format : Format} {path directory : String}
    {filter : Option Signature}
    (done : (build disk format path (some directory) filter).failure = none)
    (empty : ∀ name, disk.file? (Path.place directory ++ [name]) = none) :
    ∃ store requests answered, loadStore disk path = .ok store ∧
      (Registry.requests store.view).result = .ok requests ∧
      answered.map Prod.fst = wanted filter requests ∧ AreBuilt store.view answered ∧
      Leaves (build disk format path (some directory) filter).disk (Path.place directory)
        answered := by
  obtain ⟨store, _, ready, rows, load, prepare, each⟩ := build_eq_none done
  obtain ⟨requests, read, rfl, kept⟩ := prepareBuild_eq_ok prepare
  obtain ⟨answered, same, built, stored⟩ := buildEach_eq_none each
  have clear : ∀ name, ready.file? (Path.place directory ++ [name]) = none := by
    intro name
    rw [Disk.file?_congr kept, empty]
  refine ⟨store, requests, answered, load, read, same, built, ?_⟩
  rw [stored]
  exact leaves_of_files built (files_putEach built clear)

/-! ### A table that is lost -/

/-- A description that asks for two tables with one signature. -/
def twins : Platform :=
  { (default : Platform) with
    tables := [⟨.mcfg, 1, .mcfg, 0, 0⟩, ⟨.mcfg, 1, .mcfg, 0, 2⟩]
    configSpaces := [⟨0, 0, 0, 0⟩] }

def twinDisk : Disk :=
  Disk.empty.add "p" <| Utf8.encode <|
    "tables=[\x7bsignature=\"MCFG\",revision=1,generator=\"mcfg\"\x7d,\x7bsignature=\"MCFG\"," ++
    "revision=1,generator=\"mcfg\",oem_revision=2\x7d]\npci_config_spaces=[\x7b\x7d]"

/-- The store that the description is loaded into. -/
def twinStore : Store := (twins.apply (Manager.new ()).install.step.manager).2.configuration.store

theorem load_twins : Platform.load twinDisk "p" = .ok twins := by
  decide +kernel

theorem loadStore_twins : loadStore twinDisk "p" = .ok twinStore := by
  unfold loadStore
  rw [load_twins]
  decide +kernel

theorem twinDisk_empty (name : String) : twinDisk.file? (Path.place "o" ++ [name]) = none := by
  rfl

theorem build_twins : (build twinDisk .text "p" (some "o") none).failure = none := by
  rw [build_eq loadStore_twins]
  decide +kernel

/-- What `build_files` says where a table is lost. -/
theorem build_files_twins :
    (build twinDisk .text "p" (some "o") none).failure = none ∧
      (∀ name, twinDisk.file? (Path.place "o" ++ [name]) = none) ∧
      ∃ store requests answered, loadStore twinDisk "p" = .ok store ∧
        (Registry.requests store.view).result = .ok requests ∧
        answered.map Prod.fst = wanted none requests ∧ AreBuilt store.view answered ∧
        Leaves (build twinDisk .text "p" (some "o") none).disk (Path.place "o") answered :=
  ⟨build_twins, twinDisk_empty, build_files build_twins twinDisk_empty⟩

/-- The table for the first of the two requests. -/
def firstTwin : Table :=
  match (Registry.builtin.build ⟨.mcfg, 1, .mcfg, 0, 0⟩ twinStore.view).result with
  | .ok table => table
  | .error _ => ⟨[]⟩

/-- **A table that is lost.** The build succeeds in a directory without files, and none of the files
there are afterwards is the table for the first request. -/
theorem build_files_lost :
    loadStore twinDisk "p" = .ok twinStore ∧
      (Registry.requests twinStore.view).result = .ok twins.tables ∧
      (Registry.builtin.build ⟨.mcfg, 1, .mcfg, 0, 0⟩ twinStore.view).result = .ok firstTwin ∧
      (build twinDisk .text "p" (some "o") none).failure = none ∧
      (∀ name, twinDisk.file? (Path.place "o" ++ [name]) = none) ∧
      ∀ name, (build twinDisk .text "p" (some "o") none).disk.file? (Path.place "o" ++ [name]) ≠
        some firstTwin.bytes := by
  refine ⟨loadStore_twins, by decide +kernel, by decide +kernel, build_twins, twinDisk_empty, ?_⟩
  intro name found
  have absent : ∀ file ∈ (build twinDisk .text "p" (some "o") none).disk.files,
      file.2 ≠ firstTwin.bytes := by
    rw [build_eq loadStore_twins]
    decide +kernel
  -- What is found may also be nothing, in the place where writing has no effect.
  obtain nothing | ⟨file, inside, same⟩ := Disk.file?_eq_some found
  · exact absurd nothing (by decide +kernel)
  · exact absent file inside same

end FirmwareTables.CommandLine
