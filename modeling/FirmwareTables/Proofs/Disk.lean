/-
**Where files are written.**

A path that can be looked up leads to the `place` that its names alone tell, however the disk looks
(`resolve_eq_ok`). Writing a file puts its bytes there and leaves all other files as they are
(`write_eq_ok`, `file?_put`), making directories leaves all of them (`files_makeDirectories`). After
many writes a file holds what was written to it last (`file?_putEach`).

A name behind a directory leads to the name in that directory (`place_join`), whatever the spelling
of the directory.
-/

import FirmwareTables.Disk
import FirmwareTables.Proofs.Outcome

namespace FirmwareTables

/-! ### Places -/

namespace Path

/-- Where the names in a spelled path lead to. -/
def place (text : String) : Path := (ofString text).foldl step []

/-- A name that leads to something in a directory. -/
structure IsPlain (name : String) : Prop where
  /-- It is no path. -/
  single : '/' ∉ name.toList
  /-- It does not stay in the place. -/
  some : name ≠ ""
  /-- Nor does a dot. -/
  dot : name ≠ "."
  /-- It does not lead back. -/
  dots : name ≠ ".."

theorem step_plain {name : String} (plain : IsPlain name) (directory : Path) :
    directory.step name = directory ++ [name] := by
  unfold step
  rw [beq_eq_false_iff_ne.mpr plain.some, beq_eq_false_iff_ne.mpr plain.dot,
    beq_eq_false_iff_ne.mpr plain.dots]
  rfl

/-- A mark for a path that starts from the root. -/
def root (characters : List Char) : Path := if characters.head? == some '/' then ["/"] else []

theorem ofString_eq (text : String) :
    ofString text = root text.toList ++ (text.toList.splitOn '/').map String.ofList := by
  unfold ofString root
  dsimp only
  split <;> rfl

/-- What is behind the last slash is one more name. -/
theorem place_slash {text : String} {front back : List Char} (single : '/' ∉ back)
    (spelled : text.toList = front ++ '/' :: back) :
    place text = step ((root (front ++ ['/']) ++ (front.splitOn '/').map String.ofList).foldl step [])
      (String.ofList back) := by
  have same : root (front ++ '/' :: back) = root (front ++ ['/']) := by
    cases front <;> rfl
  unfold place
  rw [ofString_eq, spelled, same, List.splitOn_append_cons_self, List.splitOn_eq_singleton single,
    List.map_append, ← List.append_assoc, List.foldl_append]
  rfl

/-- **A name behind a directory** leads to the name in that directory. -/
theorem place_join (directory : String) {name : String} (plain : IsPlain name) :
    place (join directory name) = place directory ++ [name] := by
  rw [← step_plain plain]
  by_cases none : directory = ""
  · -- The name alone, from the working directory.
    have joined : join "" name = name := by
      unfold join
      rw [if_pos (by decide), String.empty_append]
    have lone : ofString name = [name] := by
      have relative : name.toList.head? ≠ some '/' := fun first =>
        plain.single (List.mem_of_mem_head? first)
      rw [ofString_eq, List.splitOn_eq_singleton plain.single, List.map_singleton,
        String.ofList_toList]
      unfold root
      rw [if_neg fun first => relative (beq_iff_eq.mp first)]
      rfl
    rw [none, joined]
    unfold place
    rw [lone]
    rfl
  by_cases last : directory.toList.getLast? = some '/'
  · -- The slash at the end of the directory separates the two.
    obtain ⟨front, spelled⟩ := List.getLast?_eq_some_iff.mp last
    have joined : (join directory name).toList = front ++ '/' :: name.toList := by
      unfold join
      rw [if_pos (Bool.or_eq_true_iff.mpr (.inr (beq_iff_eq.mpr last))), String.toList_append,
        spelled, List.append_assoc]
      rfl
    rw [place_slash plain.single joined, place_slash List.not_mem_nil spelled,
      String.ofList_toList]
    rfl
  · -- A slash is put between the two.
    have joined : (join directory name).toList = directory.toList ++ '/' :: name.toList := by
      have apart : (directory.isEmpty || directory.toList.getLast? == some '/') = false := by
        rw [beq_eq_false_iff_ne.mpr last, Bool.or_false]
        exact Bool.eq_false_iff.mpr fun empty => none (String.isEmpty_iff.mp empty)
      unfold join
      rw [apart]
      simp [String.toList_append]
    have some : directory.toList ≠ [] := fun empty => none (String.toList_eq_nil_iff.mp empty)
    have same : root (directory.toList ++ ['/']) = root directory.toList := by
      unfold root
      rw [List.head?_append_of_ne_nil _ some]
    rw [place_slash plain.single joined, String.ofList_toList, same, ← ofString_eq]
    rfl

end Path

/-! ### Looking up and writing -/

namespace Disk

variable {disk after : Disk}

theorem resolve_eq_ok {directory names place : Path}
    (done : disk.resolve directory names = .ok place) :
    place = names.foldl Path.step directory := by
  induction names generalizing directory with
  | nil => exact (Except.ok.inj done).symm
  | cons name names ih =>
    unfold resolve at done
    split at done
    · split at done
      · cases done
      · exact ih done
    · split at done <;> cases done

theorem read_eq_ok {text : String} {names : Path} (done : Path.read text = .ok names) :
    names = Path.ofString text := by
  unfold Path.read at done
  split at done
  · cases done
  split at done
  · cases done
  split at done
  · cases done
  · exact (Except.ok.inj done).symm

/-- **A file that was written** is at the place of its path. -/
theorem write_eq_ok {path : String} {bytes : Bytes} (done : disk.write path bytes = .ok after) :
    after = disk.put (Path.place path) bytes := by
  unfold write at done
  obtain ⟨names, read, done⟩ := bind_eq_ok.mp done
  obtain ⟨place, found, done⟩ := bind_eq_ok.mp done
  rw [resolve_eq_ok found, read_eq_ok read] at done
  split at done
  · cases done
  · exact (Except.ok.inj done).symm

/-- **The file that was put somewhere** is there, and the others are as before. -/
theorem file?_put {place : Path} (real : place ≠ sink) (bytes : Bytes) (other : Path) :
    (disk.put place bytes).file? other = if other = place then some bytes else disk.file? other := by
  by_cases same : other = place
  · subst same
    have gone : (disk.files.filter fun file => file.1 != other).find?
        (fun file => file.1 == other) = none := by
      refine List.find?_eq_none.mpr fun file inside => ?_
      exact Bool.not_eq_true _ ▸ (Bool.not_eq_true' _).mp (List.mem_filter.mp inside).2
    unfold file? put
    dsimp only
    rw [if_pos rfl, if_neg fun here => real (eq_of_beq here), List.find?_append, gone,
      List.find?_singleton, if_pos (beq_self_eq_true _)]
    rfl
  · rw [if_neg same]
    have last : ([(place, bytes)] : List (Path × Bytes)).find? (fun file => file.1 == other) =
        none := by
      rw [List.find?_singleton, if_neg fun here => same (eq_of_beq here).symm]
    have kept : ∀ file : Path × Bytes,
        decide ((file.1 != place) = true ∧ (file.1 == other) = true) = (file.1 == other) := by
      intro file
      by_cases here : file.1 = other
      · rw [here, beq_self_eq_true]
        exact decide_eq_true ⟨bne_iff_ne.mpr same, rfl⟩
      · rw [beq_eq_false_iff_ne.mpr here]
        exact decide_eq_false fun both => Bool.false_ne_true both.2
    unfold file? put
    dsimp only
    rw [List.find?_append, last, Option.or_none, List.find?_filter]
    simp only [kept]

/-- The bytes that are found are those of a file, or there are none. -/
theorem file?_eq_some {path : Path} {bytes : Bytes} (found : disk.file? path = some bytes) :
    bytes = [] ∨ ∃ file ∈ disk.files, file.2 = bytes := by
  unfold file? at found
  split at found
  · exact .inl (Option.some.inj found).symm
  · obtain ⟨file, here, same⟩ := Option.map_eq_some_iff.mp found
    exact .inr ⟨file, List.mem_of_find?_eq_some here, same⟩

/-- Puts several files, one after the other. -/
def putEach {ι : Type} (place : ι → Path) (bytes : ι → Bytes) (disk : Disk) (items : List ι) :
    Disk :=
  items.foldl (fun disk item => disk.put (place item) (bytes item)) disk

/-- **What was put last into a file** is what it holds. -/
theorem file?_putEach {ι : Type} {place : ι → Path} {bytes : ι → Bytes} {items : List ι}
    (real : ∀ item ∈ items, place item ≠ sink) (other : Path) :
    (putEach place bytes disk items).file? other =
      match items.reverse.find? fun item => place item == other with
      | some item => some (bytes item)
      | none => disk.file? other := by
  induction items generalizing disk with
  | nil => rfl
  | cons item items ih =>
    have behind := @ih (disk.put (place item) (bytes item))
      fun one inside => real one (List.mem_cons_of_mem _ inside)
    refine behind.trans ?_
    rw [List.reverse_cons, List.find?_append, file?_put (real item List.mem_cons_self)]
    cases found : items.reverse.find? fun item => place item == other with
    | some last => rfl
    | none =>
      rw [List.find?_singleton, Option.none_or]
      by_cases here : other = place item
      · rw [if_pos here, if_pos (beq_iff_eq.mpr here.symm)]
      · rw [if_neg here, if_neg fun same => here (eq_of_beq same).symm]

/-! ### Making directories -/

theorem files_make {names : Path} (done : disk.make names = .ok after) :
    after.files = disk.files := by
  unfold make at done
  obtain ⟨place, _, done⟩ := bind_eq_ok.mp done
  split at done
  · cases done
  · cases done
    rfl

theorem files_ensure {names : Path} (done : disk.ensure names = .ok after) :
    after.files = disk.files := by
  unfold ensure at done
  split at done
  · split at done
    · cases done
      rfl
    · cases done
  · exact files_make done

theorem files_ensureFirst {paths : List Path} (done : disk.ensureFirst paths = .ok after) :
    after.files = disk.files := by
  induction paths generalizing disk after with
  | nil =>
    cases done
    rfl
  | cons names others ih =>
    unfold ensureFirst at done
    split at done
    · obtain ⟨between, made, done⟩ := bind_eq_ok.mp done
      rw [files_ensure done, ih made]
    · exact files_ensure done

/-- **Making directories changes no file.** -/
theorem files_makeDirectories {path : String} (done : disk.makeDirectories path = .ok after) :
    after.files = disk.files := by
  unfold makeDirectories at done
  split at done
  · cases done
    rfl
  · obtain ⟨names, _, done⟩ := bind_eq_ok.mp done
    exact files_ensureFirst done

theorem file?_congr {other : Disk} (same : other.files = disk.files) (path : Path) :
    other.file? path = disk.file? path := by
  unfold file?
  rw [same]

end Disk

end FirmwareTables
