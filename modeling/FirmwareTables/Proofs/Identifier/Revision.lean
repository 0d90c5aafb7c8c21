/-
**Texts that are revisions.**

A text is a revision if a point stands in it between two numbers of sixteen bits, each of which may
have a plus sign in front and blank characters around it (`Revision.Spells`). These texts are read,
and no others (`read_eq_ok`); any other text is named by the error (`read_eq_error`).
-/

import FirmwareTables.Identifier.Revision
import FirmwareTables.Proofs.Text.Spellings

namespace FirmwareTables.Revision

/-! ### One of the two numbers -/

/-- A number of sixteen bits, with blank characters around it. -/
def IsPart (characters : List Char) (number : UInt16) : Prop :=
  ∃ front core back, characters = front ++ core ++ back ∧
    (∀ one ∈ front, Text.isBlank one = true) ∧ (∀ one ∈ back, Text.isBlank one = true) ∧
      Digits.IsDecimal core number.toNat

/-- A number is neither blank nor a point. -/
theorem isInk_of_isDecimal {core : List Char} {number : Nat}
    (decimal : Digits.IsDecimal core number) :
    ∀ one ∈ core, Text.isBlank one = false ∧ one ≠ '.' := by
  obtain ⟨sign, digits, plus, rfl, _, below, _⟩ := decimal
  intro one inside
  rcases List.mem_append.mp inside with inside | inside
  · rcases plus with rfl | rfl
    · cases inside
    · rw [List.mem_singleton.mp inside]
      decide
  · obtain ⟨digit, member, rfl⟩ := List.mem_map.mp inside
    exact (by decide : ∀ digit < 10, Text.isBlank (Digits.character digit) = false ∧
      Digits.character digit ≠ '.') digit (below digit member)

theorem readPart?_eq_some {characters : List Char} {number : UInt16} :
    readPart? characters = some number ↔ IsPart characters number := by
  unfold readPart?
  rw [Option.map_eq_some_iff]
  constructor
  · rintro ⟨value, read, rfl⟩
    obtain ⟨decimal, small⟩ := Digits.read?_eq_some.mp read
    obtain ⟨front, back, split, before, behind⟩ := Text.exists_trim characters
    refine ⟨front, _, back, split, before, behind, ?_⟩
    rwa [UInt16.toNat_ofNat_of_lt' (Nat.lt_succ_of_le small)]
  · rintro ⟨front, core, back, rfl, before, behind, decimal⟩
    refine ⟨number.toNat, ?_, UInt16.ofNat_toNat⟩
    rw [Text.trim_padded before behind fun one inside => (isInk_of_isDecimal decimal one inside).1]
    exact Digits.read?_eq_some.mpr ⟨decimal, Nat.le_of_lt_succ number.toNat_lt⟩

/-- There is no point in a number with blank characters around it. -/
theorem not_mem_of_isPart {characters : List Char} {number : UInt16}
    (part : IsPart characters number) : ∀ one ∈ characters, one ≠ '.' := by
  obtain ⟨front, core, back, rfl, before, behind, decimal⟩ := part
  have visible : Text.isBlank '.' = false := by decide
  have blank {one : Char} (here : Text.isBlank one = true) : one ≠ '.' := by
    rintro rfl
    cases here.symm.trans visible
  intro one inside
  rcases List.mem_append.mp inside with inside | inside
  · rcases List.mem_append.mp inside with inside | inside
    · exact blank (before one inside)
    · exact (isInk_of_isDecimal decimal one inside).2
  · exact blank (behind one inside)

/-! ### Both numbers -/

/-- A text spells a major and a minor number. -/
def Spells (text : String) (major minor : UInt16) : Prop :=
  ∃ first second, text.toList = first ++ '.' :: second ∧ IsPart first major ∧ IsPart second minor

/-- **What is read of a text** is its two numbers. -/
theorem read_eq_ok {text : String} {revision : Revision} :
    read text = .ok revision ↔
      ∃ major minor, Spells text major minor ∧ revision = make major minor := by
  have apart := List.takeWhile_append_dropWhile (p := (· != '.')) (l := text.toList)
  unfold read
  dsimp only
  constructor
  · intro done
    split at done
    · cases done
    rename_i point second found
    have here : point = '.' := by
      have stopped := List.head_dropWhile_not (· != '.') (l := text.toList) (by
        rw [found]
        exact List.cons_ne_nil _ _)
      simpa [found] using stopped
    split at done
    · rename_i major minor one other
      cases done
      rw [found, here] at apart
      exact ⟨major, minor, ⟨_, second, apart.symm, readPart?_eq_some.mp one,
        readPart?_eq_some.mp other⟩, rfl⟩
    · cases done
  · rintro ⟨major, minor, ⟨first, second, split, one, other⟩, rfl⟩
    have plain : ∀ one ∈ first, (one != '.') = true := fun character inside =>
      bne_iff_ne.mpr (not_mem_of_isPart one character inside)
    rw [split, List.takeWhile_append_of_pos plain, List.dropWhile_append_of_pos plain,
      List.takeWhile_cons_of_neg (by decide), List.dropWhile_cons_of_neg (by decide),
      List.append_nil]
    dsimp only
    rw [readPart?_eq_some.mpr one, readPart?_eq_some.mpr other]

/-- **Any other text** is named by the error. -/
theorem read_eq_error {text : String} {error : NameError} :
    read text = .error error ↔
      (∀ major minor, ¬ Spells text major minor) ∧ error = .revision text := by
  have named {cause : NameError} (failed : read text = .error cause) : cause = .revision text := by
    unfold read at failed
    dsimp only at failed
    split at failed
    · cases failed
      rfl
    split at failed
    · cases failed
    · cases failed
      rfl
  constructor
  · intro failed
    refine ⟨fun major minor spells => ?_, named failed⟩
    have done := read_eq_ok.mpr ⟨major, minor, spells, rfl⟩
    cases failed.symm.trans done
  · rintro ⟨none, rfl⟩
    cases done : read text with
    | error cause => rw [named done]
    | ok revision =>
      obtain ⟨major, minor, spells, _⟩ := read_eq_ok.mp done
      exact absurd spells (none major minor)

end FirmwareTables.Revision
