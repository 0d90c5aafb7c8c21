/-
**Spellings that are read back.**

Digits of a number, written as characters, are digits of the same number again, with any number of
zeros in front (`read?_spelling`), and nothing but the spelling of a number is read as one
(`read?_eq_some`). Neither trimming nor making capitals small changes characters of which none is
blank or a capital (`trim_eq`, `lowerAscii_eq`); trimming takes off exactly the blank characters
around others (`exists_trim`, `trim_padded`). ASCII characters are encoded by one byte each
(`Utf8.encode_ascii`), and only they by bytes below 128 (`Utf8.ascii_iff`).
-/

import FirmwareTables.Text.Blank
import FirmwareTables.Text.Digits
import FirmwareTables.Text.Utf8

namespace FirmwareTables

/-! ### Digits -/

namespace Digits

theorem ofNat_ne_nil (base number : Nat) : ofNat base number ≠ [] := by
  unfold ofNat
  split
  · exact List.cons_ne_nil _ _
  · exact List.append_ne_nil_of_right_ne_nil _ (List.cons_ne_nil _ _)

theorem ofNat_lt {base : Nat} (least : 2 ≤ base) (number : Nat) :
    ∀ digit ∈ ofNat base number, digit < base := by
  fun_induction ofNat base number with
  | case1 number small =>
    intro digit inside
    rw [List.mem_singleton.mp inside]
    omega
  | case2 number large ih =>
    intro digit inside
    rcases List.mem_append.mp inside with inside | inside
    · exact ih digit inside
    · rw [List.mem_singleton.mp inside]
      exact Nat.mod_lt _ (by omega)

/-- The number of digits is small where the number is. -/
theorem length_ofNat_le {base : Nat} (least : 2 ≤ base) {number width : Nat}
    (small : number < Nat.pow base (width + 1)) : (ofNat base number).length ≤ width + 1 := by
  induction width generalizing number with
  | zero =>
    have single : number < base := Nat.lt_of_lt_of_eq small (Nat.pow_one base)
    unfold ofNat
    rw [if_pos (.inl single)]
    exact Nat.le_refl 1
  | succ width ih =>
    unfold ofNat
    split
    · exact Nat.le_add_left 1 _
    · rw [List.length_append, List.length_singleton]
      exact Nat.succ_le_succ (ih ((Nat.div_lt_iff_lt_mul (by omega)).mpr small))

/-- Zeros in front do not count. -/
theorem toNat_zeros (base count : Nat) (digits : List Nat) :
    toNat base (List.replicate count 0 ++ digits) = toNat base digits := by
  induction count with
  | zero => rfl
  | succ count ih =>
    rw [List.replicate_succ, List.cons_append, ← ih]
    unfold toNat
    rw [List.foldl_cons, Nat.zero_mul]

/-- The characters of digits below sixteen, one by one. -/
theorem value?_character : ∀ digit < 16, value? (character digit) = some digit ∧
    character digit ≠ '+' ∧ Text.isBlank (character digit) = false ∧
      (character digit).toLower = character digit ∧ (character digit).toNat < 128 := by
  decide

theorem mapM_valueIn? {base : Nat} (most : base ≤ 16) {digits : List Nat}
    (below : ∀ digit ∈ digits, digit < base) :
    (digits.map character).mapM (valueIn? base) = some digits := by
  induction digits with
  | nil => rfl
  | cons digit digits ih =>
    have here := below digit List.mem_cons_self
    have one : valueIn? base (character digit) = some digit := by
      unfold valueIn?
      rw [(value?_character digit (Nat.lt_of_lt_of_le here most)).1]
      exact if_pos (decide_eq_true here)
    rw [List.map_cons, List.mapM_cons, one,
      ih fun other inside => below other (List.mem_cons_of_mem _ inside)]
    rfl

/-- **Digits are read back**, if the number is within the limit. -/
theorem read?_spelling {base limit : Nat} (most : base ≤ 16) {digits : List Nat}
    (some : digits ≠ []) (below : ∀ digit ∈ digits, digit < base)
    (within : toNat base digits ≤ limit) :
    read? base limit (digits.map character) = .some (toNat base digits) := by
  obtain ⟨first, rest, rfl⟩ := List.exists_cons_of_ne_nil some
  have unsigned := (value?_character first
    (Nat.lt_of_lt_of_le (below first List.mem_cons_self) most)).2.1
  have read : readDigits? base ((first :: rest).map character) =
      .some (toNat base (first :: rest)) := by
    unfold readDigits?
    rw [mapM_valueIn? most below]
    rfl
  unfold read?
  split
  · rename_i front same
    exact absurd (List.cons.inj same).1 unsigned
  · dsimp only
    rw [read]
    exact if_pos (decide_eq_true within)

/-- A digit of base ten is the character of its value. -/
theorem character_of_valueIn? {one : Char} {digit : Nat} (read : valueIn? 10 one = some digit) :
    digit < 10 ∧ one = character digit := by
  unfold valueIn? at read
  obtain ⟨value, below⟩ := Option.filter_eq_some_iff.mp read
  have small : digit < 10 := of_decide_eq_true below
  refine ⟨small, ?_⟩
  -- Letters have values from ten on.
  have figure : 48 ≤ one.toNat ∧ one.toNat = digit + 48 := by
    unfold value? at value
    dsimp only at value
    split at value
    · cases value
      omega
    split at value
    · cases value
      omega
    split at value
    · cases value
      omega
    · cases value
  unfold character
  rw [if_pos small, ← figure.2, Char.ofNat_toNat]

theorem mapM_valueIn?_eq_some {characters : List Char} {digits : List Nat} :
    characters.mapM (valueIn? 10) = some digits ↔
      characters = digits.map character ∧ ∀ digit ∈ digits, digit < 10 := by
  constructor
  · intro read
    induction characters generalizing digits with
    | nil =>
      cases read
      exact ⟨rfl, fun _ absurd => nomatch absurd⟩
    | cons one characters ih =>
      rw [List.mapM_cons] at read
      obtain ⟨first, here, read⟩ := Option.bind_eq_some_iff.mp read
      obtain ⟨others, there, same⟩ := Option.bind_eq_some_iff.mp read
      cases same
      obtain ⟨small, rfl⟩ := character_of_valueIn? here
      obtain ⟨rfl, below⟩ := ih there
      exact ⟨rfl, List.forall_mem_cons.mpr ⟨small, below⟩⟩
  · rintro ⟨rfl, below⟩
    exact mapM_valueIn? (by decide) below

/-- Decimal digits, at least one, that spell a number; a plus sign may stand in front. -/
def IsDecimal (characters : List Char) (number : Nat) : Prop :=
  ∃ sign digits, (sign = [] ∨ sign = ['+']) ∧ characters = sign ++ digits.map character ∧
    digits ≠ [] ∧ (∀ digit ∈ digits, digit < 10) ∧ toNat 10 digits = number

theorem readDigits?_eq_some {characters : List Char} {number : Nat} :
    readDigits? 10 characters = some number ↔ ∃ digits, characters = digits.map character ∧
      digits ≠ [] ∧ (∀ digit ∈ digits, digit < 10) ∧ toNat 10 digits = number := by
  unfold readDigits?
  constructor
  · intro read
    split at read
    · cases read
    rename_i some
    obtain ⟨digits, mapped, rfl⟩ := Option.map_eq_some_iff.mp read
    obtain ⟨rfl, below⟩ := mapM_valueIn?_eq_some.mp mapped
    refine ⟨digits, rfl, ?_, below, rfl⟩
    rintro rfl
    exact some rfl
  · rintro ⟨digits, rfl, some, below, rfl⟩
    have none : (digits.map character).isEmpty = false := by
      cases digits with
      | nil => exact absurd rfl some
      | cons first rest => rfl
    rw [none, mapM_valueIn? (by decide) below]
    rfl

/-- **What is read as a decimal number** is its spelling, and within the limit. -/
theorem read?_eq_some {limit number : Nat} {characters : List Char} :
    read? 10 limit characters = some number ↔ IsDecimal characters number ∧ number ≤ limit := by
  unfold read?
  rw [Option.filter_eq_some_iff, decide_eq_true_iff]
  refine and_congr_left fun _ => ?_
  split
  · rename_i rest
    rw [readDigits?_eq_some]
    constructor
    · rintro ⟨digits, rfl, whole⟩
      exact ⟨['+'], digits, .inr rfl, rfl, whole⟩
    · rintro ⟨sign, digits, rfl | rfl, same, some, below, spelled⟩
      · -- A digit is no plus sign.
        obtain ⟨first, digits, rfl⟩ := List.exists_cons_of_ne_nil some
        have unsigned := (value?_character first
          (Nat.lt_of_lt_of_le (below first List.mem_cons_self) (by decide))).2.1
        exact absurd (List.cons.inj same).1.symm unsigned
      · cases same
        exact ⟨digits, rfl, some, below, spelled⟩
  · rename_i unsigned
    rw [readDigits?_eq_some]
    constructor
    · rintro ⟨digits, rfl, whole⟩
      exact ⟨[], digits, .inl rfl, rfl, whole⟩
    · rintro ⟨sign, digits, rfl | rfl, same, whole⟩
      · exact ⟨digits, same, whole⟩
      · exact absurd same (unsigned _)

end Digits

/-! ### Trimming -/

namespace Text

theorem dropWhile_eq {characters : List Char} (ink : ∀ one ∈ characters, isBlank one = false) :
    characters.dropWhile isBlank = characters := by
  cases characters with
  | nil => rfl
  | cons first rest => exact List.dropWhile_cons_of_neg (Bool.eq_false_iff.mp (ink first (.head _)))

theorem trim_eq {characters : List Char} (ink : ∀ one ∈ characters, isBlank one = false) :
    trim characters = characters := by
  unfold trim
  rw [dropWhile_eq ink, dropWhile_eq fun one inside => ink one (List.mem_reverse.mp inside),
    List.reverse_reverse]

theorem lowerAscii_eq {characters : List Char} (small : ∀ one ∈ characters, one.toLower = one) :
    lowerAscii characters = characters := by
  unfold lowerAscii
  rw [List.map_congr_left small, List.map_id']

/-- Trimming leaves out nothing but blank characters. -/
theorem exists_trim (characters : List Char) : ∃ front back,
    characters = front ++ trim characters ++ back ∧
      (∀ one ∈ front, isBlank one = true) ∧ ∀ one ∈ back, isBlank one = true := by
  have blank (list : List Char) : ∀ one ∈ list.takeWhile isBlank, isBlank one = true :=
    List.all_eq_true.mp List.all_takeWhile
  refine ⟨characters.takeWhile isBlank,
    ((characters.dropWhile isBlank).reverse.takeWhile isBlank).reverse, ?_, blank _,
    fun one inside => blank _ one (List.mem_reverse.mp inside)⟩
  unfold trim
  rw [List.append_assoc, ← List.reverse_append, List.takeWhile_append_dropWhile,
    List.reverse_reverse, List.takeWhile_append_dropWhile]

/-- **Blank characters around others** are trimmed off. -/
theorem trim_padded {front core back : List Char} (before : ∀ one ∈ front, isBlank one = true)
    (behind : ∀ one ∈ back, isBlank one = true) (ink : ∀ one ∈ core, isBlank one = false) :
    trim (front ++ core ++ back) = core := by
  unfold trim
  rw [List.append_assoc, List.dropWhile_append_of_pos before]
  cases core with
  | nil =>
    have none : back.dropWhile isBlank = [] := by
      rw [← List.append_nil back, List.dropWhile_append_of_pos behind]
      rfl
    rw [List.nil_append, none]
    rfl
  | cons first rest =>
    have start : ¬ isBlank first = true := Bool.eq_false_iff.mp (ink first List.mem_cons_self)
    rw [List.cons_append, List.dropWhile_cons_of_neg start, ← List.cons_append, List.reverse_append,
      List.dropWhile_append_of_pos fun one inside => behind one (List.mem_reverse.mp inside),
      dropWhile_eq fun one inside => ink one (List.mem_reverse.mp inside), List.reverse_reverse]

end Text

/-! ### ASCII -/

namespace Utf8

theorem encode_append (first second : String) :
    encode (first ++ second) = encode first ++ encode second := by
  unfold encode
  rw [String.toByteArray_append, ByteArray.data_append, Array.toList_append]

theorem encode_ofList (characters : List Char) :
    encode (String.ofList characters) = characters.flatMap String.utf8EncodeChar := by
  unfold encode
  rw [String.toByteArray_ofList]
  simp [List.utf8Encode]

theorem utf8EncodeChar_ascii {character : Char} (ascii : character.toNat < 128) :
    String.utf8EncodeChar character = [UInt8.ofNat character.toNat] := by
  rw [String.utf8EncodeChar]
  exact if_pos (Nat.le_of_lt_succ ascii)

/-- **ASCII characters** are encoded by one byte each. -/
theorem encode_ascii {characters : List Char} (ascii : ∀ one ∈ characters, one.toNat < 128) :
    encode (String.ofList characters) = characters.map fun one => UInt8.ofNat one.toNat := by
  rw [encode_ofList]
  induction characters with
  | nil => rfl
  | cons first rest ih =>
    rw [List.flatMap_cons, utf8EncodeChar_ascii (ascii first List.mem_cons_self),
      ih fun one inside => ascii one (List.mem_cons_of_mem _ inside)]
    rfl

/-- Other characters end with an octet that continues them. -/
theorem exists_wide {character : Char} (wide : 128 ≤ character.toNat) :
    ∃ octet ∈ String.utf8EncodeChar character, (0x80 : UInt8) ≤ octet := by
  have whole : character.val.toNat = character.toNat := rfl
  refine ⟨UInt8.ofNat (character.toNat % 64 + 128), ?_, ?_⟩
  · rw [String.utf8EncodeChar]
    rw [whole, if_neg (by omega)]
    split
    · exact List.mem_cons_of_mem _ List.mem_cons_self
    split
    · exact List.mem_cons_of_mem _ (List.mem_cons_of_mem _ List.mem_cons_self)
    · exact List.mem_cons_of_mem _
        (List.mem_cons_of_mem _ (List.mem_cons_of_mem _ List.mem_cons_self))
  · rw [UInt8.le_iff_toNat_le, UInt8.toNat_ofNat']
    show 128 ≤ _
    omega

/-- **Octets below 128** are those of ASCII characters. -/
theorem ascii_iff {text : String} :
    (∀ octet ∈ encode text, octet < 0x80) ↔ ∀ one ∈ text.toList, one.toNat < 128 := by
  have whole := encode_ofList text.toList
  rw [String.ofList_toList] at whole
  rw [whole]
  constructor
  · intro narrow one inside
    refine Nat.lt_of_not_le fun wide => ?_
    obtain ⟨octet, member, high⟩ := exists_wide wide
    exact UInt8.not_lt.mpr high (narrow octet (List.mem_flatMap.mpr ⟨one, inside, member⟩))
  · intro ascii octet inside
    obtain ⟨one, member, here⟩ := List.mem_flatMap.mp inside
    rw [utf8EncodeChar_ascii (ascii one member)] at here
    rw [List.mem_singleton.mp here, UInt8.lt_iff_toNat_lt, UInt8.toNat_ofNat',
      Nat.mod_eq_of_lt (Nat.lt_trans (ascii one member) (by decide))]
    exact ascii one member

end Utf8

end FirmwareTables
