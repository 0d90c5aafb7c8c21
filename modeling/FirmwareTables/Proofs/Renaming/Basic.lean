/-
**Other names for tokens.**

A `Renaming` gives every token another one, no two tokens the same, and leaves the null token as it
is. It acts on whatever holds tokens: on records through the fields of their rows, and on errors
through the tokens that they mention. A record whose bytes can be read stays one
(`isReadable_record`), a record without tokens stays the same (`record_of_plain`), and an error
stays of its kind (`sameKind_tableError`).

`Mirrors change related` says of two outcomes that they are values that are `related`, or an error
and what `change` makes of it. It goes through a sequence of steps by `Mirrors.bind` and its like,
so that two runs of one program on related inputs need no more than a look at each of its steps.
-/

import FirmwareTables.Proofs.Outcome
import FirmwareTables.Proofs.Record.Spelling
import FirmwareTables.Table.Error

namespace FirmwareTables

/-! ### Renamings -/

/-- Other names for tokens. -/
structure Renaming where
  /-- The number of the other token. -/
  raw : UInt64 → UInt64
  /-- No two tokens get the same name. -/
  injective : Function.Injective raw
  /-- The null token keeps its name. -/
  zero : raw 0 = 0

namespace Renaming

variable (names : Renaming)

/-- The other name of a token. -/
def token (token : Token) : Token := ⟨names.raw token.raw⟩

@[simp] theorem token_null : names.token .null = .null := congrArg Token.mk names.zero

theorem token_injective : Function.Injective names.token := by
  rintro ⟨first⟩ ⟨second⟩ same
  exact congrArg Token.mk (names.injective (Token.mk.inj same))

@[simp] theorem token_beq (first second : Token) :
    (names.token first == names.token second) = (first == second) := by
  by_cases same : first = second
  · rw [same, beq_self_eq_true, beq_self_eq_true]
  · rw [beq_false_of_ne same, beq_false_of_ne fun absurd => same (names.token_injective absurd)]

@[simp] theorem isNull_token (token : Token) : (names.token token).isNull = token.isNull := by
  have same := names.token_beq token .null
  rwa [token_null] at same

/-! ### Records -/

/-- A value whose tokens have other names. -/
def value : (kind : Kind) → kind.Value → kind.Value
  | .token, value => names.token value
  | .byte, value => value
  | .half, value => value
  | .word, value => value
  | .long, value => value
  | .revision, value => value
  | .oemId, value => value
  | .text, value => value
  | .signature, value => value
  | .generator, value => value

/-- A row whose tokens have other names. -/
def row : {fields : List Field} → Row fields → Row fields
  | [], () => ()
  | field :: _, (value, rest) => (names.value field.kind value, row rest)

variable {α : Type} [Record α]

/-- A record whose tokens have other names. -/
def record (record : α) : α := Record.ofRow (names.row (Record.toRow record))

theorem isReadable_value {kind : Kind} {value : kind.Value} (readable : kind.IsReadable value) :
    kind.IsReadable (names.value kind value) := by
  cases kind <;> exact readable

theorem isReadable_row {fields : List Field} {row : Row fields} (readable : row.IsReadable) :
    (names.row row).IsReadable := by
  induction fields with
  | nil => exact readable
  | cons field fields ih => exact ⟨names.isReadable_value readable.1, ih readable.2⟩

/-- A record that can be read can be read under its other names. -/
theorem isReadable_record {record : α} (readable : Record.IsReadable record) :
    Record.IsReadable (names.record record) := by
  unfold Record.IsReadable Renaming.record
  rw [Record.toRow_ofRow]
  exact names.isReadable_row readable

/-- Fields none of which is a token. -/
def ArePlain (fields : List Field) : Prop := ∀ field ∈ fields, field.kind ≠ .token

instance (fields : List Field) : Decidable (ArePlain fields) :=
  inferInstanceAs (Decidable (∀ field ∈ fields, field.kind ≠ .token))

theorem value_of_plain {kind : Kind} (plain : kind ≠ .token) (value : kind.Value) :
    names.value kind value = value := by
  cases kind with
  | token => exact absurd rfl plain
  | byte | half | word | long | revision | oemId | text | signature | generator => rfl

theorem row_of_plain {fields : List Field} (plain : ArePlain fields) (row : Row fields) :
    names.row row = row := by
  induction fields with
  | nil => rfl
  | cons field fields ih =>
    obtain ⟨first, others⟩ := List.forall_mem_cons.mp plain
    obtain ⟨value, rest⟩ := row
    exact Prod.ext (names.value_of_plain first value) (ih others rest)

/-- A record without tokens has no other names. -/
theorem record_of_plain (plain : ArePlain (Record.fields α)) (record : α) :
    names.record record = record := by
  unfold Renaming.record
  rw [names.row_of_plain plain, Record.ofRow_toRow]

/-! ### Errors -/

/-- An error of the repository, told with the other names. -/
def repositoryError : RepositoryError → RepositoryError
  | .notFound id token => .notFound id (names.token token)
  | error => error

/-- What is missing, told with the other names. -/
def missing : Missing → Missing
  | .node token => .node (names.token token)
  | .items count what token found => .items count what (names.token token) found
  | .handle token => .handle (names.token token)
  | missing => missing

/-- An error of a build, told with the other names. -/
def tableError : TableError → TableError
  | .notFound missing => .notFound (names.missing missing)
  | .repository error => .repository (names.repositoryError error)
  | error => error

@[simp] theorem isNotFound_repositoryError (error : RepositoryError) :
    (names.repositoryError error).isNotFound = error.isNotFound := by
  cases error <;> rfl

end Renaming

/-- Errors of the repository of one kind. -/
def RepositoryError.SameKind : RepositoryError → RepositoryError → Prop
  | .notFound _ _, .notFound _ _ => True
  | .invalidParameter _, .invalidParameter _ => True
  | .outOfResources _, .outOfResources _ => True
  | .badBufferSize _ _, .badBufferSize _ _ => True
  | .unsupported, .unsupported => True
  | .readOnly, .readOnly => True
  | .codec _, .codec _ => True
  | _, _ => False

/-- Errors of builds of one kind, also in what caused them. -/
def TableError.SameKind : TableError → TableError → Prop
  | .notFound _, .notFound _ => True
  | .invalidParameter _, .invalidParameter _ => True
  | .outOfResources _, .outOfResources _ => True
  | .badBufferSize _, .badBufferSize _ => True
  | .unsupported _, .unsupported _ => True
  | .repository cause, .repository other => cause.SameKind other
  | _, _ => False

/-- An error told with other names is one of the same kind. -/
theorem Renaming.sameKind_tableError (names : Renaming) (error : TableError) :
    error.SameKind (names.tableError error) := by
  cases error with
  | repository cause => cases cause <;> exact trivial
  | notFound | invalidParameter | outOfResources | badBufferSize | unsupported => exact trivial

/-! ### Two runs side by side -/

/-- Two outcomes are related values, or an error and what a change makes of it. -/
def Mirrors {ε α β : Type} (change : ε → ε) (related : α → β → Prop) :
    Except ε α → Except ε β → Prop
  | .ok value, .ok other => related value other
  | .error error, .error other => other = change error
  | _, _ => False

namespace Mirrors

variable {ε δ α β γ κ : Type} {change : ε → ε} {related : α → β → Prop} {later : γ → κ → Prop}
  {one : Except ε α} {other : Except ε β}

/-- What does not fail, or fails in a way that a change leaves alone, mirrors itself. -/
theorem refl {outcome : Except ε α} (fixed : Meets (fun _ => True) (fun error => change error = error)
    outcome) : Mirrors change Eq outcome outcome := by
  cases outcome with
  | ok value => exact (rfl : value = value)
  | error error => exact Eq.symm fixed

theorem mono {wider : α → β → Prop} (both : Mirrors change related one other)
    (values : ∀ value partner, related value partner → wider value partner) :
    Mirrors change wider one other := by
  cases one <;> cases other
  · exact both
  · exact both
  · exact both
  · exact values _ _ both

theorem bind {next : α → Except ε γ} {following : β → Except ε κ}
    (both : Mirrors change related one other)
    (rest : ∀ value partner, related value partner →
      Mirrors change later (next value) (following partner)) :
    Mirrors change later (one >>= next) (other >>= following) := by
  cases one <;> cases other
  · exact both
  · exact both.elim
  · exact both.elim
  · exact rest _ _ both

/-- A step that gives the same value on both sides. -/
theorem bind_same {other : Except ε α} {next : α → Except ε γ} {following : α → Except ε κ}
    (both : Mirrors change Eq one other)
    (rest : ∀ value, Mirrors change later (next value) (following value)) :
    Mirrors change later (one >>= next) (other >>= following) := by
  refine both.bind fun value partner same => ?_
  rw [← same]
  exact rest value

theorem mapError {changed : δ → δ} {wrap : ε → δ}
    (both : Mirrors change related one other)
    (wraps : ∀ error, changed (wrap error) = wrap (change error)) :
    Mirrors changed related (one.mapError wrap) (other.mapError wrap) := by
  cases one <;> cases other
  · exact (congrArg wrap both).trans (wraps _).symm
  · exact both.elim
  · exact both.elim
  · exact both

/-- Steps that mirror each other one by one do so as lists of steps. -/
theorem mapM {step : α → Except ε γ} {partner : β → Except ε κ} {items : List α} {others : List β}
    (all : List.Forall₂ related items others)
    (steps : ∀ item other, related item other → Mirrors change later (step item) (partner other)) :
    Mirrors change (List.Forall₂ later) (items.mapM step) (others.mapM partner) := by
  induction all with
  | nil => exact List.Forall₂.nil
  | cons here _ ih =>
    rw [List.mapM_cons, List.mapM_cons]
    refine (steps _ _ here).bind fun value partner first => ?_
    exact ih.bind fun values partners rest => List.Forall₂.cons first rest

/-- Steps on a common state mirror each other one after the other. -/
theorem foldlM {step : γ → α → Except ε γ} {partner : γ → β → Except ε γ} {items : List α}
    {others : List β} (all : List.Forall₂ related items others)
    (steps : ∀ item other, related item other → ∀ state,
      Mirrors change Eq (step state item) (partner state other)) (start : γ) :
    Mirrors change Eq (items.foldlM step start) (others.foldlM partner start) := by
  induction all generalizing start with
  | nil => exact (rfl : start = start)
  | cons here _ ih =>
    rw [List.foldlM_cons, List.foldlM_cons]
    exact (steps _ _ here start).bind_same ih

/-- Outcomes that mirror each other in equal values are one outcome, its error changed. -/
theorem eq_mapError {other : Except ε α} (both : Mirrors change Eq one other) :
    other = one.mapError change := by
  cases one <;> cases other
  · exact congrArg Except.error both
  · exact both.elim
  · exact both.elim
  · exact congrArg Except.ok (Eq.symm both)

end Mirrors

/-- What the repository tells both sides, as a step of a build. -/
theorem Mirrors.repository {names : Renaming} {α β : Type} {related : α → β → Prop}
    {one : Except RepositoryError α} {other : Except RepositoryError β}
    (both : Mirrors names.repositoryError related one other) :
    Mirrors names.tableError related (one.mapError .repository) (other.mapError .repository) :=
  both.mapError fun _ => rfl

end FirmwareTables
