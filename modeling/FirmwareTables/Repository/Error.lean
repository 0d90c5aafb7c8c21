/-
**Why the repository refuses.**

The causes of a repository error, apart from their wording; `RepositoryError.message` words them.
-/

import FirmwareTables.Identifier.ObjectId
import FirmwareTables.Record.Field

namespace FirmwareTables

/-- What is wrong with what the repository was asked. -/
inductive Refusal where
  /-- The instances under one id are more than a 32-bit number counts. -/
  | countOverflow (id : ObjectId)
  /-- A descriptor of one object was to be stored under the id of another. -/
  | foreignDescriptor (found id : ObjectId)
  /-- A descriptor without payload was to be handed back. -/
  | noPayload (id : ObjectId)
  /-- Bytes do not split into this many items of one size. -/
  | unevenSplit (length items : Nat)
  /-- A list of records is longer than a 32-bit number counts. -/
  | tooMany
  /-- Something that only a text describes. -/
  | other (text : String)
  deriving DecidableEq

/-- The words for a refused request. -/
def Refusal.message : Refusal → String
  | .countOverflow id => s!"instance count overflow for object {id.text}"
  | .foreignDescriptor found id => s!"descriptor for object {found.text} stored under id {id.text}"
  | .noPayload id => s!"descriptor for object {id.text} owns no payload"
  | .unevenSplit length items =>
    s!"{Digits.decimal length} bytes cannot be split into {Digits.decimal items} equal instances"
  | .tooMany => "too many instances"
  | .other text => text

/-- Why a payload is not the records that its descriptor counts. -/
inductive Mismatch where
  /-- One of the records cannot be read. -/
  | instance (index count : Nat) (error : ReadError)
  /-- Bytes are left after all records. -/
  | trailing (length count : Nat)
  /-- Something that only a text describes. -/
  | other (text : String)
  deriving DecidableEq

/-- The words for a payload that is not the records counted. -/
def Mismatch.message : Mismatch → String
  | .instance index count error =>
    s!"instance {Digits.decimal index} of {Digits.decimal count}: {error.message}"
  | .trailing length count =>
    s!"{Digits.decimal length} trailing bytes after {Digits.decimal count} instances"
  | .other text => text

/-- Why an operation on the repository fails. -/
inductive RepositoryError where
  /-- No instance is stored under the id and the token. -/
  | notFound (id : ObjectId) (token : Token)
  /-- The request itself is wrong. -/
  | invalidParameter (refusal : Refusal)
  /-- Memory for this many bytes is lacking. -/
  | outOfResources (length : Nat)
  /-- A payload is not what its descriptor says. -/
  | badBufferSize (id : ObjectId) (mismatch : Mismatch)
  /-- There is no repository yet. -/
  | unsupported
  /-- Nothing can be stored in a snapshot. -/
  | readOnly
  /-- A record has no bytes. -/
  | codec (text : String)
  deriving DecidableEq

namespace RepositoryError

/-- Whether nothing was stored where the operation looked. -/
def isNotFound : RepositoryError → Bool
  | notFound _ _ => true
  | _ => false

/-- Whether the request itself was wrong. -/
def isInvalidParameter : RepositoryError → Bool
  | invalidParameter _ => true
  | _ => false

/-- The words for a failed operation. -/
def message : RepositoryError → String
  | notFound id token => s!"object {id.text} ({id.name}) not found for token {token.text}"
  | invalidParameter refusal => s!"invalid parameter: {refusal.message}"
  | outOfResources length => s!"out of resources: cannot allocate {Digits.decimal length} bytes"
  | badBufferSize id mismatch => s!"bad buffer size for object {id.text}: {mismatch.message}"
  | unsupported => "configuration repository not available"
  | readOnly => "repository snapshot is read-only"
  | codec text => s!"codec error: {text}"

end RepositoryError

end FirmwareTables
