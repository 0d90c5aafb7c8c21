/-
**Why a platform description is refused.**

The causes, apart from their wording. `PlatformError.message` words them, and `PlatformError.trail`
puts the cause of an error behind it. In the eyes of the repository every error of a description is
a wrong request, unless it came from the repository itself.
-/

import FirmwareTables.Disk
import FirmwareTables.Repository.Error
import FirmwareTables.Text.Quoted

namespace FirmwareTables

/-- What is wrong with a section. -/
inductive InvalidSection where
  /-- The vendor's id does not fit six ASCII characters. -/
  | oemId (text : String)
  /-- A revision cannot be read. -/
  | revision (error : NameError)
  /-- A node has no name. -/
  | unnamed
  deriving DecidableEq

/-- The words for a wrong section. -/
def InvalidSection.message : InvalidSection → String
  | oemId text => s!"OEM id {Text.quoted text} must be at most 6 ASCII characters"
  | revision error => error.message
  | unnamed => "IORT node without a name"

/-- Why a description is refused. -/
inductive PlatformError where
  /-- The file cannot be read. -/
  | disk (error : DiskError)
  /-- The text is no description. -/
  | malformed
  /-- A section is wrong. -/
  | invalid (cause : InvalidSection)
  /-- No node has a name that is referred to. -/
  | unknownReference (name : String)
  /-- Two nodes have one name. -/
  | duplicateName (name : String)
  /-- The repository refused. -/
  | repository (error : RepositoryError)
  deriving DecidableEq

namespace PlatformError

/-- The words for a refused description. -/
def message : PlatformError → String
  | disk error => s!"I/O error: {error.message}"
  | malformed => "TOML parse error"
  | invalid cause => s!"invalid platform description: {cause.message}"
  | unknownReference name => s!"unknown node reference: {name}"
  | duplicateName name => s!"duplicate node name: {name}"
  | repository error => s!"repository error: {error.message}"

/-- The words for a refused description and for what caused it. -/
def trail (error : PlatformError) : List String :=
  match error with
  | disk cause => [error.message, cause.message]
  | repository cause => [error.message, cause.message]
  | _ => [error.message]

/-- The same error as one of the repository. -/
def toRepositoryError : PlatformError → RepositoryError
  | repository error => error
  | error => .invalidParameter (.other error.message)

end PlatformError

end FirmwareTables
