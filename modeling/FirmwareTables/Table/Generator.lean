/-
**Generators of tables.**

A generator builds one kind of table in a range of revisions. Its `Profile` says which; a request
is for the generator if it names the id, the signature and a revision in the range, checked in this
order. A table handed back has to carry the signature of the generator.
-/

import FirmwareTables.Record.Manager
import FirmwareTables.Repository.Reading
import FirmwareTables.Table.Basic
import FirmwareTables.Table.Error

namespace FirmwareTables

/-- What a generator says of itself. -/
structure Profile where
  /-- The id by which requests name the generator. -/
  id : GeneratorId
  /-- A name for readers. -/
  description : String
  /-- The signature of the tables. -/
  signature : Signature
  /-- The latest revision of the tables. -/
  revision : UInt8
  /-- The earliest revision of the tables. -/
  minRevision : UInt8
  /-- Who the tables say made them; by default the four letters ARMH. -/
  creatorId : UInt32 := 0x484d5241
  /-- The revision of the maker. -/
  creatorRevision : Revision := .make 1 0

/-- A generator of tables. -/
structure Generator extends Profile where
  /-- Builds the table that a request asks for, its checksum still open. -/
  build : TableRequest → View → Reading TableError Table

namespace Profile

/-- Whether a request is for the generator. -/
def checkRequest (profile : Profile) (request : TableRequest) : Except TableError Unit :=
  if request.generatorId ≠ profile.id then
    .error (.invalidParameter (.generatorId request.generatorId profile.id))
  else if request.signature ≠ profile.signature then
    .error (.invalidParameter (.signature request.signature profile.signature))
  else if request.revision < profile.minRevision ∨ profile.revision < request.revision then
    .error (.invalidParameter
      (.revision profile.signature request.revision profile.minRevision profile.revision))
  else .ok ()

/-- Takes a table back. -/
def takeBack (profile : Profile) (table : Table) : Except TableError Unit :=
  if table.size < headerLength then
    .error (.invalidParameter (.foreignBytes profile.signature table.size))
  else if table.signature? ≠ some profile.signature then
    .error (.invalidParameter (.foreignTable profile.signature table.signature?))
  else .ok ()

end Profile

end FirmwareTables
