/-
**Building a table by its layout.**

All built-in generators build in the same way: the request is checked, the vendor's record is read,
the nodes are placed and written, and last the header and the few fields of its own that the kind of
table puts between header and nodes.
-/

import FirmwareTables.Layout.Plan
import FirmwareTables.Table.Header

namespace FirmwareTables

/-- A kind of table: who builds it, its nodes, and the fields between header and nodes. -/
structure TableKind extends Profile where
  /-- The nodes. -/
  layout : Layout
  /-- The fields between header and nodes. -/
  fields : Plan → Except TableError (List Piece)

namespace TableKind

/-- Writes the header and the fields of the kind over the front of a table. -/
def writeFront (kind : TableKind) (header : Header) (plan : Plan) (bytes : Bytes) :
    Except TableError Bytes := do
  let fields ← kind.fields plan
  let length := kind.layout.headerLength
  let writer ← (Writer.start (bytes.take length)).putEach (header.pieces ++ fields)
  let front ← writer.finish
  return front ++ bytes.drop length

/-- Builds the table that a request asks for, its checksum still open. -/
def build (kind : TableKind) (request : TableRequest) (view : View) : Reading TableError Table := do
  Reading.ofExcept (kind.checkRequest request)
  let info ← (view.getObject ManagerInfo).mapError .repository
  let plan ← kind.layout.plan view
  let bytes ← plan.populate view request.revision
  let header ← Reading.ofExcept (Header.forRequest kind.toProfile request info bytes.length)
  return ⟨← Reading.ofExcept (kind.writeFront header plan bytes)⟩

/-- The generator of a kind of table. -/
def generator (kind : TableKind) : Generator := { kind.toProfile with build := kind.build }

end TableKind

end FirmwareTables
