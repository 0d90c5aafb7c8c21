/-
**Nodes and categories.**

The body of a table is a sequence of nodes. A node has a token by which other nodes refer to it, a
size, and a way to write itself into a slice of exactly that size. Nodes come in categories: all
nodes of a category are made from the instances of one object, in the order of the repository.

While a node writes itself it sees the repository, the revision of the table and the `Index` of all
nodes, in which a token stands for the offset of the first node that carries it.
-/

import FirmwareTables.Repository.Reading
import FirmwareTables.Table.Writer

namespace FirmwareTables

/-- Where a node lies in a table. -/
structure IndexEntry where
  /-- The token of the node. -/
  token : Token
  /-- The name of the node's category. -/
  category : String
  /-- Where the node starts. -/
  offset : Nat
  /-- The length of the node. -/
  size : Nat
  deriving DecidableEq

/-- Where all nodes of a table lie, in order. -/
abbrev Index := List IndexEntry

/-- The offset of the first node that carries a token. -/
def Index.resolve (index : Index) (token : Token) : Except TableError Nat :=
  if token.isNull then .error (.notFound .nullReference)
  else
    match index.find? fun entry => entry.token == token with
    | some entry => .ok entry.offset
    | none => .error (.notFound (.node token))

/-- What a node sees while it writes itself. -/
structure Context where
  /-- The repository. -/
  view : View
  /-- Where all nodes lie. -/
  index : Index
  /-- The revision of the table. -/
  revision : UInt8

/-- A node of a table. -/
structure Node where
  /-- The token by which other nodes refer to the node. -/
  token : Token
  /-- The length of the node. -/
  size : Except TableError Nat
  /-- Writes the node into a slice of its size. -/
  write : Context → Writer → Reading TableError Writer

/-- A node that consists of pieces. -/
def Node.ofPieces (token : Token) (size : Nat)
    (pieces : Context → Reading TableError (List Piece)) : Node where
  token := token
  size := .ok size
  write context writer := do
    Reading.ofExcept (writer.putEach (← pieces context))

/-- A category of nodes. -/
structure Category where
  /-- The name of the category. -/
  name : String
  /-- The object whose instances are the nodes. -/
  id : ObjectId
  /-- Whether there has to be a node. -/
  required : Bool
  /-- Whether there may be one node only. -/
  singleton : Bool
  /-- Makes the nodes. -/
  load : View → Reading TableError (List Node)

namespace Category

/-- The category of nodes made from the records of a type, which are checked all together. -/
def ofChecked (α : Type) [Record α] (name : String) (check : List α → Except TableError Unit)
    (node : α → Node) : Category where
  name := name
  id := Record.objectId α
  required := false
  singleton := false
  load view := do
    let records ← (view.getListOrEmpty α .null).mapError .repository
    Reading.ofExcept (check records)
    return records.map node

/-- The category of nodes made from the records of a type. -/
def ofRecords (α : Type) [Record α] (name : String) (node : α → Node) : Category :=
  ofChecked α name (fun _ => .ok ()) node

/-- The same category, in which there has to be a node. -/
def asRequired (category : Category) : Category := { category with required := true }

/-- The same category, in which there may be one node only. -/
def asSingleton (category : Category) : Category := { category with singleton := true }

end Category

end FirmwareTables
