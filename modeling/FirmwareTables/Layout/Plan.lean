/-
**Planning and filling a table.**

A `Layout` is a header length, limits and a list of categories. Building goes in two phases.
`Layout.plan` counts and loads the nodes and gives each of them its place: the first node starts
behind the header, every other one where the node before it ends. `Plan.populate` then lets every
node write itself into its slice of a buffer of zeros, at a time when all places are known.
-/

import FirmwareTables.Layout.Node
import FirmwareTables.Text.Quoted

namespace FirmwareTables

/-- How long nodes and tables may be. -/
structure Limits where
  /-- The greatest length of a node. -/
  maxNode : Nat
  /-- The greatest length of a table. -/
  maxTable : Nat
  deriving DecidableEq

/-- Lengths that fit a 16-bit and a 32-bit field. -/
def Limits.usual : Limits := ⟨65535, 4294967295⟩

/-- What a table is made of. -/
structure Layout where
  /-- The length of everything before the first node. -/
  headerLength : Nat
  /-- How long nodes and the table may be. -/
  limits : Limits
  /-- The categories of nodes, in order. -/
  categories : List Category

/-- A node with its place. -/
structure Placed where
  /-- The place. -/
  entry : IndexEntry
  /-- The node. -/
  node : Node

/-- All nodes of a table with their places. -/
structure Plan where
  /-- The length of everything before the first node. -/
  headerLength : Nat
  /-- The length of the table. -/
  totalLength : Nat
  /-- The nodes, in order. -/
  placed : List Placed

/-- A number that has to fit 32 bits. -/
def narrow (value : Nat) : Except TableError Nat :=
  if value ≤ 4294967295 then .ok value else .error (.invalidParameter (.wideOffset value))

namespace Category

/-- Whether a category may have this many nodes. -/
def checkCount (category : Category) (count : Nat) : Except TableError Unit :=
  if category.required ∧ count = 0 then .error (.invalidParameter (.noNodes category.name))
  else if category.singleton ∧ 1 < count then
    .error (.invalidParameter (.notSingle count category.name))
  else .ok ()

/-- The number of nodes of a category. -/
def count (category : Category) (view : View) : Reading TableError Nat := do
  let count ← (view.countOnly category.id).mapError .repository
  Reading.ofExcept (category.checkCount count)
  return count

/-- Places one node at an offset: the node with its place, and where it ends. -/
def place (category : Category) (limits : Limits) (offset : Nat) (node : Node) :
    Except TableError (Placed × Nat) := do
  let size ← node.size
  if limits.maxNode < size then
    throw (.invalidParameter (.longNode category.name size limits.maxNode))
  if limits.maxTable < offset + size then
    throw (.invalidParameter (.longTotal limits.maxTable))
  let start ← narrow offset
  let length ← narrow size
  return (⟨⟨node.token, category.name, start, length⟩, node⟩, offset + size)

/-- Places nodes one behind the other from an offset on: the nodes with their places, and where the
last of them ends. -/
def placeAll (category : Category) (limits : Limits) :
    (offset : Nat) → List Node → Except TableError (List Placed × Nat)
  | offset, [] => .ok ([], offset)
  | offset, node :: nodes => do
    let (first, next) ← category.place limits offset node
    let (rest, last) ← placeAll category limits next nodes
    return (first :: rest, last)

/-- Loads the nodes of a category, as many as were counted. -/
def loadCounted (category : Category) (view : View) (count : Nat) :
    Reading TableError (List Node) := do
  let nodes ← category.load view
  if nodes.length ≠ count then
    .fail (.invalidParameter (.changedCount category.name count nodes.length))
  else return nodes

end Category

namespace Layout

/-- The fields of a layout, its categories by name only. -/
def debugText (layout : Layout) : String :=
  let names := ", ".intercalate (layout.categories.map fun category => Text.quoted category.name)
  s!"LayoutEngine \x7b categories: [{names}], " ++
  s!"header_len: {Digits.decimal layout.headerLength}, " ++
  s!"limits: LayoutLimits \x7b max_node_len: {Digits.decimal layout.limits.maxNode}, " ++
  s!"max_table_len: {Digits.decimal layout.limits.maxTable} \x7d \x7d"

/-- The number of nodes of each category. -/
def count (layout : Layout) (view : View) : Reading TableError (List Nat) :=
  layout.categories.mapM fun category => category.count view

/-- Loads and places the nodes of categories, each with its count, from an offset on. -/
def placeFrom (limits : Limits) (view : View) :
    (offset : Nat) → List (Category × Nat) → Reading TableError (List Placed × Nat)
  | offset, [] => pure ([], offset)
  | offset, (category, count) :: rest =>
    if count = 0 then placeFrom limits view offset rest
    else do
      let nodes ← category.loadCounted view count
      let (first, next) ← Reading.ofExcept (category.placeAll limits offset nodes)
      let (others, last) ← placeFrom limits view next rest
      return (first ++ others, last)

/-- The first phase: every node gets its place. -/
def plan (layout : Layout) (view : View) : Reading TableError Plan := do
  let counts ← layout.count view
  let (placed, last) ←
    placeFrom layout.limits view layout.headerLength (layout.categories.zip counts)
  return ⟨layout.headerLength, last, placed⟩

end Layout

namespace Plan

/-- The number of nodes. -/
def nodeCount (plan : Plan) : Nat := plan.placed.length

/-- Where all nodes lie. -/
def index (plan : Plan) : Index := plan.placed.map Placed.entry

/-- Lets a node write itself into its slice of a buffer. -/
def fill (context : Context) (buffer : Bytes) (placed : Placed) : Reading TableError Bytes := do
  let slice := (buffer.drop placed.entry.offset).take placed.entry.size
  let writer ← placed.node.write context (Writer.start slice)
  let written ← Reading.ofExcept writer.finish
  return buffer.overwrite placed.entry.offset written

/-- The second phase: the table's bytes, everything before the first node still zero. -/
def populate (plan : Plan) (view : View) (revision : UInt8) : Reading TableError Bytes :=
  plan.placed.foldlM (fill ⟨view, plan.index, revision⟩) (Bytes.zeros plan.totalLength)

end Plan

end FirmwareTables
