/-
**The registry of generators, and building what is requested.**

A registry keeps generators in the order in which they were registered, no two with one id. A
request is built by the generator whose id it names, and the table's checksum is closed last.
-/

import FirmwareTables.Generator.Iort
import FirmwareTables.Generator.Madt
import FirmwareTables.Generator.Mcfg
import FirmwareTables.Generator.Srat

namespace FirmwareTables

/-- Generators, in the order in which they were registered. -/
structure Registry where
  /-- The generators. -/
  generators : List Generator

namespace Registry

/-- The registry without generators. -/
def empty : Registry := ⟨[]⟩

/-- The generator with an id. -/
def find? (registry : Registry) (id : GeneratorId) : Option Generator :=
  registry.generators.find? fun generator => generator.id == id

/-- The first generator of tables with a signature. -/
def findSignature? (registry : Registry) (signature : Signature) : Option Generator :=
  registry.generators.find? fun generator => generator.signature == signature

/-- Adds a generator, whose id has to be new. -/
def register (registry : Registry) (generator : Generator) : Except TableError Registry :=
  match registry.find? generator.id with
  | some _ => .error (.invalidParameter (.generatorTaken generator.id))
  | none => .ok ⟨registry.generators ++ [generator]⟩

/-- Takes out the generator with an id. -/
def deregister (registry : Registry) (id : GeneratorId) :
    Except TableError (Generator × Registry) :=
  match registry.find? id with
  | some generator =>
    .ok (generator, ⟨registry.generators.eraseP fun generator => generator.id == id⟩)
  | none => .error (.notFound (.generator id))

/-- The built-in generators. -/
def builtin : Registry :=
  ⟨[Iort.kind.generator, Mcfg.kind.generator, Madt.kind.generator, Srat.kind.generator]⟩

/-- The ids of all generators. -/
def debugText (registry : Registry) : String :=
  "[" ++ ", ".intercalate (registry.generators.map fun generator => generator.id.debugText) ++ "]"

/-- The tables that a repository requests. -/
def requests (view : View) : Reading TableError (List TableRequest) :=
  (view.getList TableRequest .null).mapError .repository

/-- Builds one table. -/
def build (registry : Registry) (request : TableRequest) (view : View) :
    Reading TableError Table :=
  match registry.find? request.generatorId with
  | some generator => do return (← generator.build request view).finalize
  | none => .fail (.notFound (.generator request.generatorId))

/-- Builds all tables that a repository requests, in order. -/
def buildAll (registry : Registry) (view : View) : Reading TableError (List Table) := do
  (← requests view).mapM fun request => registry.build request view

/-- Builds all tables that an installed manager's repository requests. -/
def buildInstalled (registry : Registry) (installed : Bool) (view : View) :
    Reading TableError (List Table) :=
  if installed then registry.buildAll view
  else .fail (.unsupported "configuration manager is not installed")

end Registry

end FirmwareTables
