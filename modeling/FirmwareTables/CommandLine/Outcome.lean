/-
**What commands do.**

`Invocation.run` turns a disk into an `Outcome`: what is printed, the disk with the tables that were
written, and, after a failure, the words for it from the outermost to its cause. What was printed or
written before the failure stays.
-/

import FirmwareTables.Bytes.Hex
import FirmwareTables.CommandLine.Arguments
import FirmwareTables.Generator.Registry
import FirmwareTables.Json.Printer
import FirmwareTables.Platform.Application
import FirmwareTables.Platform.Reading

namespace FirmwareTables.CommandLine

/-- The words for a failure, from the outermost to its cause. -/
abbrev Trail := List String

/-- What comes of a command. -/
structure Outcome where
  /-- What is printed. -/
  printed : String
  /-- The disk afterwards. -/
  disk : Disk
  /-- Why the command failed, if it did. -/
  failure : Option Trail

/-- The same result with words for its failure. -/
def withTrail {ε α : Type} (trail : ε → Trail) (result : Except ε α) : Except Trail α :=
  result.mapError trail

/-- The words for an error of the repository. -/
def repositoryTrail (error : RepositoryError) : Trail := [error.message]

/-- Lines, each with its end. -/
def lines (texts : List String) : String := String.join (texts.map fun text => text ++ "\n")

/-- Prints rows as lines, or as one JSON value. -/
def printRows {α : Type} (format : Format) (line : α → String) (tree : α → Tree) (rows : List α) :
    String :=
  match format with
  | .text => lines (rows.map line)
  | .json => lines [(Tree.sequence (rows.map tree)).renderPretty]

/-- A text with blanks after it up to a width. -/
def padded (width : Nat) (text : String) : String :=
  text ++ String.ofList (List.replicate (width - text.length) ' ')

/-- The store of a new manager to which a description is applied. -/
def loadStore (disk : Disk) (path : String) : Except Trail Store := do
  let platform ← withTrail (fun error => s!"loading platform {path}" :: error.trail)
    (Platform.load disk path)
  let (manager, installed) := (Manager.new ()).openInstall
  let _ ← withTrail repositoryTrail installed
  let (applied, manager) := platform.apply manager
  withTrail PlatformError.trail applied
  return manager.configuration.store

/-- Shows the number of instances of each object. -/
def dump (disk : Disk) (format : Format) (path : String) (all : Bool) : Except Trail String := do
  let store ← loadStore disk path
  let counts ← withTrail repositoryTrail store.view.describe.result
  let rows := counts.filter fun (_, count) => all || count != 0
  let heading := match format with
    | .text => lines [s!"Repository for {path}"]
    | .json => ""
  return heading ++ printRows format
    (fun (id, count) => s!"  {id.text}  {padded 40 id.name} {Digits.decimal count}")
    (fun (id, count) =>
      .mapping [("count", .ofNat count), ("id", .text id.text), ("name", .text id.name)])
    rows

/-- Shows the objects that have a name. -/
def names (format : Format) : String :=
  printRows format (fun id => s!"{id.text}  {id.name}")
    (fun id => .mapping [("id", .text id.text), ("name", .text id.name)]) ObjectId.named

/-- Shows the built-in generators. -/
def generators (format : Format) : String :=
  printRows format
    (fun generator =>
      s!"{generator.signature.text}  {generator.id.text}  " ++
      s!"rev {Digits.decimal generator.minRevision.toNat}..=" ++
      s!"{Digits.decimal generator.revision.toNat}  {generator.description}")
    (fun generator => .mapping [("description", .text generator.description),
      ("id", .text generator.id.text), ("min_revision", .ofNat generator.minRevision.toNat),
      ("revision", .ofNat generator.revision.toNat),
      ("signature", .text generator.signature.text)])
    Registry.builtin.generators

/-- A table that was built. -/
structure Built where
  /-- The signature that was asked for. -/
  signature : Signature
  /-- The table. -/
  table : Table
  /-- Where the table was written, if it was. -/
  path : Option String

namespace Built

/-- The header of the table as hexadecimal text. -/
def headerText (built : Built) : String := Bytes.hex (built.table.bytes.take headerLength)

/-- The lines for a table. -/
def line (built : Built) : String :=
  let checksum := (built.table.checksum?.getD 0).toNat
  s!"✓ {built.signature.text} ({Digits.decimal built.table.size} bytes, " ++
  s!"checksum 0x{Digits.renderPadded 16 2 checksum})\n" ++
  match built.path with
  | some path => s!"  wrote {path}"
  | none => s!"  {built.headerText}"

/-- A table as a JSON value. -/
def tree (built : Built) : Tree :=
  .mapping [("checksum", (built.table.checksum?.map fun byte => .ofNat byte.toNat).getD .null),
    ("header", .text built.headerText), ("length", .ofNat built.table.size),
    ("path", (built.path.map .text).getD .null), ("signature", .text built.signature.text)]

end Built

/-- Builds a table and writes it, if there is a directory for it. -/
def buildOne (view : View) (out : Option String) (disk : Disk) (request : TableRequest) :
    Except Trail (Built × Disk) := do
  let signature := request.signature
  let table ← withTrail (fun error => s!"building {signature.text}" :: error.trail)
    (Registry.builtin.build request view).result
  match out with
  | none => return (⟨signature, table, none⟩, disk)
  | some directory =>
    let path := Path.join directory (signature.text ++ ".aml")
    let disk ← withTrail (fun error => [s!"writing {path}", error.message])
      (disk.write path table.bytes)
    return (⟨signature, table, some path⟩, disk)

/-- Builds tables one after the other, up to the first that fails. -/
def buildEach (view : View) (out : Option String) :
    Disk → List TableRequest → List Built × Disk × Option Trail
  | disk, [] => ([], disk, none)
  | disk, request :: requests =>
    match buildOne view out disk request with
    | .error trail => ([], disk, some trail)
    | .ok (built, disk) =>
      let (others, disk, failure) := buildEach view out disk requests
      (built :: others, disk, failure)

/-- The requests for tables of a description, and the disk with the directory for the tables. -/
def prepareBuild (disk : Disk) (store : Store) (out : Option String)
    (signature : Option Signature) : Except Trail (List TableRequest × Disk) := do
  let requests ← withTrail TableError.trail (Registry.requests store.view).result
  let wanted := requests.filter fun request =>
    signature.all fun signature => signature == request.signature
  if wanted.isEmpty then throw ["platform requests no matching tables"]
  match out with
  | none => return (wanted, disk)
  | some directory =>
    let disk ← withTrail (fun error => [s!"creating {directory}", error.message])
      (disk.makeDirectories directory)
    return (wanted, disk)

/-- Builds the tables of a description. -/
def build (disk : Disk) (format : Format) (path : String) (out : Option String)
    (signature : Option Signature) : Outcome :=
  let prepared := do
    let store ← loadStore disk path
    let (requests, disk) ← prepareBuild disk store out signature
    return (store, requests, disk)
  match prepared with
  | .error trail => ⟨"", disk, some trail⟩
  | .ok (store, requests, disk) =>
    let (built, disk, failure) := buildEach store.view out disk requests
    let printed := match format, failure with
      | .json, some _ => ""
      | _, _ => printRows format Built.line Built.tree built
    ⟨printed, disk, failure⟩

/-- Runs a command on a disk. -/
def Invocation.run (invocation : Invocation) (disk : Disk) : Outcome :=
  match invocation.command with
  | .names => ⟨names invocation.format, disk, none⟩
  | .generators => ⟨generators invocation.format, disk, none⟩
  | .dump platform all =>
    match dump disk invocation.format platform all with
    | .ok printed => ⟨printed, disk, none⟩
    | .error trail => ⟨"", disk, some trail⟩
  | .build platform out signature => build disk invocation.format platform out signature

end FirmwareTables.CommandLine
