/-
**The program.**

`main` reads the arguments, puts the file of the description on a disk, runs the command, prints
what it prints and writes the tables it wrote. A failure is told on standard error, the causes one
after the other.
-/

import FirmwareTables.CommandLine.Outcome

namespace FirmwareTables.CommandLine

/-- The spelled paths that a command reads from or writes to. -/
def Command.paths : Command → List String
  | .dump platform _ => [platform]
  | .build platform out _ => platform :: out.toList
  | _ => []

/-- Puts the file at a path on the disk, if there is one. -/
def loadFile (disk : Disk) (path : String) : IO Disk := do
  try
    let bytes ← IO.FS.readBinFile path
    return disk.add path bytes.toList
  catch _ => return disk

/-- Writes the files that a disk has and another has not. -/
def writeFiles (before after : Disk) : IO Unit := do
  for (path, bytes) in after.files do
    if before.file? path != some bytes then
      if !path.dropLast.isEmpty then IO.FS.createDirAll (Path.toString path.dropLast)
      IO.FS.writeBinFile (Path.toString path) (ByteArray.mk bytes.toArray)

/-- Runs a command on the files that it names; the exit code. -/
def perform (invocation : Invocation) : IO UInt32 := do
  let disk ← invocation.command.paths.foldlM loadFile Disk.empty
  let outcome := invocation.run disk
  IO.print outcome.printed
  writeFiles disk outcome.disk
  match outcome.failure with
  | none => return 0
  | some trail =>
    IO.eprintln ("Error: " ++ ": ".intercalate trail)
    return 1

end FirmwareTables.CommandLine

/-- Runs the command that the arguments ask for. -/
def main (arguments : List String) : IO UInt32 := do
  match FirmwareTables.CommandLine.Invocation.read arguments with
  | .ok invocation => FirmwareTables.CommandLine.perform invocation
  | .error misuse =>
    IO.eprintln misuse.message
    return if misuse = .help ∨ misuse = .version then 0 else 2
