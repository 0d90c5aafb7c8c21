/-
**Files and directories.**

A disk knows the files and directories that matter. A path is a list of names that lead from the
working directory, or from the root if the first is a slash. Blank names and single dots stay where
they are, two dots go back, and every directory on the way has to be there. The root and its usual
directories, the working directory and the directories that it is in are always there, and so is a
file that holds nothing whatever is written to it.

* `Disk.read` and `Disk.write` look up every name of a path;
* `Disk.make` makes one directory, for which blank names at the end of its path do not count;
* `Disk.makeDirectories` makes the directories above a path only if one of them is not there, and
  leaves out blank names and single dots in doing so.
-/

import FirmwareTables.Bytes.LittleEndian

namespace FirmwareTables

/-- Why a file or a directory cannot be used. -/
inductive DiskError where
  /-- There is nothing at the path. -/
  | absent
  /-- There is a file where a directory was to be made. -/
  | taken
  /-- The path goes through a file. -/
  | notDirectory
  /-- There is a directory where a file was to be. -/
  | isDirectory
  /-- A name or a path is too long. -/
  | nameTooLong
  /-- There is a zero character in the path. -/
  | zeroCharacter
  /-- The file is no text. -/
  | notText
  deriving DecidableEq

/-- The words for a file or a directory that cannot be used. -/
def DiskError.message : DiskError → String
  | absent => "No such file or directory (os error 2)"
  | taken => "File exists (os error 17)"
  | notDirectory => "Not a directory (os error 20)"
  | isDirectory => "Is a directory (os error 21)"
  | nameTooLong => "File name too long (os error 36)"
  | zeroCharacter => "file name contained an unexpected NUL byte"
  | notText => "stream did not contain valid UTF-8"

/-- The names that lead to a file or a directory. -/
abbrev Path := List String

namespace Path

/-- The names in a spelled path. -/
def ofString (text : String) : Path :=
  let names := (text.toList.splitOn '/').map String.ofList
  if text.toList.head? == some '/' then "/" :: names else names

/-- The most bytes in a name. -/
def nameLimit : Nat := 255

/-- The most bytes in a spelled path. -/
def spellingLimit : Nat := 4095

/-- The names in a spelled path, if it can be looked up at all. -/
def read (text : String) : Except DiskError Path :=
  if text.toList.contains '\x00' then .error .zeroCharacter
  else if spellingLimit < text.utf8ByteSize then .error .nameTooLong
  else if text.isEmpty then .error .absent
  else .ok (ofString text)

/-- A path without the blank names at its end. -/
def withoutEnd (names : Path) : Path := (names.reverse.dropWhile (· == "")).reverse

/-- The paths above a path, the nearest first: its beginnings, where blank names and all single dots
but a first one do not count. -/
def above (names : Path) : List Path :=
  let names := names.take 1 ++ (names.drop 1).filter fun name => name != "" && name != "."
  ((List.range names.length).drop 1).reverse.map names.take

/-- Whether a path stays within the working directory. -/
def isInside (names : Path) : Bool :=
  names.head?.all fun name => name != "/" && name != ".."

/-- The spelling of a path. -/
def toString : Path → String
  | "/" :: names => "/" ++ "/".intercalate names
  | names => "/".intercalate names

/-- Where a name leads to from a directory. -/
def step (directory : Path) (name : String) : Path :=
  if name == "" || name == "." then directory
  else if name == ".." then
    match directory.getLast? with
    | none => [".."]
    | some ".." => directory ++ [".."]
    | some "/" => directory
    | some _ => directory.dropLast
  else directory ++ [name]

/-- A spelled path with a name after it. -/
def join (directory name : String) : String :=
  if directory.isEmpty || directory.toList.getLast? == some '/' then directory ++ name
  else directory ++ "/" ++ name

end Path

/-- Files and directories. -/
structure Disk where
  /-- The files with what they hold. -/
  files : List (Path × Bytes)
  /-- The directories, apart from those that are always there. -/
  directories : List Path

namespace Disk

/-- The disk with nothing on it. -/
def empty : Disk := ⟨[], []⟩

/-- The directories in the root that are always there. -/
def usual : List String :=
  ["bin", "dev", "etc", "home", "lib", "media", "mnt", "opt", "proc", "root", "run", "sbin", "srv",
    "sys", "tmp", "usr", "var"]

/-- The file that never holds anything. -/
def sink : Path := ["/", "dev", "null"]

/-- Whether there is a directory at a path. -/
def isDirectory (disk : Disk) (path : Path) : Bool :=
  path.all (· == "..") || path == ["/"] || (usual.map fun name => ["/", name]).contains path ||
    disk.directories.contains path

/-- What a file holds. -/
def file? (disk : Disk) (path : Path) : Option Bytes :=
  if path == sink then some []
  else (disk.files.find? fun file => file.1 == path).map Prod.snd

/-- Whether there is a file at a path. -/
def isFile (disk : Disk) (path : Path) : Bool := (disk.file? path).isSome

/-- The path that names lead to from a directory. -/
def resolve (disk : Disk) : (directory names : Path) → Except DiskError Path
  | directory, [] => .ok directory
  | directory, name :: names =>
    if disk.isDirectory directory then
      if Path.nameLimit < name.utf8ByteSize then .error .nameTooLong
      else resolve disk (directory.step name) names
    else if disk.isFile directory then .error .notDirectory
    else .error .absent

/-- What the file at a spelled path holds. -/
def read (disk : Disk) (path : String) : Except DiskError Bytes := do
  let place ← disk.resolve [] (← Path.read path)
  if disk.isDirectory place then throw .isDirectory
  match disk.file? place with
  | some bytes => return bytes
  | none => throw .absent

/-- Makes a directory where there is nothing. -/
def make (disk : Disk) (names : Path) : Except DiskError Disk := do
  let place ← disk.resolve [] names.withoutEnd
  if disk.isDirectory place || disk.isFile place then throw .taken
  return { disk with directories := disk.directories ++ [place] }

/-- Makes a directory, unless there is one. -/
def ensure (disk : Disk) (names : Path) : Except DiskError Disk :=
  match disk.make names, disk.resolve [] names with
  | .error error, .ok place => if disk.isDirectory place then .ok disk else .error error
  | made, _ => made

/-- Makes the first of some directories; if there is nothing to make it in, the others are made
before it. -/
def ensureFirst : (disk : Disk) → List Path → Except DiskError Disk
  | disk, [] => .ok disk
  | disk, names :: others =>
    match disk.ensure names with
    | .error .absent => do
      let disk ← ensureFirst disk others
      disk.ensure names
    | made => made

/-- Makes the directory at a spelled path and those above it. -/
def makeDirectories (disk : Disk) (path : String) : Except DiskError Disk := do
  if path.isEmpty then return disk
  let names ← Path.read path
  disk.ensureFirst (names :: names.above)

/-- Puts bytes into the file at a place. -/
def put (disk : Disk) (place : Path) (bytes : Bytes) : Disk :=
  { disk with files := disk.files.filter (fun file => file.1 != place) ++ [(place, bytes)] }

/-- Writes the file at a spelled path. -/
def write (disk : Disk) (path : String) (bytes : Bytes) : Except DiskError Disk := do
  let place ← disk.resolve [] (← Path.read path)
  if disk.isDirectory place then throw .isDirectory
  return disk.put place bytes

/-- Puts a file on the disk, with the directories above it. -/
def add (disk : Disk) (path : String) (bytes : Bytes) : Disk :=
  let place := (Path.ofString path).foldl Path.step []
  { disk.put place bytes with directories := disk.directories ++ place.above }

/-- The files within the working directory that another disk does not have. -/
def without (disk other : Disk) : List (Path × Bytes) :=
  disk.files.filter fun file => file.1.isInside && !other.isFile file.1

end Disk

end FirmwareTables
