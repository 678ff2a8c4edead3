import TypeRepair.Disk.Path
import TypeRepair.Fault
import TypeRepair.Text.Utf8

/-!
# Disks

A tree of directories and files without links, and one directory in it that relative paths start
from. Paths are followed name by name, and each way to fail has its fault. Writing replaces or
creates a file and makes no directory.

* `node?_put`: a location holds what was put there.
-/

namespace TypeRepair

/-- The names on the way from the root. -/
abbrev Location := List String

/-- What a location holds. -/
inductive Node
  | directory
  | file (body : Bytes)
deriving DecidableEq, Repr

/-- Directories and files. -/
structure Disk where
  /-- What each location other than the root holds. -/
  entries : List (Location × Node)
  /-- Where relative paths start. -/
  workingDirectory : Location
deriving DecidableEq, Repr

namespace Disk

/-- What a location holds; the root is a directory. -/
def node? (disk : Disk) (location : Location) : Option Node :=
  if location = [] then some .directory else disk.entries.lookup location

/-- Puts a node at a location of a list of entries. -/
def putEntry (location : Location) (node : Node) :
    List (Location × Node) → List (Location × Node)
  | [] => [(location, node)]
  | entry :: entries =>
    if entry.1 = location then (location, node) :: entries
    else entry :: putEntry location node entries

/-- Puts a node at a location, whatever was there. -/
def put (disk : Disk) (location : Location) (node : Node) : Disk :=
  { disk with entries := putEntry location node disk.entries }

/-- The longest name in bytes. -/
def maxNameSize : Nat := 255

/-- The number of bytes from which on a path is too long. -/
def pathSizeLimit : Nat := 4096

/-- What a name leads to from a directory. -/
inductive Step
  /-- A location that exists. -/
  | found (location : Location) (node : Node)
  /-- A free location. -/
  | free (location : Location)

/-- Follows a name from a directory. The parent of the root is the root. -/
def step (disk : Disk) (directory : Location) (name : String) : Except SystemFault Step :=
  if name = "." then .ok (.found directory .directory)
  else if name = ".." then .ok (.found directory.dropLast .directory)
  else if maxNameSize < name.utf8ByteSize then .error .nameTooLong
  else
    match disk.node? (directory ++ [name]) with
    | some node => .ok (.found (directory ++ [name]) node)
    | none => .ok (.free (directory ++ [name]))

/-- Follows a name that has to lead to a directory. -/
def enter (disk : Disk) (directory : Location) (name : String) : Except SystemFault Location :=
  match disk.step directory name with
  | .error fault => .error fault
  | .ok (.found location .directory) => .ok location
  | .ok (.found _ (.file _)) => .error .notADirectory
  | .ok (.free _) => .error .notFound

/-- Follows names to a directory. -/
def enterAll (disk : Disk) : Location → List String → Except SystemFault Location
  | directory, [] => .ok directory
  | directory, name :: names =>
    match disk.enter directory name with
    | .error fault => .error fault
    | .ok next => disk.enterAll next names

/-- A path whose text can be handed to the system. -/
def checkPath (path : String) : Except SystemFault Path :=
  if path.toList.contains '\x00' then .error .nulInPath
  else if path = "" then .error .notFound
  else if pathSizeLimit ≤ path.utf8ByteSize then .error .nameTooLong
  else .ok (Path.ofString path)

/-- Where a path starts. -/
def origin (disk : Disk) (path : Path) : Location :=
  if path.absolute then [] else disk.workingDirectory

/-- The bytes of the file at a path. -/
def read (disk : Disk) (path : String) : Except SystemFault Bytes := do
  let path ← checkPath path
  match path.names.getLast? with
  | none => .error .isADirectory
  | some name =>
    let directory ← disk.enterAll (disk.origin path) path.names.dropLast
    match ← disk.step directory name with
    | .free _ => .error .notFound
    | .found _ .directory => .error .isADirectory
    | .found _ (.file body) => if path.slashAtEnd then .error .notADirectory else .ok body

/-- The location that a write to a path goes to. A path that ends at a slash names no file. -/
def writeTarget (disk : Disk) (path : String) : Except SystemFault Location := do
  let path ← checkPath path
  match path.names.getLast? with
  | none => .error .isADirectory
  | some name =>
    let directory ← disk.enterAll (disk.origin path) path.names.dropLast
    if path.slashAtEnd then .error .isADirectory
    else
      match ← disk.step directory name with
      | .found _ .directory => .error .isADirectory
      | .found location (.file _) | .free location => .ok location

/-- Replaces the body of the file at a path, or creates the file. -/
def write (disk : Disk) (path : String) (body : Bytes) : Except SystemFault Unit × Disk :=
  match disk.writeTarget path with
  | .error fault => (.error fault, disk)
  | .ok location => (.ok (), disk.put location (.file body))

/-- Whether a path leads to anything. -/
def pathExists (disk : Disk) (path : String) : Bool :=
  match disk.read path with
  | .ok _ | .error .isADirectory => true
  | .error _ => false

/-- Makes the directories on the way to a location and the last one. -/
def makeDirectories (disk : Disk) (location : Location) : Disk :=
  (List.range location.length).foldl (fun disk n =>
    let directory := location.take (n + 1)
    if (disk.node? directory).isSome then disk else disk.put directory .directory) disk

/-- The location of a path without regard to what is on the disk. -/
def locate (disk : Disk) (path : String) : Location :=
  let path := Path.ofString path
  disk.origin path ++ path.names.filter (· ≠ ".")

/-- The disk with a directory at a path. -/
def withDirectory (disk : Disk) (path : String) : Disk :=
  disk.makeDirectories (disk.locate path)

/-- The disk with a file at a path, its directories included. -/
def withFile (disk : Disk) (path : String) (body : Bytes) : Disk :=
  let location := disk.locate path
  (disk.makeDirectories location.dropLast).put location (.file body)

/-- A disk with an empty working directory. -/
def empty (workingDirectory : Location) : Disk :=
  makeDirectories ⟨[], workingDirectory⟩ workingDirectory

/-- The files below the working directory, by their paths from there. -/
def listing (disk : Disk) : List (String × Bytes) :=
  disk.entries.filterMap fun (location, node) =>
    match disk.workingDirectory.isPrefixOf? location, node with
    | some names, .file body => some (String.intercalate "/" names, body)
    | _, _ => none

theorem lookup_putEntry (location : Location) (node : Node) (entries : List (Location × Node)) :
    (putEntry location node entries).lookup location = some node := by
  induction entries with
  | nil => simp [putEntry]
  | cons entry entries ih =>
    unfold putEntry
    split
    · simp
    · rename_i hNe
      rw [List.lookup_cons]
      have : (location == entry.1) = false := by simpa using fun h => hNe h.symm
      rw [this]
      exact ih

theorem node?_put (disk : Disk) {location : Location} (h : location ≠ []) (node : Node) :
    (disk.put location node).node? location = some node := by
  simp [put, node?, h, lookup_putEntry]

end Disk

end TypeRepair
