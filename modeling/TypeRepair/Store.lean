import TypeRepair.Disk.Path
import TypeRepair.Host

/-!
# Stores

Where the repair reads and writes the files that the checker names: a directory, or the same
directory without being written to.
-/

namespace TypeRepair

/-- A directory that paths start from, and whether writes are only rehearsed. -/
structure Store where
  root : String
  dryRun : Bool
deriving DecidableEq, Repr

namespace Store

/-- The text of a file. -/
def read (store : Store) (path : String) : Host.Action (Except SystemFault String) :=
  Host.readText (Path.join store.root path)

/-- Replaces the body of a file. A rehearsed write only leaves a note and always succeeds. -/
def write (store : Store) (path body : String) : Host.Action (Except SystemFault Unit) :=
  if store.dryRun then do
    Host.note (.writeSkipped path body.utf8ByteSize)
    return .ok ()
  else Host.write (Path.join store.root path) body

end Store

end TypeRepair
