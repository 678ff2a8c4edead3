/-!
# Patches

A new body for one file, and the final newline that a proposed body takes over from the previous
one.
-/

namespace TypeRepair

/-- A body that was written over another one. -/
structure Patch where
  /-- The path as the checker reported it. -/
  file : String
  /-- The body that the file had. -/
  previous : String
  /-- The body that it was given. -/
  proposed : String
  /-- How many errors the patch was to repair. -/
  errorsTargeted : Nat
deriving DecidableEq, Repr

namespace Patch

/-- Whether a text ends at a newline. -/
def endsAtNewline (text : String) : Bool :=
  text.toList.getLast? == some '\n'

/-- Ends a body at a newline if the previous one does. -/
def withFinalNewline (previous body : String) : String :=
  if endsAtNewline previous && !endsAtNewline body then body ++ "\n" else body

end Patch

end TypeRepair
