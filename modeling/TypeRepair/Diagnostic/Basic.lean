/-!
# Diagnostics

One error of the type checker, and the errors of one file.
-/

namespace TypeRepair

/-- One error that the type checker reported. -/
structure Diagnostic where
  /-- The path as the checker printed it. -/
  file : String
  /-- The line, counted from 1. -/
  line : Nat
  /-- The column, counted from 1. -/
  col : Nat
  /-- The checker's name for this kind of error. -/
  code : String
  message : String
deriving DecidableEq, Repr

/-- The errors of one file, in the order in which they were reported. -/
structure FileErrors where
  file : String
  errors : List Diagnostic
deriving DecidableEq, Repr

end TypeRepair
