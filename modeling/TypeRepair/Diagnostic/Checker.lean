import TypeRepair.Fault
import TypeRepair.Text.Utf8

/-!
# The type checker

How the checker is started, and what a pass leaves: an exit code and the text of both its output
streams, of which only the text matters to the repair.
-/

namespace TypeRepair.Checker

/-- The command that starts the checker. -/
def program : String := "npx"

/-- The command's arguments for a project configuration. -/
def arguments (project : String) : List String :=
  ["tsc", "--noEmit", "--pretty", "false", "-p", project]

/-- What a finished process leaves. -/
structure Output where
  stdout : Bytes
  stderr : Bytes
  exitCode : Option Int
deriving DecidableEq, Repr

/-- A pass of the checker. -/
structure Pass where
  exitCode : Option Int
  text : String
deriving DecidableEq, Repr

/-- The pass of a finished process: first its standard output, then its error output, where bytes
that are not UTF-8 become U+FFFD. -/
def Output.pass (output : Output) : Pass :=
  ⟨output.exitCode, Text.decodeLossy output.stdout ++ Text.decodeLossy output.stderr⟩

/-- The checker could not be started. -/
structure Failure where
  cause : SystemFault
deriving DecidableEq, Repr

/-- The failure in words. -/
def Failure.message (failure : Failure) : String :=
  "Failed to run type checker \x60npx tsc\x60: " ++ failure.cause.message

/-- The failure with all its parts. -/
def Failure.inFull (failure : Failure) : String :=
  "Spawn \x7b command: " ++ Text.quoted "npx tsc" ++ ", source: " ++ failure.cause.inFull ++ " \x7d"

end TypeRepair.Checker
