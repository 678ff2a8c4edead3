import TypeRepair.Host
import TypeRepair.Report.Data
import TypeRepair.Report.Text

/-!
# Publishing reports

The summary goes to the terminal, then to the Markdown file, then to the JSON file, as far as files
are wanted. The first file that cannot be written ends this.
-/

namespace TypeRepair.Report

/-- The report files that are wanted. -/
structure Targets where
  markdown : Option String
  json : Option String
deriving DecidableEq, Repr

/-- A report file could not be written. -/
structure Failure where
  cause : SystemFault
deriving DecidableEq, Repr

/-- The failure in words. -/
def Failure.message (failure : Failure) : String :=
  "Failed to write report file: " ++ failure.cause.message

/-- The failure with all its parts. -/
def Failure.inFull (failure : Failure) : String :=
  "FileWrite(" ++ failure.cause.inFull ++ ")"

/-- Writes a report file if it is wanted. -/
def writeFile (note : String → Note) (text : String) :
    Option String → Host.Action (Except Failure Unit)
  | none => return .ok ()
  | some path => do
    Host.note (note path)
    match ← Host.write path text with
    | .error fault => return .error ⟨fault⟩
    | .ok () => return .ok ()

/-- Publishes a summary. -/
def publish (colored : Bool) (targets : Targets) (summary : Summary) :
    Host.Action (Except Failure Unit) := do
  Host.note (.reportBegins summary.verdict targets.markdown targets.json)
  Host.note .reportToTerminal
  Host.print (terminal colored summary)
  match ← writeFile .reportToMarkdown (markdown summary) targets.markdown with
  | .error failure => return .error failure
  | .ok () => writeFile .reportToJson (json summary) targets.json

end TypeRepair.Report
