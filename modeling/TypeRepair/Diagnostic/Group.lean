import TypeRepair.Diagnostic.Basic

/-!
# Errors by file

Diagnostics are grouped by the exact text of their path; the groups stand in the order in which
their files were first reported.
-/

namespace TypeRepair.Diagnostic

/-- Adds a diagnostic to the group of its file, or a new group at the end. -/
def addTo (d : Diagnostic) : List FileErrors → List FileErrors
  | [] => [⟨d.file, [d]⟩]
  | group :: groups =>
    if group.file = d.file then ⟨group.file, group.errors ++ [d]⟩ :: groups
    else group :: addTo d groups

/-- The diagnostics of each file. -/
def groupByFile (diagnostics : List Diagnostic) : List FileErrors :=
  diagnostics.foldl (fun groups d => d.addTo groups) []

end TypeRepair.Diagnostic
