import TypeRepair.Repair.Summary

/-!
# Reports to read

The summary of a run for a terminal and as Markdown for a pull request.
-/

namespace TypeRepair.Report

/-- The verdict as the terminal shows it: in bold green or red if colors are wanted. -/
def coloredVerdict (colored : Bool) (verdict : Verdict) : String :=
  if colored then
    let color := match verdict with
      | .resolved => "32"
      | .exhausted => "31"
    "\x1b[1;" ++ color ++ "m" ++ verdict.title ++ "\x1b[0m"
  else verdict.title

/-- The line of the terminal for a patch. -/
def terminalItem (patch : Patch) : String :=
  "  • " ++ patch.file ++ " (" ++ toString patch.errorsTargeted ++ " errors targeted)\n"

/-- The summary for a terminal. -/
def terminal (colored : Bool) (summary : Summary) : String :=
  "\n═══ TypeScript Fix Summary ═══\n" ++
  "Errors: " ++ toString summary.errorsBefore ++ " → " ++ toString summary.errorsAfter ++ "\n" ++
  (if summary.results.isEmpty then "  No fixes applied.\n"
    else String.join (summary.results.map terminalItem)) ++
  "\n═══ Status: " ++ coloredVerdict colored summary.verdict ++ " ═══\n\n"

/-- The row of the table for a patch. -/
def markdownRow (patch : Patch) : String :=
  "| \x60" ++ patch.file ++ "\x60 | " ++ toString patch.errorsTargeted ++ " |\n"

/-- The table of all patches, which is left out if there are none. -/
def markdownTable (patches : List Patch) : String :=
  if patches.isEmpty then ""
  else "| File | Errors targeted |\n|---|---|\n" ++ String.join (patches.map markdownRow) ++ "\n"

/-- What is left to do. -/
def markdownOutcome (summary : Summary) : String :=
  if summary.fullyResolved then "All type errors are resolved.\n"
  else "⚠️ " ++ toString summary.errorsAfter ++ " error(s) remain and need manual attention.\n"

/-- The summary as Markdown. -/
def markdown (summary : Summary) : String :=
  "## Automated TypeScript error fixes\n\n" ++
  "**Errors before:** " ++ toString summary.errorsBefore ++
  " | **Errors after:** " ++ toString summary.errorsAfter ++
  " | **Files fixed:** " ++ toString summary.filesFixed.length ++ "\n\n" ++
  markdownTable summary.results ++
  markdownOutcome summary ++
  "\nEach fix was limited to the reported errors and rejected if it changed more than half of a " ++
  "file. Please review before merging.\n"

end TypeRepair.Report
