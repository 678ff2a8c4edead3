import TypeRepair.Json.Printer
import TypeRepair.Repair.Summary

/-!
# Reports as data

The summary of a run as a JSON value. The bodies of the patches are left out.
-/

namespace TypeRepair.Report

/-- A patch as data. -/
def patchData (patch : Patch) : Json String :=
  .object [("file", .string patch.file), ("errors_targeted", .ofNat patch.errorsTargeted)]

/-- The summary as data. -/
def data (summary : Summary) : Json String :=
  .object
    [("errors_before", .ofNat summary.errorsBefore),
      ("errors_after", .ofNat summary.errorsAfter),
      ("files_fixed", .array (summary.filesFixed.map .string)),
      ("results", .array (summary.results.map patchData)),
      ("fully_resolved", .bool summary.fullyResolved)]

/-- The summary as a JSON text. -/
def json (summary : Summary) : String :=
  (data summary).pretty

end TypeRepair.Report
