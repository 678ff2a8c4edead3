import TypeRepair.Proofs.Json.Writing
import TypeRepair.Proofs.Report.Files
import TypeRepair.Proofs.Report.Text

/-!
# What reports tell of a summary

The bodies of the patches are in none of the reports, and all the rest is in the JSON file.

* `Summary.SameTold`: summaries that differ in the bodies at most.
* `parse?_json`: the JSON file is read back as the summary without the bodies.
* `json_tells_all_but_bodies`: it is the same file just for such summaries, and then all the rest of
  the report is the same too.
-/

namespace TypeRepair

namespace Summary

/-- The summaries differ in nothing but the bodies of the patches. -/
structure SameTold (summary other : Summary) : Prop where
  errorsBefore_eq : summary.errorsBefore = other.errorsBefore
  errorsAfter_eq : summary.errorsAfter = other.errorsAfter
  filesFixed_eq : summary.filesFixed = other.filesFixed
  targeted_eq : summary.targeted = other.targeted
  fullyResolved_eq : summary.fullyResolved = other.fullyResolved

variable {summary other : Summary}

theorem SameTold.verdict_eq (h : summary.SameTold other) : summary.verdict = other.verdict := by
  rw [verdict, verdict, h.fullyResolved_eq]

end Summary

namespace Report

open Host Procedure

variable {summary other : Summary}

/-! ## The JSON file -/

/-- The data are made of the summary without the bodies. -/
theorem data_eq (summary : Summary) :
    data summary = .object
      [("errors_before", .ofNat summary.errorsBefore),
        ("errors_after", .ofNat summary.errorsAfter),
        ("files_fixed", .array (summary.filesFixed.map .string)),
        ("results", .array (summary.targeted.map fun (file, errors) =>
          .object [("file", .string file), ("errors_targeted", .ofNat errors)])),
        ("fully_resolved", .bool summary.fullyResolved)] := by
  rw [data, ← summary.map_results fun file errors =>
    Json.object [("file", .string file), ("errors_targeted", .ofNat errors)]]
  rfl

theorem writable_data (summary : Summary) : (data summary).Writable := by
  refine .object ?_
  simp only [List.forall_mem_cons, List.not_mem_nil, false_imp_iff, implies_true, and_true]
  refine ⟨Json.writable_ofNat _, Json.writable_ofNat _, .array ?_, .array ?_, .bool _⟩
  · intro item hItem
    obtain ⟨file, -, rfl⟩ := List.mem_map.mp hItem
    exact .string file
  · intro item hItem
    obtain ⟨patch, -, rfl⟩ := List.mem_map.mp hItem
    refine .object ?_
    simp only [List.forall_mem_cons, List.not_mem_nil, false_imp_iff, implies_true, and_true]
    exact ⟨.string _, Json.writable_ofNat _⟩

theorem parse?_json (summary : Summary) :
    Json.parse? (Text.encode (json summary)) = some (data summary) :=
  Json.parse?_pretty (writable_data summary)

theorem sameTold_of_data (h : data summary = data other) : summary.SameTold other := by
  rw [data_eq, data_eq] at h
  simp only [Json.ofNat, Json.object.injEq, List.cons.injEq, Prod.mk.injEq, Json.number.injEq,
    Json.array.injEq, Json.bool.injEq, true_and, and_true] at h
  obtain ⟨hBefore, hAfter, hFixed, hResults, hResolved⟩ := h
  refine ⟨Text.toString_injective hBefore, Text.toString_injective hAfter, ?_, ?_, hResolved⟩
  · exact List.map_injective_iff.mpr (fun _ _ => Json.string.inj) hFixed
  · refine List.map_injective_iff.mpr ?_ hResults
    rintro ⟨file, errors⟩ ⟨file', errors'⟩ hSame
    simp only [Json.object.injEq, List.cons.injEq, Prod.mk.injEq, Json.string.injEq,
      Json.number.injEq, true_and, and_true] at hSame
    obtain ⟨hFile, hErrors⟩ := hSame
    exact Prod.ext hFile (Text.toString_injective hErrors)

/-! ## Reports without bodies -/

theorem json_eq (h : summary.SameTold other) : json summary = json other := by
  rw [json, json, data_eq, data_eq, h.errorsBefore_eq, h.errorsAfter_eq, h.filesFixed_eq,
    h.targeted_eq, h.fullyResolved_eq]

theorem markdown_eq (h : summary.SameTold other) : markdown summary = markdown other := by
  rw [markdown_eq_unlines, markdown_eq_unlines, h.errorsBefore_eq, h.errorsAfter_eq,
    h.filesFixed_eq, h.targeted_eq, h.fullyResolved_eq]

theorem terminal_eq (h : summary.SameTold other) (colored : Bool) :
    terminal colored summary = terminal colored other := by
  rw [terminal_eq_unlines, terminal_eq_unlines, h.errorsBefore_eq, h.errorsAfter_eq,
    h.targeted_eq, h.verdict_eq]

theorem publish_eq (h : summary.SameTold other) (colored : Bool) (targets : Targets) :
    publish colored targets summary = publish colored targets other := by
  rw [publish, publish, h.verdict_eq, terminal_eq h, markdown_eq h, json_eq h]

/-- The JSON file, wherever it was written, is read back as the summary without the bodies, in this
order. So two summaries that differ in more have different JSON files; if they do not, all of the
report is the same, its log included. -/
theorem json_tells_all_but_bodies (summary other : Summary) :
    Json.parse? (Text.encode (json summary)) = some (.object
      [("errors_before", .ofNat summary.errorsBefore),
        ("errors_after", .ofNat summary.errorsAfter),
        ("files_fixed", .array (summary.filesFixed.map .string)),
        ("results", .array (summary.targeted.map fun (file, errors) =>
          .object [("file", .string file), ("errors_targeted", .ofNat errors)])),
        ("fully_resolved", .bool summary.fullyResolved)]) ∧
    (∀ {σ : Type} (outside : Outside σ) (machine : Machine σ) (colored : Bool) (targets : Targets),
      ∀ path ∈ targets.json,
        let run := outside.perform (publish colored targets summary) machine
        run.result = .ok () →
          run.state.disk.read path = .ok (Text.encode (json summary))) ∧
    (Text.encode (json summary) = Text.encode (json other) ↔ summary.SameTold other) ∧
    (summary.SameTold other →
      (∀ colored, terminal colored summary = terminal colored other) ∧
      markdown summary = markdown other ∧ json summary = json other ∧
      ∀ {τ : Type} (handler : Handler calls τ) (state : τ) (colored : Bool) (targets : Targets),
        (publish colored targets summary).run handler state =
          (publish colored targets other).run handler state) := by
  refine ⟨?_, ?_, ⟨fun hSame => ?_, fun h => by rw [json_eq h]⟩, fun h => ?_⟩
  · rw [parse?_json, data_eq]
  · intro σ outside machine colored targets path hPath run hOk
    obtain ⟨hMarkdown, hJson⟩ := publish_result_eq_ok_iff.mp hOk
    exact (allStored hMarkdown hJson).json_read path hPath
  · exact sameTold_of_data
      (Json.pretty_injective (writable_data summary) (writable_data other) hSame)
  · refine ⟨terminal_eq h, markdown_eq h, json_eq h, fun handler state colored targets => ?_⟩
    rw [publish_eq h]

-- A file with a quote, a backslash, controls and an accent in its name, and a body for it.
def oddName : String := "a\"\\\n\x01é.ts"

def oddFile (proposed : String) : Summary :=
  ⟨2, 1, [oddName], [⟨oddName, "secret", proposed, 2⟩], false⟩

theorem oddFile_reported :
    let run := nothingAround.perform (publish true ⟨none, some "s.json"⟩ (oddFile "x"))
      emptyDirectory
    ∃ bytes, run.state.disk.read "s.json" = .ok bytes ∧
      Json.parse? bytes = some (.object
        [("errors_before", .number "2"), ("errors_after", .number "1"),
          ("files_fixed", .array [.string oddName]),
          ("results", .array [.object
            [("file", .string oddName), ("errors_targeted", .number "2")]]),
          ("fully_resolved", .bool false)]) ∧
      (publish true ⟨none, some "s.json"⟩ (oddFile "y")).run nothingAround.handler
        emptyDirectory = run := by
  intro run
  obtain ⟨hParse, hFile, -, hSame⟩ := json_tells_all_but_bodies (oddFile "x") (oddFile "y")
  have hTarget : emptyDirectory.disk.writeTarget "s.json" = .ok ["w", "s.json"] := rfl
  have hOk : run.result = .ok () := publish_result_eq_ok_iff.mpr
    ⟨by rintro _ ⟨⟩, by rintro _ ⟨⟩; exact ⟨_, hTarget⟩⟩
  obtain ⟨-, -, -, hRuns⟩ := hSame ⟨rfl, rfl, rfl, rfl, rfl⟩
  exact ⟨_, hFile nothingAround emptyDirectory true ⟨none, some "s.json"⟩ "s.json" rfl hOk,
    hParse, (hRuns nothingAround.handler emptyDirectory true ⟨none, some "s.json"⟩).symm⟩

end Report

end TypeRepair
