import Mathlib.Data.List.Induction
import TypeRepair.Diagnostic.Group
import TypeRepair.Repair.Summary

/-!
# What grouping keeps

The groups of a list of diagnostics stand for its files in the order of their first reports, and
each holds the diagnostics of its file as they were reported.

* `groupByFile_eq`: the groups, file by file.
* `groupByFile_files_nodup`: no file has two groups.
-/

namespace TypeRepair

/-! ## First occurrences -/

namespace Summary

theorem firstOccurrences_concat (files : List String) (file : String) :
    firstOccurrences (files ++ [file]) =
      if file ∈ firstOccurrences files then firstOccurrences files
      else firstOccurrences files ++ [file] := by
  rw [firstOccurrences, List.foldl_append, List.foldl_cons, List.foldl_nil]
  rfl

theorem mem_firstOccurrences {files : List String} {file : String} :
    file ∈ firstOccurrences files ↔ file ∈ files := by
  induction files using List.reverseRecOn with
  | nil => rfl
  | append_singleton files last ih =>
    rw [firstOccurrences_concat]
    split
    · rename_i hSeen
      constructor
      · exact fun h => List.mem_append_left _ (ih.mp h)
      · intro h
        rcases List.mem_append.mp h with h | h
        · exact ih.mpr h
        · rwa [List.mem_singleton.mp h]
    · simp [ih]

theorem firstOccurrences_eq_eraseDups (files : List String) :
    firstOccurrences files = files.eraseDups := by
  induction files using List.reverseRecOn with
  | nil => rfl
  | append_singleton files last ih =>
    rw [firstOccurrences_concat, List.eraseDups_append, ← ih]
    by_cases hSeen : last ∈ files
    · rw [if_pos (mem_firstOccurrences.mpr hSeen)]
      simp [List.removeAll, hSeen]
    · rw [if_neg (fun hMem => hSeen (mem_firstOccurrences.mp hMem))]
      simp [List.removeAll, hSeen, List.eraseDups_cons]

end Summary

namespace Diagnostic

/-- The files of diagnostics, each once, in the order in which they were first reported. -/
def reportedFiles (errors : List Diagnostic) : List String :=
  Summary.firstOccurrences (errors.map Diagnostic.file)

/-- The diagnostics of a file, in the order in which they were reported. -/
def errorsOf (file : String) (errors : List Diagnostic) : List Diagnostic :=
  errors.filter fun d => d.file = file

theorem mem_reportedFiles {errors : List Diagnostic} {file : String} :
    file ∈ reportedFiles errors ↔ ∃ d ∈ errors, d.file = file := by
  rw [reportedFiles, Summary.mem_firstOccurrences, List.mem_map]

theorem reportedFiles_nodup (errors : List Diagnostic) : (reportedFiles errors).Nodup :=
  Summary.firstOccurrences_nodup _

theorem reportedFiles_concat (errors : List Diagnostic) (d : Diagnostic) :
    reportedFiles (errors ++ [d]) =
      if d.file ∈ reportedFiles errors then reportedFiles errors
      else reportedFiles errors ++ [d.file] := by
  rw [reportedFiles, List.map_append, List.map_cons, List.map_nil, Summary.firstOccurrences_concat]
  rfl

theorem errorsOf_concat (file : String) (errors : List Diagnostic) (d : Diagnostic) :
    errorsOf file (errors ++ [d]) =
      if d.file = file then errorsOf file errors ++ [d] else errorsOf file errors := by
  unfold errorsOf
  rw [List.filter_append]
  split <;> simp [*]

theorem errorsOf_eq_nil_iff {errors : List Diagnostic} {file : String} :
    errorsOf file errors = [] ↔ file ∉ reportedFiles errors := by
  rw [errorsOf, List.filter_eq_nil_iff, mem_reportedFiles]
  simp

/-! ## Groups -/

/-- A diagnostic of a file that no group has opens a group at the end. -/
theorem addTo_new {d : Diagnostic} {groups : List FileErrors}
    (h : ∀ group ∈ groups, group.file ≠ d.file) : d.addTo groups = groups ++ [⟨d.file, [d]⟩] := by
  induction groups with
  | nil => rfl
  | cons group groups ih =>
    have hFile : group.file ≠ d.file := h group List.mem_cons_self
    rw [addTo, if_neg hFile, ih fun g hg => h g (List.mem_cons_of_mem _ hg), List.cons_append]

/-- Where files have one group each, a diagnostic joins the group of its file and no other. -/
theorem addTo_map {d : Diagnostic} {files : List String} (errors : String → List Diagnostic)
    (hNodup : files.Nodup) (hMem : d.file ∈ files) :
    d.addTo (files.map fun file => ⟨file, errors file⟩) =
      files.map fun file => ⟨file, if d.file = file then errors file ++ [d] else errors file⟩ := by
  induction files with
  | nil => cases hMem
  | cons file files ih =>
    rw [List.nodup_cons] at hNodup
    simp only [List.map_cons, addTo]
    by_cases hFile : file = d.file
    · subst hFile
      rw [if_pos rfl, if_pos rfl]
      congr 1
      refine List.map_congr_left fun other hOther => ?_
      have hOther' : d.file ≠ other := fun hEq => hNodup.1 (hEq ▸ hOther)
      rw [if_neg hOther']
    · have hRest : d.file ∈ files :=
        (List.mem_cons.mp hMem).resolve_left fun hEq => hFile hEq.symm
      rw [if_neg hFile, if_neg fun hEq => hFile hEq.symm, ih hNodup.2 hRest]

theorem groupByFile_concat (errors : List Diagnostic) (d : Diagnostic) :
    groupByFile (errors ++ [d]) = d.addTo (groupByFile errors) := by
  simp only [groupByFile, List.foldl_append, List.foldl_cons, List.foldl_nil]

/-- The groups are those of the reported files, each with its diagnostics. -/
theorem groupByFile_eq (errors : List Diagnostic) :
    groupByFile errors = (reportedFiles errors).map fun file => ⟨file, errorsOf file errors⟩ := by
  induction errors using List.reverseRecOn with
  | nil => rfl
  | append_singleton errors d ih =>
    rw [groupByFile_concat, ih, reportedFiles_concat]
    simp only [errorsOf_concat]
    split
    · rename_i hMem
      exact addTo_map (errorsOf · errors) (reportedFiles_nodup errors) hMem
    · rename_i hNew
      rw [addTo_new, List.map_append]
      · congr 1
        · refine List.map_congr_left fun file hFile => ?_
          have hOther : d.file ≠ file := fun hEq => hNew (hEq ▸ hFile)
          rw [if_neg hOther]
        · simp [errorsOf_eq_nil_iff.mpr hNew]
      · intro group hGroup
        obtain ⟨file, hFile, rfl⟩ := List.mem_map.mp hGroup
        exact fun hEq => hNew (hEq ▸ hFile)

theorem groupByFile_files (errors : List Diagnostic) :
    (groupByFile errors).map FileErrors.file = reportedFiles errors := by
  simp [groupByFile_eq, Function.comp_def]

theorem groupByFile_files_nodup (errors : List Diagnostic) :
    ((groupByFile errors).map FileErrors.file).Nodup := by
  rw [groupByFile_files]
  exact reportedFiles_nodup errors

/-- A group holds all diagnostics of its file. -/
theorem errors_of_mem_groupByFile {errors : List Diagnostic} {group : FileErrors}
    (h : group ∈ groupByFile errors) : group.errors = errorsOf group.file errors := by
  rw [groupByFile_eq] at h
  obtain ⟨file, -, rfl⟩ := List.mem_map.mp h
  rfl

end Diagnostic

end TypeRepair
