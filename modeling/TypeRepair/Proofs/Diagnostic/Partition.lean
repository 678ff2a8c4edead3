import TypeRepair.Proofs.Diagnostic.Grouping

/-!
# Grouping is a stable partition

* `groupByFile_append`: later errors lengthen the groups that are there and add new ones at the end.
* `flatMap_groupByFile_perm`: no error is lost and none is doubled.
* `Grouped.groupByFile_flatMap`: groups are found again among their own errors.
* `grouping_is_stable_partition`: these facts together.
-/

namespace TypeRepair.Diagnostic

/-- Groups of different files, each with one error at least and with errors of its own file only. -/
structure Grouped (groups : List FileErrors) : Prop where
  distinct : (groups.map FileErrors.file).Nodup
  errors_ne : ∀ group ∈ groups, group.errors ≠ []
  own : ∀ group ∈ groups, ∀ d ∈ group.errors, d.file = group.file

theorem mem_errorsOf {file : String} {errors : List Diagnostic} {d : Diagnostic} :
    d ∈ errorsOf file errors ↔ d ∈ errors ∧ d.file = file := by
  simp [errorsOf]

theorem grouped_groupByFile (errors : List Diagnostic) : Grouped (groupByFile errors) where
  distinct := groupByFile_files_nodup errors
  errors_ne := by
    intro group hGroup
    have hFile : group.file ∈ reportedFiles errors := by
      rw [← groupByFile_files]
      exact List.mem_map_of_mem hGroup
    rw [errors_of_mem_groupByFile hGroup]
    exact fun hNil => errorsOf_eq_nil_iff.mp hNil hFile
  own := by
    intro group hGroup d hd
    rw [errors_of_mem_groupByFile hGroup] at hd
    exact (mem_errorsOf.mp hd).2

/-! ## Later errors -/

/-- The errors of other files than these. -/
def elsewhere (files : List String) (errors : List Diagnostic) : List Diagnostic :=
  errors.filter fun d => d.file ∉ files

theorem elsewhere_eq_nil {files : List String} {errors : List Diagnostic}
    (h : ∀ d ∈ errors, d.file ∈ files) : elsewhere files errors = [] :=
  List.filter_eq_nil_iff.mpr (by simpa using h)

theorem elsewhere_eq_self {files : List String} {errors : List Diagnostic}
    (h : ∀ d ∈ errors, d.file ∉ files) : elsewhere files errors = errors :=
  List.filter_eq_self.mpr (by simpa using h)

theorem errorsOf_append (file : String) (errors later : List Diagnostic) :
    errorsOf file (errors ++ later) = errorsOf file errors ++ errorsOf file later :=
  List.filter_append ..

theorem errorsOf_elsewhere {file : String} {files : List String} (h : file ∉ files)
    (errors : List Diagnostic) : errorsOf file (elsewhere files errors) = errorsOf file errors := by
  unfold errorsOf elsewhere
  rw [List.filter_filter]
  refine List.filter_congr fun d _ => ?_
  by_cases hFile : d.file = file <;> simp [hFile, h]

theorem reportedFiles_append (errors later : List Diagnostic) :
    reportedFiles (errors ++ later) =
      reportedFiles errors ++ reportedFiles (elsewhere (reportedFiles errors) later) := by
  simp only [reportedFiles, Summary.firstOccurrences_eq_eraseDups, List.map_append,
    List.eraseDups_append, List.removeAll, elsewhere, List.filter_map]
  simp [Function.comp_def, ← decide_not]

/-- Later errors join the groups of their files; those of new files form groups of their own. -/
theorem groupByFile_append (errors later : List Diagnostic) :
    groupByFile (errors ++ later) =
      (groupByFile errors).map
          (fun group => ⟨group.file, group.errors ++ errorsOf group.file later⟩) ++
        groupByFile (elsewhere (reportedFiles errors) later) := by
  simp only [groupByFile_eq, reportedFiles_append, List.map_append, List.map_map, errorsOf_append]
  congr 1
  refine List.map_congr_left fun file hFile => ?_
  have hNew : file ∉ reportedFiles errors := by
    obtain ⟨d, hd, rfl⟩ := mem_reportedFiles.mp hFile
    simpa using (List.mem_filter.mp hd).2
  rw [errorsOf_eq_nil_iff.mpr hNew, List.nil_append, errorsOf_elsewhere hNew]

/-! ## The errors of the groups -/

theorem flatMap_addTo_perm (d : Diagnostic) (groups : List FileErrors) :
    ((d.addTo groups).flatMap FileErrors.errors).Perm
      (groups.flatMap FileErrors.errors ++ [d]) := by
  induction groups with
  | nil => exact .refl _
  | cons group groups ih =>
    unfold addTo
    split
    · simp only [List.flatMap_cons, List.append_assoc]
      exact List.perm_append_comm.append_left group.errors
    · simp only [List.flatMap_cons, List.append_assoc]
      exact ih.append_left group.errors

/-- Every error belongs to one group. -/
theorem flatMap_groupByFile_perm (errors : List Diagnostic) :
    ((groupByFile errors).flatMap FileErrors.errors).Perm errors := by
  induction errors using List.reverseRecOn with
  | nil => exact .refl _
  | append_singleton errors d ih =>
    rw [groupByFile_concat]
    exact (flatMap_addTo_perm d _).trans (ih.append_right [d])

theorem groupByFile_of_file {file : String} {errors : List Diagnostic} (hNe : errors ≠ [])
    (hFile : ∀ d ∈ errors, d.file = file) : groupByFile errors = [⟨file, errors⟩] := by
  cases errors with
  | nil => exact absurd rfl hNe
  | cons d rest =>
    obtain ⟨rfl, hRest⟩ := List.forall_mem_cons.mp hFile
    have hOne : groupByFile [d] = [⟨d.file, [d]⟩] := rfl
    have hOwn : errorsOf d.file rest = rest := List.filter_eq_self.mpr (by simpa using hRest)
    have hNone : elsewhere (reportedFiles [d]) rest = [] :=
      elsewhere_eq_nil fun e he => List.mem_singleton.mpr (hRest e he)
    rw [← List.singleton_append, groupByFile_append, hOne, hNone, List.map_singleton, hOwn]
    rfl

/-- Groups are found again among their errors: the errors of the first group come first, and none
of the others belongs to its file. -/
theorem Grouped.groupByFile_flatMap {groups : List FileErrors} (h : Grouped groups) :
    groupByFile (groups.flatMap FileErrors.errors) = groups := by
  induction groups with
  | nil => rfl
  | cons group groups ih =>
    obtain ⟨hDistinct, hNe, hOwn⟩ := h
    rw [List.map_cons, List.nodup_cons] at hDistinct
    rw [List.forall_mem_cons] at hNe hOwn
    have hHead : groupByFile group.errors = [group] := groupByFile_of_file hNe.1 hOwn.1
    have hFiles : reportedFiles group.errors = [group.file] := by
      rw [← groupByFile_files, hHead, List.map_singleton]
    have hOther : ∀ d ∈ groups.flatMap FileErrors.errors, d.file ∉ [group.file] := by
      intro d hd
      obtain ⟨other, hGroup, hd⟩ := List.mem_flatMap.mp hd
      rw [hOwn.2 other hGroup d hd, List.mem_singleton]
      exact fun hEq => hDistinct.1 (hEq ▸ List.mem_map_of_mem hGroup)
    have hNone : errorsOf group.file (groups.flatMap FileErrors.errors) = [] :=
      List.filter_eq_nil_iff.mpr (by simpa using hOther)
    rw [List.flatMap_cons, groupByFile_append, hHead, hFiles, elsewhere_eq_self hOther,
      ih ⟨hDistinct.2, hNe.2, hOwn.2⟩, List.map_singleton, hNone, List.append_nil,
      List.singleton_append]

/-- The groups are those of the different files in the order of their first reports, each with the
errors of its file in order: none is empty, together they are a permutation of all errors, grouping
them once more gives the same groups, and later errors lengthen these groups or add new ones behind
them. -/
theorem grouping_is_stable_partition (errors : List Diagnostic) :
    let groups := groupByFile errors
    groups = (errors.map Diagnostic.file).eraseDups.map
        (fun file => ⟨file, errors.filter fun d => d.file = file⟩) ∧
      (groups.map FileErrors.file).Nodup ∧ (∀ group ∈ groups, group.errors ≠ []) ∧
      (groups.flatMap FileErrors.errors).Perm errors ∧
      groupByFile (groups.flatMap FileErrors.errors) = groups ∧
      ∀ later, groupByFile (errors ++ later) =
        groups.map (fun group =>
            ⟨group.file, group.errors ++ later.filter fun d => d.file = group.file⟩) ++
          groupByFile (later.filter fun d => d.file ∉ groups.map FileErrors.file) := by
  intro groups
  have hGrouped : Grouped groups := grouped_groupByFile errors
  have hEq : groups = (errors.map Diagnostic.file).eraseDups.map
      (fun file => ⟨file, errorsOf file errors⟩) := by
    rw [← Summary.firstOccurrences_eq_eraseDups]
    exact groupByFile_eq errors
  refine ⟨hEq, hGrouped.distinct, hGrouped.errors_ne, flatMap_groupByFile_perm errors,
    hGrouped.groupByFile_flatMap, fun later => ?_⟩
  have hFiles : groups.map FileErrors.file = reportedFiles errors := groupByFile_files errors
  rw [hFiles]
  exact groupByFile_append errors later

end TypeRepair.Diagnostic
