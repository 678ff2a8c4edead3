import Mathlib.Algebra.GroupWithZero.Nat
import Mathlib.Algebra.Order.BigOperators.Group.List
import Mathlib.Algebra.Order.Group.Nat
import Mathlib.Data.List.Nodup
import TypeRepair.Proofs.Diagnostic.Partition
import TypeRepair.Proofs.Repair.Bodies
import TypeRepair.Proofs.Repair.Rounds

/-!
# What a summary says about the attempts

* `sum_groupByFile`: grouping loses no error.
* `Stage.Accounts`: what an attempt records of the errors of its pass.
* `Stage.Records.accounts`: every attempt records so.
* `summary_accounts_for_attempts`: the summary of every run.
-/

namespace TypeRepair

/-- Every error is counted in one group. -/
theorem Diagnostic.sum_groupByFile (errors : List Diagnostic) :
    ((groupByFile errors).map (·.errors.length)).sum = errors.length := by
  rw [← List.length_flatMap]
  exact (flatMap_groupByFile_perm errors).length_eq

namespace Repair

open Diagnostic

/-! ## Attempts -/

/-- The writes among events that succeeded, each with the file and the body. -/
def doneWrites (events : List (Event calls)) : List (String × String) :=
  events.filterMap fun
    | ⟨.write file body, .ok ()⟩ => some (file, body)
    | _ => none

/-- What an attempt records of the errors of its pass: a patch for each write that succeeded, at
most one for a file, in the order in which the files are reported, each with the number of errors
of its file. -/
structure Stage.Accounts (stage : Stage) (patches : List Patch) : Prop where
  written : doneWrites stage.events = patches.map fun patch => (patch.file, patch.proposed)
  in_order : (patches.map Patch.file).Sublist (reportedFiles stage.errors)
  once : (patches.map Patch.file).Nodup
  targeted : ∀ patch ∈ patches, 1 ≤ patch.errorsTargeted ∧
    patch.errorsTargeted = (errorsOf patch.file stage.errors).length
  total : (patches.map Patch.errorsTargeted).sum ≤ stage.errors.length

theorem doneWrites_append (first second : List (Event calls)) :
    doneWrites (first ++ second) = doneWrites first ++ doneWrites second :=
  List.filterMap_append

theorem Exchange.doneWrites_eq {group : FileErrors} {events : List (Event calls)}
    {patch : Option Patch} (h : Exchange group events patch) :
    doneWrites events = patch.toList.map fun patch => (patch.file, patch.proposed) := by
  cases h with
  | skipped skip hAsked => cases hAsked <;> rfl
  | notWritten patch fault hAsked => cases hAsked; rfl
  | written patch hAsked => cases hAsked; rfl

theorem Exchanges.doneWrites_eq {groups : List FileErrors} {events : List (Event calls)}
    {patches : List Patch} (h : Exchanges groups events patches) :
    doneWrites events = patches.map fun patch => (patch.file, patch.proposed) := by
  induction h with
  | nil => rfl
  | cons head tail ih => rw [doneWrites_append, head.doneWrites_eq, ih, List.map_append]

theorem Bare.doneWrites_eq_nil {events : List (Event calls)} (h : Bare events) :
    doneWrites events = [] := by
  rw [doneWrites, List.filterMap_eq_nil_iff]
  intro event hEvent
  obtain ⟨n, rfl, -⟩ := h event hEvent
  rfl

theorem one_le_length_errorsOf {errors : List Diagnostic} {file : String}
    (h : file ∈ reportedFiles errors) : 1 ≤ (errorsOf file errors).length := by
  rw [Nat.one_le_iff_ne_zero, Ne, List.length_eq_zero_iff, errorsOf_eq_nil_iff, not_not]
  exact h

theorem Stage.Records.accounts {stage : Stage} {patches : List Patch} (h : stage.Records patches) :
    stage.Accounts patches := by
  obtain ⟨start, events, hEvents, hStart, hExchanges⟩ := h
  have hFiles := hExchanges.files_sublist
  rw [groupByFile_files] at hFiles
  refine ⟨?_, hFiles, hFiles.nodup (reportedFiles_nodup _), fun patch hPatch => ?_, ?_⟩
  · rw [hEvents, doneWrites_append, hStart.doneWrites_eq_nil, List.nil_append,
      hExchanges.doneWrites_eq]
  · obtain ⟨group, hGroup, _, hExchange⟩ := hExchanges.of_mem hPatch
    have hTargeted : patch.errorsTargeted = (errorsOf patch.file stage.errors).length := by
      rw [hExchange.patch_errorsTargeted, hExchange.patch_file, errors_of_mem_groupByFile hGroup]
    refine ⟨?_, hTargeted⟩
    rw [hTargeted]
    exact one_le_length_errorsOf (hFiles.subset (List.mem_map_of_mem hPatch))
  · have hTargets : (patches.map Patch.errorsTargeted).Sublist
        ((groupByFile stage.errors).map (·.errors.length)) := by
      simpa [Function.comp_def] using hExchanges.patches_sublist.map Prod.snd
    calc (patches.map Patch.errorsTargeted).sum
        ≤ ((groupByFile stage.errors).map (·.errors.length)).sum :=
          hTargets.sum_le_sum fun _ _ => Nat.zero_le _
      _ = stage.errors.length := sum_groupByFile stage.errors

/-! ## Runs -/

/-- A file has at most one patch for each attempt. -/
theorem count_flatten_le {list : List Stage} {parts : List (List Patch)}
    (h : List.Forall₂ Stage.Accounts list parts) (file : String) :
    (parts.flatten.map Patch.file).count file ≤ list.length := by
  induction h with
  | nil => exact Nat.le_refl 0
  | @cons stage part list parts head tail ih =>
    have hOnce : (part.map Patch.file).count file ≤ 1 :=
      List.nodup_iff_count_le_one.mp head.once file
    rw [List.flatten_cons, List.map_append, List.count_append, List.length_cons]
    omega

/-- The results of a summary are what the attempts record, one attempt after the other, and the
files that it lists are the files of its results without repetitions. No file has more results than
there are attempts, and there are none without errors or without attempts. -/
theorem summary_accounts_for_attempts {σ : Type} (collaborators : Collaborators σ)
    (attempts : Nat) (state : σ) {summary : Summary}
    (hResult : (collaborators.repair attempts state).result = .ok summary) :
    let run := collaborators.repair attempts state
    summary.filesFixed = (summary.results.map Patch.file).eraseDups ∧
    (∃ parts, summary.results = parts.flatten ∧
      List.Forall₂ Stage.Accounts (attemptStages attempts run.events) parts) ∧
    (∀ file, (summary.results.map Patch.file).count file ≤ attempts) ∧
    (summary.errorsBefore = 0 ∨ attempts = 0 →
      summary.filesFixed = [] ∧ summary.results = []) := by
  intro run
  obtain ⟨first, list, parts, hStages, -, hRounds, hSummary⟩ :=
    (collaborators.course attempts state).rounds
  obtain ⟨hNone, after, resolved, hEq⟩ := hSummary summary hResult
  have hFixed : summary.filesFixed = (summary.results.map Patch.file).eraseDups := by
    rw [← Summary.firstOccurrences_eq_eraseDups, hEq]
    rfl
  have hResults : summary.results = parts.flatten := congrArg Summary.results hEq
  have hAccounts : List.Forall₂ Stage.Accounts (attemptStages attempts run.events) parts := by
    rw [attemptStages, hStages, List.tail_cons]
    exact hRounds.forall₂.imp fun _ _ h => h.accounts
  have hLength : (attemptStages attempts run.events).length ≤ attempts :=
    length_everySecond_le attempts _
  refine ⟨hFixed, ⟨parts, hResults, hAccounts⟩, fun file => ?_, fun hIdle => ?_⟩
  · rw [hResults]
    exact (count_flatten_le hAccounts file).trans hLength
  · have hParts : parts = [] := by
      rcases hIdle with hClean | hAttempts
      · exact hNone hClean
      · have hSame := hAccounts.length_eq
        exact List.eq_nil_of_length_eq_zero (by omega)
    rw [hFixed, hResults, hParts]
    exact ⟨rfl, rfl⟩

/-- Two attempts at one file give two results. -/
theorem quoting_accounts_for_attempts :
    let run := scripted.repair 2 Rehearsal.quoting
    ∃ summary, run.result = .ok summary ∧ summary.filesFixed = ["a.ts"] ∧
      summary.results.map (fun patch => (patch.file, patch.errorsTargeted)) =
        [("a.ts", 1), ("a.ts", 1)] ∧
      (∃ parts, summary.results = parts.flatten ∧
        List.Forall₂ Stage.Accounts (attemptStages 2 run.events) parts) ∧
      (summary.results.map Patch.file).count "a.ts" ≤ 2 := by
  intro run
  have hResult : run.result = .ok ⟨1, 0, ["a.ts"],
    [⟨"a.ts", "x\ny\nz\n", "x\nt = '```'\nz\n", 1⟩,
      ⟨"a.ts", "x\nt = '```'\nz\n", "w\nt = '```'\nz\n", 1⟩], true⟩ := rfl
  obtain ⟨hFixed, hParts, hCount, -⟩ :=
    summary_accounts_for_attempts scripted 2 Rehearsal.quoting hResult
  exact ⟨_, hResult, hFixed, rfl, hParts, hCount "a.ts"⟩

end Repair

end TypeRepair
