import TypeRepair.Proofs.Gate.Distance
import TypeRepair.Proofs.Repair.Journal

/-!
# Drift

The gate sees one patch at a time, and each attempt may change other lines of a file. Over a whole
run a file is no further from its first body than all its patches together, whose changed lines are
logged.

* `replay_changedLines_le`: the distance between two bodies with patches between them.
* `drift_le_changedLines`: the first and the last body of a file in a run.
-/

namespace TypeRepair

open Gate

/-- The lines that patches change in a file, counted for each patch. -/
def linesChangedIn (file : String) (patches : List Patch) : Nat :=
  ((patches.filter (·.file = file)).map fun patch =>
    changedLines patch.previous patch.proposed).sum

theorem linesChangedIn_cons (file : String) (patch : Patch) (patches : List Patch) :
    linesChangedIn file (patch :: patches) =
      (if patch.file = file then changedLines patch.previous patch.proposed else 0) +
        linesChangedIn file patches := by
  rw [linesChangedIn, linesChangedIn]
  by_cases hFile : patch.file = file
  · rw [List.filter_cons_of_pos (by simpa using hFile), List.map_cons, List.sum_cons, if_pos hFile]
  · rw [List.filter_cons_of_neg (by simpa using hFile), if_neg hFile, Nat.zero_add]

theorem replay_changedLines_le {patches : List Patch} {files after : Files}
    (h : replay patches files = some after) {file first last : String}
    (hFirst : files file = some first) (hLast : after file = some last) :
    changedLines first last ≤ linesChangedIn file patches := by
  induction patches generalizing files first with
  | nil =>
    obtain rfl : files = after := Option.some.inj h
    obtain rfl : first = last := Option.some.inj (hFirst.symm.trans hLast)
    exact (changedLines_eq_zero_iff.mpr rfl).le
  | cons patch patches ih =>
    obtain ⟨between, hPatch, hLater⟩ := replay_cons.mp h
    obtain ⟨hPrevious, rfl⟩ := Patch.onto?_eq_some_iff.mp hPatch
    rw [linesChangedIn_cons]
    by_cases hFile : patch.file = file
    · subst hFile
      obtain rfl : patch.previous = first := Option.some.inj (hPrevious.symm.trans hFirst)
      have hRest := ih hLater (Function.update_self ..)
      rw [if_pos rfl]
      calc changedLines patch.previous last
        _ ≤ changedLines patch.previous patch.proposed + changedLines patch.proposed last :=
          changedLines_triangle _ _ _
        _ ≤ _ := Nat.add_le_add_left hRest _
    · have hKept : Function.update files patch.file (some patch.proposed) file = some first := by
        rw [Function.update_of_ne (Ne.symm hFile), hFirst]
      rw [if_neg hFile, Nat.zero_add]
      exact ih hLater hKept

namespace Repair

/-- Over a run that returns a summary, a file ends within the lines that its patches changed. -/
theorem drift_le_changedLines {σ : Type} {collaborators : Collaborators σ} {files : σ → Files}
    (hKeyed : PathKeyed collaborators files) (attempts : Nat) (state : σ) {summary : Summary}
    (hResult : (collaborators.repair attempts state).result = .ok summary)
    {file first last : String} (hFirst : files state file = some first)
    (hLast : files (collaborators.repair attempts state).state file = some last) :
    changedLines first last ≤ linesChangedIn file summary.results := by
  have hCourse := collaborators.course attempts state
  rw [hResult] at hCourse
  obtain ⟨-, hReplay⟩ := hCourse.replays hKeyed
    (Procedure.follows_run collaborators.handler (run attempts) state)
  exact replay_changedLines_le hReplay hFirst hLast

end Repair

end TypeRepair
