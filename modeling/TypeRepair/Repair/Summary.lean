import TypeRepair.Note
import TypeRepair.Patch.Basic

/-!
# Summaries

What a run of the repair loop achieved, and the record that it keeps on the way.

* `firstOccurrences_nodup`: the repaired files are listed once each.
* `Progress.finish_recordAll`: the record of patches sums up to what is to be told of them.
-/

namespace TypeRepair

/-- The outcome of a run. -/
structure Summary where
  /-- The errors of the first pass. -/
  errorsBefore : Nat
  /-- The errors of the last pass. -/
  errorsAfter : Nat
  /-- The files that got a new body, each once. -/
  filesFixed : List String
  /-- The bodies that were written, in order. -/
  results : List Patch
  fullyResolved : Bool
deriving DecidableEq, Repr

namespace Summary

/-- Keeps the first of equal elements. -/
def firstOccurrences (files : List String) : List String :=
  files.foldl (fun seen file => if file ∈ seen then seen else seen ++ [file]) []

/-- The summary of a run that wrote these patches. -/
def ofPatches (errorsBefore errorsAfter : Nat) (patches : List Patch) (fullyResolved : Bool) :
    Summary where
  errorsBefore := errorsBefore
  errorsAfter := errorsAfter
  filesFixed := firstOccurrences (patches.map Patch.file)
  results := patches
  fullyResolved := fullyResolved

/-- The summary of a project without errors. -/
def clean : Summary := ofPatches 0 0 [] true

/-- The summary of a run in which a pass became clean. -/
def resolved (errorsBefore : Nat) (patches : List Patch) : Summary :=
  ofPatches errorsBefore 0 patches true

/-- The summary of a run that made all its attempts. It counts as unresolved whatever the last
pass reports. -/
def exhausted (errorsBefore errorsAfter : Nat) (patches : List Patch) : Summary :=
  ofPatches errorsBefore errorsAfter patches false

/-- How the run ended. -/
def verdict (summary : Summary) : Verdict :=
  if summary.fullyResolved then .resolved else .exhausted

theorem nodup_foldl_firstOccurrences (files seen : List String) (h : seen.Nodup) :
    (files.foldl (fun seen file => if file ∈ seen then seen else seen ++ [file]) seen).Nodup := by
  induction files generalizing seen with
  | nil => exact h
  | cons file files ih =>
    apply ih
    dsimp only
    split
    · exact h
    · rename_i hNew
      refine List.nodup_append.mpr ⟨h, by simp, ?_⟩
      intro a ha b hb
      obtain rfl := List.mem_singleton.mp hb
      exact fun hEq => hNew (hEq ▸ ha)

theorem firstOccurrences_nodup (files : List String) : (firstOccurrences files).Nodup :=
  nodup_foldl_firstOccurrences files [] List.nodup_nil

end Summary

/-- What a run has achieved so far. -/
structure Progress where
  filesFixed : List String
  results : List Patch

namespace Progress

def none : Progress := ⟨[], []⟩

/-- Keeps a patch that was written; its file is listed unless it is already. -/
def record (progress : Progress) (patch : Patch) : Progress where
  filesFixed :=
    if patch.file ∈ progress.filesFixed then progress.filesFixed
    else progress.filesFixed ++ [patch.file]
  results := progress.results ++ [patch]

/-- Keeps patches one after the other. -/
def recordAll (progress : Progress) (patches : List Patch) : Progress :=
  patches.foldl record progress

/-- The summary of a run that ends with this progress. -/
def finish (progress : Progress) (errorsBefore errorsAfter : Nat) (fullyResolved : Bool) :
    Summary where
  errorsBefore := errorsBefore
  errorsAfter := errorsAfter
  filesFixed := progress.filesFixed
  results := progress.results
  fullyResolved := fullyResolved

def resolved (progress : Progress) (errorsBefore : Nat) : Summary :=
  progress.finish errorsBefore 0 true

def exhausted (progress : Progress) (errorsBefore errorsAfter : Nat) : Summary :=
  progress.finish errorsBefore errorsAfter false

theorem recordAll_append (progress : Progress) (patches more : List Patch) :
    progress.recordAll (patches ++ more) = (progress.recordAll patches).recordAll more :=
  List.foldl_append

theorem recordAll_eq (progress : Progress) (patches : List Patch) :
    progress.recordAll patches =
      ⟨(patches.map Patch.file).foldl
        (fun seen file => if file ∈ seen then seen else seen ++ [file]) progress.filesFixed,
        progress.results ++ patches⟩ := by
  induction patches generalizing progress with
  | nil => simp [recordAll]
  | cons patch patches ih =>
    refine (ih (progress.record patch)).trans ?_
    simp [record]

theorem finish_recordAll (patches : List Patch) (errorsBefore errorsAfter : Nat)
    (fullyResolved : Bool) :
    (none.recordAll patches).finish errorsBefore errorsAfter fullyResolved =
      .ofPatches errorsBefore errorsAfter patches fullyResolved := by
  rw [recordAll_eq]
  rfl

end Progress

end TypeRepair
