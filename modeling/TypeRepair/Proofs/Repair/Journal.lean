import Mathlib.Data.List.Chain
import TypeRepair.Proofs.Diagnostic.Grouping
import TypeRepair.Proofs.Repair.Files

/-!
# The summary as a journal

The patches of a summary tell exactly what a run did to the files, so that they can be done again
from the first files and undone from the last ones.

* `replay_undo`, `replay_chain`, `replay_other`: what follows from patches that can be replayed.
* `Exchange.replays`, `Rest.replays`: the patches that are recorded are the ones that were written.
* `summary_is_journal`: the patches of every summary lead from the first files to the last ones.
-/

namespace TypeRepair

/-! ## Replaying patches -/

/-- The files after a patch, if its file has the body that the patch was made for. -/
def Patch.onto? (patch : Patch) (files : Files) : Option Files :=
  if files patch.file = some patch.previous then
    some (Function.update files patch.file (some patch.proposed))
  else none

/-- The patch that takes a patch back. -/
def Patch.inverse (patch : Patch) : Patch :=
  { patch with previous := patch.proposed, proposed := patch.previous }

/-- The files after patches that are applied one after the other. -/
def replay : List Patch → Files → Option Files
  | [], files => some files
  | patch :: patches, files => (patch.onto? files).bind (replay patches)

theorem Patch.onto?_eq_some_iff {patch : Patch} {files after : Files} :
    patch.onto? files = some after ↔ files patch.file = some patch.previous ∧
      after = Function.update files patch.file (some patch.proposed) := by
  unfold onto?
  split
  · rename_i hPrevious
    simp [hPrevious, eq_comm]
  · rename_i hOther
    simp [hOther]

theorem Patch.onto?_inverse {patch : Patch} {files after : Files}
    (h : patch.onto? files = some after) : patch.inverse.onto? after = some files := by
  obtain ⟨hPrevious, rfl⟩ := onto?_eq_some_iff.mp h
  rw [onto?_eq_some_iff]
  refine ⟨Function.update_self _ _ _, ?_⟩
  have hRestored : some patch.previous = files patch.file := hPrevious.symm
  simp only [inverse, Function.update_idem, hRestored, Function.update_eq_self]

theorem replay_cons {patch : Patch} {patches : List Patch} {files after : Files} :
    replay (patch :: patches) files = some after ↔
      ∃ between, patch.onto? files = some between ∧ replay patches between = some after := by
  simp only [replay, Option.bind_eq_some_iff]

theorem replay_append {first second : List Patch} {files after : Files} :
    replay (first ++ second) files = some after ↔
      ∃ between, replay first files = some between ∧ replay second between = some after := by
  induction first generalizing files with
  | nil => simp [replay]
  | cons patch first ih =>
    simp only [List.cons_append, replay_cons, ih]
    constructor
    · rintro ⟨next, hNext, between, hFirst, hSecond⟩
      exact ⟨between, ⟨next, hNext, hFirst⟩, hSecond⟩
    · rintro ⟨between, ⟨next, hNext, hFirst⟩, hSecond⟩
      exact ⟨next, hNext, between, hFirst, hSecond⟩

/-- Taking the patches back in reverse order leads to the files before them. -/
theorem replay_undo {patches : List Patch} {files after : Files}
    (h : replay patches files = some after) :
    replay (patches.reverse.map Patch.inverse) after = some files := by
  induction patches generalizing files with
  | nil =>
    cases h
    rfl
  | cons patch patches ih =>
    obtain ⟨between, hPatch, hLater⟩ := replay_cons.mp h
    rw [List.reverse_cons, List.map_append, replay_append]
    refine ⟨between, ih hLater, replay_cons.mpr ⟨files, ?_, rfl⟩⟩
    exact Patch.onto?_inverse hPatch

/-- The patches of one file take over from each other, the first one from the body before them. -/
theorem replay_chain {patches : List Patch} {files after : Files}
    (h : replay patches files = some after) (file : String) :
    (patches.filter (·.file = file)).IsChain (fun patch next => next.previous = patch.proposed) ∧
      ∀ patch ∈ (patches.filter (·.file = file)).head?, files file = some patch.previous := by
  induction patches generalizing files with
  | nil => simp
  | cons patch patches ih =>
    obtain ⟨between, hPatch, hLater⟩ := replay_cons.mp h
    obtain ⟨hPrevious, rfl⟩ := Patch.onto?_eq_some_iff.mp hPatch
    obtain ⟨hChain, hHead⟩ := ih hLater
    by_cases hFile : patch.file = file
    · subst hFile
      rw [List.filter_cons_of_pos (by simp)]
      refine ⟨List.isChain_cons.mpr ⟨fun next hNext => ?_, hChain⟩, ?_⟩
      · have hBody := hHead next hNext
        rw [Function.update_self, Option.some.injEq] at hBody
        exact hBody.symm
      · intro first hFirst
        cases hFirst
        exact hPrevious
    · rw [List.filter_cons_of_neg (by simpa using hFile)]
      refine ⟨hChain, fun first hFirst => ?_⟩
      rw [← hHead first hFirst, Function.update_of_ne (Ne.symm hFile)]

/-- A file without a patch keeps its body. -/
theorem replay_other {patches : List Patch} {files after : Files}
    (h : replay patches files = some after) {file : String}
    (hOther : file ∉ patches.map Patch.file) : after file = files file := by
  induction patches generalizing files with
  | nil =>
    cases h
    rfl
  | cons patch patches ih =>
    obtain ⟨between, hPatch, hLater⟩ := replay_cons.mp h
    obtain ⟨-, rfl⟩ := Patch.onto?_eq_some_iff.mp hPatch
    rw [List.map_cons, List.mem_cons, not_or] at hOther
    rw [ih hLater hOther.2, Function.update_of_ne hOther.1]

/-! ## What a run records -/

namespace Repair

section

variable {σ : Type} {collaborators : Collaborators σ} {files : σ → Files} {s t : σ}

/-- A patch that is asked for was made for the body that the file has. -/
theorem Asked.body_eq (hKeyed : PathKeyed collaborators files) {group : FileErrors}
    {events : List (Event calls)} {patch : Patch} (h : Asked group events (.ok patch))
    (hFollows : collaborators.handler.Follows s events t) :
    files s patch.file = some patch.previous := by
  cases h with
  | admitted previous answer _ share hPropose =>
    obtain ⟨block, -, -, -, rfl⟩ := propose_eq_ok_iff.mp hPropose
    exact hKeyed.first_read hFollows

theorem Exchange.replays (hKeyed : PathKeyed collaborators files) {group : FileErrors}
    {events : List (Event calls)} {patch : Option Patch} (h : Exchange group events patch)
    (hFollows : collaborators.handler.Follows s events t) :
    replay patch.toList (files s) = some (files t) := by
  have hFiles := hKeyed.follows hFollows
  cases h with
  | skipped skip hAsked =>
    rw [changes_append, hAsked.changes_eq] at hFiles
    exact congrArg some hFiles.symm
  | notWritten patch fault hAsked =>
    rw [changes_append, hAsked.changes_eq] at hFiles
    exact congrArg some hFiles.symm
  | written patch hAsked =>
    -- The body was read before anything was written, so it is still the one that is replaced.
    obtain ⟨_, hFirst, -⟩ := Handler.follows_append.mp hFollows
    rw [changes_append, hAsked.changes_eq] at hFiles
    refine replay_cons.mpr ⟨files t, ?_, rfl⟩
    exact Patch.onto?_eq_some_iff.mpr ⟨hAsked.body_eq hKeyed hFirst, hFiles⟩

theorem Exchanges.replays (hKeyed : PathKeyed collaborators files) {groups : List FileErrors}
    {events : List (Event calls)} {patches : List Patch} (h : Exchanges groups events patches)
    (hFollows : collaborators.handler.Follows s events t) :
    replay patches (files s) = some (files t) := by
  induction h generalizing s with
  | nil =>
    rw [hFollows]
    rfl
  | cons head tail ih =>
    obtain ⟨middle, hHead, hTail⟩ := Handler.follows_append.mp hFollows
    exact replay_append.mpr ⟨files middle, head.replays hKeyed hHead, ih hTail⟩

theorem Round.replays (hKeyed : PathKeyed collaborators files) {number : Nat}
    {events : List (Event calls)} {attempt : Attempt} (h : Round number events (.ok attempt))
    (hFollows : collaborators.handler.Follows s events t) :
    replay attempt.patches (files s) = some (files t) := by
  cases h with
  | alreadyClean made hClean => exact congrArg some (hKeyed.follows hFollows).symm
  | processed made hErrors hExchanges =>
    obtain ⟨middle, hOpening, hRest⟩ := Handler.follows_append.mp hFollows
    have hMiddle : files middle = files s := hKeyed.follows hOpening
    rw [← hMiddle]
    exact hExchanges.replays hKeyed hRest.2

/-- A summary records the patches that were done before and then those that the rest of the run
writes. -/
theorem Rest.replays (hKeyed : PathKeyed collaborators files)
    {attempts errorsBefore left : Nat} {done : List Patch} {events : List (Event calls)}
    {result : Except Checker.Failure Summary}
    (h : Rest attempts errorsBefore left done events result)
    (hFollows : collaborators.handler.Follows s events t) {summary : Summary}
    (hResult : result = .ok summary) :
    ∃ errorsAfter patches resolved,
      summary = .ofPatches errorsBefore errorsAfter (done ++ patches) resolved ∧
      replay patches (files s) = some (files t) := by
  induction h generalizing s with
  | lastFailed done failure => cases hResult
  | exhausted done made =>
    cases hResult
    refine ⟨_, [], false, by rw [List.append_nil]; rfl, ?_⟩
    exact congrArg some (hKeyed.follows hFollows).symm
  | failed left done hRound => cases hResult
  | alreadyClean left done hRound =>
    cases hResult
    refine ⟨0, [], true, by rw [List.append_nil]; rfl, ?_⟩
    exact hRound.replays hKeyed hFollows.2
  | recheckFailed left done hRound failure => cases hResult
  | fixed left done hRound made hClean =>
    cases hResult
    obtain ⟨middle, hAttempt, hRecheck⟩ := Handler.follows_append.mp hFollows.2
    have hFiles : files t = files middle := hKeyed.follows hRecheck
    refine ⟨0, _, true, rfl, ?_⟩
    rw [hFiles]
    exact hRound.replays hKeyed hAttempt
  | @goesOn left done _ written hRound made hErrors _ _ hLater ih =>
    obtain ⟨middle, hAttempt, hRest⟩ := Handler.follows_append.mp hFollows.2
    obtain ⟨between, hRecheck, hLaterFollows⟩ := Handler.follows_append.mp hRest
    have hFiles : files between = files middle := hKeyed.follows hRecheck
    obtain ⟨errorsAfter, patches, resolved, hSummary, hReplay⟩ := ih hLaterFollows.2 hResult
    refine ⟨errorsAfter, written ++ patches, resolved, ?_, ?_⟩
    · rw [hSummary, List.append_assoc]
    · refine replay_append.mpr ⟨files middle, hRound.replays hKeyed hAttempt, ?_⟩
      rw [← hFiles]
      exact hReplay

theorem Course.replays (hKeyed : PathKeyed collaborators files) {attempts : Nat}
    {events : List (Event calls)} {summary : Summary} (h : Course attempts events (.ok summary))
    (hFollows : collaborators.handler.Follows s events t) :
    summary.filesFixed = Summary.firstOccurrences (summary.results.map Patch.file) ∧
      replay summary.results (files s) = some (files t) := by
  cases h with
  | clean made hClean => exact ⟨rfl, congrArg some (hKeyed.follows hFollows).symm⟩
  | started made hErrors hRest =>
    obtain ⟨middle, hOpening, hLater⟩ := Handler.follows_append.mp hFollows
    have hMiddle : files middle = files s := hKeyed.follows hOpening
    obtain ⟨errorsAfter, patches, resolved, rfl, hReplay⟩ := hRest.replays hKeyed hLater.2 rfl
    refine ⟨rfl, ?_⟩
    rw [← hMiddle]
    exact hReplay

end

/-- The patches of a summary, replayed in order, lead from the first files of the run to the last
ones, and taken back in reverse order they lead from the last files to the first ones. The patches
of one file take over from each other, and a file that does not count as fixed keeps its body. -/
theorem summary_is_journal {σ : Type} {collaborators : Collaborators σ} {files : σ → Files}
    (hKeyed : PathKeyed collaborators files) (attempts : Nat) (state : σ) {summary : Summary}
    (hResult : (collaborators.repair attempts state).result = .ok summary) :
    let final := (collaborators.repair attempts state).state
    replay summary.results (files state) = some (files final) ∧
      replay (summary.results.reverse.map Patch.inverse) (files final) = some (files state) ∧
      (∀ file, (summary.results.filter (·.file = file)).IsChain
        fun patch next => next.previous = patch.proposed) ∧
      ∀ file, file ∉ summary.filesFixed → files final file = files state file := by
  intro final
  have hCourse := collaborators.course attempts state
  rw [hResult] at hCourse
  obtain ⟨hFixed, hReplay⟩ := hCourse.replays hKeyed
    (Procedure.follows_run collaborators.handler (run attempts) state)
  refine ⟨hReplay, replay_undo hReplay, fun file => (replay_chain hReplay file).1, ?_⟩
  intro file hFile
  rw [hFixed, Summary.mem_firstOccurrences] at hFile
  exact replay_other hReplay hFile

theorem twoFiles_journal :
    let rehearsal := Rehearsal.twoFiles
    let bodies : Rehearsal → Files := fun script file => script.files.bodies.lookup file
    (scripted.repair 1 rehearsal).result =
        .ok ⟨2, 0, ["a.ts"], [⟨"a.ts", "a\nb", "a\nc", 1⟩], true⟩ ∧
      replay [⟨"a.ts", "a\nb", "a\nc", 1⟩] (bodies rehearsal) =
        some (bodies (scripted.repair 1 rehearsal).state) ∧
      bodies (scripted.repair 1 rehearsal).state "b.ts" = bodies rehearsal "b.ts" := by
  intro rehearsal bodies
  have hResult : (scripted.repair 1 rehearsal).result =
      .ok ⟨2, 0, ["a.ts"], [⟨"a.ts", "a\nb", "a\nc", 1⟩], true⟩ := rfl
  obtain ⟨hReplay, -, -, hOther⟩ := summary_is_journal scripted_pathKeyed 1 rehearsal hResult
  exact ⟨hResult, hReplay, hOther "b.ts" (by decide)⟩

end Repair

end TypeRepair
