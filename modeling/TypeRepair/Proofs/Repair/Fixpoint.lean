import TypeRepair.Proofs.Procedure.Expression
import TypeRepair.Proofs.Repair.Attempt
import TypeRepair.Proofs.Repair.Budget
import TypeRepair.Proofs.Repair.Isolation
import TypeRepair.Proofs.Repair.Verdict

/-!
# Attempts without effect

Collaborators are settled if what they answer and what becomes of the files depends on nothing but
the call and the bodies of the files. Then nothing else can tell one attempt from another: not its
number, not the patches that are done. So an attempt that leaves the files as they are repeats
itself until no attempt is left.

* `Settled.repairFiles_eq`: the same files lead to the same calls.
* `Rest.stalls`: all that is left of a run once its attempts have no effect.
* `attempt_without_effect_repeats`: every such run, and every run whose writes are all discarded.
-/

namespace TypeRepair

/-! ## Repeated files -/

namespace Summary

theorem firstOccurrences_of_nodup {files : List String} (h : files.Nodup) :
    firstOccurrences files = files := by
  induction files using List.reverseRecOn with
  | nil => rfl
  | append_singleton files last ih =>
    obtain ⟨hFiles, -, hLast⟩ := List.nodup_append.mp h
    have hNew : last ∉ files := fun hMem => hLast last hMem last (by simp) rfl
    rw [firstOccurrences_concat, ih hFiles, if_neg hNew]

theorem firstOccurrences_append_of_subset {files more : List String} (h : more ⊆ files) :
    firstOccurrences (files ++ more) = firstOccurrences files := by
  induction more using List.reverseRecOn with
  | nil => rw [List.append_nil]
  | append_singleton more last ih =>
    rw [List.append_subset] at h
    have hSeen : last ∈ firstOccurrences (files ++ more) :=
      mem_firstOccurrences.mpr (List.mem_append_left _ (h.2 (by simp)))
    rw [← List.append_assoc, firstOccurrences_concat, if_pos hSeen, ih h.1]

/-- Patches of different files that are recorded several times fix each file once. -/
theorem filesFixed_replicate {patches : List Patch} (h : (patches.map Patch.file).Nodup)
    (errorsBefore errorsAfter : Nat) {times : Nat} (hTimes : 0 < times) :
    (exhausted errorsBefore errorsAfter (List.replicate times patches).flatten).filesFixed =
      patches.map Patch.file := by
  obtain ⟨more, rfl⟩ := Nat.exists_eq_succ_of_ne_zero (Nat.pos_iff_ne_zero.mp hTimes)
  have hMore : (List.replicate more patches).flatten ⊆ patches := by
    intro patch hPatch
    obtain ⟨list, hList, hMem⟩ := List.mem_flatten.mp hPatch
    rwa [List.eq_of_mem_replicate hList] at hMem
  rw [exhausted, ofPatches, List.replicate_succ, List.flatten_cons, List.map_append,
    firstOccurrences_append_of_subset (List.map_subset _ hMore), firstOccurrences_of_nodup h]

end Summary

namespace Repair

open Diagnostic

/-! ## Settled collaborators -/

/-- What the collaborators answer and what becomes of the files depends on the call and the files
only: the checker is faithful, the rest goes by a conduct, and a body whose write succeeds is kept
or discarded. -/
structure Settled {σ : Type} (collaborators : Collaborators σ) (files : σ → Files)
    (output : Files → String) (conduct : Conduct) (keeps : String → String → Bool) : Prop where
  faithful : Faithful collaborators files output
  check_keeps : ∀ s, files (collaborators.check s).2 = files s
  generate_keeps : ∀ instruction s, files (collaborators.generate instruction s).2 = files s
  read_keeps : ∀ file s, files (collaborators.read file s).2 = files s
  generate_answer : ∀ instruction s,
    (collaborators.generate instruction s).1 = conduct.answer instruction
  read_answer : ∀ file s, (collaborators.read file s).1 = conduct.reading file (files s file)
  write_answer : ∀ file body s, (collaborators.write file body s).1 = conduct.writing file body
  write_done : ∀ file body s, conduct.writing file body = .ok () →
    files (collaborators.write file body s).2 =
      if keeps file body then Function.update (files s) file (some body) else files s
  write_failed : ∀ file body s fault, conduct.writing file body = .error fault →
    files (collaborators.write file body s).2 = files s

section

variable {σ : Type} {collaborators : Collaborators σ} {files : σ → Files}
  {output : Files → String} {conduct : Conduct} {keeps : String → String → Bool} {s t : σ}
  {held : Files} {made : List (Event calls)} {patches : List Patch}

theorem repairFiles_within (groups : List FileErrors) :
    (repairFiles groups).Within fun call : Call => call ≠ .check := by
  induction groups with
  | nil => trivial
  | cons group groups ih =>
    have hFile : (repairFile group).Within fun call : Call => call ≠ .check := by
      refine Procedure.Within.mono (fun call hConcerns hCheck => ?_) (repairFile_within group)
      rw [hCheck] at hConcerns
      exact hConcerns
    exact Procedure.within_bind hFile fun _ _ _ => Procedure.within_bind ih fun _ _ _ => trivial

/-- Where the files are the same, an attempt makes the same calls on them and leaves the same. -/
theorem Settled.repairFiles_eq (h : Settled collaborators files output conduct keeps)
    (groups : List FileErrors) (hFiles : files s = files t) :
    let first := collaborators.perform (repairFiles groups) s
    let second := collaborators.perform (repairFiles groups) t
    first.result = second.result ∧ first.events = second.events ∧
      files first.state = files second.state := by
  refine Procedure.run_related (R := fun s t => files s = files t) (fun call s t hCall hFiles => ?_)
    (repairFiles_within groups) hFiles
  cases call with
  | check => exact absurd rfl hCall
  | read file =>
    refine ⟨?_, (h.read_keeps file s).trans (hFiles.trans (h.read_keeps file t).symm)⟩
    exact (h.read_answer file s).trans (hFiles ▸ (h.read_answer file t).symm)
  | generate instruction =>
    refine ⟨?_, (h.generate_keeps _ s).trans (hFiles.trans (h.generate_keeps _ t).symm)⟩
    exact (h.generate_answer _ s).trans (h.generate_answer _ t).symm
  | write file body =>
    refine ⟨(h.write_answer file body s).trans (h.write_answer file body t).symm, ?_⟩
    cases hWriting : conduct.writing file body with
    | ok _ =>
      refine (h.write_done file body s hWriting).trans ?_
      rw [hFiles]
      exact (h.write_done file body t hWriting).symm
    | error fault =>
      refine (h.write_failed file body s fault hWriting).trans (hFiles.trans ?_)
      exact (h.write_failed file body t fault hWriting).symm
  | note n => exact ⟨rfl, hFiles⟩

/-- A pass reports the errors of the files as they are. -/
theorem Settled.opening (h : Settled collaborators files output conduct keeps)
    {made : Checker.Pass} {rest : List (Event calls)}
    (hFollows : collaborators.handler.Follows s (⟨.check, .ok made⟩ :: rest) t) :
    made.errors = reported output (files s) := by
  obtain ⟨exitCode, hCheck⟩ := h.faithful s
  have hMade : Except.ok made = .ok ⟨exitCode, output (files s)⟩ := hFollows.1.trans hCheck
  cases hMade
  rfl

/-- It leaves them so. -/
theorem Settled.pass (h : Settled collaborators files output conduct keeps)
    {made : Checker.Pass} {rest : List (Event calls)}
    (hFollows : collaborators.handler.Follows s (passEvents made ++ rest) t) :
    made.errors = reported output (files s) ∧ ∃ middle, files middle = files s ∧
      collaborators.handler.Follows s (passEvents made) middle ∧
      collaborators.handler.Follows middle rest t := by
  obtain ⟨middle, hPass, hRest⟩ := Handler.follows_append.mp hFollows
  refine ⟨h.opening hPass, middle, ?_, hPass, hRest⟩
  obtain ⟨-, -, rfl⟩ := hPass
  exact h.check_keeps s

/-- Where all writes are discarded, no call changes a file. -/
theorem Settled.discards (h : Settled collaborators files output conduct keeps)
    (hDiscards : ∀ file body, keeps file body = false) {events : List (Event calls)}
    (hFollows : collaborators.handler.Follows s events t) : files t = files s := by
  induction events generalizing s with
  | nil => rw [hFollows]
  | cons event events ih =>
    rw [ih hFollows.2]
    obtain ⟨call, answer⟩ := event
    cases call with
    | check => exact h.check_keeps s
    | read file => exact h.read_keeps file s
    | generate instruction => exact h.generate_keeps instruction s
    | note n => rfl
    | write file body =>
      cases hWriting : conduct.writing file body with
      | ok _ =>
        have hDone := h.write_done file body s hWriting
        rw [hDiscards, if_neg Bool.false_ne_true] at hDone
        exact hDone
      | error fault => exact h.write_failed file body s fault hWriting

/-! ## Attempts that have no effect -/

/-- Files with errors that every attempt leaves as they are, with the calls that it makes and the
patches that it records. -/
structure Stalls (collaborators : Collaborators σ) (files : σ → Files) (output : Files → String)
    (held : Files) (made : List (Event calls)) (patches : List Patch) : Prop where
  has_errors : reported output held ≠ []
  stays : ∀ s, files s = held →
    let run := collaborators.perform (repairFiles (groupByFile (reported output held))) s
    run.result = patches ∧ run.events = made ∧ files run.state = held

/-- One attempt without effect is enough. -/
theorem Settled.stalls_of_round (h : Settled collaborators files output conduct keeps)
    {number : Nat} {events : List (Event calls)} {outcome : Except Checker.Failure Attempt}
    (hRound : Round number events outcome) (hFollows : collaborators.handler.Follows s events t)
    (hErrors : reported output (files s) ≠ []) (hSame : files t = files s) :
    ∃ made patches, Stalls collaborators files output (files s) made patches := by
  cases hRound with
  | failed failure => exact absurd hFollows h.faithful.not_failed
  | alreadyClean made hClean =>
    obtain ⟨hMade, -⟩ := h.pass hFollows
    exact absurd (hMade.symm.trans hClean) hErrors
  | @processed made hMadeErrors exchanged patches hExchanges =>
    obtain ⟨hMade, middle, hMiddle, -, hRest⟩ := h.pass hFollows
    rw [hMade] at hExchanges
    have hRun : collaborators.perform (repairFiles (groupByFile (reported output (files s))))
        middle = ⟨patches, t, exchanged⟩ := Procedure.run_eq_of_yields hExchanges.yields hRest.2
    refine ⟨exchanged, patches, hErrors, fun other hOther => ?_⟩
    obtain ⟨hResult, hEvents, hState⟩ := h.repairFiles_eq
      (groupByFile (reported output (files s))) (hOther.trans hMiddle.symm)
    rw [hRun] at hResult hEvents hState
    exact ⟨hResult, hEvents, hState.trans hSame⟩

theorem Stalls.round (hStalls : Stalls collaborators files output held made patches)
    (h : Settled collaborators files output conduct keeps) {number : Nat}
    {events : List (Event calls)} {outcome : Except Checker.Failure Attempt}
    (hRound : Round number events outcome) (hHeld : files s = held)
    (hFollows : collaborators.handler.Follows s events t) :
    ∃ opening inside, events = Stage.all ⟨.ok opening, inside⟩ ∧ Quiet inside ∧
      opening.errors = reported output held ∧ contacts inside = contacts made ∧
      outcome = .ok (.processed patches) ∧ files t = held := by
  subst hHeld
  cases hRound with
  | failed failure => exact absurd hFollows h.faithful.not_failed
  | alreadyClean opening hClean =>
    obtain ⟨hOpening, -⟩ := h.pass hFollows
    exact absurd (hOpening.symm.trans hClean) hStalls.has_errors
  | @processed opening hErrors exchanged written hExchanges =>
    obtain ⟨hOpening, middle, hMiddle, -, hRest⟩ := h.pass hFollows
    have hQuiet := hExchanges.quiet
    have hRun : collaborators.perform (repairFiles (groupByFile opening.errors)) middle =
        ⟨written, t, exchanged⟩ := Procedure.run_eq_of_yields hExchanges.yields hRest.2
    have hStays := hStalls.stays middle hMiddle
    rw [← hOpening, hRun] at hStays
    obtain ⟨rfl, rfl, hState⟩ := hStays
    refine ⟨opening, _, rfl, ?_, hOpening, rfl, rfl, hState⟩
    simpa [Quiet, isPass] using hQuiet

/-- Of these stages so many at even places are opened by a pass with these errors and make these
calls. -/
def Repeats (errors : List Diagnostic) (made : List (Event calls)) (times : Nat)
    (list : List Stage) : Prop :=
  ∀ j < times, ∃ opening inside, list[2 * j]? = some ⟨.ok opening, inside⟩ ∧
    opening.errors = errors ∧ contacts inside = contacts made

/-- Once the files stall, every attempt that is left repeats the same calls and patches. -/
theorem Rest.stalls (h : Settled collaborators files output conduct keeps)
    (hStalls : Stalls collaborators files output held made patches)
    {attempts errorsBefore left : Nat} {done : List Patch} {events : List (Event calls)}
    {result : Except Checker.Failure Summary}
    (hRest : Rest attempts errorsBefore left done events result) (hHeld : files s = held)
    (hFollows : collaborators.handler.Follows s events t) :
    result = .ok (.exhausted errorsBefore (reported output held).length
        (done ++ (List.replicate left patches).flatten)) ∧
      Repeats (reported output held) made left (stages events) := by
  induction hRest generalizing s with
  | lastFailed done failure => exact absurd hFollows h.faithful.not_failed
  | exhausted done last =>
    obtain ⟨hLast, -⟩ := h.pass hFollows
    refine ⟨?_, fun j hj => absurd hj (Nat.not_lt_zero j)⟩
    rw [hLast, hHeld, List.replicate_zero, List.flatten_nil, List.append_nil]
  | failed left done hRound =>
    obtain ⟨_, _, -, -, -, -, hOutcome, -⟩ := hStalls.round h hRound hHeld hFollows.2
    cases hOutcome
  | alreadyClean left done hRound =>
    obtain ⟨_, _, -, -, -, -, hOutcome, -⟩ := hStalls.round h hRound hHeld hFollows.2
    cases hOutcome
  | recheckFailed left done hRound failure =>
    obtain ⟨middle, -, hRecheck⟩ := Handler.follows_append.mp hFollows.2
    exact absurd hRecheck h.faithful.not_failed
  | fixed left done hRound recheck hClean =>
    obtain ⟨middle, hAttempt, hRest⟩ := Handler.follows_append.mp hFollows.2
    obtain ⟨_, _, -, -, -, -, -, hMiddle⟩ := hStalls.round h hRound hHeld hAttempt
    obtain ⟨hRecheck, -⟩ := h.pass hRest
    rw [hMiddle, hClean] at hRecheck
    exact absurd hRecheck.symm hStalls.has_errors
  | goesOn left done hRound recheck hErrors hLater ih =>
    obtain ⟨middle, hAttempt, hRest⟩ := Handler.follows_append.mp hFollows.2
    obtain ⟨opening, inside, rfl, hQuiet, hOpening, hInside, hOutcome, hMiddle⟩ :=
      hStalls.round h hRound hHeld hAttempt
    cases hOutcome
    obtain ⟨-, between, hBetween, -, hAfter⟩ := h.pass hRest
    obtain ⟨hResult, hRepeats⟩ := ih (hBetween.trans hMiddle) hAfter.2
    refine ⟨?_, fun j hj => ?_⟩
    · rw [hResult, List.replicate_succ, List.flatten_cons, List.append_assoc]
    · rw [stages_noted, Stage.stages_all_append hQuiet rfl]
      cases j with
      | zero => exact ⟨opening, inside, rfl, hOpening, hInside⟩
      | succ j => exact hRepeats j (by omega)

/-! ## Where the first of them is -/

/-- The state in which a stage begins. -/
def stateAt (collaborators : Collaborators σ) (s : σ) (events : List (Event calls)) (i : Nat) : σ :=
  collaborators.handler.after s (((stages events).take i).flatMap Stage.all)

theorem stateAt_succ {stage : Stage} {events later : List (Event calls)}
    (hStages : stages events = stage :: stages later) (i : Nat) :
    stateAt collaborators s events (i + 1) =
      stateAt collaborators (collaborators.handler.after s stage.all) later i := by
  rw [stateAt, hStages, List.take_succ_cons, List.flatMap_cons, Handler.after_append]
  rfl

/-- The notes before the first pass of the attempts that are left change nothing. -/
theorem Rest.after_lead {attempts errorsBefore left : Nat} {done : List Patch}
    {events : List (Event calls)} {result : Except Checker.Failure Summary}
    (h : Rest attempts errorsBefore left done events result) :
    collaborators.handler.after s (lead events) = s := by
  rw [h.lead_eq]
  split <;> rfl

/-- What is left of a run after a pass starts from the same files, and its stages come after that
of the pass. -/
theorem Rest.after_pass (h : Settled collaborators files output conduct keeps)
    {attempts errorsBefore left : Nat} {done : List Patch} {rest : List (Event calls)}
    {result : Except Checker.Failure Summary}
    (hRest : Rest attempts errorsBefore left done rest result) {opening : Checker.Pass} {n : Note}
    (hFollows : collaborators.handler.Follows s (passEvents opening ++ noted n :: rest) t) :
    ∃ middle, files middle = files s ∧ collaborators.handler.Follows middle rest t ∧
      ∀ k, stateAt collaborators s (passEvents opening ++ noted n :: rest) (k + 1) =
        stateAt collaborators middle rest k := by
  obtain ⟨-, middle, hMiddle, hPass, hLater⟩ := h.pass hFollows
  have hStages : stages (passEvents opening ++ noted n :: rest) =
      ⟨.ok opening, noted _ :: noted n :: lead rest⟩ :: stages rest := rfl
  have hState : collaborators.handler.after s (passEvents opening ++ noted n :: lead rest) =
      middle := by
    rw [Handler.after_append, ← hPass.eq_after]
    exact hRest.after_lead
  refine ⟨middle, hMiddle, hLater.2, fun k => ?_⟩
  rw [stateAt_succ hStages, ← hState]
  rfl

/-- If there are more stages than those of one attempt, the run has gone on after it. -/
theorem Rest.goes_on {attempts errorsBefore left : Nat} {done : List Patch}
    {events : List (Event calls)} {result : Except Checker.Failure Summary}
    (h : Rest attempts errorsBefore (left + 1) done events result) {j : Nat} {stage : Stage}
    (hStage : (stages events)[j + 2]? = some stage) :
    ∃ n first recheck m later patches,
      events = noted n :: (Stage.all first ++ (passEvents recheck ++ noted m :: later)) ∧
      Quiet first.events ∧ Rest attempts errorsBefore left (done ++ patches) later result := by
  cases h with
  | failed left done hRound =>
    obtain ⟨first, rfl, hQuiet, -⟩ := hRound.shape
    rw [stages_noted, ← List.append_nil first.all,
      Stage.stages_all_append hQuiet lead_nil] at hStage
    cases hStage
  | alreadyClean left done hRound =>
    obtain ⟨first, rfl, hQuiet, -⟩ := hRound.shape
    rw [stages_noted, ← List.append_nil first.all,
      Stage.stages_all_append hQuiet lead_nil] at hStage
    cases hStage
  | recheckFailed left done hRound failure =>
    obtain ⟨first, rfl, hQuiet, -⟩ := hRound.shape
    rw [stages_noted, Stage.stages_all_append hQuiet rfl] at hStage
    cases hStage
  | fixed left done hRound recheck hClean =>
    obtain ⟨first, rfl, hQuiet, -⟩ := hRound.shape
    rw [stages_noted, Stage.stages_all_append hQuiet rfl] at hStage
    cases hStage
  | goesOn left done hRound recheck hErrors hLater =>
    obtain ⟨first, rfl, hQuiet, -⟩ := hRound.shape
    exact ⟨_, first, recheck, _, _, _, rfl, hQuiet, hLater⟩

/-- If one attempt with errors has no effect, the ones after it do the same. By induction on the
attempts before it. -/
theorem Rest.repeats (h : Settled collaborators files output conduct keeps)
    {attempts errorsBefore left : Nat} {done : List Patch} {events : List (Event calls)}
    {result : Except Checker.Failure Summary}
    (hRest : Rest attempts errorsBefore left done events result)
    (hFollows : collaborators.handler.Follows s events t) {i : Nat} (hi : i < left)
    {opening : Checker.Pass} {inside : List (Event calls)}
    (hStage : (stages events)[2 * i]? = some ⟨.ok opening, inside⟩) (hErrors : opening.errors ≠ [])
    (hSame : files (stateAt collaborators s events (2 * i + 1)) =
      files (stateAt collaborators s events (2 * i))) :
    (∃ patches, result = .ok (.exhausted errorsBefore opening.errors.length patches)) ∧
      ∀ j, i ≤ j → j < left → ∃ again inside', (stages events)[2 * j]? = some ⟨.ok again, inside'⟩ ∧
        again.errors = opening.errors ∧ contacts inside' = contacts inside := by
  induction i generalizing s left done events result with
  | zero =>
    obtain ⟨left, rfl⟩ := Nat.exists_eq_succ_of_ne_zero (Nat.ne_of_gt hi)
    obtain ⟨n, round, outcome, later, rfl, hRound, hLead⟩ := hRest.first_round
    obtain ⟨middle, hAttempt, -⟩ : ∃ middle, collaborators.handler.Follows s round middle ∧
      collaborators.handler.Follows middle later t := Handler.follows_append.mp hFollows.2
    have hMiddle := hAttempt.eq_after
    obtain ⟨stage, rfl, hQuiet, -⟩ := hRound.shape
    have hStages : stages (noted n :: (stage.all ++ later)) = stage :: stages later := by
      rw [stages_noted, Stage.stages_all_append hQuiet hLead]
    rw [stateAt_succ hStages] at hSame
    rw [hStages] at hStage
    cases hStage
    have hReported : opening.errors = reported output (files s) := h.opening hAttempt
    have hStays : files middle = files s := by rwa [hMiddle]
    obtain ⟨made, patches, hStalls⟩ :=
      h.stalls_of_round hRound hAttempt (hReported ▸ hErrors) hStays
    obtain ⟨hResult, hRepeats⟩ := hRest.stalls h hStalls rfl hFollows
    rw [← hReported] at hResult hRepeats
    refine ⟨⟨_, hResult⟩, fun j _ hj => ?_⟩
    obtain ⟨_, _, hFirst, -, hInside⟩ := hRepeats 0 (Nat.succ_pos left)
    rw [hStages] at hFirst
    cases hFirst
    rw [hInside]
    exact hRepeats j hj
  | succ i ih =>
    obtain ⟨left, rfl⟩ := Nat.exists_eq_succ_of_ne_zero (Nat.ne_of_gt (Nat.zero_lt_of_lt hi))
    obtain ⟨n, first, recheck, m, later, patches, rfl, hQuiet, hLater⟩ := hRest.goes_on hStage
    obtain ⟨middle, hAttempt, hRecheck⟩ : ∃ middle,
      collaborators.handler.Follows s first.all middle ∧ collaborators.handler.Follows middle
        (passEvents recheck ++ noted m :: later) t := Handler.follows_append.mp hFollows.2
    obtain ⟨between, -, hAfter, hBetween⟩ := hLater.after_pass h hRecheck
    -- The attempts after the recheck are two stages further on, from the files that it has found.
    have hStages : stages (noted n :: (first.all ++ (passEvents recheck ++ noted m :: later))) =
        first :: stages (passEvents recheck ++ noted m :: later) := by
      rw [stages_noted, Stage.stages_all_append hQuiet rfl]
    have hState : ∀ k, stateAt collaborators s
        (noted n :: (first.all ++ (passEvents recheck ++ noted m :: later))) (k + 2) =
          stateAt collaborators between later k := by
      intro k
      rw [stateAt_succ hStages, ← hAttempt.eq_after, hBetween]
    have hPlace : ∀ k, (stages (noted n ::
        (first.all ++ (passEvents recheck ++ noted m :: later))))[k + 2]? = (stages later)[k]? := by
      intro k
      rw [hStages]
      rfl
    rw [show 2 * (i + 1) + 1 = 2 * i + 1 + 2 by omega, show 2 * (i + 1) = 2 * i + 2 by omega,
      hState, hState] at hSame
    rw [show 2 * (i + 1) = 2 * i + 2 by omega, hPlace] at hStage
    obtain ⟨hResult, hRepeats⟩ := ih hLater hAfter (by omega) hStage hSame
    refine ⟨hResult, fun j hij hj => ?_⟩
    obtain ⟨j, rfl⟩ := Nat.exists_eq_succ_of_ne_zero (show j ≠ 0 by omega)
    rw [show 2 * j.succ = 2 * j + 2 by omega, hPlace]
    exact hRepeats j (by omega) (by omega)

theorem Course.repeats (h : Settled collaborators files output conduct keeps) {attempts : Nat}
    {events : List (Event calls)} {result : Except Checker.Failure Summary}
    (hCourse : Course attempts events result)
    (hFollows : collaborators.handler.Follows s events t) {i : Nat} (hi : i < attempts)
    {opening : Checker.Pass} {inside : List (Event calls)}
    (hStage : (stages events)[2 * i + 1]? = some ⟨.ok opening, inside⟩)
    (hErrors : opening.errors ≠ [])
    (hSame : files (stateAt collaborators s events (2 * i + 2)) =
      files (stateAt collaborators s events (2 * i + 1))) :
    (∃ errorsBefore patches,
        result = .ok (.exhausted errorsBefore opening.errors.length patches)) ∧
      ∀ j, i ≤ j → j < attempts → ∃ again inside',
        (stages events)[2 * j + 1]? = some ⟨.ok again, inside'⟩ ∧
        again.errors = opening.errors ∧ contacts inside' = contacts inside := by
  cases hCourse with
  | failed failure => cases hStage
  | clean made hClean => cases hStage
  | @started made hMadeErrors rest result hRest =>
    obtain ⟨middle, -, hLater, hState⟩ := hRest.after_pass h hFollows
    rw [hState, hState] at hSame
    obtain ⟨⟨patches, hResult⟩, hRepeats⟩ := hRest.repeats h hLater hi hStage hErrors hSame
    exact ⟨⟨_, patches, hResult⟩, hRepeats⟩

/-- A run with errors whose writes are all discarded records the patches of its first attempt as
often as it makes an attempt. -/
theorem Course.discarded (h : Settled collaborators files output conduct keeps)
    (hDiscards : ∀ file body, keeps file body = false) {attempts : Nat}
    {events : List (Event calls)} {result : Except Checker.Failure Summary}
    (hCourse : Course (attempts + 1) events result)
    (hFollows : collaborators.handler.Follows s events t)
    (hErrors : reported output (files s) ≠ []) :
    ∃ stage patches, (stages events)[1]? = some stage ∧
      collaborators.perform (attempt 1) (stateAt collaborators s events 1) =
        ⟨.ok (.processed patches), stateAt collaborators s events 2, stage.all⟩ ∧
      (patches.map Patch.file).Nodup ∧
      result = .ok (.exhausted (reported output (files s)).length
        (reported output (files s)).length (List.replicate (attempts + 1) patches).flatten) := by
  cases hCourse with
  | failed failure => exact absurd hFollows h.faithful.not_failed
  | clean made hClean =>
    obtain ⟨hMade, -⟩ := h.pass hFollows
    exact absurd (hMade.symm.trans hClean) hErrors
  | @started made hMadeErrors rest result hRest =>
    obtain ⟨hMade, -⟩ := h.pass hFollows
    obtain ⟨middle, hMiddle, hLater, hState⟩ := hRest.after_pass h hFollows
    have hStalling : reported output (files middle) ≠ [] := by rwa [hMiddle]
    rw [hState 0, hState 1]
    obtain ⟨n, round, outcome, later, rfl, hRound, hLead⟩ := hRest.first_round
    obtain ⟨last, hAttempt, -⟩ : ∃ last, collaborators.handler.Follows middle round last ∧
      collaborators.handler.Follows last later t := Handler.follows_append.mp hLater.2
    obtain ⟨calls, patches, hStalls⟩ :=
      h.stalls_of_round hRound hAttempt hStalling (h.discards hDiscards hAttempt)
    obtain ⟨opening, inside, rfl, hQuiet, -, -, rfl, -⟩ :=
      hStalls.round h hRound rfl hAttempt
    have hStages : stages (noted n :: (Stage.all ⟨.ok opening, inside⟩ ++ later)) =
        ⟨.ok opening, inside⟩ :: stages later := by
      rw [stages_noted, Stage.stages_all_append hQuiet hLead]
    obtain ⟨hResult, -⟩ := hRest.stalls h hStalls rfl hLater
    refine ⟨⟨.ok opening, inside⟩, patches, ?_, ?_, ?_, ?_⟩
    · exact congrArg (·[0]?) hStages
    · have hRun := Procedure.run_eq_of_yields hRound.yields hAttempt
      rw [show attempts + 1 - attempts = 1 by omega] at hRun
      rw [stateAt_succ hStages, ← hAttempt.eq_after]
      exact hRun
    · have hExchanges := yields_repairFiles (Procedure.yields_run collaborators.handler
        (repairFiles (groupByFile (reported output (files middle)))) middle)
      have hPatches := (hStalls.stays middle rfl).1
      rw [← hPatches]
      exact hExchanges.files_sublist.nodup (groupByFile_files_nodup _)
    · rw [hResult, hMade, hMiddle, List.nil_append]

end

/-! ## Runs -/

/-- If an attempt of settled collaborators has errors and leaves the files as they are, every later
attempt makes the same calls and gets the same answers, and the run ends after all its attempts with
as many errors as that one found. If all writes are discarded, this is so from the first attempt on,
and its patches are recorded once for each attempt. -/
theorem attempt_without_effect_repeats {σ : Type} {collaborators : Collaborators σ}
    {files : σ → Files} {output : Files → String} {conduct : Conduct}
    {keeps : String → String → Bool} (h : Settled collaborators files output conduct keeps)
    (attempts : Nat) (state : σ) :
    let run := collaborators.repair attempts state
    let begins := stateAt collaborators state run.events
    (∀ i < attempts, ∀ opening inside,
      (stages run.events)[2 * i + 1]? = some ⟨.ok opening, inside⟩ → opening.errors ≠ [] →
      files (begins (2 * i + 2)) = files (begins (2 * i + 1)) →
        (∀ j, i ≤ j → j < attempts → ∃ again inside',
          (stages run.events)[2 * j + 1]? = some ⟨.ok again, inside'⟩ ∧
          again.errors = opening.errors ∧ contacts inside' = contacts inside) ∧
        (stages run.events).length = 2 * attempts + 2 ∧
        ∃ summary, run.result = .ok summary ∧ summary.verdict = .exhausted ∧
          summary.errorsAfter = opening.errors.length) ∧
    ((∀ file body, keeps file body = false) → Diagnostic.parse (output (files state)) ≠ [] →
      0 < attempts →
        ∃ summary stage patches, run.result = .ok summary ∧ summary.verdict = .exhausted ∧
          summary.errorsBefore = (Diagnostic.parse (output (files state))).length ∧
          summary.errorsAfter = summary.errorsBefore ∧
          (stages run.events)[1]? = some stage ∧
          collaborators.perform (attempt 1) (begins 1) =
            ⟨.ok (.processed patches), begins 2, stage.all⟩ ∧
          summary.results = (List.replicate attempts patches).flatten ∧
          summary.filesFixed = patches.map Patch.file ∧ summary.filesFixed.Nodup) := by
  intro run begins
  have hCourse : Course attempts run.events run.result := collaborators.course attempts state
  have hFollows : collaborators.handler.Follows state run.events run.state :=
    Procedure.follows_run collaborators.handler (Repair.run attempts) state
  refine ⟨fun i hi opening inside hStage hErrors hSame => ?_, fun hDiscards hErrors hSome => ?_⟩
  · obtain ⟨⟨errorsBefore, patches, hResult⟩, hRepeats⟩ :=
      hCourse.repeats h hFollows hi hStage hErrors hSame
    exact ⟨hRepeats, hCourse.length_stages ⟨_, hResult, rfl⟩, _, hResult, rfl, rfl⟩
  · obtain ⟨attempts, rfl⟩ := Nat.exists_eq_succ_of_ne_zero (Nat.ne_of_gt hSome)
    obtain ⟨stage, patches, hStage, hAttempt, hNodup, hResult⟩ :=
      hCourse.discarded h hDiscards hFollows hErrors
    have hFixed := Summary.filesFixed_replicate hNodup
      (reported output (files state)).length (reported output (files state)).length hSome
    refine ⟨_, stage, patches, hResult, rfl, rfl, rfl, hStage, hAttempt, rfl, hFixed, ?_⟩
    rw [hFixed]
    exact hNodup

/-- Collaborators on the files themselves that do as a conduct says and keep some of the bodies
that are written. -/
def Conduct.sifted (conduct : Conduct) (output : Files → String)
    (keeps : String → String → Bool) : Collaborators Files where
  check files := (.ok ⟨some 2, output files⟩, files)
  read file files := (conduct.reading file (files file), files)
  generate instruction files := (conduct.answer instruction, files)
  write file body files :=
    match conduct.writing file body with
    | .ok () => (.ok (), if keeps file body then Function.update files file (some body) else files)
    | .error fault => (.error fault, files)

theorem Conduct.sifted_settled (conduct : Conduct) (output : Files → String)
    (keeps : String → String → Bool) :
    Settled (conduct.sifted output keeps) id output conduct keeps where
  faithful _ := ⟨some 2, rfl⟩
  check_keeps _ := rfl
  generate_keeps _ _ := rfl
  read_keeps _ _ := rfl
  generate_answer _ _ := rfl
  read_answer _ _ := rfl
  write_answer file body files := by
    simp only [sifted]
    split
    · rename_i hWriting
      exact hWriting.symm
    · rename_i hWriting
      exact hWriting.symm
  write_done file body files hWriting := by
    simp only [sifted, hWriting, id_eq]
  write_failed file body files fault hWriting := by
    simp only [sifted, hWriting, id_eq]

/-- Of two files with errors one cannot be written, and what is written to the other is
discarded. -/
theorem discarding_run_repeats :
    let collaborators :=
      (Conduct.simple "```\na\nc\n```" ["b.ts"]).sifted (fun _ => twoReports) fun _ _ => false
    let run := collaborators.repair 2 fun _ => some "a\nb"
    (∃ opening inside again inside',
      (stages run.events)[1]? = some ⟨.ok opening, inside⟩ ∧
      (stages run.events)[3]? = some ⟨.ok again, inside'⟩ ∧
      writes inside = [("a.ts", "a\nc"), ("b.ts", "a\nc")] ∧
      contacts inside' = contacts inside) ∧
    ∃ summary, run.result = .ok summary ∧ summary.verdict = .exhausted ∧
      summary.errorsAfter = 2 ∧ summary.filesFixed = ["a.ts"] ∧
      summary.results = [⟨"a.ts", "a\nb", "a\nc", 1⟩, ⟨"a.ts", "a\nb", "a\nc", 1⟩] := by
  intro collaborators run
  have hSettled := Conduct.sifted_settled (Conduct.simple "```\na\nc\n```" ["b.ts"])
    (fun _ => twoReports) fun _ _ => false
  obtain ⟨hRepeats, hDiscarded⟩ :=
    attempt_without_effect_repeats hSettled 2 fun _ => some "a\nb"
  obtain ⟨opening, inside, hStage, hCount, hWrites⟩ : ∃ opening inside,
      (stages run.events)[1]? = some ⟨.ok opening, inside⟩ ∧ opening.errors.length = 2 ∧
        writes inside = [("a.ts", "a\nc"), ("b.ts", "a\nc")] := ⟨_, _, rfl, rfl, rfl⟩
  have hErrors : opening.errors ≠ [] := fun hNil => by simp [hNil] at hCount
  obtain ⟨hLater, -, -⟩ := hRepeats 0 (by decide) opening inside hStage hErrors rfl
  obtain ⟨again, inside', hAgain, -, hSame⟩ := hLater 1 (by decide) (by decide)
  obtain ⟨summary, -, -, hResult, hVerdict, hBefore, hAfter, -⟩ :=
    hDiscarded (fun _ _ => rfl) (by decide) (by decide)
  refine ⟨⟨opening, inside, again, inside', hStage, hAgain, hWrites, hSame⟩, summary, hResult,
    hVerdict, hAfter.trans hBefore, ?_⟩
  have hRun : run.result = .ok ⟨2, 2, ["a.ts"],
    [⟨"a.ts", "a\nb", "a\nc", 1⟩, ⟨"a.ts", "a\nb", "a\nc", 1⟩], false⟩ := rfl
  cases hRun.symm.trans hResult
  exact ⟨rfl, rfl⟩

end Repair

end TypeRepair
