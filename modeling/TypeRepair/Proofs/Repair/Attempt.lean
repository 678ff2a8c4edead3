import TypeRepair.Proofs.Repair.Provenance

/-!
# Attempts as runs

What the parts of an attempt come to on given collaborators, each from the run of the part before
it.

* `perform_repairFile`, `perform_attempt`: a file, and an attempt.
* `first_attempt`: the first attempt of a run starts from what its first pass leaves.
-/

namespace TypeRepair.Repair

open Diagnostic

variable {σ : Type} (collaborators : Collaborators σ) (s : σ)

theorem perform_repairFile (group : FileErrors) :
    collaborators.perform (repairFile group) s =
      let first := collaborators.perform (request group) s
      match first.result with
      | .error skip =>
        ⟨none, first.state, first.events ++ [noted (.fileSkipped group.file skip)]⟩
      | .ok patch =>
        match collaborators.write patch.file patch.proposed first.state with
        | (.error fault, after) =>
          ⟨none, after, first.events ++ [⟨.write patch.file patch.proposed, .error fault⟩,
            noted (.fixNotWritten patch.file fault)]⟩
        | (.ok (), after) =>
          ⟨some patch, after, first.events ++ [⟨.write patch.file patch.proposed, .ok ()⟩,
            noted (.fixApplied patch.file patch.errorsTargeted
              (Gate.changedLines patch.previous patch.proposed))]⟩ := by
  have hAsked : Asked group (collaborators.perform (request group) s).events
      (collaborators.perform (request group) s).result :=
    yields_request (Procedure.yields_run collaborators.handler (request group) s)
  have hFirst : collaborators.handler.Follows s
      (collaborators.perform (request group) s).events
      (collaborators.perform (request group) s).state :=
    Procedure.follows_run collaborators.handler (request group) s
  generalize collaborators.perform (request group) s = first at hAsked hFirst ⊢
  obtain ⟨result, state, events⟩ := first
  dsimp only at hAsked hFirst ⊢
  cases result with
  | error skip =>
    refine Procedure.run_eq_of_yields (Exchange.skipped skip hAsked).yields ?_
    exact Handler.follows_append.mpr ⟨state, hFirst, rfl, rfl⟩
  | ok patch =>
    dsimp only
    rcases hWrite : collaborators.write patch.file patch.proposed state with ⟨fault | _, after⟩
    · refine Procedure.run_eq_of_yields (Exchange.notWritten patch fault hAsked).yields ?_
      refine Handler.follows_append.mpr ⟨state, hFirst, ?_⟩
      simp [Handler.Follows, Collaborators.handler, hWrite]
    · refine Procedure.run_eq_of_yields (Exchange.written patch hAsked).yields ?_
      refine Handler.follows_append.mpr ⟨state, hFirst, ?_⟩
      simp [Handler.Follows, Collaborators.handler, hWrite]

theorem perform_attempt (number : Nat) :
    collaborators.perform (attempt number) s =
      match collaborators.check s with
      | (.error failure, opened) => ⟨.error failure, opened, [⟨.check, .error failure⟩]⟩
      | (.ok made, opened) =>
        if made.errors = [] then
          ⟨.ok .alreadyClean, opened, passEvents made ++ [noted .alreadyResolved]⟩
        else
          let rest := collaborators.perform (repairFiles (groupByFile made.errors)) opened
          ⟨.ok (.processed rest.result), rest.state,
            passEvents made ++ noted (.errorsRemaining number made.errors.length
              (groupByFile made.errors).length) :: rest.events⟩ := by
  rcases hCheck : collaborators.check s with ⟨failure | made, opened⟩
  · have hFollows : collaborators.handler.Follows s [⟨.check, .error failure⟩] opened := by
      simp [Handler.Follows, Collaborators.handler, hCheck]
    exact Procedure.run_eq_of_yields (Round.failed failure).yields hFollows
  · dsimp only
    have hPass : collaborators.handler.Follows s (passEvents made) opened := by
      simp [Handler.Follows, Collaborators.handler, hCheck]
    split
    · rename_i hClean
      refine Procedure.run_eq_of_yields (Round.alreadyClean made hClean).yields ?_
      exact Handler.follows_append.mpr ⟨opened, hPass, rfl, rfl⟩
    · rename_i hErrors
      have hExchanges := yields_repairFiles (Procedure.yields_run collaborators.handler
        (repairFiles (groupByFile made.errors)) opened)
      refine Procedure.run_eq_of_yields (Round.processed made hErrors hExchanges).yields ?_
      refine Handler.follows_append.mpr ⟨opened, hPass, rfl, ?_⟩
      exact Procedure.follows_run collaborators.handler _ opened

/-- An attempt is one stage. -/
theorem stages_attempt {number : Nat} {stage : Stage}
    (h : (collaborators.perform (attempt number) s).events = stage.all) :
    stages (collaborators.perform (attempt number) s).events = [stage] := by
  have hRound : Round number (collaborators.perform (attempt number) s).events _ :=
    yields_attempt (Procedure.yields_run collaborators.handler (attempt number) s)
  obtain ⟨other, hEvents, hQuiet, -⟩ := hRound.shape
  rw [h] at hEvents ⊢
  rw [← (List.cons.inj hEvents).2] at hQuiet
  have hStages := Stage.stages_all_append hQuiet lead_nil
  rwa [List.append_nil, stages_nil] at hStages

variable {collaborators s}

/-- What is left of a run begins with an attempt. -/
theorem Rest.first_round {attempts errorsBefore left : Nat} {done : List Patch}
    {events : List (Event calls)} {result : Except Checker.Failure Summary}
    (h : Rest attempts errorsBefore (left + 1) done events result) :
    ∃ n round outcome later, events = noted n :: (round ++ later) ∧
      Round (attempts - left) round outcome ∧ lead later = [] := by
  cases h with
  | failed left done hRound => exact ⟨_, _, _, [], by rw [List.append_nil], hRound, rfl⟩
  | alreadyClean left done hRound => exact ⟨_, _, _, [], by rw [List.append_nil], hRound, rfl⟩
  | recheckFailed left done hRound failure => exact ⟨_, _, _, _, rfl, hRound, rfl⟩
  | fixed left done hRound made hClean => exact ⟨_, _, _, _, rfl, hRound, rfl⟩
  | goesOn left done hRound made hErrors hLater => exact ⟨_, _, _, _, rfl, hRound, rfl⟩

/-- The first attempt of a run is an attempt from the state that its first pass leaves, if the
pass finds errors. -/
theorem first_attempt (collaborators : Collaborators σ) {attempts : Nat} (h : 0 < attempts)
    (s : σ) :
    (stages (collaborators.repair attempts s).events)[1]? =
      match collaborators.check s with
      | (.error _, _) => none
      | (.ok made, opened) =>
        if made.errors = [] then none
        else (stages (collaborators.perform (attempt 1) opened).events)[0]? := by
  have hCourse := collaborators.course attempts s
  have hFollows : collaborators.handler.Follows s (collaborators.repair attempts s).events
      (collaborators.repair attempts s).state :=
    Procedure.follows_run collaborators.handler (run attempts) s
  generalize (collaborators.repair attempts s).events = events at hCourse hFollows ⊢
  generalize (collaborators.repair attempts s).result = result at hCourse
  generalize (collaborators.repair attempts s).state = final at hFollows
  have hMade : ∀ {made : Checker.Pass} {rest : List (Event calls)},
      collaborators.handler.Follows s (passEvents made ++ rest) final →
        ∃ opened, collaborators.check s = (.ok made, opened) ∧
          collaborators.handler.Follows opened rest final := by
    rintro made rest ⟨hAnswer, -, hRest⟩
    exact ⟨_, Prod.ext hAnswer.symm rfl, hRest⟩
  cases hCourse with
  | failed failure =>
    have hAnswer : collaborators.check s = (.error failure, (collaborators.check s).2) :=
      Prod.ext hFollows.1.symm rfl
    rw [hAnswer]
    rfl
  | clean made hClean =>
    obtain ⟨opened, hCheck, -⟩ := hMade hFollows
    rw [hCheck]
    dsimp only
    rw [if_pos hClean]
    rfl
  | started made hErrors hRest =>
    obtain ⟨opened, hCheck, hLater⟩ := hMade hFollows
    obtain ⟨left, rfl⟩ := Nat.exists_eq_succ_of_ne_zero (Nat.ne_of_gt h)
    obtain ⟨n, round, outcome, later, rfl, hRound, hLead⟩ := hRest.first_round
    obtain ⟨last, hAttempt, -⟩ : ∃ last, collaborators.handler.Follows opened round last ∧
      collaborators.handler.Follows last later final := Handler.follows_append.mp hLater.2.2
    have hRun : collaborators.perform (attempt 1) opened = ⟨outcome, last, round⟩ := by
      rw [show left + 1 - left = 1 by omega] at hRound
      exact Procedure.run_eq_of_yields hRound.yields hAttempt
    obtain ⟨stage, rfl, hQuiet, -⟩ := hRound.shape
    have hStages : stages (noted n :: (stage.all ++ later)) = stage :: stages later := by
      rw [stages_noted, Stage.stages_all_append hQuiet hLead]
    have hAlone := Stage.stages_all_append hQuiet lead_nil
    rw [List.append_nil] at hAlone
    rw [hCheck]
    dsimp only
    rw [if_neg hErrors, hRun, hAlone]
    exact congrArg (·[0]?) hStages

end TypeRepair.Repair
