import TypeRepair.Proofs.Procedure.Path
import TypeRepair.Repair.Collaborators

/-!
# The courses of the loop

What each part of the loop can do, whatever its collaborators answer: the events of every path
through it, with the result. Each relation lists the paths of one part, and one lemma for each part
says that there are no others.

* `propose_eq_ok_iff`: which patch an answer leads to.
* `yields_repairFile`: the ways to deal with a file.
* `Exchanges.yields`, `Round.yields`: every way through an attempt that is listed is a path.
* `yields_attemptsFrom`, `yields_run`: the places where a run can end.
-/

namespace TypeRepair

/-- The errors that a pass reports. -/
def Checker.Pass.errors (made : Checker.Pass) : List Diagnostic :=
  Diagnostic.parse made.text

namespace Repair

open Procedure

/-- The event of a note. -/
abbrev noted (n : Note) : Event calls := ⟨.note n, ()⟩

/-- The events of a pass that was made. -/
abbrev passEvents (made : Checker.Pass) : List (Event calls) :=
  [⟨.check, .ok made⟩, noted (.passMade made.exitCode made.errors.length)]

theorem yields_note {α : Type} {n : Note} {next : Unit → Action α} {events : List (Event calls)}
    {result : α} (h : (note n >>= next).Yields events result) :
    ∃ rest, events = noted n :: rest ∧ (next ()).Yields rest result := by
  obtain ⟨_, rest, rfl, h⟩ := h
  exact ⟨rest, rfl, h⟩

/-! ## One file -/

/-- A patch is proposed for a block that is not empty and that the gate lets through with its final
newline restored. -/
theorem propose_eq_ok_iff {group : FileErrors} {previous answer : String} {patch : Patch}
    {share : Binary64} :
    propose group previous answer = .ok (patch, share) ↔
      ∃ block, Patch.block? answer = some block ∧ block ≠ "" ∧
        Gate.judge previous (Patch.withFinalNewline previous block) = .admitted share ∧
        patch = ⟨group.file, previous, Patch.withFinalNewline previous block,
          group.errors.length⟩ := by
  unfold propose
  cases Patch.block? answer with
  | none => simp
  | some block =>
    by_cases hEmpty : block = ""
    · simp [hEmpty]
    · cases hJudge : Gate.judge previous (Patch.withFinalNewline previous block) with
      | refused reason => simp [hEmpty, hJudge]
      | admitted accepted => simp [hEmpty, hJudge, and_comm, eq_comm]

/-- Nothing is proposed if there is no block, or an empty one, or if the gate refuses the block with
its final newline restored. -/
theorem propose_eq_error {group : FileErrors} {previous answer : String} {skip : Skip}
    (h : propose group previous answer = .error skip) :
    (skip = .noBlock ∧ (Patch.block? answer = none ∨ Patch.block? answer = some "")) ∨
      ∃ block reason, Patch.block? answer = some block ∧ block ≠ "" ∧ skip = .refused reason ∧
        Gate.judge previous (Patch.withFinalNewline previous block) = .refused reason := by
  unfold propose at h
  cases hBlock : Patch.block? answer with
  | none =>
    rw [hBlock] at h
    cases h
    exact .inl ⟨rfl, .inl rfl⟩
  | some block =>
    rw [hBlock] at h
    dsimp only at h
    by_cases hEmpty : block = ""
    · subst hEmpty
      cases h
      exact .inl ⟨rfl, .inr rfl⟩
    · rw [if_neg hEmpty] at h
      cases hJudge : Gate.judge previous (Patch.withFinalNewline previous block) with
      | refused reason =>
        rw [hJudge] at h
        cases h
        exact .inr ⟨block, reason, rfl, hEmpty, rfl, hJudge⟩
      | admitted share =>
        rw [hJudge] at h
        cases h

/-- What comes of a request for a new body: the reason to leave the file as it is, or a patch. -/
inductive Asked (group : FileErrors) : List (Event calls) → Except Skip Patch → Prop
  | unreadable (fault : SystemFault) :
    Asked group [⟨.read group.file, .error fault⟩] (.error (.unreadable fault))
  | notGenerated (previous : String) (fault : GenerationFault) :
    Asked group
      [⟨.read group.file, .ok previous⟩,
        ⟨.generate (Patch.instruction group.file previous group.errors), .error fault⟩]
      (.error (.notGenerated fault))
  | declined (previous : String) (answer : Generated) (skip : Skip)
    (hPropose : propose group previous answer.content = .error skip) :
    Asked group
      [⟨.read group.file, .ok previous⟩,
        ⟨.generate (Patch.instruction group.file previous group.errors), .ok answer⟩,
        noted (.answerReceived group.file answer.model)] (.error skip)
  | admitted (previous : String) (answer : Generated) (patch : Patch) (share : Binary64)
    (hPropose : propose group previous answer.content = .ok (patch, share)) :
    Asked group
      [⟨.read group.file, .ok previous⟩,
        ⟨.generate (Patch.instruction group.file previous group.errors), .ok answer⟩,
        noted (.answerReceived group.file answer.model),
        noted (.patchAdmitted group.file share)] (.ok patch)

theorem yields_request {group : FileErrors} {events : List (Event calls)}
    {result : Except Skip Patch} (h : (request group).Yields events result) :
    Asked group events result := by
  obtain ⟨answer, rest, rfl, h⟩ := h
  cases answer with
  | error fault =>
    obtain ⟨rfl, rfl⟩ := h
    exact .unreadable fault
  | ok previous =>
    obtain ⟨answer, rest, rfl, h⟩ := h
    cases answer with
    | error fault =>
      obtain ⟨rfl, rfl⟩ := h
      exact .notGenerated previous fault
    | ok answer =>
      obtain ⟨rest, rfl, hRest⟩ := yields_note h
      split at hRest
      · rename_i skip hPropose
        obtain ⟨rfl, rfl⟩ := hRest
        exact .declined previous answer skip hPropose
      · rename_i patch share hPropose
        obtain ⟨_, rfl, rfl, rfl⟩ := yields_note hRest
        exact .admitted previous answer patch share hPropose

theorem Asked.yields {group : FileErrors} {events : List (Event calls)}
    {result : Except Skip Patch} (h : Asked group events result) :
    (request group).Yields events result := by
  cases h with
  | unreadable fault => exact ⟨_, _, rfl, rfl, rfl⟩
  | notGenerated previous fault => exact ⟨_, _, rfl, _, _, rfl, rfl, rfl⟩
  | declined previous answer skip hPropose =>
    refine ⟨_, _, rfl, _, _, rfl, (), _, rfl, ?_⟩
    dsimp only
    rw [hPropose]
    exact ⟨rfl, rfl⟩
  | admitted previous answer patch share hPropose =>
    refine ⟨_, _, rfl, _, _, rfl, (), _, rfl, ?_⟩
    dsimp only
    rw [hPropose]
    exact ⟨(), _, rfl, rfl, rfl⟩

/-- A patch that is asked for is the one that the answer proposes for what was read. -/
theorem Asked.admitted_inv {group : FileErrors} {events : List (Event calls)} {patch : Patch}
    (h : Asked group events (.ok patch)) :
    ∃ previous answer share, propose group previous answer.content = .ok (patch, share) ∧
      events =
        [⟨.read group.file, .ok previous⟩,
          ⟨.generate (Patch.instruction group.file previous group.errors), .ok answer⟩,
          noted (.answerReceived group.file answer.model),
          noted (.patchAdmitted group.file share)] := by
  cases h with
  | admitted previous answer _ share hPropose => exact ⟨previous, answer, share, hPropose, rfl⟩

theorem Asked.patch_file {group : FileErrors} {events : List (Event calls)} {patch : Patch}
    (h : Asked group events (.ok patch)) : patch.file = group.file := by
  obtain ⟨previous, answer, share, hPropose, -⟩ := h.admitted_inv
  obtain ⟨block, -, -, -, rfl⟩ := propose_eq_ok_iff.mp hPropose
  rfl

/-- How a file of an attempt is dealt with, and the patch that is written, if one is. -/
inductive Exchange (group : FileErrors) : List (Event calls) → Option Patch → Prop
  | skipped {events : List (Event calls)} (skip : Skip) (h : Asked group events (.error skip)) :
    Exchange group (events ++ [noted (.fileSkipped group.file skip)]) none
  | notWritten {events : List (Event calls)} (patch : Patch) (fault : SystemFault)
    (h : Asked group events (.ok patch)) :
    Exchange group
      (events ++ [⟨.write patch.file patch.proposed, .error fault⟩,
        noted (.fixNotWritten patch.file fault)]) none
  | written {events : List (Event calls)} (patch : Patch) (h : Asked group events (.ok patch)) :
    Exchange group
      (events ++ [⟨.write patch.file patch.proposed, .ok ()⟩,
        noted (.fixApplied patch.file patch.errorsTargeted
          (Gate.changedLines patch.previous patch.proposed))]) (some patch)

theorem Exchange.patch_file {group : FileErrors} {events : List (Event calls)} {patch : Patch}
    (h : Exchange group events (some patch)) : patch.file = group.file := by
  cases h with
  | written _ hAsked => exact hAsked.patch_file

theorem Exchange.patch_errorsTargeted {group : FileErrors} {events : List (Event calls)}
    {patch : Patch} (h : Exchange group events (some patch)) :
    patch.errorsTargeted = group.errors.length := by
  cases h with
  | written _ hAsked =>
    obtain ⟨previous, answer, share, hPropose, -⟩ := hAsked.admitted_inv
    obtain ⟨block, -, -, -, rfl⟩ := propose_eq_ok_iff.mp hPropose
    rfl

theorem yields_repairFile {group : FileErrors} {events : List (Event calls)}
    {result : Option Patch} (h : (repairFile group).Yields events result) :
    Exchange group events result := by
  obtain ⟨first, asked, second, rfl, hFirst, hSecond⟩ := yields_bind.mp h
  have hAsked := yields_request hFirst
  cases asked with
  | error skip =>
    obtain ⟨_, rfl, rfl, rfl⟩ := yields_note hSecond
    exact .skipped skip hAsked
  | ok patch =>
    obtain ⟨answer, rest, rfl, hRest⟩ := hSecond
    cases answer with
    | error fault =>
      obtain ⟨_, rfl, rfl, rfl⟩ := yields_note hRest
      exact .notWritten patch fault hAsked
    | ok _ =>
      obtain ⟨_, rfl, rfl, rfl⟩ := yields_note hRest
      exact .written patch hAsked

theorem Exchange.yields {group : FileErrors} {events : List (Event calls)}
    {result : Option Patch} (h : Exchange group events result) :
    (repairFile group).Yields events result := by
  cases h with
  | skipped skip h => exact yields_bind.mpr ⟨_, _, _, rfl, h.yields, (), _, rfl, rfl, rfl⟩
  | notWritten patch fault h =>
    exact yields_bind.mpr ⟨_, _, _, rfl, h.yields, _, _, rfl, (), _, rfl, rfl, rfl⟩
  | written patch h =>
    exact yields_bind.mpr ⟨_, _, _, rfl, h.yields, _, _, rfl, (), _, rfl, rfl, rfl⟩

/-- How files are dealt with one after the other, and the patches that are written. -/
inductive Exchanges : List FileErrors → List (Event calls) → List Patch → Prop
  | nil : Exchanges [] [] []
  | cons {group : FileErrors} {groups : List FileErrors} {events later : List (Event calls)}
    {patch : Option Patch} {patches : List Patch} (head : Exchange group events patch)
    (tail : Exchanges groups later patches) :
    Exchanges (group :: groups) (events ++ later) (patch.toList ++ patches)

/-- Patches are written in the order of the files, each for all errors of its file. -/
theorem Exchanges.patches_sublist {groups : List FileErrors} {events : List (Event calls)}
    {patches : List Patch} (h : Exchanges groups events patches) :
    (patches.map fun patch => (patch.file, patch.errorsTargeted)).Sublist
      (groups.map fun group => (group.file, group.errors.length)) := by
  induction h with
  | nil => exact List.Sublist.refl _
  | @cons group groups events later patch patches head tail ih =>
    cases patch with
    | none => exact ih.cons _
    | some patch => simpa [head.patch_file, head.patch_errorsTargeted] using ih

theorem Exchanges.files_sublist {groups : List FileErrors} {events : List (Event calls)}
    {patches : List Patch} (h : Exchanges groups events patches) :
    (patches.map Patch.file).Sublist (groups.map FileErrors.file) := by
  simpa [Function.comp_def] using h.patches_sublist.map Prod.fst

theorem yields_repairFiles {groups : List FileErrors} {events : List (Event calls)}
    {patches : List Patch} (h : (repairFiles groups).Yields events patches) :
    Exchanges groups events patches := by
  induction groups generalizing events patches with
  | nil =>
    obtain ⟨rfl, rfl⟩ := h
    exact .nil
  | cons group groups ih =>
    obtain ⟨first, patch, second, rfl, hFirst, hSecond⟩ := yields_bind.mp h
    obtain ⟨later, rest, _, rfl, hLater, rfl, rfl⟩ := yields_bind.mp hSecond
    rw [List.append_nil]
    exact .cons (yields_repairFile hFirst) (ih hLater)

theorem Exchanges.yields {groups : List FileErrors} {events : List (Event calls)}
    {patches : List Patch} (h : Exchanges groups events patches) :
    (repairFiles groups).Yields events patches := by
  induction h with
  | nil => exact ⟨rfl, rfl⟩
  | cons head tail ih =>
    refine yields_bind.mpr ⟨_, _, _, rfl, head.yields, ?_⟩
    exact yields_bind.mpr ⟨_, _, [], (List.append_nil _).symm, ih, rfl, rfl⟩

/-- A patch that is written belongs to one of the files. -/
theorem Exchanges.of_mem {groups : List FileErrors} {events : List (Event calls)}
    {patches : List Patch} (h : Exchanges groups events patches) {patch : Patch}
    (hMem : patch ∈ patches) :
    ∃ group ∈ groups, ∃ events, Exchange group events (some patch) := by
  induction h with
  | nil => cases hMem
  | @cons group groups events later first patches head tail ih =>
    rcases List.mem_append.mp hMem with hFirst | hLater
    · rw [Option.mem_toList] at hFirst
      rw [Option.mem_def.mp hFirst] at head
      exact ⟨group, List.mem_cons_self, events, head⟩
    · obtain ⟨other, hOther, hExchange⟩ := ih hLater
      exact ⟨other, List.mem_cons_of_mem _ hOther, hExchange⟩

/-! ## Passes and attempts -/

theorem yields_pass {events : List (Event calls)}
    {result : Except Checker.Failure (List Diagnostic)} (h : pass.Yields events result) :
    (∃ failure, events = [⟨.check, .error failure⟩] ∧ result = .error failure) ∨
      ∃ made, events = passEvents made ∧ result = .ok made.errors := by
  obtain ⟨answer, rest, rfl, h⟩ := h
  cases answer with
  | error failure =>
    obtain ⟨rfl, rfl⟩ := h
    exact .inl ⟨failure, rfl, rfl⟩
  | ok made =>
    obtain ⟨_, rfl, rfl, rfl⟩ := yields_note h
    exact .inr ⟨made, rfl, rfl⟩

/-- The patches of an attempt. -/
def Attempt.patches : Attempt → List Patch
  | .alreadyClean => []
  | .processed patches => patches

/-- How an attempt goes. -/
inductive Round (number : Nat) :
    List (Event calls) → Except Checker.Failure Attempt → Prop
  | failed (failure : Checker.Failure) : Round number [⟨.check, .error failure⟩] (.error failure)
  | alreadyClean (made : Checker.Pass) (hClean : made.errors = []) :
    Round number (passEvents made ++ [noted .alreadyResolved]) (.ok .alreadyClean)
  | processed (made : Checker.Pass) (hErrors : made.errors ≠ []) {events : List (Event calls)}
    {patches : List Patch} (h : Exchanges (Diagnostic.groupByFile made.errors) events patches) :
    Round number
      (passEvents made ++ noted (.errorsRemaining number made.errors.length
        (Diagnostic.groupByFile made.errors).length) :: events) (.ok (.processed patches))

theorem yields_attempt {number : Nat} {events : List (Event calls)}
    {result : Except Checker.Failure Attempt} (h : (attempt number).Yields events result) :
    Round number events result := by
  obtain ⟨first, opening, second, rfl, hFirst, hSecond⟩ := yields_bind.mp h
  rcases yields_pass hFirst with ⟨failure, rfl, rfl⟩ | ⟨made, rfl, rfl⟩
  · obtain ⟨rfl, rfl⟩ := hSecond
    exact .failed failure
  · dsimp only at hSecond
    split at hSecond
    · rename_i hClean
      obtain ⟨_, rfl, rfl, rfl⟩ := yields_note hSecond
      exact .alreadyClean made (List.isEmpty_iff.mp hClean)
    · rename_i hErrors
      obtain ⟨_, rfl, hFiles⟩ := yields_note hSecond
      obtain ⟨events, patches, _, rfl, hEvents, rfl, rfl⟩ := yields_bind.mp hFiles
      rw [List.append_nil]
      exact .processed made (fun hClean => hErrors (List.isEmpty_iff.mpr hClean))
        (yields_repairFiles hEvents)

theorem Round.yields {number : Nat} {events : List (Event calls)}
    {result : Except Checker.Failure Attempt} (h : Round number events result) :
    (attempt number).Yields events result := by
  cases h with
  | failed failure => exact ⟨_, _, rfl, rfl, rfl⟩
  | alreadyClean made hClean =>
    refine yields_bind.mpr ⟨_, .ok made.errors, _, rfl, ⟨_, _, rfl, (), _, rfl, rfl, rfl⟩, ?_⟩
    dsimp only
    rw [if_pos (List.isEmpty_iff.mpr hClean)]
    exact ⟨(), _, rfl, rfl, rfl⟩
  | processed made hErrors h =>
    refine yields_bind.mpr ⟨_, .ok made.errors, _, rfl, ⟨_, _, rfl, (), _, rfl, rfl, rfl⟩, ?_⟩
    dsimp only
    rw [if_neg (fun hClean => hErrors (List.isEmpty_iff.mp hClean))]
    refine ⟨(), _, rfl, yields_bind (p := repairFiles _) |>.mpr ?_⟩
    exact ⟨_, _, [], (List.append_nil _).symm, h.yields, rfl, rfl⟩

/-- How the attempts that are left go, after the patches that are done. -/
inductive Rest (attempts errorsBefore : Nat) :
    Nat → List Patch → List (Event calls) → Except Checker.Failure Summary → Prop
  | lastFailed (done : List Patch) (failure : Checker.Failure) :
    Rest attempts errorsBefore 0 done [⟨.check, .error failure⟩] (.error failure)
  | exhausted (done : List Patch) (made : Checker.Pass) :
    Rest attempts errorsBefore 0 done
      (passEvents made ++ [noted (.attemptsExhausted made.errors.length attempts)])
      (.ok (.exhausted errorsBefore made.errors.length done))
  | failed (left : Nat) (done : List Patch) {events : List (Event calls)}
    {failure : Checker.Failure} (h : Round (attempts - left) events (.error failure)) :
    Rest attempts errorsBefore (left + 1) done
      (noted (.attemptBegins (attempts - left) attempts) :: events) (.error failure)
  | alreadyClean (left : Nat) (done : List Patch) {events : List (Event calls)}
    (h : Round (attempts - left) events (.ok .alreadyClean)) :
    Rest attempts errorsBefore (left + 1) done
      (noted (.attemptBegins (attempts - left) attempts) :: events)
      (.ok (.resolved errorsBefore done))
  | recheckFailed (left : Nat) (done : List Patch) {events : List (Event calls)}
    {patches : List Patch} (h : Round (attempts - left) events (.ok (.processed patches)))
    (failure : Checker.Failure) :
    Rest attempts errorsBefore (left + 1) done
      (noted (.attemptBegins (attempts - left) attempts) ::
        (events ++ [⟨.check, .error failure⟩])) (.error failure)
  | fixed (left : Nat) (done : List Patch) {events : List (Event calls)} {patches : List Patch}
    (h : Round (attempts - left) events (.ok (.processed patches))) (made : Checker.Pass)
    (hClean : made.errors = []) :
    Rest attempts errorsBefore (left + 1) done
      (noted (.attemptBegins (attempts - left) attempts) ::
        (events ++ (passEvents made ++ [noted (.allFixed (attempts - left))])))
      (.ok (.resolved errorsBefore (done ++ patches)))
  | goesOn (left : Nat) (done : List Patch) {events : List (Event calls)} {patches : List Patch}
    (h : Round (attempts - left) events (.ok (.processed patches))) (made : Checker.Pass)
    (hErrors : made.errors ≠ []) {later : List (Event calls)}
    {result : Except Checker.Failure Summary}
    (hLater : Rest attempts errorsBefore left (done ++ patches) later result) :
    Rest attempts errorsBefore (left + 1) done
      (noted (.attemptBegins (attempts - left) attempts) ::
        (events ++ (passEvents made ++
          noted (.errorsAfterAttempt (attempts - left) made.errors.length) :: later))) result

theorem yields_attemptsFrom {attempts errorsBefore left : Nat} {done : List Patch}
    {events : List (Event calls)} {result : Except Checker.Failure Summary}
    (h : (attemptsFrom attempts errorsBefore left (Progress.none.recordAll done)).Yields
      events result) :
    Rest attempts errorsBefore left done events result := by
  induction left generalizing done events result with
  | zero =>
    obtain ⟨first, last, second, rfl, hFirst, hSecond⟩ := yields_bind.mp h
    rcases yields_pass hFirst with ⟨failure, rfl, rfl⟩ | ⟨made, rfl, rfl⟩
    · obtain ⟨rfl, rfl⟩ := hSecond
      exact .lastFailed done failure
    · obtain ⟨_, rfl, rfl, rfl⟩ := yields_note hSecond
      rw [Progress.exhausted, Progress.finish_recordAll]
      exact .exhausted done made
  | succ left ih =>
    obtain ⟨_, rfl, hAttempt⟩ := yields_note h
    obtain ⟨first, outcome, second, rfl, hFirst, hSecond⟩ := yields_bind.mp hAttempt
    have hRound := yields_attempt hFirst
    rcases outcome with failure | _ | patches
    · obtain ⟨rfl, rfl⟩ := hSecond
      rw [List.append_nil]
      exact .failed left done hRound
    · obtain ⟨rfl, rfl⟩ := hSecond
      rw [List.append_nil, Progress.resolved, Progress.finish_recordAll]
      exact .alreadyClean left done hRound
    · dsimp only at hSecond
      rw [← Progress.recordAll_append] at hSecond
      obtain ⟨recheck, outcome, rest, rfl, hRecheck, hRest⟩ := yields_bind.mp hSecond
      rcases yields_pass hRecheck with ⟨failure, rfl, rfl⟩ | ⟨made, rfl, rfl⟩
      · obtain ⟨rfl, rfl⟩ := hRest
        exact .recheckFailed left done hRound failure
      · dsimp only at hRest
        split at hRest
        · rename_i hClean
          obtain ⟨_, rfl, rfl, rfl⟩ := yields_note hRest
          rw [Progress.resolved, Progress.finish_recordAll]
          exact .fixed left done hRound made (List.isEmpty_iff.mp hClean)
        · rename_i hErrors
          obtain ⟨later, rfl, hLater⟩ := yields_note hRest
          exact .goesOn left done hRound made
            (fun hClean => hErrors (List.isEmpty_iff.mpr hClean)) (ih hLater)

/-- How a run goes. -/
inductive Course (attempts : Nat) : List (Event calls) → Except Checker.Failure Summary → Prop
  | failed (failure : Checker.Failure) :
    Course attempts [⟨.check, .error failure⟩] (.error failure)
  | clean (made : Checker.Pass) (hClean : made.errors = []) :
    Course attempts (passEvents made ++ [noted (.errorsFound made.errors.length)]) (.ok .clean)
  | started (made : Checker.Pass) (hErrors : made.errors ≠ []) {events : List (Event calls)}
    {result : Except Checker.Failure Summary}
    (h : Rest attempts made.errors.length attempts [] events result) :
    Course attempts (passEvents made ++ noted (.errorsFound made.errors.length) :: events) result

theorem yields_run_loop {attempts : Nat} {events : List (Event calls)}
    {result : Except Checker.Failure Summary} (h : (run attempts).Yields events result) :
    Course attempts events result := by
  obtain ⟨first, opening, second, rfl, hFirst, hSecond⟩ := yields_bind.mp h
  rcases yields_pass hFirst with ⟨failure, rfl, rfl⟩ | ⟨made, rfl, rfl⟩
  · obtain ⟨rfl, rfl⟩ := hSecond
    exact .failed failure
  · obtain ⟨rest, rfl, hRest⟩ := yields_note hSecond
    split at hRest
    · rename_i hClean
      obtain ⟨rfl, rfl⟩ := hRest
      exact .clean made (List.isEmpty_iff.mp hClean)
    · rename_i hErrors
      exact .started made (fun hClean => hErrors (List.isEmpty_iff.mpr hClean))
        (yields_attemptsFrom hRest)

/-- The run of a loop takes one of its courses. -/
theorem Collaborators.course {σ : Type} (collaborators : Collaborators σ) (attempts : Nat)
    (state : σ) :
    Course attempts (collaborators.repair attempts state).events
      (collaborators.repair attempts state).result :=
  yields_run_loop (yields_run collaborators.handler (run attempts) state)

end Repair

end TypeRepair
