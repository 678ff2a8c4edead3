import TypeRepair.Proofs.Repair.Isolation
import TypeRepair.Proofs.Repair.Schedule

/-!
# Verdicts of a faithful checker

A checker is faithful if it makes every pass and prints a text that depends on nothing but the
bodies of the files. Passes with no write between them then report the same errors, and from one
attempt to the next this carries over what the last pass has seen: while a run goes on, the files
have errors.

* `Rest.verdict`: what is left of a run that starts with errors ends with a summary that is true.
* `faithful_verdict_true`: the summary of every run says what the checker reports on the last files.
-/

namespace TypeRepair.Repair

/-- Every pass is made, and its text depends on the bodies of the files only. -/
def Faithful {σ : Type} (collaborators : Collaborators σ) (files : σ → Files)
    (output : Files → String) : Prop :=
  ∀ s, ∃ exitCode, (collaborators.check s).1 = .ok ⟨exitCode, output (files s)⟩

/-- The errors that a checker with this output reports on files. -/
def reported (output : Files → String) (files : Files) : List Diagnostic :=
  Diagnostic.parse (output files)

section

variable {σ : Type} {collaborators : Collaborators σ} {files : σ → Files} {output : Files → String}
  {s t : σ}

theorem Faithful.not_failed (h : Faithful collaborators files output)
    {failure : Checker.Failure} {rest : List (Event calls)} :
    ¬ collaborators.handler.Follows s (⟨.check, .error failure⟩ :: rest) t := by
  rintro ⟨hAnswer, -⟩
  obtain ⟨exitCode, hCheck⟩ := h s
  have hBoth := hAnswer.trans hCheck
  cases hBoth

/-- A pass reports the errors of the files as they are, and leaves them so. -/
theorem Faithful.pass (h : Faithful collaborators files output)
    (hKeyed : PathKeyed collaborators files) {made : Checker.Pass} {rest : List (Event calls)}
    (hFollows : collaborators.handler.Follows s (passEvents made ++ rest) t) :
    made.errors = reported output (files s) ∧
      ∃ middle, files middle = files s ∧ collaborators.handler.Follows middle rest t := by
  obtain ⟨middle, hPass, hRest⟩ := Handler.follows_append.mp hFollows
  refine ⟨?_, middle, hKeyed.follows hPass, hRest⟩
  obtain ⟨exitCode, hCheck⟩ := h s
  have hMade : Except.ok made = .ok ⟨exitCode, output (files s)⟩ := hPass.1.trans hCheck
  cases hMade
  rfl

/-! ## No attempt is needless -/

theorem Exchange.not_alreadyResolved {group : FileErrors} {events : List (Event calls)}
    {patch : Option Patch} (h : Exchange group events patch) :
    noted .alreadyResolved ∉ events := by
  have hAsked : ∀ {first : List (Event calls)} {result : Except Skip Patch},
      Asked group first result → noted .alreadyResolved ∉ first := by
    intro first result hFirst
    cases hFirst <;> simp
  cases h with
  | skipped skip h => simpa using hAsked h
  | notWritten patch fault h => simpa using hAsked h
  | written patch h => simpa using hAsked h

theorem Exchanges.not_alreadyResolved {groups : List FileErrors} {events : List (Event calls)}
    {patches : List Patch} (h : Exchanges groups events patches) :
    noted .alreadyResolved ∉ events := by
  induction h with
  | nil => exact List.not_mem_nil
  | cons head tail ih =>
    rw [List.mem_append, not_or]
    exact ⟨head.not_alreadyResolved, ih⟩

/-- Where the files have errors, an attempt is neither failed nor needless. -/
theorem Round.of_errors (h : Faithful collaborators files output)
    (hKeyed : PathKeyed collaborators files) {number : Nat} {events : List (Event calls)}
    {result : Except Checker.Failure Attempt} (hRound : Round number events result)
    (hErrors : reported output (files s) ≠ [])
    (hFollows : collaborators.handler.Follows s events t) :
    (∃ patches, result = .ok (.processed patches)) ∧ noted .alreadyResolved ∉ events := by
  cases hRound with
  | failed failure => exact absurd hFollows h.not_failed
  | alreadyClean made hClean =>
    obtain ⟨hMade, -⟩ := h.pass hKeyed hFollows
    exact absurd (hMade.symm.trans hClean) hErrors
  | processed made hMade hExchanges =>
    refine ⟨⟨_, rfl⟩, ?_⟩
    have hNone := hExchanges.not_alreadyResolved
    simpa using hNone

/-! ## The summary is true -/

/-- The summary says of these files what the checker reports on them. -/
def Truthful (summary : Summary) (output : Files → String) (files : Files) : Prop :=
  (summary.fullyResolved = true ↔ summary.errorsAfter = 0) ∧
    summary.errorsAfter = (reported output files).length

theorem truthful_resolved {files : Files} (h : reported output files = []) (errorsBefore : Nat)
    (patches : List Patch) : Truthful (.resolved errorsBefore patches) output files :=
  ⟨⟨fun _ => rfl, fun _ => rfl⟩, by rw [h]; rfl⟩

theorem truthful_exhausted {files : Files} (h : reported output files ≠ []) (errorsBefore : Nat)
    (patches : List Patch) :
    Truthful (.exhausted errorsBefore (reported output files).length patches) output files := by
  have hCount : (reported output files).length ≠ 0 := by simpa using h
  exact ⟨⟨fun hFalse => absurd hFalse Bool.false_ne_true, fun hZero => absurd hZero hCount⟩, rfl⟩

/-- No attempt that is left finds its own pass clean: neither by its note nor by its count. -/
def NoneNeedless (left : Nat) (events : List (Event calls)) : Prop :=
  noted .alreadyResolved ∉ events ∧ ∀ i < left, (tallies events)[2 * i]? ≠ some (.ok 0)

/-- While attempts are left the files have errors: at the start because the pass before says so,
and later because the attempt before has ended with a pass that is not clean. -/
theorem Rest.verdict (h : Faithful collaborators files output)
    (hKeyed : PathKeyed collaborators files) {attempts errorsBefore left : Nat} {done : List Patch}
    {events : List (Event calls)} {result : Except Checker.Failure Summary}
    (hRest : Rest attempts errorsBefore left done events result)
    (hErrors : reported output (files s) ≠ [])
    (hFollows : collaborators.handler.Follows s events t) :
    (∃ summary, result = .ok summary ∧ Truthful summary output (files t)) ∧
      NoneNeedless left events := by
  induction hRest generalizing s with
  | lastFailed done failure => exact absurd hFollows h.not_failed
  | exhausted done made =>
    obtain ⟨hMade, middle, hMiddle, hNote⟩ := h.pass hKeyed hFollows
    have hLast : files t = files s := (hKeyed.follows hNote).trans hMiddle
    rw [← hLast] at hErrors hMade
    refine ⟨⟨_, rfl, ?_⟩, by simp, fun i hi => absurd hi (Nat.not_lt_zero i)⟩
    rw [hMade]
    exact truthful_exhausted hErrors _ _
  | failed left done hRound =>
    obtain ⟨⟨patches, hResult⟩, -⟩ := hRound.of_errors h hKeyed hErrors hFollows.2
    cases hResult
  | alreadyClean left done hRound =>
    obtain ⟨⟨patches, hResult⟩, -⟩ := hRound.of_errors h hKeyed hErrors hFollows.2
    cases hResult
  | recheckFailed left done hRound failure =>
    obtain ⟨middle, -, hRecheck⟩ := Handler.follows_append.mp hFollows.2
    exact absurd hRecheck h.not_failed
  | fixed left done hRound made hClean =>
    obtain ⟨middle, hAttempt, hRecheck⟩ := Handler.follows_append.mp hFollows.2
    obtain ⟨-, hNone⟩ := hRound.of_errors h hKeyed hErrors hAttempt
    obtain ⟨hMade, between, hBetween, hNote⟩ := h.pass hKeyed hRecheck
    have hLast : files t = files middle := (hKeyed.follows hNote).trans hBetween
    refine ⟨⟨_, rfl, truthful_resolved ?_ _ _⟩, ?_, fun i hi => ?_⟩
    · rw [hLast, ← hMade, hClean]
    · simpa using hNone
    · obtain ⟨count, hCount, hTallies⟩ := hRound.tallies_eq
      rw [tallies_noted, tallies_append, hTallies, tallies_made]
      cases i with
      | zero => simpa using hCount
      | succ i => simp [Nat.mul_add]
  | goesOn left done hRound made hMadeErrors hLater ih =>
    obtain ⟨middle, hAttempt, hRecheck⟩ := Handler.follows_append.mp hFollows.2
    obtain ⟨-, hNone⟩ := hRound.of_errors h hKeyed hErrors hAttempt
    obtain ⟨hMade, between, hBetween, hRest⟩ := h.pass hKeyed hRecheck
    have hStill : reported output (files between) ≠ [] := by rwa [hBetween, ← hMade]
    obtain ⟨hSummary, hLaterNone, hLaterCounts⟩ := ih hStill hRest.2
    refine ⟨hSummary, ?_, fun i hi => ?_⟩
    · simp [hNone, hLaterNone]
    · obtain ⟨count, hCount, hTallies⟩ := hRound.tallies_eq
      rw [tallies_noted, tallies_append, hTallies, tallies_made, tallies_noted]
      cases i with
      | zero => simpa using hCount
      | succ i => simpa [Nat.mul_add] using hLaterCounts i (by omega)

/-- Files without errors are found clean by one pass, and nothing is done to them. -/
theorem clean_run (h : Faithful collaborators files output)
    (hKeyed : PathKeyed collaborators files) (hClean : reported output (files s) = [])
    (attempts : Nat) :
    let run := collaborators.repair attempts s
    run.result = .ok .clean ∧ tallies run.events = [.ok 0] ∧ Idle run.events ∧
      files run.state = files s := by
  intro run
  have hFollows : collaborators.handler.Follows s run.events run.state :=
    Procedure.follows_run collaborators.handler (Repair.run attempts) s
  have hCourse : Course attempts run.events run.result := collaborators.course attempts s
  generalize run.events = events at hFollows hCourse ⊢
  generalize run.result = result at hFollows hCourse ⊢
  cases hCourse with
  | failed failure => exact absurd hFollows h.not_failed
  | clean made hMade =>
    refine ⟨rfl, ?_, ⟨rfl, rfl, rfl⟩, hKeyed.follows hFollows⟩
    rw [tallies_made, hMade]
    rfl
  | started made hErrors hRest =>
    obtain ⟨hMade, -⟩ := h.pass hKeyed hFollows
    exact absurd (hMade.trans hClean) hErrors

end

/-! ## Collaborators on the files themselves -/

/-- Collaborators that do as a conduct says, with a checker that prints what the files tell it
to. -/
def Conduct.watched (conduct : Conduct) (output : Files → String) : Collaborators Files where
  check files := (.ok ⟨some 2, output files⟩, files)
  read := (conduct.collaborators ⟨none, ""⟩).read
  generate := (conduct.collaborators ⟨none, ""⟩).generate
  write := (conduct.collaborators ⟨none, ""⟩).write

theorem Conduct.watched_faithful (conduct : Conduct) (output : Files → String) :
    Faithful (conduct.watched output) id output :=
  fun _ => ⟨some 2, rfl⟩

theorem Conduct.watched_pathKeyed (conduct : Conduct) (output : Files → String)
    (hReading : ∀ file held body, conduct.reading file held = .ok body → held = some body) :
    PathKeyed (conduct.watched output) id :=
  { (conduct.separate ⟨none, ""⟩ hReading).toPathKeyed with check_keeps := fun _ => rfl }

/-- The summary of every run with a faithful checker is true of the last files, no attempt of the
run finds its own pass clean, and a run on the last files of a resolved one makes a single pass and
does nothing. -/
theorem faithful_verdict_true {σ : Type} {collaborators : Collaborators σ} {files : σ → Files}
    {output : Files → String} (hFaithful : Faithful collaborators files output)
    (hKeyed : PathKeyed collaborators files) (attempts : Nat) (state : σ) :
    let run := collaborators.repair attempts state
    ∃ summary, run.result = .ok summary ∧
      (summary.fullyResolved = true ↔ summary.errorsAfter = 0) ∧
      summary.errorsAfter = (Diagnostic.parse (output (files run.state))).length ∧
      noted .alreadyResolved ∉ run.events ∧
      (∀ i < attempts, (tallies run.events)[2 * i + 1]? ≠ some (.ok 0)) ∧
      (summary.verdict = .resolved → ∀ again t, files t = files run.state →
        let second := collaborators.repair again t
        second.result = .ok .clean ∧ tallies second.events = [.ok 0] ∧ Idle second.events ∧
          files second.state = files run.state) := by
  intro run
  have hFollows : collaborators.handler.Follows state run.events run.state :=
    Procedure.follows_run collaborators.handler (Repair.run attempts) state
  have hCourse : Course attempts run.events run.result := collaborators.course attempts state
  suffices hSummary : ∃ summary, run.result = .ok summary ∧
      Truthful summary output (files run.state) ∧ noted .alreadyResolved ∉ run.events ∧
      ∀ i < attempts, (tallies run.events)[2 * i + 1]? ≠ some (.ok 0) by
    obtain ⟨summary, hResult, ⟨hResolved, hAfter⟩, hNone, hCounts⟩ := hSummary
    refine ⟨summary, hResult, hResolved, hAfter, hNone, hCounts, fun hVerdict again t hFiles => ?_⟩
    have hFully : summary.fullyResolved = true := by
      by_contra hNot
      simp [Summary.verdict, hNot] at hVerdict
    have hClean : reported output (files t) = [] := by
      rw [hFiles, ← List.length_eq_zero_iff, ← hAfter]
      exact hResolved.mp hFully
    rw [← hFiles]
    exact clean_run hFaithful hKeyed hClean again
  generalize run.events = events at hFollows hCourse ⊢
  generalize run.result = result at hFollows hCourse ⊢
  generalize run.state = final at hFollows ⊢
  cases hCourse with
  | failed failure => exact absurd hFollows hFaithful.not_failed
  | clean made hMade =>
    obtain ⟨hErrors, -⟩ := hFaithful.pass hKeyed hFollows
    have hFinal : files final = files state := hKeyed.follows hFollows
    refine ⟨_, rfl, ?_, by simp, fun i hi => by simp [tallies]⟩
    exact truthful_resolved (by rw [hFinal, ← hErrors, hMade]) 0 []
  | started made hMade hRest =>
    obtain ⟨hErrors, middle, hMiddle, hLater⟩ := hFaithful.pass hKeyed hFollows
    have hStart : reported output (files middle) ≠ [] := by rwa [hMiddle, ← hErrors]
    obtain ⟨⟨summary, hResult, hTruth⟩, hNone, hCounts⟩ :=
      hRest.verdict hFaithful hKeyed hStart hLater.2
    refine ⟨summary, hResult, hTruth, by simpa using hNone, fun i hi => ?_⟩
    rw [tallies_made, tallies_noted]
    simpa using hCounts i hi

/-- An output that reports an error until the file has its new body. -/
def untilMended (files : Files) : String :=
  if files "a.ts" = some "a\nc" then "" else "a.ts(1,1): error TS1: x"

theorem mended_verdict_true :
    let collaborators := (Conduct.simple "```\na\nc\n```" []).watched untilMended
    let run := collaborators.repair 2 fun _ => some "a\nb"
    ∃ summary, run.result = .ok summary ∧ summary.results = [⟨"a.ts", "a\nb", "a\nc", 1⟩] ∧
      summary.fullyResolved = true ∧ summary.errorsAfter = 0 ∧
      (Diagnostic.parse (untilMended run.state)).length = 0 ∧
      (tallies run.events)[1]? ≠ some (.ok 0) ∧
      (collaborators.repair 5 run.state).result = .ok .clean := by
  intro collaborators run
  have hResult : run.result = .ok ⟨1, 0, ["a.ts"], [⟨"a.ts", "a\nb", "a\nc", 1⟩], true⟩ := rfl
  obtain ⟨summary, hSummary, -, hAfter, -, hCounts, hSecond⟩ :=
    faithful_verdict_true (Conduct.watched_faithful _ untilMended)
      (Conduct.watched_pathKeyed _ untilMended (Conduct.simple_reading _ _)) 2 fun _ => some "a\nb"
  obtain rfl := Except.ok.inj (hResult.symm.trans hSummary)
  exact ⟨_, hSummary, rfl, rfl, rfl, hAfter.symm, hCounts 0 (by decide), (hSecond rfl 5 _ rfl).1⟩

end TypeRepair.Repair
