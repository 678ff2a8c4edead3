import TypeRepair.Proofs.Procedure.Extension
import TypeRepair.Proofs.Repair.Provenance
import TypeRepair.Proofs.Repair.Schedule

/-!
# More attempts only extend a run

Notes apart, a run with more attempts makes the calls of a run with fewer and gets the same answers.
Where the shorter run makes the pass after its last attempt, the longer one makes the pass that
opens its next attempt; it goes on only if the shorter run has used up its attempts.

* `unnoted`: a part of the loop without its notes.
* `attemptsFrom_begins`: fewer attempts begin more attempts.
* `larger_budget_extends`: the runs of all collaborators with two numbers of attempts.
-/

namespace TypeRepair.Repair

open Procedure

/-! ## Notes left out -/

/-- Each call as itself, but for notes. -/
def unnotedCall : (call : Call) → Action call.Answer
  | .note _ => .done ()
  | .check => check
  | .read file => read file
  | .generate instruction => generate instruction
  | .write file body => write file body

/-- A part of the loop that leaves no notes. -/
def unnoted {α : Type} (action : Action α) : Action α :=
  action.via unnotedCall

/-- The event is a note. -/
def isNote : Event calls → Bool
  | ⟨.note _, _⟩ => true
  | _ => false

/-- The calls on the collaborators among events, with their answers. -/
def contacts (events : List (Event calls)) : List (Event calls) :=
  events.filter (!isNote ·)

section

variable {α β σ : Type}

@[simp] theorem unnoted_done (a : α) : unnoted (.done a) = .done a := rfl

@[simp] theorem unnoted_note (n : Note) (next : Unit → Action α) :
    unnoted (.bind (note n) next) = unnoted (next ()) := rfl

theorem unnoted_bind (action : Action α) (next : α → Action β) :
    unnoted (action.bind next) = (unnoted action).bind fun a => unnoted (next a) :=
  via_bind (I := calls) (J := calls) unnotedCall action next

/-- Without its notes an action does the same. -/
theorem perform_unnoted (collaborators : Collaborators σ) (action : Action α) (s : σ) :
    collaborators.perform (unnoted action) s =
      let run := collaborators.perform action s
      ⟨run.result, run.state, contacts run.events⟩ := by
  induction action generalizing s with
  | done a => rfl
  | ask call next ih =>
    cases call with
    | note n => exact ih () s
    | _ =>
      exact congrArg (fun run : Run calls σ α => (⟨run.result, run.state, _ :: run.events⟩ :
        Run calls σ α)) (ih _ _)

end

/-! ## Attempts left -/

/-- A run has used up its attempts. -/
def UsedUp (result : Except Checker.Failure Summary) : Prop :=
  ∃ summary, result = .ok summary ∧ summary.verdict = .exhausted

/-- The number of an attempt shows in a note only. -/
theorem unnoted_attempt (number : Nat) :
    unnoted (attempt number) = (unnoted pass).bind fun
      | .error failure => .done (.error failure)
      | .ok errors =>
        if errors.isEmpty then .done (.ok .alreadyClean)
        else (unnoted (repairFiles (Diagnostic.groupByFile errors))).bind fun patches =>
          .done (.ok (.processed patches)) := by
  refine (unnoted_bind pass _).trans (congrArg _ (funext fun opened => ?_))
  cases opened with
  | error failure => rfl
  | ok errors =>
    dsimp only
    split
    · rfl
    · exact unnoted_bind (repairFiles (Diagnostic.groupByFile errors)) _

theorem unnoted_attemptsFrom_zero (attempts errorsBefore : Nat) (progress : Progress) :
    unnoted (attemptsFrom attempts errorsBefore 0 progress) = (unnoted pass).bind fun
      | .error failure => .done (.error failure)
      | .ok errors => .done (.ok (progress.exhausted errorsBefore errors.length)) := by
  refine (unnoted_bind pass _).trans (congrArg _ (funext fun opened => ?_))
  cases opened <;> rfl

/-- So does the number of all attempts. -/
theorem unnoted_attemptsFrom_succ (attempts errorsBefore left : Nat) (progress : Progress) :
    unnoted (attemptsFrom attempts errorsBefore (left + 1) progress) =
      (unnoted (attempt 0)).bind fun
        | .error failure => .done (.error failure)
        | .ok .alreadyClean => .done (.ok (progress.resolved errorsBefore))
        | .ok (.processed patches) => (unnoted pass).bind fun
          | .error failure => .done (.error failure)
          | .ok errors =>
            if errors.isEmpty then
              .done (.ok ((progress.recordAll patches).resolved errorsBefore))
            else
              unnoted (attemptsFrom attempts errorsBefore left (progress.recordAll patches)) := by
  have hSame : unnoted (attempt (attempts - left)) = unnoted (attempt 0) := by
    rw [unnoted_attempt, unnoted_attempt]
  rw [← hSame]
  refine (unnoted_bind (attempt (attempts - left)) _).trans (congrArg _ (funext fun outcome => ?_))
  rcases outcome with failure | _ | patches
  · rfl
  · rfl
  · refine (unnoted_bind pass _).trans (congrArg _ (funext fun opened => ?_))
    cases opened with
    | error failure => rfl
    | ok errors =>
      dsimp only
      split <;> rfl

/-- The pass after the last attempt is the one that would open the next attempt. -/
theorem lastPass_begins (attempts more errorsBefore left : Nat) (progress : Progress) :
    (unnoted (attemptsFrom attempts errorsBefore 0 progress)).Begins UsedUp
      (unnoted (attemptsFrom more errorsBefore left progress)) := by
  have hOpen : ∀ count, UsedUp (.ok (progress.exhausted errorsBefore count)) :=
    fun count => ⟨_, rfl, rfl⟩
  rw [unnoted_attemptsFrom_zero]
  cases left with
  | zero =>
    rw [unnoted_attemptsFrom_zero]
    exact begins_refl _
  | succ left =>
    rw [unnoted_attemptsFrom_succ, unnoted_attempt, bind_assoc]
    refine begins_bind _ fun opened => ?_
    cases opened with
    | error failure => exact .inl rfl
    | ok errors => exact .inr (hOpen errors.length)

/-- A run with fewer attempts left begins every one with more of them. -/
theorem attemptsFrom_begins (attempts more errorsBefore extra left : Nat) (progress : Progress) :
    (unnoted (attemptsFrom attempts errorsBefore left progress)).Begins UsedUp
      (unnoted (attemptsFrom more errorsBefore (left + extra) progress)) := by
  induction left generalizing progress with
  | zero => exact lastPass_begins attempts more errorsBefore _ progress
  | succ left ih =>
    rw [show left + 1 + extra = left + extra + 1 by omega, unnoted_attemptsFrom_succ,
      unnoted_attemptsFrom_succ]
    refine begins_bind _ fun outcome => ?_
    rcases outcome with failure | _ | patches
    · exact begins_refl _
    · exact begins_refl _
    · refine begins_bind _ fun opened => ?_
      cases opened with
      | error failure => exact begins_refl _
      | ok errors =>
        dsimp only
        split
        · exact begins_refl _
        · exact ih (progress.recordAll patches)

theorem unnoted_run (attempts : Nat) :
    unnoted (run attempts) = (unnoted pass).bind fun
      | .error failure => .done (.error failure)
      | .ok errors =>
        if errors.isEmpty then .done (.ok .clean)
        else unnoted (attemptsFrom attempts errors.length attempts .none) := by
  refine (unnoted_bind pass _).trans (congrArg _ (funext fun opened => ?_))
  cases opened with
  | error failure => rfl
  | ok errors =>
    dsimp only
    rw [bind_eq, unnoted_note]
    split <;> rfl

theorem run_begins {attempts more : Nat} (h : attempts ≤ more) :
    (unnoted (run attempts)).Begins UsedUp (unnoted (run more)) := by
  obtain ⟨extra, rfl⟩ := Nat.le.dest h
  rw [unnoted_run, unnoted_run]
  refine begins_bind _ fun opened => ?_
  cases opened with
  | error failure => exact begins_refl _
  | ok errors =>
    dsimp only
    split
    · exact begins_refl _
    · exact attemptsFrom_begins attempts (attempts + extra) errors.length extra attempts .none

/-! ## Passes -/

theorem passes_contacts (events : List (Event calls)) :
    passes (contacts events) = passes events := by
  induction events with
  | nil => rfl
  | cons event events ih =>
    obtain ⟨call, answer⟩ := event
    cases call with
    | check => exact congrArg (answer :: ·) ih
    | _ => exact ih

/-- A run that uses up its attempts makes all its passes. -/
theorem Course.length_stages {attempts : Nat} {events : List (Event calls)}
    {result : Except Checker.Failure Summary} (h : Course attempts events result)
    (hUsedUp : UsedUp result) : (stages events).length = 2 * attempts + 2 := by
  obtain ⟨summary, rfl, hVerdict⟩ := hUsedUp
  obtain ⟨last, -, -, hEnd⟩ := h.schedule.last_pass
  rw [← length_tallies]
  rcases hEnd with ⟨failure, -, -, hResult⟩ | ⟨-, -, patches, hResult⟩ | ⟨count, -, hLength, -⟩
  · cases hResult
  · cases hResult
    cases hVerdict
  · exact hLength

/-! ## Runs -/

theorem repair_prefix {σ : Type} (collaborators : Collaborators σ) {attempts more : Nat}
    (h : attempts ≤ more) (state : σ) :
    let short := collaborators.repair attempts state
    let long := collaborators.repair more state
    contacts short.events <+: contacts long.events ∧
      (¬ UsedUp short.result → contacts long.events = contacts short.events ∧
        long.state = short.state ∧ long.result = short.result) := by
  intro short long
  obtain ⟨hPrefix, hSame⟩ := (run_begins h).run collaborators.handler state
  have hShort := perform_unnoted collaborators (run attempts) state
  have hLong := perform_unnoted collaborators (run more) state
  rw [Collaborators.perform] at hShort hLong
  rw [hShort, hLong] at hPrefix hSame
  refine ⟨hPrefix, fun hDecided => ?_⟩
  obtain ⟨hResult, hState, hEvents⟩ := Run.mk.inj (hSame hDecided)
  exact ⟨hEvents, hState, hResult⟩

/-- Notes apart, a run with more attempts begins as the run with fewer. It is the same run if that
one is resolved or fails, and else the last pass of that one, the pass with number
`2 * attempts + 2`, is the pass that opens the next attempt of the longer run. -/
theorem larger_budget_extends {σ : Type} (collaborators : Collaborators σ) {attempts more : Nat}
    (h : attempts ≤ more) (state : σ) :
    let short := collaborators.repair attempts state
    let long := collaborators.repair more state
    contacts short.events <+: contacts long.events ∧
    ((∃ failure, short.result = .error failure) ∨
        (∃ summary, short.result = .ok summary ∧ summary.verdict = .resolved) →
      contacts long.events = contacts short.events ∧ long.state = short.state ∧
        long.result = short.result) ∧
    (∀ summary, short.result = .ok summary → summary.verdict = .exhausted →
      (stages short.events).length = 2 * attempts + 2) ∧
    ∀ last, (stages short.events)[2 * attempts + 1]? = some last → attempts < more →
      ∃ opening, (stages long.events)[2 * attempts + 1]? = some opening ∧
        opening.answer = last.answer ∧
        Announces (attempts + 1) more
          (((stages long.events).take (2 * attempts + 1)).flatMap Stage.all) := by
  intro short long
  obtain ⟨hPrefix, hSame⟩ := repair_prefix collaborators h state
  refine ⟨hPrefix, fun hDecided => hSame ?_, fun summary hResult hVerdict => ?_,
    fun last hLast hMore => ?_⟩
  · rintro ⟨summary, hResult, hVerdict⟩
    rcases hDecided with ⟨failure, hFailure⟩ | ⟨other, hOther, hResolved⟩
    · cases hResult.symm.trans hFailure
    · cases hResult.symm.trans hOther
      cases hVerdict.symm.trans hResolved
  · exact (collaborators.course attempts state).length_stages ⟨summary, hResult, hVerdict⟩
  · have hPasses : passes short.events <+: passes long.events := by
      rw [← passes_contacts short.events, ← passes_contacts long.events]
      exact hPrefix.filterMap _
    have hAnswer : (passes short.events)[2 * attempts + 1]? = some last.answer := by
      rw [← map_answer_stages, List.getElem?_map, hLast]
      rfl
    have hOpening : (passes long.events)[2 * attempts + 1]? = some last.answer := by
      obtain ⟨later, hLater⟩ := hPasses
      rw [← hLater, List.getElem?_append_left (List.getElem?_eq_some_iff.mp hAnswer).1, hAnswer]
    rw [← map_answer_stages, List.getElem?_map, Option.map_eq_some_iff] at hOpening
    obtain ⟨opening, hStage, hSameAnswer⟩ := hOpening
    have hCourse := (collaborators.course more state).stage hStage
    rw [if_pos (by omega), show (2 * attempts + 1) / 2 = attempts by omega] at hCourse
    exact ⟨opening, hStage, hSameAnswer, hCourse.1⟩

theorem twoFiles_budget_extends :
    let short := scripted.repair 0 Rehearsal.twoFiles
    let longer := scripted.repair 1 Rehearsal.twoFiles
    let longest := scripted.repair 4 Rehearsal.twoFiles
    contacts short.events <+: contacts longer.events ∧
      (∃ summary, short.result = .ok summary ∧ summary.verdict = .exhausted) ∧
      (∃ opening, (stages longer.events)[1]? = some opening ∧
        Announces 1 1 (((stages longer.events).take 1).flatMap Stage.all)) ∧
      contacts longest.events = contacts longer.events ∧ longest.result = longer.result ∧
      longer.result = .ok ⟨2, 0, ["a.ts"], [⟨"a.ts", "a\nb", "a\nc", 1⟩], true⟩ := by
  intro short longer longest
  have hOne : longer.result = .ok ⟨2, 0, ["a.ts"], [⟨"a.ts", "a\nb", "a\nc", 1⟩], true⟩ := rfl
  obtain ⟨hPrefix, -, -, hOpening⟩ :=
    larger_budget_extends scripted (show 0 ≤ 1 by decide) Rehearsal.twoFiles
  obtain ⟨-, hSame, -⟩ :=
    larger_budget_extends scripted (show 1 ≤ 4 by decide) Rehearsal.twoFiles
  obtain ⟨hCalls, -, hResult⟩ := hSame (.inr ⟨_, hOne, rfl⟩)
  obtain ⟨opening, hStage, -, hAnnounces⟩ := hOpening _ rfl (by decide)
  exact ⟨hPrefix, ⟨_, rfl, rfl⟩, ⟨opening, hStage, hAnnounces⟩, hCalls, hResult, hOne⟩

end TypeRepair.Repair
