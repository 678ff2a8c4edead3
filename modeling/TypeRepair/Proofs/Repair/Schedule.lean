import TypeRepair.Proofs.Repair.Stage
import TypeRepair.Repair.Rehearsal

/-!
# The schedule of passes

The result of a run is decided by what its passes count, and by nothing that happens to a file
between them. A run of `attempts` attempts has `2 * attempts + 2` passes; a pass that cannot be
made ends it at once, and so does a clean one, unless it is the last.

* `Schedule.ends`: the pass at which a run ends, and how.
* `passes_decide_result`: the number of passes, the verdict and the counts of every run.
-/

namespace TypeRepair

/-- What a summary says besides the patches. -/
def Summary.figures (summary : Summary) : Nat × Nat × Bool :=
  (summary.errorsBefore, summary.errorsAfter, summary.fullyResolved)

namespace Repair

/-! ## What passes count -/

/-- What a pass counts: the errors that it reports, unless it cannot be made. -/
abbrev Tally := Except Checker.Failure Nat

/-- What the passes among events count. -/
def tallies (events : List (Event calls)) : List Tally :=
  events.filterMap fun
    | ⟨.check, answer⟩ => some (answer.map fun made => made.errors.length)
    | _ => none

/-- The pass could not be made, or it is clean. -/
def decisive : Tally → Bool
  | .error _ => true
  | .ok count => count = 0

/-- What the first pass counts. -/
def opening : List Tally → Nat
  | .ok count :: _ => count
  | _ => 0

/-- The first decisive pass, counted from one. -/
def firstDecisive (list : List Tally) : Option Nat :=
  (list.findIdx? decisive).map (· + 1)

/-- The first decisive pass is this one, it is clean, and it is not the last of all attempts. -/
def ResolvedAt (attempts k : Nat) (list : List Tally) : Prop :=
  firstDecisive list = some k ∧ list[k - 1]? = some (.ok 0) ∧ k ≤ 2 * attempts + 1

/-- The first decisive pass is this one, and it could not be made. -/
def FailedAt (attempts k : Nat) (failure : Checker.Failure) (list : List Tally) : Prop :=
  firstDecisive list = some k ∧ list[k - 1]? = some (.error failure) ∧ k ≤ 2 * attempts + 2

@[simp] theorem tallies_nil : tallies [] = [] := rfl

@[simp] theorem tallies_append (first second : List (Event calls)) :
    tallies (first ++ second) = tallies first ++ tallies second :=
  List.filterMap_append

@[simp] theorem tallies_noted (n : Note) (rest : List (Event calls)) :
    tallies (noted n :: rest) = tallies rest := rfl

@[simp] theorem tallies_made (made : Checker.Pass) (rest : List (Event calls)) :
    tallies (passEvents made ++ rest) = .ok made.errors.length :: tallies rest := rfl

theorem tallies_eq_map_passes (events : List (Event calls)) :
    tallies events = (passes events).map (·.map fun made => made.errors.length) := by
  induction events with
  | nil => rfl
  | cons event events ih =>
    obtain ⟨call, answer⟩ := event
    cases call with
    | check => exact congrArg (_ :: ·) ih
    | _ => exact ih

theorem length_tallies (events : List (Event calls)) :
    (tallies events).length = (stages events).length := by
  rw [tallies_eq_map_passes, ← map_answer_stages, List.length_map, List.length_map]

theorem Quiet.tallies_eq_nil {events : List (Event calls)} (h : Quiet events) :
    tallies events = [] := by
  rw [tallies, List.filterMap_eq_nil_iff]
  rintro ⟨call, answer⟩ hEvent
  have hPass := h _ hEvent
  cases call with
  | check => cases hPass
  | _ => rfl

theorem firstDecisive_concat {before : List Tally} (h : ∀ tally ∈ before, decisive tally = false)
    (last : Tally) :
    firstDecisive (before ++ [last]) =
      if decisive last then some (before.length + 1) else none := by
  have hNone : before.findIdx? decisive = none := by
    rw [List.findIdx?_eq_none_iff]
    exact h
  unfold firstDecisive
  rw [List.findIdx?_append, hNone]
  cases hLast : decisive last <;> simp [hLast]

/-! ## Schedules -/

/-- How passes lead to a result, when so many may come after the first of them. -/
inductive Schedule (errorsBefore : Nat) :
    Nat → List Tally → Except Checker.Failure Summary → Prop
  | failed (left : Nat) (failure : Checker.Failure) :
    Schedule errorsBefore left [.error failure] (.error failure)
  | clean (left : Nat) (patches : List Patch) :
    Schedule errorsBefore (left + 1) [.ok 0] (.ok (.resolved errorsBefore patches))
  | last (count : Nat) (patches : List Patch) :
    Schedule errorsBefore 0 [.ok count] (.ok (.exhausted errorsBefore count patches))
  | goesOn {left count : Nat} (hErrors : count ≠ 0) {list : List Tally}
    {result : Except Checker.Failure Summary} (h : Schedule errorsBefore left list result) :
    Schedule errorsBefore (left + 1) (.ok count :: list) result

/-- The only pass of an attempt is the one that opens it. -/
theorem Round.tallies_eq {number : Nat} {events : List (Event calls)}
    {result : Except Checker.Failure Attempt} (h : Round number events result) :
    match result with
    | .error failure => tallies events = [.error failure]
    | .ok .alreadyClean => tallies events = [.ok 0]
    | .ok (.processed _) => ∃ count, count ≠ 0 ∧ tallies events = [.ok count] := by
  cases h with
  | failed failure => rfl
  | alreadyClean made hClean =>
    rw [tallies_made, hClean]
    rfl
  | processed made hErrors hExchanges =>
    refine ⟨made.errors.length, fun hZero => hErrors (List.eq_nil_of_length_eq_zero hZero), ?_⟩
    rw [tallies_made, tallies_noted, hExchanges.quiet.tallies_eq_nil]

theorem Rest.schedule {attempts errorsBefore left : Nat} {done : List Patch}
    {events : List (Event calls)} {result : Except Checker.Failure Summary}
    (h : Rest attempts errorsBefore left done events result) :
    Schedule errorsBefore (2 * left) (tallies events) result := by
  induction h with
  | lastFailed done failure => exact .failed 0 failure
  | exhausted done made => exact .last made.errors.length done
  | failed left done hRound =>
    rw [tallies_noted, hRound.tallies_eq]
    exact .failed _ _
  | alreadyClean left done hRound =>
    rw [tallies_noted, hRound.tallies_eq]
    exact .clean _ _
  | recheckFailed left done hRound failure =>
    obtain ⟨count, hCount, hTallies⟩ := hRound.tallies_eq
    rw [tallies_noted, tallies_append, hTallies]
    exact .goesOn hCount (.failed _ _)
  | fixed left done hRound made hClean =>
    obtain ⟨count, hCount, hTallies⟩ := hRound.tallies_eq
    have hMade : made.errors.length = 0 := by rw [hClean, List.length_nil]
    rw [tallies_noted, tallies_append, hTallies, tallies_made, hMade]
    exact .goesOn hCount (.clean _ _)
  | goesOn left done hRound made hErrors hLater ih =>
    obtain ⟨count, hCount, hTallies⟩ := hRound.tallies_eq
    have hMade : made.errors.length ≠ 0 := fun hZero =>
      hErrors (List.eq_nil_of_length_eq_zero hZero)
    rw [tallies_noted, tallies_append, hTallies, tallies_made]
    exact .goesOn hCount (.goesOn hMade ih)

theorem Course.schedule {attempts : Nat} {events : List (Event calls)}
    {result : Except Checker.Failure Summary} (h : Course attempts events result) :
    Schedule (opening (tallies events)) (2 * attempts + 1) (tallies events) result := by
  cases h with
  | failed failure => exact .failed _ _
  | clean made hClean =>
    have hMade : made.errors.length = 0 := by rw [hClean, List.length_nil]
    rw [tallies_made, hMade]
    exact .clean _ _
  | started made hErrors hRest =>
    rw [tallies_made]
    exact .goesOn (fun hZero => hErrors (List.eq_nil_of_length_eq_zero hZero)) hRest.schedule

/-! ## Where a run ends -/

/-- A schedule ends with its first decisive pass, or with the last one. -/
theorem Schedule.ends {errorsBefore left : Nat} {list : List Tally}
    {result : Except Checker.Failure Summary} (h : Schedule errorsBefore left list result) :
    ∃ before last, list = before ++ [last] ∧ (∀ tally ∈ before, decisive tally = false) ∧
      ((∃ failure, last = .error failure ∧ before.length ≤ left ∧ result = .error failure) ∨
        (last = .ok 0 ∧ before.length < left ∧
          ∃ patches, result = .ok (.resolved errorsBefore patches)) ∨
        ∃ count, last = .ok count ∧ before.length = left ∧
          ∃ patches, result = .ok (.exhausted errorsBefore count patches)) := by
  induction h with
  | failed left failure =>
    exact ⟨[], _, rfl, by simp, .inl ⟨failure, rfl, Nat.zero_le left, rfl⟩⟩
  | clean left patches =>
    exact ⟨[], _, rfl, by simp, .inr (.inl ⟨rfl, Nat.succ_pos left, patches, rfl⟩)⟩
  | last count patches =>
    exact ⟨[], _, rfl, by simp, .inr (.inr ⟨count, rfl, rfl, patches, rfl⟩)⟩
  | @goesOn left count hErrors list result _ ih =>
    obtain ⟨before, last, rfl, hBefore, hEnd⟩ := ih
    refine ⟨.ok count :: before, last, rfl, ?_, ?_⟩
    · rw [List.forall_mem_cons]
      exact ⟨by simpa [decisive] using hErrors, hBefore⟩
    · rw [List.length_cons]
      rcases hEnd with ⟨failure, hLast, hLength, hResult⟩ | ⟨hLast, hLength, hResult⟩ |
        ⟨count', hLast, hLength, hResult⟩
      · exact .inl ⟨failure, hLast, by omega, hResult⟩
      · exact .inr (.inl ⟨hLast, by omega, hResult⟩)
      · exact .inr (.inr ⟨count', hLast, by omega, hResult⟩)

theorem Schedule.exists_cons {errorsBefore left : Nat} {list : List Tally}
    {result : Except Checker.Failure Summary} (h : Schedule errorsBefore left list result) :
    ∃ first rest, list = first :: rest := by
  cases h <;> exact ⟨_, _, rfl⟩

theorem Schedule.first_ok {errorsBefore left : Nat} {list : List Tally} {summary : Summary}
    (h : Schedule errorsBefore left list (.ok summary)) : list[0]? = some (.ok (opening list)) := by
  cases h <;> rfl

theorem Schedule.errorsBefore_eq {errorsBefore left : Nat} {list : List Tally} {summary : Summary}
    (h : Schedule errorsBefore left list (.ok summary)) : summary.errorsBefore = errorsBefore := by
  obtain ⟨_, _, -, -, ⟨_, -, -, hResult⟩ | ⟨-, -, _, hResult⟩ | ⟨_, -, -, _, hResult⟩⟩ := h.ends
  · cases hResult
  · cases hResult
    rfl
  · cases hResult
    rfl

/-- Schedules whose passes count the same as far as both go are the same. -/
theorem Schedule.unique {errorsBefore left : Nat} {list other : List Tally}
    {result outcome : Except Checker.Failure Summary}
    (h : Schedule errorsBefore left list result) (hOther : Schedule errorsBefore left other outcome)
    (hAgree : ∀ (i : Nat) a b, list[i]? = some a → other[i]? = some b → a = b) :
    other = list ∧ outcome.map Summary.figures = result.map Summary.figures := by
  induction h generalizing other with
  | failed left failure =>
    cases hOther with
    | failed =>
      cases hAgree 0 _ _ rfl rfl
      exact ⟨rfl, rfl⟩
    | _ => cases hAgree 0 _ _ rfl rfl
  | clean left patches =>
    cases hOther with
    | clean => exact ⟨rfl, rfl⟩
    | failed => cases hAgree 0 _ _ rfl rfl
    | goesOn hErrors =>
      cases hAgree 0 _ _ rfl rfl
      exact absurd rfl hErrors
  | last count patches =>
    cases hOther with
    | last =>
      cases hAgree 0 _ _ rfl rfl
      exact ⟨rfl, rfl⟩
    | failed => cases hAgree 0 _ _ rfl rfl
  | goesOn hErrors hLater ih =>
    cases hOther with
    | goesOn _ hRest =>
      cases hAgree 0 _ _ rfl rfl
      obtain ⟨rfl, hFigures⟩ := ih hRest fun i a b hFirst hSecond =>
        hAgree (i + 1) a b (by simpa using hFirst) (by simpa using hSecond)
      exact ⟨rfl, hFigures⟩
    | failed => cases hAgree 0 _ _ rfl rfl
    | clean =>
      cases hAgree 0 _ _ rfl rfl
      exact absurd rfl hErrors

/-- The last pass of a schedule, which is the only one that can be decisive. -/
theorem Schedule.last_pass {errorsBefore left : Nat} {list : List Tally}
    {result : Except Checker.Failure Summary} (h : Schedule errorsBefore left list result) :
    ∃ last, list[list.length - 1]? = some last ∧
      firstDecisive list = (if decisive last then some list.length else none) ∧
      ((∃ failure, last = .error failure ∧ list.length ≤ left + 1 ∧ result = .error failure) ∨
        (last = .ok 0 ∧ list.length ≤ left ∧
          ∃ patches, result = .ok (.resolved errorsBefore patches)) ∨
        ∃ count, last = .ok count ∧ list.length = left + 1 ∧
          ∃ patches, result = .ok (.exhausted errorsBefore count patches)) := by
  obtain ⟨before, last, rfl, hBefore, hEnd⟩ := h.ends
  have hLength : (before ++ [last]).length = before.length + 1 := by simp
  rw [hLength]
  refine ⟨last, by simp, firstDecisive_concat hBefore last, ?_⟩
  rcases hEnd with ⟨failure, hLast, hLeft, hResult⟩ | ⟨hLast, hLeft, hResult⟩ |
    ⟨count, hLast, hLeft, hResult⟩
  · exact .inl ⟨failure, hLast, by omega, hResult⟩
  · exact .inr (.inl ⟨hLast, by omega, hResult⟩)
  · exact .inr (.inr ⟨count, hLast, by omega, hResult⟩)

theorem Schedule.resolved_at {errorsBefore attempts k : Nat} {list : List Tally}
    {result : Except Checker.Failure Summary}
    (h : Schedule errorsBefore (2 * attempts + 1) list result) (hk : ResolvedAt attempts k list) :
    list.length = k ∧ ∃ patches, result = .ok (.resolved errorsBefore patches) := by
  obtain ⟨last, hLast, hFirst, hEnd⟩ := h.last_pass
  obtain ⟨hDecisive, hClean, hBound⟩ := hk
  have hPlace : list.length = k := by
    rw [hFirst] at hDecisive
    split at hDecisive
    · exact Option.some.inj hDecisive
    · cases hDecisive
  rw [← hPlace, hLast, Option.some.injEq] at hClean
  refine ⟨hPlace, ?_⟩
  rcases hEnd with ⟨failure, hFailure, -, -⟩ | ⟨-, -, hResult⟩ | ⟨count, -, hLeft, -⟩
  · rw [hFailure] at hClean
    cases hClean
  · exact hResult
  -- A clean last pass of all is beyond the bound.
  · omega

theorem Schedule.failed_at {errorsBefore attempts k : Nat} {failure : Checker.Failure}
    {list : List Tally} {result : Except Checker.Failure Summary}
    (h : Schedule errorsBefore (2 * attempts + 1) list result)
    (hk : FailedAt attempts k failure list) : list.length = k ∧ result = .error failure := by
  obtain ⟨last, hLast, hFirst, hEnd⟩ := h.last_pass
  obtain ⟨hDecisive, hFailed, -⟩ := hk
  have hPlace : list.length = k := by
    rw [hFirst] at hDecisive
    split at hDecisive
    · exact Option.some.inj hDecisive
    · cases hDecisive
  rw [← hPlace, hLast, Option.some.injEq] at hFailed
  refine ⟨hPlace, ?_⟩
  rcases hEnd with ⟨_, hFailure, -, hResult⟩ | ⟨hClean, -, -⟩ | ⟨count, hCount, -, -⟩
  · rw [hFailure] at hFailed
    cases hFailed
    exact hResult
  · rw [hClean] at hFailed
    cases hFailed
  · rw [hCount] at hFailed
    cases hFailed

theorem Schedule.otherwise {errorsBefore attempts : Nat} {list : List Tally}
    {result : Except Checker.Failure Summary}
    (h : Schedule errorsBefore (2 * attempts + 1) list result)
    (hNotResolved : ∀ k, ¬ ResolvedAt attempts k list)
    (hNotFailed : ∀ k failure, ¬ FailedAt attempts k failure list) :
    list.length = 2 * attempts + 2 ∧ ∃ last patches, list[2 * attempts + 1]? = some (.ok last) ∧
      result = .ok (.exhausted errorsBefore last patches) := by
  obtain ⟨last, hLast, hFirst, hEnd⟩ := h.last_pass
  rcases hEnd with ⟨failure, hFailure, hLeft, -⟩ | ⟨hClean, hLeft, -⟩ |
    ⟨count, hCount, hLeft, patches, hResult⟩
  · rw [hFailure] at hFirst hLast
    exact absurd ⟨hFirst, hLast, hLeft⟩ (hNotFailed list.length failure)
  · rw [hClean] at hFirst hLast
    exact absurd ⟨hFirst, hLast, hLeft⟩ (hNotResolved list.length)
  · rw [hCount, hLeft] at hLast
    exact ⟨hLeft, count, patches, hLast, hResult⟩

/-- Runs whose passes count the same as far as both go have the same schedule. -/
theorem Course.unique {attempts : Nat} {events other : List (Event calls)}
    {result outcome : Except Checker.Failure Summary} (h : Course attempts events result)
    (hOther : Course attempts other outcome)
    (hAgree : ∀ (i : Nat) a b, (tallies events)[i]? = some a → (tallies other)[i]? = some b →
      a = b) :
    tallies other = tallies events ∧
      outcome.map Summary.figures = result.map Summary.figures := by
  have hSchedule := h.schedule
  have hAgain := hOther.schedule
  obtain ⟨first, rest, hCons⟩ := hSchedule.exists_cons
  obtain ⟨first', rest', hCons'⟩ := hAgain.exists_cons
  have hSame : first = first' := hAgree 0 first first' (by rw [hCons]; rfl) (by rw [hCons']; rfl)
  have hOpening : opening (tallies other) = opening (tallies events) := by
    rw [hCons, hCons', hSame]
    cases first' <;> rfl
  rw [hOpening] at hAgain
  exact hSchedule.unique hAgain hAgree

/-- The number of passes, the verdict and the counts of a run follow from what its passes count:
any other run, of any other collaborators, whose passes count the same as far as both runs go, has
as many passes and the same figures. -/
theorem passes_decide_result {σ : Type} (collaborators : Collaborators σ) (attempts : Nat)
    (state : σ) :
    let run := collaborators.repair attempts state
    let counts := tallies run.events
    (∀ k, ResolvedAt attempts k counts → counts.length = k ∧
      ∃ summary, run.result = .ok summary ∧ summary.verdict = .resolved ∧
        summary.fullyResolved = true ∧ summary.errorsAfter = 0) ∧
    (∀ k failure, FailedAt attempts k failure counts →
      counts.length = k ∧ run.result = .error failure) ∧
    ((∀ k, ¬ ResolvedAt attempts k counts) → (∀ k failure, ¬ FailedAt attempts k failure counts) →
      counts.length = 2 * attempts + 2 ∧
        ∃ summary last, run.result = .ok summary ∧ counts[2 * attempts + 1]? = some (.ok last) ∧
          summary.verdict = .exhausted ∧ summary.fullyResolved = false ∧
          summary.errorsAfter = last) ∧
    (∀ summary, run.result = .ok summary →
      ∃ first, counts[0]? = some (.ok first) ∧ summary.errorsBefore = first) ∧
    ∀ (τ : Type) (others : Collaborators τ) (other : τ),
      let again := others.repair attempts other
      (∀ (i : Nat) a b, counts[i]? = some a → (tallies again.events)[i]? = some b → a = b) →
        tallies again.events = counts ∧
          again.result.map Summary.figures = run.result.map Summary.figures := by
  intro run counts
  have hCourse : Course attempts run.events run.result := collaborators.course attempts state
  have hSchedule : Schedule (opening counts) (2 * attempts + 1) counts run.result :=
    hCourse.schedule
  refine ⟨?_, fun k failure hk => hSchedule.failed_at hk, ?_, ?_, ?_⟩
  · intro k hk
    obtain ⟨hLength, patches, hResult⟩ := hSchedule.resolved_at hk
    exact ⟨hLength, _, hResult, rfl, rfl, rfl⟩
  · intro hNotResolved hNotFailed
    obtain ⟨hLength, last, patches, hLast, hResult⟩ := hSchedule.otherwise hNotResolved hNotFailed
    exact ⟨hLength, _, last, hResult, hLast, rfl, rfl, rfl⟩
  · intro summary hResult
    rw [hResult] at hSchedule
    exact ⟨_, hSchedule.first_ok, hSchedule.errorsBefore_eq⟩
  · intro τ others other again hAgree
    exact hCourse.unique (others.course attempts other) hAgree

theorem twoFiles_resolved_at_third_pass :
    ResolvedAt 1 3 (tallies (scripted.repair 1 Rehearsal.twoFiles).events) ∧
      (tallies (scripted.repair 1 Rehearsal.twoFiles).events).length = 3 ∧
      ∃ summary, (scripted.repair 1 Rehearsal.twoFiles).result = .ok summary ∧
        summary.verdict = .resolved ∧ summary.fullyResolved = true ∧ summary.errorsAfter = 0 := by
  have hResolved : ResolvedAt 1 3 (tallies (scripted.repair 1 Rehearsal.twoFiles).events) :=
    ⟨rfl, rfl, by decide⟩
  exact ⟨hResolved, (passes_decide_result scripted 1 Rehearsal.twoFiles).1 3 hResolved⟩

end Repair

end TypeRepair
