import TypeRepair.Proofs.Repair.Provenance

/-!
# The attempts of a run

After the first pass a run makes attempts, each with a pass of its own and, unless the run ends
there, a pass after it. Attempts alone deal with files, and the patches of a summary are what the
attempts record, one attempt after the other.

* `getElem?_attemptStages`: which stages the attempts are.
* `Course.rounds`: the attempts of every run with what they record.
* `Rounds.forall₂`, `Rounds.flatMap_eq`: what holds of the attempts, and what is left to the others.
-/

namespace TypeRepair

/-- The file that a note is about. -/
def Note.file? : Note → Option String
  | .answerReceived file _ | .patchAdmitted file _ | .fixApplied file _ _ | .fixNotWritten file _
  | .fileSkipped file _ | .writeSkipped file _ => some file
  | _ => none

namespace Repair

open Diagnostic

/-! ## Stages of attempts -/

/-- The first of the elements, the third and so on, as far as this many. -/
def everySecond {α : Type} : Nat → List α → List α
  | 0, _ => []
  | _ + 1, [] => []
  | n + 1, a :: rest => a :: everySecond n rest.tail

/-- The stages of the attempts of a run: the ones after the first pass and after the pass that ends
an attempt, but not the one after the last attempt of all. -/
def attemptStages (attempts : Nat) (events : List (Event calls)) : List Stage :=
  everySecond attempts (stages events).tail

/-- The errors of the pass, none if it could not be made. -/
def Stage.errors (stage : Stage) : List Diagnostic :=
  match stage.answer with
  | .error _ => []
  | .ok made => made.errors

theorem getElem?_everySecond {α : Type} (n : Nat) (list : List α) (i : Nat) :
    (everySecond n list)[i]? = if i < n then list[2 * i]? else none := by
  induction n generalizing list i with
  | zero => rfl
  | succ n ih =>
    cases list with
    | nil => simp [everySecond]
    | cons a rest =>
      cases i with
      | zero => simp [everySecond]
      | succ i =>
        rw [everySecond, List.getElem?_cons_succ, ih, List.getElem?_tail, Nat.mul_succ]
        simp

theorem getElem?_attemptStages (attempts : Nat) (events : List (Event calls)) (i : Nat) :
    (attemptStages attempts events)[i]? =
      if i < attempts then (stages events)[2 * i + 1]? else none := by
  rw [attemptStages, getElem?_everySecond, List.getElem?_tail]

theorem length_everySecond_le {α : Type} (n : Nat) (list : List α) :
    (everySecond n list).length ≤ n := by
  induction n generalizing list with
  | zero => exact Nat.le_refl 0
  | succ n ih =>
    cases list with
    | nil => exact Nat.zero_le _
    | cons a rest => exact Nat.succ_le_succ (ih rest.tail)

/-! ## What attempts record -/

/-- There are notes only, and none is about a file. -/
def Bare (events : List (Event calls)) : Prop :=
  ∀ event ∈ events, ∃ n : Note, event = noted n ∧ n.file? = none

theorem bare_nil : Bare [] :=
  fun _ h => absurd h List.not_mem_nil

theorem Bare.cons {n : Note} (h : n.file? = none) {events : List (Event calls)}
    (hEvents : Bare events) : Bare (noted n :: events) :=
  List.forall_mem_cons.mpr ⟨⟨n, rfl, h⟩, hEvents⟩

/-- The attempt deals with the files that its pass reports and records these patches. -/
def Stage.Records (stage : Stage) (patches : List Patch) : Prop :=
  ∃ start events, stage.events = start ++ events ∧ Bare start ∧
    Exchanges (groupByFile stage.errors) events patches

/-- The patches that an attempt leaves. -/
def recorded : Except Checker.Failure Attempt → List Patch
  | .error _ => []
  | .ok outcome => outcome.patches

theorem Round.records {number : Nat} {events : List (Event calls)}
    {outcome : Except Checker.Failure Attempt} (h : Round number events outcome) :
    ∃ stage : Stage, events = stage.all ∧ Quiet stage.events ∧
      stage.Records (recorded outcome) := by
  cases h with
  | failed failure =>
    exact ⟨⟨.error failure, []⟩, rfl, fun _ h => absurd h List.not_mem_nil, [], [], rfl, bare_nil,
      .nil⟩
  | alreadyClean made hClean =>
    have hNone : Exchanges (groupByFile made.errors) [] [] := by
      rw [hClean]
      exact .nil
    exact ⟨⟨.ok made, _⟩, rfl, by simp [Quiet, isPass], _, [], (List.append_nil _).symm,
      .cons rfl (.cons rfl bare_nil), hNone⟩
  | processed made hErrors hExchanges =>
    refine ⟨⟨.ok made, _⟩, rfl, ?_, [noted (.passMade made.exitCode made.errors.length),
      noted (.errorsRemaining number made.errors.length (groupByFile made.errors).length)], _, rfl,
      .cons rfl (.cons rfl bare_nil), hExchanges⟩
    have hQuiet := hExchanges.quiet
    simpa [Quiet, isPass] using hQuiet

/-- Stages of which so many may be attempts, with what each attempt records. -/
inductive Rounds : Nat → List Stage → List (List Patch) → Prop
  | none (left : Nat) : Rounds left [] []
  | last {stage : Stage} (h : Bare stage.events) : Rounds 0 [stage] []
  | ended (left : Nat) {stage : Stage} {patches : List Patch} (h : stage.Records patches) :
    Rounds (left + 1) [stage] [patches]
  | goesOn {left : Nat} {stage recheck : Stage} {patches : List Patch} {list : List Stage}
    {parts : List (List Patch)} (h : stage.Records patches) (hRecheck : Bare recheck.events)
    (hLater : Rounds left list parts) :
    Rounds (left + 1) (stage :: recheck :: list) (patches :: parts)

theorem Rest.bare_lead {attempts errorsBefore left : Nat} {done : List Patch}
    {events : List (Event calls)} {result : Except Checker.Failure Summary}
    (h : Rest attempts errorsBefore left done events result) : Bare (lead events) := by
  rw [h.lead_eq]
  split
  · exact bare_nil
  · exact .cons rfl bare_nil

theorem Rest.rounds {attempts errorsBefore left : Nat} {done : List Patch}
    {events : List (Event calls)} {result : Except Checker.Failure Summary}
    (h : Rest attempts errorsBefore left done events result) :
    ∃ parts, Rounds left (stages events) parts ∧ ∀ summary, result = .ok summary →
      ∃ after resolved,
        summary = .ofPatches errorsBefore after (done ++ parts.flatten) resolved := by
  induction h with
  | lastFailed done failure =>
    refine ⟨[], .last bare_nil, fun summary hResult => ?_⟩
    cases hResult
  | exhausted done made =>
    refine ⟨[], .last (.cons rfl (.cons rfl bare_nil)), fun summary hResult => ?_⟩
    cases hResult
    exact ⟨_, _, by rw [List.flatten_nil, List.append_nil]; rfl⟩
  | failed left done hRound =>
    obtain ⟨stage, rfl, hQuiet, hRecords⟩ := hRound.records
    rw [stages_noted, ← List.append_nil stage.all, Stage.stages_all_append hQuiet lead_nil]
    refine ⟨_, .ended left hRecords, fun summary hResult => ?_⟩
    cases hResult
  | alreadyClean left done hRound =>
    obtain ⟨stage, rfl, hQuiet, hRecords⟩ := hRound.records
    rw [stages_noted, ← List.append_nil stage.all, Stage.stages_all_append hQuiet lead_nil]
    refine ⟨_, .ended left hRecords, fun summary hResult => ?_⟩
    cases hResult
    exact ⟨_, _, by simp [recorded, Attempt.patches]; rfl⟩
  | recheckFailed left done hRound failure =>
    obtain ⟨stage, rfl, hQuiet, hRecords⟩ := hRound.records
    rw [stages_noted, Stage.stages_all_append hQuiet rfl]
    refine ⟨_, .goesOn hRecords bare_nil (.none left), fun summary hResult => ?_⟩
    cases hResult
  | fixed left done hRound made hClean =>
    obtain ⟨stage, rfl, hQuiet, hRecords⟩ := hRound.records
    rw [stages_noted, Stage.stages_all_append hQuiet rfl]
    refine ⟨_, .goesOn hRecords (.cons rfl (.cons rfl bare_nil)) (.none left),
      fun summary hResult => ?_⟩
    cases hResult
    exact ⟨_, _, by simp [recorded, Attempt.patches]; rfl⟩
  | goesOn left done hRound made hErrors hLater ih =>
    obtain ⟨stage, rfl, hQuiet, hRecords⟩ := hRound.records
    obtain ⟨parts, hParts, hSummary⟩ := ih
    rw [stages_noted, Stage.stages_all_append hQuiet rfl]
    refine ⟨_, .goesOn hRecords (.cons rfl (.cons rfl hLater.bare_lead)) hParts,
      fun summary hResult => ?_⟩
    obtain ⟨after, resolved, rfl⟩ := hSummary summary hResult
    exact ⟨after, resolved, by simp [recorded, Attempt.patches]⟩

/-- The attempts of a run make up its summary; a run that begins without errors has none. -/
theorem Course.rounds {attempts : Nat} {events : List (Event calls)}
    {result : Except Checker.Failure Summary} (h : Course attempts events result) :
    ∃ first list parts, stages events = first :: list ∧ Bare first.events ∧
      Rounds attempts list parts ∧ ∀ summary, result = .ok summary →
        (summary.errorsBefore = 0 → parts = []) ∧ ∃ after resolved,
          summary = .ofPatches summary.errorsBefore after parts.flatten resolved := by
  cases h with
  | failed failure =>
    refine ⟨_, [], [], rfl, bare_nil, .none attempts, fun summary hResult => ?_⟩
    cases hResult
  | clean made hClean =>
    refine ⟨_, [], [], rfl, .cons rfl (.cons rfl bare_nil), .none attempts,
      fun summary hResult => ?_⟩
    cases hResult
    exact ⟨fun _ => rfl, _, _, rfl⟩
  | started made hErrors hRest =>
    obtain ⟨parts, hParts, hSummary⟩ := hRest.rounds
    refine ⟨_, _, parts, rfl, .cons rfl (.cons rfl hRest.bare_lead), hParts,
      fun summary hResult => ?_⟩
    obtain ⟨after, resolved, rfl⟩ := hSummary summary hResult
    refine ⟨fun hNone => absurd (List.eq_nil_of_length_eq_zero hNone) hErrors, after, resolved, ?_⟩
    rw [List.nil_append]
    rfl

/-- The attempts and what they record, side by side. -/
theorem Rounds.forall₂ {left : Nat} {list : List Stage} {parts : List (List Patch)}
    (h : Rounds left list parts) : List.Forall₂ Stage.Records (everySecond left list) parts := by
  induction h with
  | none left => cases left <;> exact .nil
  | last _ => exact .nil
  | ended left h => cases left <;> exact .cons h .nil
  | goesOn h _ _ ih => exact .cons h ih

/-- Whatever is recorded is recorded by an attempt. -/
theorem exists_of_records {list : List Stage} {parts : List (List Patch)}
    (h : List.Forall₂ Stage.Records list parts) {patch : Patch} (hMem : patch ∈ parts.flatten) :
    ∃ stage ∈ list, ∃ group ∈ groupByFile stage.errors, ∃ events,
      Exchange group events (some patch) := by
  induction h with
  | nil => cases hMem
  | @cons stage part list parts head tail ih =>
    rw [List.flatten_cons, List.mem_append] at hMem
    rcases hMem with hPart | hLater
    · obtain ⟨start, events, -, -, hExchanges⟩ := head
      exact ⟨stage, List.mem_cons_self, hExchanges.of_mem hPart⟩
    · obtain ⟨other, hOther, hExchange⟩ := ih hLater
      exact ⟨other, List.mem_cons_of_mem _ hOther, hExchange⟩

end Repair

end TypeRepair
