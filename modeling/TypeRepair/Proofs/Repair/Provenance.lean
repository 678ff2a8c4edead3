import TypeRepair.Proofs.Repair.Stage
import TypeRepair.Repair.Rehearsal

/-!
# Where writes come from

Every body that a run writes was read, asked for and admitted in the same attempt, for a file that
the attempt's own pass reports.

* `Exchanges.attempted`: what the calls of an attempt have to do with the errors of its pass.
* `writes_have_provenance`: the attempts of a run deal with the files of their own passes only, and
  the other stages with none.
-/

namespace TypeRepair.Repair

open Diagnostic

/-! ## One file -/

/-- A request reads its file once, asks once for what it read, and writes nothing. -/
theorem Asked.calls_made {group : FileErrors} {events : List (Event calls)}
    {result : Except Skip Patch} (h : Asked group events result) :
    ∃ answer, readings events = [(group.file, answer)] ∧
      (requests events).map Prod.fst = answer.toOption.toList.map
        (Patch.instruction group.file · group.errors) ∧
      writes events = [] := by
  cases h with
  | unreadable fault => exact ⟨_, rfl, rfl, rfl⟩
  | notGenerated previous fault => exact ⟨_, rfl, rfl, rfl⟩
  | declined previous answer skip hPropose => exact ⟨_, rfl, rfl, rfl⟩
  | admitted previous answer patch share hPropose => exact ⟨_, rfl, rfl, rfl⟩

theorem Exchange.calls_made {group : FileErrors} {events : List (Event calls)}
    {patch : Option Patch} (h : Exchange group events patch) :
    ∃ answer, readings events = [(group.file, answer)] ∧
      (requests events).map Prod.fst = answer.toOption.toList.map
        (Patch.instruction group.file · group.errors) ∧
      ((writes events).map Prod.fst).Sublist [group.file] := by
  obtain ⟨first, result, last, hAsked, rfl, -, hNoReading, hNoRequest, hLast⟩ := h.request_first
  obtain ⟨answer, hReadings, hRequests, hWrites⟩ := hAsked.calls_made
  refine ⟨answer, ?_, ?_, ?_⟩
  · rw [readings_append, hReadings, hNoReading, List.append_nil]
  · rw [requests_append, hNoRequest, List.append_nil]
    exact hRequests
  · rw [writes_append, hWrites, List.nil_append]
    exact hLast

/-- A write lies behind whatever holds no write. -/
theorem split_before_write {first second before after : List (Event calls)} {file body : String}
    {answer : Except SystemFault Unit} (h : writes first = [])
    (hSplit : first ++ second = before ++ ⟨.write file body, answer⟩ :: after) :
    ∃ between, before = first ++ between ∧
      second = between ++ ⟨.write file body, answer⟩ :: after := by
  rcases List.append_eq_append_iff.mp hSplit with
    ⟨between, hBefore, hSecond⟩ | ⟨rest, hFirst, hRest⟩
  · exact ⟨between, hBefore, hSecond⟩
  · cases rest with
    | nil =>
      rw [List.append_nil] at hFirst
      exact ⟨[], by rw [hFirst, List.append_nil], hRest.symm⟩
    | cons event rest =>
      rw [List.cons_append, List.cons.injEq] at hRest
      rw [hFirst, ← hRest.1, writes_append, writes_write] at h
      exact absurd h (by simp)

/-- The body that is written for a file is the one of the patch that was asked for before. -/
theorem Exchange.write_inv {group : FileErrors} {events before after : List (Event calls)}
    {patch : Option Patch} (h : Exchange group events patch) {file body : String}
    {answer : Except SystemFault Unit}
    (hSplit : events = before ++ ⟨.write file body, answer⟩ :: after) :
    ∃ asked, Asked group before (.ok asked) ∧ asked.file = file ∧ asked.proposed = body := by
  have hWrite : ∀ {first : List (Event calls)} {asked : Patch} {outcome : Except SystemFault Unit}
      {n : Note}, Asked group first (.ok asked) →
      first ++ [⟨.write asked.file asked.proposed, outcome⟩, noted n] =
        before ++ ⟨.write file body, answer⟩ :: after →
      Asked group before (.ok asked) ∧ asked.file = file ∧ asked.proposed = body := by
    intro first asked outcome n hAsked hSplit
    obtain ⟨_, -, -, hNone⟩ := hAsked.calls_made
    obtain ⟨between, rfl, hTail⟩ := split_before_write hNone hSplit
    rcases between with _ | ⟨event, _ | ⟨event', between⟩⟩
    · cases hTail
      rw [List.append_nil]
      exact ⟨hAsked, rfl, rfl⟩
    · cases hTail
    · simp at hTail
  cases h with
  | skipped skip hAsked =>
    obtain ⟨_, -, -, hNone⟩ := hAsked.calls_made
    have hCount := congrArg writes hSplit
    simp [hNone] at hCount
  | notWritten patch fault hAsked => exact ⟨patch, hWrite hAsked hSplit⟩
  | written patch hAsked => exact ⟨patch, hWrite hAsked hSplit⟩

/-! ## One attempt -/

/-- After these events of an attempt with these errors, the body may be written to the file: the
file is among those reported, it was read once, the generator was asked for it once, and the gate
lets the block of the answer through. -/
def Justified (errors : List Diagnostic) (before : List (Event calls)) (file body : String) :
    Prop :=
  (∃ d ∈ errors, d.file = file) ∧
    ∃ previous answer block share,
      (readings before).filter (·.1 = file) = [(file, .ok previous)] ∧
      requests (about file before) =
        [(Patch.instruction file previous (errorsOf file errors), .ok answer)] ∧
      Patch.block? answer.content = some block ∧ block ≠ "" ∧
      body = Patch.withFinalNewline previous block ∧ body ≠ previous ∧
      Gate.judge previous body = .admitted share

/-- The calls that an attempt may make about errors: each reported file is read once, in the order
of the reports, asked for once if it could be read, and written at most once. -/
structure Attempted (errors : List Diagnostic) (events : List (Event calls)) : Prop where
  read_once : (readings events).map Prod.fst = reportedFiles errors
  asked_once : (requests events).map Prod.fst = (readings events).flatMap fun (file, answer) =>
    answer.toOption.toList.map (Patch.instruction file · (errorsOf file errors))
  written_once : ((writes events).map Prod.fst).Sublist (reportedFiles errors)
  justified : ∀ before file body answer after,
    events = before ++ ⟨.write file body, answer⟩ :: after → Justified errors before file body

/-- The gate lets no body through that changes nothing. -/
theorem ne_of_admitted {previous proposed : String} {share : Binary64}
    (h : Gate.judge previous proposed = .admitted share) : proposed ≠ previous := by
  rintro rfl
  simp [Gate.judge] at h

theorem Asked.justified {group : FileErrors} {before : List (Event calls)} {patch : Patch}
    (h : Asked group before (.ok patch)) {errors : List Diagnostic}
    (hReported : group.file ∈ reportedFiles errors)
    (hErrors : group.errors = errorsOf group.file errors) :
    Justified errors before patch.file patch.proposed := by
  obtain ⟨previous, answer, share, hPropose, rfl⟩ := h.admitted_inv
  obtain ⟨block, hBlock, hEmpty, hJudge, rfl⟩ := propose_eq_ok_iff.mp hPropose
  refine ⟨mem_reportedFiles.mp hReported, previous, answer, block, share, ?_, ?_, hBlock, hEmpty,
    rfl, ne_of_admitted hJudge, hJudge⟩
  · simp [readings]
  · rw [← hErrors]
    simp [about, isReadingOf, isReading, requests]

/-- What happens before to other files does not matter. -/
theorem Justified.append {errors : List Diagnostic} {before : List (Event calls)}
    {file body : String} (h : Justified errors before file body) (earlier : List (Event calls))
    (hOther : file ∉ (readings earlier).map Prod.fst) :
    Justified errors (earlier ++ before) file body := by
  obtain ⟨hReported, previous, answer, block, share, hRead, hAsked, hBody⟩ := h
  refine ⟨hReported, previous, answer, block, share, ?_, ?_, hBody⟩
  · rw [readings_append, List.filter_append, filter_readings_eq_nil hOther, hRead]
    rfl
  · rw [about_append hOther, hAsked]

theorem Exchanges.readings_eq {groups : List FileErrors} {events : List (Event calls)}
    {patches : List Patch} (h : Exchanges groups events patches) :
    (readings events).map Prod.fst = groups.map FileErrors.file := by
  induction h with
  | nil => rfl
  | cons head tail ih =>
    obtain ⟨answer, hReadings, -, -⟩ := head.calls_made
    rw [readings_append, List.map_append, hReadings, ih]
    rfl

theorem Exchanges.requests_eq {groups : List FileErrors} {events : List (Event calls)}
    {patches : List Patch} (h : Exchanges groups events patches) {errors : List Diagnostic}
    (hErrors : ∀ group ∈ groups, group.errors = errorsOf group.file errors) :
    (requests events).map Prod.fst = (readings events).flatMap fun (file, answer) =>
      answer.toOption.toList.map (Patch.instruction file · (errorsOf file errors)) := by
  induction h with
  | nil => rfl
  | cons head tail ih =>
    obtain ⟨answer, hReadings, hRequests, -⟩ := head.calls_made
    rw [requests_append, List.map_append, hRequests, readings_append, List.flatMap_append,
      hReadings, ih fun group hGroup => hErrors group (List.mem_cons_of_mem _ hGroup),
      hErrors _ List.mem_cons_self]
    simp only [List.flatMap_cons, List.flatMap_nil, List.append_nil]

theorem Exchanges.writes_sublist {groups : List FileErrors} {events : List (Event calls)}
    {patches : List Patch} (h : Exchanges groups events patches) :
    ((writes events).map Prod.fst).Sublist (groups.map FileErrors.file) := by
  induction h with
  | nil => exact List.Sublist.refl _
  | cons head tail ih =>
    obtain ⟨_, -, -, hWrites⟩ := head.calls_made
    rw [writes_append, List.map_append, List.map_cons]
    exact hWrites.append ih

/-- Each write in turn: it belongs to the first file, or to a later one that the first one does not
concern. -/
theorem Exchanges.justified {groups : List FileErrors} {events : List (Event calls)}
    {patches : List Patch} (h : Exchanges groups events patches) {errors : List Diagnostic}
    (hNodup : (groups.map FileErrors.file).Nodup)
    (hReported : ∀ group ∈ groups, group.file ∈ reportedFiles errors)
    (hErrors : ∀ group ∈ groups, group.errors = errorsOf group.file errors)
    {before after : List (Event calls)} {file body : String} {answer : Except SystemFault Unit}
    (hSplit : events = before ++ ⟨.write file body, answer⟩ :: after) :
    Justified errors before file body := by
  induction h generalizing before with
  | nil => exact absurd hSplit (by simp)
  | @cons group groups events later patch patches head tail ih =>
    rw [List.map_cons, List.nodup_cons] at hNodup
    have hLater : ∀ {between : List (Event calls)},
        later = between ++ ⟨.write file body, answer⟩ :: after →
        Justified errors (events ++ between) file body := by
      intro between hBetween
      have hFile : file ∈ groups.map FileErrors.file := by
        apply tail.writes_sublist.subset
        rw [hBetween]
        simp
      refine (ih hNodup.2 (fun g hg => hReported g (List.mem_cons_of_mem _ hg))
        (fun g hg => hErrors g (List.mem_cons_of_mem _ hg)) hBetween).append events ?_
      obtain ⟨_, hReadings, -, -⟩ := head.calls_made
      rw [hReadings]
      intro hMem
      rw [List.mem_singleton.mp hMem] at hFile
      exact hNodup.1 hFile
    rcases List.append_eq_append_iff.mp hSplit with ⟨between, rfl, hBetween⟩ | ⟨rest, hHead, hRest⟩
    · exact hLater hBetween
    · cases rest with
      | nil =>
        rw [List.append_nil] at hHead
        rw [← hHead, ← List.append_nil events]
        exact hLater hRest.symm
      | cons event rest =>
        obtain ⟨rfl, -⟩ := List.cons.inj hRest
        obtain ⟨asked, hAsked, rfl, rfl⟩ := head.write_inv hHead
        exact hAsked.justified (hReported group List.mem_cons_self)
          (hErrors group List.mem_cons_self)

theorem Exchanges.attempted {errors : List Diagnostic} {events : List (Event calls)}
    {patches : List Patch} (h : Exchanges (groupByFile errors) events patches) :
    Attempted errors events := by
  have hErrors : ∀ group ∈ groupByFile errors, group.errors = errorsOf group.file errors :=
    fun _ => errors_of_mem_groupByFile
  refine ⟨?_, h.requests_eq hErrors, ?_, fun before file body answer after hSplit => ?_⟩
  · rw [h.readings_eq, groupByFile_files]
  · rw [← groupByFile_files]
    exact h.writes_sublist
  · refine h.justified (groupByFile_files_nodup errors) (fun group hGroup => ?_) hErrors hSplit
    rw [← groupByFile_files]
    exact List.mem_map_of_mem hGroup

/-- Notes have nothing to do with what an attempt may do. -/
theorem Attempted.noted {errors : List Diagnostic} {events : List (Event calls)}
    (h : Attempted errors events) (n : Note) : Attempted errors (noted n :: events) := by
  refine ⟨h.read_once, h.asked_once, h.written_once, fun before file body answer after hSplit => ?_⟩
  cases before with
  | nil => cases hSplit
  | cons event before =>
    obtain ⟨rfl, hRest⟩ := List.cons.inj hSplit
    exact (h.justified before file body answer after hRest).append [Repair.noted n] (by simp)

/-! ## All stages -/

/-- What the stage of an attempt may do: nothing if its pass could not be made, and else what the
errors of the pass call for. -/
def Stage.Deals (stage : Stage) : Prop :=
  match stage.answer with
  | .error _ => Idle stage.events
  | .ok made => Attempted made.errors stage.events

/-- An attempt is one stage, up to the next pass. -/
theorem Round.shape {number : Nat} {events : List (Event calls)}
    {result : Except Checker.Failure Attempt} (h : Round number events result) :
    ∃ stage : Stage, events = stage.all ∧ Quiet stage.events ∧ stage.Deals := by
  cases h with
  | failed failure =>
    exact ⟨⟨.error failure, []⟩, rfl, fun _ h => absurd h List.not_mem_nil, rfl, rfl, rfl⟩
  | alreadyClean made hClean =>
    refine ⟨⟨.ok made, _⟩, rfl, by simp [Quiet, isPass], ?_⟩
    have hNil : Exchanges (groupByFile made.errors) [] [] := by
      rw [hClean]
      exact .nil
    have hNone := hNil.attempted
    exact (hNone.noted _).noted _
  | processed made hErrors hExchanges =>
    refine ⟨⟨.ok made, _⟩, rfl, ?_, (hExchanges.attempted.noted _).noted _⟩
    have hQuiet := hExchanges.quiet
    simpa [Quiet, isPass] using hQuiet

theorem Stage.stages_all_append {stage : Stage} (h : Quiet stage.events)
    {rest : List (Event calls)} (hRest : lead rest = []) :
    stages (stage.all ++ rest) = stage :: stages rest := by
  rw [Stage.all, List.cons_append, stages_check, lead_append h, stages_append h, hRest,
    List.append_nil]

theorem Rest.lead_eq {attempts errorsBefore left : Nat} {done : List Patch}
    {events : List (Event calls)} {result : Except Checker.Failure Summary}
    (h : Rest attempts errorsBefore left done events result) :
    lead events = if left = 0 then [] else
      [noted (.attemptBegins (attempts - (left - 1)) attempts)] := by
  cases h with
  | lastFailed => rfl
  | exhausted => rfl
  | failed left done hRound =>
    obtain ⟨stage, rfl, -⟩ := hRound.shape
    rfl
  | alreadyClean left done hRound =>
    obtain ⟨stage, rfl, -⟩ := hRound.shape
    rfl
  | recheckFailed left done hRound failure =>
    obtain ⟨stage, rfl, -⟩ := hRound.shape
    rfl
  | fixed left done hRound made hClean =>
    obtain ⟨stage, rfl, -⟩ := hRound.shape
    rfl
  | goesOn left done hRound made hErrors hLater =>
    obtain ⟨stage, rfl, -⟩ := hRound.shape
    rfl

theorem Rest.idle_lead {attempts errorsBefore left : Nat} {done : List Patch}
    {events : List (Event calls)} {result : Except Checker.Failure Summary}
    (h : Rest attempts errorsBefore left done events result) : Idle (lead events) := by
  rw [h.lead_eq]
  split <;> exact ⟨rfl, rfl, rfl⟩

/-- The events end with the note that this attempt begins. -/
def Announces (number attempts : Nat) (events : List (Event calls)) : Prop :=
  events.getLast? = some (noted (.attemptBegins number attempts))

theorem Announces.append {number attempts : Nat} {events : List (Event calls)}
    (h : Announces number attempts events) (before : List (Event calls)) :
    Announces number attempts (before ++ events) := by
  unfold Announces at h ⊢
  rw [List.getLast?_append, h]
  rfl

/-- Stages after these events of which the even ones are announced as attempts and deal with the
errors of their passes, as long as attempts are left, and of which no other one does anything. -/
def Alternating (attempts left : Nat) (before : List (Event calls)) (list : List Stage) : Prop :=
  ∀ i stage, list[i]? = some stage →
    if i % 2 = 0 ∧ i < 2 * left then
      Announces (attempts - left + i / 2 + 1) attempts
        (before ++ (list.take i).flatMap Stage.all) ∧ stage.Deals
    else Idle stage.events

theorem alternating_last {attempts : Nat} {before : List (Event calls)} {stage : Stage}
    (h : Idle stage.events) : Alternating attempts 0 before [stage] := by
  intro i other hOther
  cases i with
  | zero =>
    cases hOther
    simpa using h
  | succ i => cases hOther

theorem alternating_single {attempts left : Nat} {before : List (Event calls)} {stage : Stage}
    (hBefore : Announces (attempts - (left + 1) + 1) attempts before) (h : stage.Deals) :
    Alternating attempts (left + 1) before [stage] := by
  intro i other hOther
  cases i with
  | zero =>
    cases hOther
    simpa using ⟨hBefore, h⟩
  | succ i => cases hOther

/-- A stage that deals with errors and one that does not come before the others; the second one ends
with the note, if there is one, on the next attempt. -/
theorem alternating_cons {attempts left : Nat} {before lead : List (Event calls)}
    {stage recheck : Stage} {list : List Stage} (hLeft : left + 1 ≤ attempts)
    (hBefore : Announces (attempts - (left + 1) + 1) attempts before) (h : stage.Deals)
    (hRecheck : Idle recheck.events) (hLead : ∃ first, recheck.all = first ++ lead)
    (hList : Alternating attempts left lead list) :
    Alternating attempts (left + 1) before (stage :: recheck :: list) := by
  obtain ⟨first, hFirst⟩ := hLead
  intro i other hOther
  match i with
  | 0 =>
    cases hOther
    simpa using ⟨hBefore, h⟩
  | 1 =>
    cases hOther
    simpa using hRecheck
  | i + 2 =>
    have hLater := hList i other hOther
    have hPlace : (i + 2) % 2 = 0 ∧ i + 2 < 2 * (left + 1) ↔ i % 2 = 0 ∧ i < 2 * left := by omega
    have hNumber : attempts - (left + 1) + (i + 2) / 2 + 1 = attempts - left + i / 2 + 1 := by omega
    simp only [hPlace, hNumber]
    split
    · rename_i hAttempt
      rw [if_pos hAttempt] at hLater
      refine ⟨?_, hLater.2⟩
      have hAll : before ++ ((stage :: recheck :: list).take (i + 2)).flatMap Stage.all =
          (before ++ stage.all ++ first) ++ (lead ++ (list.take i).flatMap Stage.all) := by
        simp [hFirst]
      rw [hAll]
      exact hLater.1.append _
    · rename_i hOther
      rwa [if_neg hOther] at hLater

theorem Rest.alternating {attempts errorsBefore left : Nat} {done : List Patch}
    {events : List (Event calls)} {result : Except Checker.Failure Summary}
    (h : Rest attempts errorsBefore left done events result) (hLeft : left ≤ attempts) :
    Alternating attempts left (lead events) (stages events) := by
  have hBegins : ∀ {left : Nat}, left + 1 ≤ attempts → Announces (attempts - (left + 1) + 1)
      attempts [noted (.attemptBegins (attempts - left) attempts)] := by
    intro left hLeft
    rw [show attempts - (left + 1) + 1 = attempts - left by omega]
    rfl
  induction h with
  | lastFailed done failure => exact alternating_last ⟨rfl, rfl, rfl⟩
  | exhausted done made => exact alternating_last ⟨rfl, rfl, rfl⟩
  | failed left done hRound =>
    obtain ⟨stage, rfl, hQuiet, hDeals⟩ := hRound.shape
    rw [stages_noted, ← List.append_nil stage.all, Stage.stages_all_append hQuiet lead_nil]
    exact alternating_single (hBegins hLeft) hDeals
  | alreadyClean left done hRound =>
    obtain ⟨stage, rfl, hQuiet, hDeals⟩ := hRound.shape
    rw [stages_noted, ← List.append_nil stage.all, Stage.stages_all_append hQuiet lead_nil]
    exact alternating_single (hBegins hLeft) hDeals
  | recheckFailed left done hRound failure =>
    obtain ⟨stage, rfl, hQuiet, hDeals⟩ := hRound.shape
    rw [stages_noted, Stage.stages_all_append hQuiet rfl]
    exact alternating_cons hLeft (hBegins hLeft) hDeals ⟨rfl, rfl, rfl⟩
      ⟨_, (List.append_nil _).symm⟩ (fun _ _ h => absurd h (by simp))
  | fixed left done hRound made hClean =>
    obtain ⟨stage, rfl, hQuiet, hDeals⟩ := hRound.shape
    rw [stages_noted, Stage.stages_all_append hQuiet rfl]
    exact alternating_cons hLeft (hBegins hLeft) hDeals ⟨rfl, rfl, rfl⟩
      ⟨_, (List.append_nil _).symm⟩ (fun _ _ h => absurd h (by simp))
  | goesOn left done hRound made hErrors hLater ih =>
    obtain ⟨stage, rfl, hQuiet, hDeals⟩ := hRound.shape
    rw [stages_noted, Stage.stages_all_append hQuiet rfl]
    exact alternating_cons hLeft (hBegins hLeft) hDeals hLater.idle_lead
      ⟨passEvents made ++ [noted _], rfl⟩ (ih (by omega))

/-! ## Runs -/

theorem Course.lead_eq {attempts : Nat} {events : List (Event calls)}
    {result : Except Checker.Failure Summary} (h : Course attempts events result) :
    lead events = [] := by
  cases h <;> rfl

/-- The stages of a run: those of the attempts stand at the odd places. -/
theorem Course.stage {attempts : Nat} {events : List (Event calls)}
    {result : Except Checker.Failure Summary} (h : Course attempts events result) {j : Nat}
    {stage : Stage} (hStage : (stages events)[j]? = some stage) :
    if j % 2 = 1 ∧ j < 2 * attempts then
      Announces (j / 2 + 1) attempts (((stages events).take j).flatMap Stage.all) ∧ stage.Deals
    else Idle stage.events := by
  cases h with
  | failed failure =>
    cases j with
    | zero =>
      cases hStage
      exact ⟨rfl, rfl, rfl⟩
    | succ j => cases hStage
  | clean made hClean =>
    cases j with
    | zero =>
      cases hStage
      exact ⟨rfl, rfl, rfl⟩
    | succ j => cases hStage
  | @started made hErrors events result hRest =>
    have hStages : stages (passEvents made ++ noted (.errorsFound made.errors.length) :: events) =
        ⟨.ok made, noted (.passMade made.exitCode made.errors.length) ::
          noted (.errorsFound made.errors.length) :: lead events⟩ :: stages events := rfl
    rw [hStages] at hStage ⊢
    cases j with
    | zero =>
      cases hStage
      exact hRest.idle_lead
    | succ i =>
      have hLater := hRest.alternating (Nat.le_refl _) i stage hStage
      have hPlace : (i + 1) % 2 = 1 ∧ i + 1 < 2 * attempts ↔ i % 2 = 0 ∧ i < 2 * attempts := by
        omega
      simp only [hPlace]
      split
      · rename_i hAttempt
        rw [if_pos hAttempt] at hLater
        refine ⟨?_, hLater.2⟩
        have hNumber : attempts - attempts + i / 2 + 1 = (i + 1) / 2 + 1 := by omega
        rw [hNumber] at hLater
        rw [List.take_succ_cons, List.flatMap_cons]
        exact hLater.1.append (passEvents made ++ [noted (.errorsFound made.errors.length)])
      · rename_i hOther
        rwa [if_neg hOther] at hLater

/-- Every attempted write of a run lies in one attempt, behind the pass that opens it, and is
justified by what the attempt did before. The stage of an attempt is announced and deals with the
errors of its own pass; no other stage reads, asks or writes anything. -/
theorem writes_have_provenance {σ : Type} (collaborators : Collaborators σ) (attempts : Nat)
    (state : σ) :
    let events := (collaborators.repair attempts state).events
    (∀ before file body answer after, events = before ++ ⟨.write file body, answer⟩ :: after →
      ∃ i < attempts, ∃ made inside rest,
        (stages events)[2 * i + 1]? =
          some ⟨.ok made, inside ++ ⟨.write file body, answer⟩ :: rest⟩ ∧
        before =
          ((stages events).take (2 * i + 1)).flatMap Stage.all ++ ⟨.check, .ok made⟩ :: inside ∧
        Justified made.errors inside file body) ∧
    (∀ i < attempts, ∀ stage, (stages events)[2 * i + 1]? = some stage →
      Announces (i + 1) attempts (((stages events).take (2 * i + 1)).flatMap Stage.all) ∧
        stage.Deals) ∧
    (∀ j stage, (stages events)[j]? = some stage → (∀ i < attempts, j ≠ 2 * i + 1) →
      Idle stage.events) ∧
    (stages events).flatMap Stage.all = events := by
  intro events
  have hCourse := collaborators.course attempts state
  have hAttempt : ∀ i < attempts, ∀ stage, (stages events)[2 * i + 1]? = some stage →
      Announces (i + 1) attempts (((stages events).take (2 * i + 1)).flatMap Stage.all) ∧
        stage.Deals := by
    intro i hi stage hStage
    have h := hCourse.stage hStage
    rw [if_pos (by omega)] at h
    rwa [show (2 * i + 1) / 2 = i by omega] at h
  have hOther : ∀ j stage, (stages events)[j]? = some stage → (∀ i < attempts, j ≠ 2 * i + 1) →
      Idle stage.events := by
    intro j stage hStage hPlace
    have h := hCourse.stage hStage
    rw [if_neg] at h
    · exact h
    · rintro ⟨hOdd, hLess⟩
      exact hPlace (j / 2) (by omega) (by omega)
  refine ⟨fun before file body answer after hSplit => ?_, hAttempt, hOther,
    flatMap_stages_of_lead hCourse.lead_eq⟩
  obtain ⟨j, ⟨opening, _⟩, inside, rest, hStage, rfl, rfl⟩ :=
    stage_of_event hCourse.lead_eq rfl hSplit
  by_cases hPlace : ∃ i < attempts, j = 2 * i + 1
  · obtain ⟨i, hi, rfl⟩ := hPlace
    have hDeals := (hAttempt i hi _ hStage).2
    cases opening with
    | error failure =>
      obtain ⟨-, -, hWrites⟩ := hDeals
      simp at hWrites
    | ok made =>
      exact ⟨i, hi, made, inside, rest, hStage, rfl,
        hDeals.justified inside file body answer rest rfl⟩
  · have hIdle := hOther j _ hStage fun i hi hEq => hPlace ⟨i, hi, hEq⟩
    obtain ⟨-, -, hWrites⟩ := hIdle
    simp at hWrites

theorem twoFiles_write_has_provenance :
    let events := (scripted.repair 1 Rehearsal.twoFiles).events
    writes events = [("a.ts", "a\nc"), ("b.ts", "a\nc")] ∧
      ∃ made inside rest,
        (stages events)[1]? = some ⟨.ok made, inside ++ ⟨.write "a.ts" "a\nc", .ok ()⟩ :: rest⟩ ∧
        Justified made.errors inside "a.ts" "a\nc" := by
  intro events
  obtain ⟨i, hi, made, inside, rest, hStage, -, hJustified⟩ :=
    (writes_have_provenance scripted 1 Rehearsal.twoFiles).1 (events.take 11) "a.ts" "a\nc" (.ok ())
      (events.drop 12) rfl
  obtain rfl : i = 0 := by omega
  exact ⟨rfl, made, inside, rest, hStage, hJustified⟩

end TypeRepair.Repair
