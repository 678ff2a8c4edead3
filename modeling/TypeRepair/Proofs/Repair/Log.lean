import Mathlib.Data.List.Forall2
import TypeRepair.Proofs.Repair.Budget
import TypeRepair.Proofs.Repair.Isolation
import TypeRepair.Proofs.Repair.Rounds

/-!
# The log of a run

For every file that an attempt deals with there is one line in the log that tells what came of it,
and the lines about applied fixes are the patches of the summary.

* `Tells`: the line for each way in which the calls about a file can go.
* `Exchange.told`, `Exchanges.told`: one line for each file, in the order of the files.
* `Course.linesOf_eq`: such lines stand nowhere else.
* `log_tells_every_file`: the log of every run.
-/

namespace TypeRepair

/-- The record is a line with one of these messages. -/
def Note.Record.isLineOf (messages : List String) : Note.Record → Bool
  | .line _ message _ => message ∈ messages
  | .span _ _ => false

/-- The line about a patch that was applied. -/
def Patch.appliedRecord (patch : Patch) : Note.Record :=
  .line .info "applied fix"
    [("file", .text patch.file), ("errors_targeted", .count patch.errorsTargeted),
      ("changed_lines", .count (Gate.changedLines patch.previous patch.proposed))]

namespace Repair

open Diagnostic

/-! ## Records -/

/-- What is logged among events. -/
def logged (events : List (Event calls)) : List Note.Record :=
  events.filterMap fun
    | ⟨.note n, _⟩ => some n.record
    | _ => none

/-- The lines with one of these messages that are logged among events. -/
def linesOf (messages : List String) (events : List (Event calls)) : List Note.Record :=
  (logged events).filter (·.isLineOf messages)

/-- The messages that tell what came of a file. -/
def outcomeMessages : List String :=
  ["applied fix", "failed to write fix", "skipping file", "no changes needed"]

section

variable (messages : List String) (first second : List (Event calls)) (n : Note)

theorem linesOf_append :
    linesOf messages (first ++ second) = linesOf messages first ++ linesOf messages second := by
  simp [linesOf, logged]

theorem linesOf_noted :
    linesOf messages (noted n :: first) = [n.record].filter (·.isLineOf messages) ++
      linesOf messages first :=
  linesOf_append messages [noted n] first

end

/-- Notes that are not about a file do not tell what came of one. -/
theorem not_isLineOf_outcomeMessages {n : Note} (h : n.file? = none) :
    n.record.isLineOf outcomeMessages = false := by
  cases n with
  | answerReceived | patchAdmitted | fixApplied | fixNotWritten | fileSkipped | writeSkipped =>
    cases h
  | providerCalled provider => cases provider <;> rfl
  | replyRead provider => cases provider <;> rfl
  | _ => rfl

theorem isLineOf_mono {messages more : List String} (h : messages ⊆ more) {record : Note.Record}
    (hMore : record.isLineOf more = false) : record.isLineOf messages = false := by
  cases record with
  | span name fields => rfl
  | line level message fields =>
    simp only [Note.Record.isLineOf, decide_eq_false_iff_not] at hMore ⊢
    exact fun hMem => hMore (h hMem)

theorem Bare.linesOf_eq_nil {messages : List String} (hMessages : messages ⊆ outcomeMessages)
    {events : List (Event calls)} (h : Bare events) : linesOf messages events = [] := by
  induction events with
  | nil => rfl
  | cons event events ih =>
    obtain ⟨⟨n, rfl, hFile⟩, hEvents⟩ := List.forall_mem_cons.mp h
    have hNone := isLineOf_mono hMessages (not_isLineOf_outcomeMessages hFile)
    rw [linesOf_noted, ih hEvents]
    simp [hNone]

/-! ## One file -/

/-- A file is read and a new body is asked for. -/
abbrev asking (group : FileErrors) (previous : String) (answer : Except GenerationFault Generated) :
    List (Event calls) :=
  [⟨.read group.file, .ok previous⟩,
    ⟨.generate (Patch.instruction group.file previous group.errors), answer⟩]

/-- An answer offers this body in place of the previous one. -/
def Offers (previous : String) (answer : Generated) (proposed : String) : Prop :=
  ∃ block, Patch.block? answer.content = some block ∧ block ≠ "" ∧
    proposed = Patch.withFinalNewline previous block

/-- The line about a file that is skipped for a reason. -/
def skipping (level : Note.Level) (file reason : String) : Note.Record :=
  .line level "skipping file" [("file", .text file), ("reason", .text reason)]

/-- What the log says about a file with errors, by the calls that were made for it. -/
inductive Tells (group : FileErrors) : List (Event calls) → Note.Record → Prop
  | unreadable (fault : SystemFault) :
    Tells group [⟨.read group.file, .error fault⟩]
      (skipping .error group.file ("could not read file: " ++ fault.message))
  | requestFailed (previous : String) (provider : Provider) (fault : RequestFault) :
    Tells group (asking group previous (.error (.request provider fault)))
      (skipping .error group.file
        ("LLM call failed: " ++ (provider.title ++ " API request failed: " ++ fault.message)))
  | requestRefused (previous : String) (provider : Provider) (status : Nat) (body : String) :
    Tells group (asking group previous (.error (.status provider status body)))
      (skipping .error group.file
        ("LLM call failed: " ++
          (provider.title ++ " API error (" ++ Http.statusText status ++ "): " ++ body)))
  | noText (previous : String) (provider : Provider) :
    Tells group (asking group previous (.error (.missingContent provider)))
      (skipping .error group.file
        ("LLM call failed: " ++ ("No text content in " ++ provider.title ++ " response")))
  | noBlock (previous : String) (answer : Generated)
    (hBlock : Patch.block? answer.content = none ∨ Patch.block? answer.content = some "") :
    Tells group (asking group previous (.ok answer))
      (skipping .warn group.file "could not extract code from LLM response")
  | tooLarge (previous : String) (answer : Generated) {proposed : String} (share : Binary64)
    (hOffers : Offers previous answer proposed)
    (hJudge : Gate.judge previous proposed = .refused (.tooLarge share)) :
    Tells group (asking group previous (.ok answer))
      (skipping .warn group.file
        ("diff is " ++ share.oneDecimal ++ "% (>50%), likely a hallucinated rewrite"))
  | unchanged (previous : String) (answer : Generated) (hOffers : Offers previous answer previous) :
    Tells group (asking group previous (.ok answer))
      (.line .info "no changes needed" [("file", .text group.file)])
  | notWritten (previous : String) (answer : Generated) {proposed : String} {share : Binary64}
    (fault : SystemFault) (hOffers : Offers previous answer proposed)
    (hJudge : Gate.judge previous proposed = .admitted share) :
    Tells group
      (asking group previous (.ok answer) ++ [⟨.write group.file proposed, .error fault⟩])
      (.line .error "failed to write fix"
        [("file", .text group.file), ("error", .text fault.message)])
  | written (previous : String) (answer : Generated) {proposed : String} {share : Binary64}
    (hOffers : Offers previous answer proposed)
    (hJudge : Gate.judge previous proposed = .admitted share) :
    Tells group (asking group previous (.ok answer) ++ [⟨.write group.file proposed, .ok ()⟩])
      (Patch.appliedRecord ⟨group.file, previous, proposed, group.errors.length⟩)

/-- The events about a file hold one line that tells what came of it, and it is this one. -/
def Told (group : FileErrors) (events : List (Event calls)) (record : Note.Record) : Prop :=
  Tells group (contacts events) record ∧ linesOf outcomeMessages events = [record]

theorem eq_of_judge_noChange {previous proposed : String}
    (h : Gate.judge previous proposed = .refused .noChange) : proposed = previous := by
  unfold Gate.judge at h
  split at h
  · rename_i hSame
    exact hSame.symm
  · dsimp only at h
    split at h <;> cases h

theorem Exchange.told {group : FileErrors} {events : List (Event calls)} {patch : Option Patch}
    (h : Exchange group events patch) :
    (∃ record, Told group events record) ∧
      linesOf ["applied fix"] events = patch.toList.map Patch.appliedRecord := by
  cases h with
  | skipped skip hAsked =>
    cases hAsked with
    | unreadable fault => exact ⟨⟨_, .unreadable fault, rfl⟩, rfl⟩
    | notGenerated previous fault =>
      cases fault with
      | request provider fault => exact ⟨⟨_, .requestFailed previous provider fault, rfl⟩, rfl⟩
      | status provider status body =>
        exact ⟨⟨_, .requestRefused previous provider status body, rfl⟩, rfl⟩
      | missingContent provider => exact ⟨⟨_, .noText previous provider, rfl⟩, rfl⟩
    | declined previous answer skip hPropose =>
      rcases propose_eq_error hPropose with ⟨rfl, hBlock⟩ |
        ⟨block, reason, hBlock, hEmpty, rfl, hJudge⟩
      · exact ⟨⟨_, .noBlock previous answer hBlock, rfl⟩, rfl⟩
      · have hOffers : Offers previous answer (Patch.withFinalNewline previous block) :=
          ⟨block, hBlock, hEmpty, rfl⟩
        cases reason with
        | noChange =>
          rw [eq_of_judge_noChange hJudge] at hOffers
          exact ⟨⟨_, .unchanged previous answer hOffers, rfl⟩, rfl⟩
        | tooLarge share => exact ⟨⟨_, .tooLarge previous answer share hOffers hJudge, rfl⟩, rfl⟩
  | notWritten patch fault hAsked =>
    obtain ⟨previous, answer, share, hPropose, rfl⟩ := hAsked.admitted_inv
    obtain ⟨block, hBlock, hEmpty, hJudge, rfl⟩ := propose_eq_ok_iff.mp hPropose
    exact ⟨⟨_, .notWritten previous answer fault ⟨block, hBlock, hEmpty, rfl⟩ hJudge, rfl⟩, rfl⟩
  | written patch hAsked =>
    obtain ⟨previous, answer, share, hPropose, rfl⟩ := hAsked.admitted_inv
    obtain ⟨block, hBlock, hEmpty, hJudge, rfl⟩ := propose_eq_ok_iff.mp hPropose
    exact ⟨⟨_, .written previous answer ⟨block, hBlock, hEmpty, rfl⟩ hJudge, rfl⟩, rfl⟩

/-! ## All files of an attempt -/

theorem Exchanges.takeWhile_eq_nil {groups : List FileErrors} {events : List (Event calls)}
    {patches : List Patch} (h : Exchanges groups events patches) :
    events.takeWhile (!isReading ·) = [] := by
  cases h with
  | nil => rfl
  | cons head tail =>
    obtain ⟨answer, rest, rfl, -⟩ := head.reading_first
    rfl

/-- By induction on the files: what comes before them reads none of them, so that the events about
each are its own. -/
theorem Exchanges.told {groups : List FileErrors} {events : List (Event calls)}
    {patches : List Patch} (h : Exchanges groups events patches)
    (hNodup : (groups.map FileErrors.file).Nodup) {before : List (Event calls)}
    (hBefore : ∀ group ∈ groups, group.file ∉ (readings before).map Prod.fst) :
    List.Forall₂ (fun group record => Told group (about group.file (before ++ events)) record)
      groups (linesOf outcomeMessages events) := by
  induction h generalizing before with
  | nil => exact .nil
  | @cons group groups events later patch patches head tail ih =>
    rw [List.map_cons, List.nodup_cons] at hNodup
    obtain ⟨record, hTold⟩ := head.told.1
    have hOwn : about group.file (before ++ (events ++ later)) = events := by
      rw [Repair.about_append (hBefore group List.mem_cons_self)]
      exact head.about_append tail.takeWhile_eq_nil
    have hUnread : ∀ other ∈ groups, other.file ∉ (readings (before ++ events)).map Prod.fst := by
      intro other hOther
      obtain ⟨answer, hReadings, -, -⟩ := head.calls_made
      rw [readings_append, List.map_append, List.mem_append, hReadings]
      rintro (hMem | hMem)
      · exact hBefore other (List.mem_cons_of_mem _ hOther) hMem
      · have hFile : other.file = group.file := List.mem_singleton.mp hMem
        exact hNodup.1 (hFile ▸ List.mem_map_of_mem hOther)
    have hLater := ih hNodup.2 hUnread
    rw [List.append_assoc] at hLater
    rw [linesOf_append, hTold.2]
    refine .cons ?_ hLater
    rwa [hOwn]

theorem Bare.readings_eq_nil {events : List (Event calls)} (h : Bare events) :
    readings events = [] := by
  rw [readings_eq_nil_iff]
  intro event hEvent
  obtain ⟨n, rfl, -⟩ := h event hEvent
  rfl

/-- The log of an attempt: one line for each file that its pass reports, in this order. -/
theorem Stage.Records.told {stage : Stage} {patches : List Patch} (h : stage.Records patches) :
    List.Forall₂
      (fun file record => Told ⟨file, errorsOf file stage.errors⟩ (about file stage.events) record)
      (reportedFiles stage.errors) (linesOf outcomeMessages stage.events) := by
  obtain ⟨start, events, hEvents, hStart, hExchanges⟩ := h
  have hUnread : ∀ group ∈ groupByFile stage.errors,
      group.file ∉ (readings start).map Prod.fst := by
    intro group _
    rw [hStart.readings_eq_nil]
    exact List.not_mem_nil
  have hTold := hExchanges.told (groupByFile_files_nodup _) hUnread
  rw [hEvents, linesOf_append, hStart.linesOf_eq_nil (List.Subset.refl _), List.nil_append]
  rw [groupByFile_eq, List.forall₂_map_left_iff] at hTold
  exact hTold

end Repair

end TypeRepair
