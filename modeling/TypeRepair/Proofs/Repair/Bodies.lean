import TypeRepair.Proofs.Patch.Shape
import TypeRepair.Proofs.Repair.Files
import TypeRepair.Proofs.Repair.Provenance

/-!
# What becomes of a body

A body that is written over another one ends as that one does and is not blank. Every attempt reads
what the attempts before it have written, so the same holds of the first body of a file and of all
later ones.

* `Course.write_shaped`: what is written is shaped after what was read last.
* `Course.kept`: what a file holds at any point of a run, as against its first body.
* `bodies_keep_shape`: both for all runs.
-/

namespace TypeRepair.Repair

/-- The body is the first one, or it ends as that one does and is not blank. -/
def Kept (first body : String) : Prop :=
  (Patch.endsAtNewline body = true ↔ Patch.endsAtNewline first = true) ∧
    (body = first ∨ ∃ c ∈ body.toList, Text.isBlank c = false)

theorem mem_readings_split {file : String} {answer : Except SystemFault String}
    {events : List (Event calls)} (h : (file, answer) ∈ readings events) :
    ∃ start later, events = start ++ ⟨.read file, answer⟩ :: later := by
  obtain ⟨⟨call, given⟩, hEvent, hReading⟩ := List.mem_filterMap.mp h
  cases call with
  | read other =>
    cases hReading
    exact List.append_of_mem hEvent
  | _ => cases hReading

/-- A justified body was made for the only one that was read of its file. -/
theorem Justified.shaped {errors : List Diagnostic} {inside : List (Event calls)}
    {file body : String} (h : Justified errors inside file body) :
    ∃ previous, (readings inside).filter (·.1 = file) = [(file, .ok previous)] ∧
      Patch.Shaped previous body := by
  obtain ⟨-, previous, answer, block, share, hRead, -, hBlock, hNe, rfl, -⟩ := h
  exact ⟨previous, hRead, Patch.shaped_of_block hBlock hNe previous⟩

theorem Course.write_shaped {attempts : Nat} {events : List (Event calls)}
    {result : Except Checker.Failure Summary} (h : Course attempts events result)
    {before after : List (Event calls)} {file body : String} {answer : Except SystemFault Unit}
    (hSplit : events = before ++ ⟨.write file body, answer⟩ :: after) :
    ∃ previous, ((readings before).filter (·.1 = file)).getLast? = some (file, .ok previous) ∧
      Patch.Shaped previous body := by
  obtain ⟨j, ⟨opening, _⟩, inside, rest, hStage, rfl, rfl⟩ := stage_of_event h.lead_eq rfl hSplit
  have hCourse := h.stage hStage
  split at hCourse
  · cases opening with
    | error failure =>
      obtain ⟨-, -, hWrites⟩ := hCourse.2
      simp at hWrites
    | ok made =>
      have hJustified := hCourse.2.justified inside file body answer rest rfl
      obtain ⟨previous, hRead, hShaped⟩ := hJustified.shaped
      refine ⟨previous, ?_, hShaped⟩
      have hCheck : readings (⟨.check, .ok made⟩ :: inside) = readings inside := rfl
      rw [readings_append, List.filter_append, hCheck, hRead, List.getLast?_concat]
  · obtain ⟨-, -, hWrites⟩ := hCourse
    simp at hWrites

/-- By induction on the events so far: a body that is written is shaped after one that was read
before, and that one was what the file held then. -/
theorem Course.kept {σ : Type} {collaborators : Collaborators σ} {files : σ → Files}
    (hKeyed : PathKeyed collaborators files) {attempts : Nat} {events : List (Event calls)}
    {result : Except Checker.Failure Summary} (h : Course attempts events result) {s t : σ}
    (hFollows : collaborators.handler.Follows s events t) {before after : List (Event calls)}
    (hSplit : events = before ++ after) {file first : String} (hFirst : files s file = some first) :
    ∃ body, changes before (files s) file = some body ∧ Kept first body := by
  induction hLength : before.length using Nat.strong_induction_on generalizing before after with
  | h length ih =>
  subst hLength
  rcases List.eq_nil_or_concat before with rfl | ⟨earlier, event, rfl⟩
  · exact ⟨first, hFirst, Iff.rfl, .inl rfl⟩
  · rw [List.concat_eq_append, List.append_assoc] at hSplit
    have hEarlier := ih earlier.length (by simp) hSplit rfl
    rw [List.concat_eq_append, changes_append]
    obtain ⟨call, answer⟩ := event
    cases call with
    | write path new =>
      cases answer with
      | error fault => exact hEarlier
      | ok _ =>
        by_cases hPath : path = file
        · subst hPath
          obtain ⟨previous, hRead, hShaped⟩ := h.write_shaped hSplit
          -- The run up to the read is shorter, and what was read is what the file held there.
          have hMem := List.mem_of_mem_filter (List.mem_of_getLast? hRead)
          obtain ⟨start, later, rfl⟩ := mem_readings_split hMem
          rw [List.append_assoc] at hSplit
          rw [hSplit] at hFollows
          obtain ⟨middle, hStart, hLater⟩ := Handler.follows_append.mp hFollows
          obtain ⟨body, hBody, hNewline, -⟩ := ih start.length (by simp) hSplit rfl
          rw [← hKeyed.follows hStart, hKeyed.first_read hLater, Option.some.injEq] at hBody
          subst hBody
          refine ⟨new, Function.update_self _ _ _, hShaped.newline_iff.trans hNewline, ?_⟩
          exact .inr hShaped.exists_solid
        · obtain ⟨body, hBody, hKept⟩ := hEarlier
          exact ⟨body, (Function.update_of_ne (Ne.symm hPath) _ _).trans hBody, hKept⟩
    | _ => exact hEarlier

/-- Every body that a run writes is shaped after the one that was read last of its file. Where the
store keeps bodies by path, no file that there is at the start ends otherwise than its first body
or becomes blank, neither on the way nor at the end. -/
theorem bodies_keep_shape {σ : Type} (collaborators : Collaborators σ) (attempts : Nat)
    (state : σ) :
    let run := collaborators.repair attempts state
    (∀ before file body answer after,
      run.events = before ++ ⟨.write file body, answer⟩ :: after →
        ∃ previous,
          ((readings before).filter (·.1 = file)).getLast? = some (file, .ok previous) ∧
          Patch.Shaped previous body) ∧
    ∀ files : σ → Files, PathKeyed collaborators files →
      ∀ file first, files state file = some first →
        (∀ before, before <+: run.events →
          ∃ body, changes before (files state) file = some body ∧ Kept first body) ∧
        ∃ last, files run.state file = some last ∧
          (Patch.endsAtNewline last = true ↔ Patch.endsAtNewline first = true) ∧
          (last = first ∨ ∃ c ∈ last.toList, Text.isBlank c = false) := by
  intro run
  have hCourse : Course attempts run.events run.result := collaborators.course attempts state
  have hFollows : collaborators.handler.Follows state run.events run.state :=
    Procedure.follows_run collaborators.handler (Repair.run attempts) state
  refine ⟨fun before file body answer after hSplit => hCourse.write_shaped hSplit, ?_⟩
  intro files hKeyed file first hFirst
  refine ⟨fun before ⟨after, hSplit⟩ => hCourse.kept hKeyed hFollows hSplit.symm hFirst, ?_⟩
  rw [hKeyed.follows hFollows]
  exact hCourse.kept hKeyed hFollows (List.append_nil _).symm hFirst

/-- A rehearsal of two attempts at one file. The answers have backticks in their code, and blanks
at its end. -/
def Rehearsal.quoting : Rehearsal where
  passes := [
    .ok "a.ts(1,1): error TS1: x",
    .ok "a.ts(1,1): error TS1: x",
    .ok "a.ts(1,1): error TS1: x",
    .ok "a.ts(1,1): error TS1: x",
    .ok ""]
  answers := [
    .ok "```ts\nx\nt = '```'\nz  \n\n```\nDone.",
    .ok "```\nw\nt = '```'\nz\n```"]
  files := ⟨[("a.ts", "x\ny\nz\n")], [], []⟩

theorem quoting_keeps_shape :
    let run := scripted.repair 2 Rehearsal.quoting
    writes run.events = [("a.ts", "x\nt = '```'\nz\n"), ("a.ts", "w\nt = '```'\nz\n")] ∧
      Patch.Shaped "x\nt = '```'\nz\n" "w\nt = '```'\nz\n" ∧
      ∃ last, run.state.files.bodies.lookup "a.ts" = some last ∧
        (Patch.endsAtNewline last = true ↔ Patch.endsAtNewline "x\ny\nz\n" = true) ∧
        (last = "x\ny\nz\n" ∨ ∃ c ∈ last.toList, Text.isBlank c = false) := by
  intro run
  obtain ⟨hWrites, hFiles⟩ := bodies_keep_shape scripted 2 Rehearsal.quoting
  obtain ⟨previous, hRead, hShaped⟩ := hWrites (run.events.take 24) "a.ts"
    "w\nt = '```'\nz\n" (.ok ()) (run.events.drop 25) rfl
  have hLast : ((readings (run.events.take 24)).filter (·.1 = "a.ts")).getLast? =
      some ("a.ts", .ok "x\nt = '```'\nz\n") := rfl
  cases hRead.symm.trans hLast
  exact ⟨rfl, hShaped, (hFiles _ scripted_pathKeyed "a.ts" _ rfl).2⟩

end TypeRepair.Repair
