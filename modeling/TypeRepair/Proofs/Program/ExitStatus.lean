import TypeRepair.Program.Rehearsal
import TypeRepair.Proofs.Program.Course
import TypeRepair.Proofs.Repair.Schedule

/-!
# The exit status

A run succeeds if it publishes its summary and the summary leaves nothing to complain about: there
were no errors at all, or all of them are resolved and some file was fixed.

* `judge_eq_success_iff`, `judge_eq_notFixed_iff`, `judge_eq_notResolved_iff`: the verdict on a
  summary that a run can come to.
* `exit_status`: the outcome of every run, by how far it comes.
-/

namespace TypeRepair

/-! ## Summaries of the loop -/

namespace Repair

/-- Only a project that is clean from the start has no errors before the repair. -/
theorem Course.clean_of_errorsBefore {attempts : Nat} {events : List (Event calls)}
    {summary : Summary} (h : Course attempts events (.ok summary))
    (hBefore : summary.errorsBefore = 0) : summary = .clean := by
  cases h with
  | clean made hClean => rfl
  | started made hErrors hRest =>
    have hCount : summary.errorsBefore = made.errors.length := hRest.schedule.errorsBefore_eq
    exact absurd (List.length_eq_zero_iff.mp (hCount.symm.trans hBefore)) hErrors

/-- The last pass of a resolved run is clean. -/
theorem Course.last_pass_clean {attempts : Nat} {events : List (Event calls)}
    {summary : Summary} (h : Course attempts events (.ok summary))
    (hResolved : summary.fullyResolved = true) :
    ∃ made, (passes events).getLast? = some (.ok made) ∧ made.errors = [] := by
  obtain ⟨last, hLast, -, hEnd⟩ := h.schedule.last_pass
  have hClean : last = .ok 0 := by
    rcases hEnd with ⟨failure, -, -, hResult⟩ | ⟨hClean, -⟩ | ⟨count, -, -, patches, hResult⟩
    · cases hResult
    · exact hClean
    · cases hResult
      cases hResolved
  rw [← List.getLast?_eq_getElem?, tallies_eq_map_passes, List.getLast?_map,
    Option.map_eq_some_iff] at hLast
  obtain ⟨answer, hAnswer, hCount⟩ := hLast
  rw [hClean] at hCount
  cases answer with
  | error failure => cases hCount
  | ok made => exact ⟨made, hAnswer, List.length_eq_zero_iff.mp (Except.ok.inj hCount)⟩

end Repair

namespace Program

open Host Procedure

/-! ## Verdicts -/

section

variable {maxRetries : Nat} {summary : Summary}

theorem judge_eq_notFixed_iff :
    judge maxRetries summary = .failure (.notFixed summary.errorsBefore) ↔
      0 < summary.errorsBefore ∧ summary.filesFixed = [] := by
  unfold judge
  split
  · rename_i h
    simp [h]
  · rename_i h
    have hNot : ¬ (0 < summary.errorsBefore ∧ summary.filesFixed = []) := fun hBoth => h hBoth.symm
    split <;> simp [hNot]

/-- The summary is resolved if there were no errors before. -/
def Coherent (summary : Summary) : Prop :=
  summary.errorsBefore = 0 → summary.fullyResolved = true

theorem judge_eq_success_iff (h : Coherent summary) :
    judge maxRetries summary = .success ↔
      summary.errorsBefore = 0 ∨ summary.fullyResolved = true ∧ summary.filesFixed ≠ [] := by
  unfold judge
  split
  · rename_i hNone
    have hErrors : summary.errorsBefore ≠ 0 := Nat.ne_of_gt hNone.2
    simp [hErrors, hNone.1]
  · rename_i hSome
    cases hResolved : summary.fullyResolved with
    | false =>
      have hErrors : summary.errorsBefore ≠ 0 := fun hZero => by
        rw [h hZero] at hResolved
        cases hResolved
      simp [hErrors]
    | true =>
      rw [not_and_or, Nat.not_lt, Nat.le_zero] at hSome
      simpa using hSome.symm

theorem judge_eq_notResolved_iff (h : Coherent summary) :
    judge maxRetries summary = .failure (.notResolved summary.errorsAfter maxRetries) ↔
      summary.filesFixed ≠ [] ∧ summary.fullyResolved = false := by
  unfold judge
  split
  · rename_i hNone
    simp [hNone.1]
  · rename_i hSome
    cases hResolved : summary.fullyResolved with
    | true => simp
    | false =>
      have hErrors : 0 < summary.errorsBefore := Nat.pos_of_ne_zero fun hZero => by
        rw [h hZero] at hResolved
        cases hResolved
      have hFixed : summary.filesFixed ≠ [] := fun hNil => hSome ⟨hNil, hErrors⟩
      simp [hFixed]

end

/-! ## What a run leaves -/

section

variable {surroundings : Surroundings} {options : CommandLine.Options} {settings : Settings}
  {events : List (Event Host.calls)}

/-- Where files are only looked at, nothing is executed, sent, written or printed. -/
theorem nothing_of_looks (h : ∀ event ∈ events, Looks event.call) :
    executions events = [] ∧ sendings events = [] ∧ fileWrites events = [] ∧
      printings events = [] := by
  simp only [executions, sendings, fileWrites, printings, List.filterMap_eq_nil_iff]
  refine ⟨?_, ?_, ?_, ?_⟩
  all_goals
    rintro ⟨call, answer⟩ hEvent
    have hLooks := h _ hEvent
    cases call with
    | read path => rfl
    | pathExists path => rfl
    | _ => exact hLooks.elim

theorem coherent_of_repair {dryRun : Bool} {summary : Summary}
    (h : (repair settings dryRun).Yields events (.ok summary)) : Coherent summary := by
  obtain ⟨outer, hCourse, -⟩ := yields_repair h
  intro hBefore
  rw [hCourse.clean_of_errorsBefore hBefore]
  rfl

/-- The last execution of a resolved loop printed no error. -/
theorem last_execution_clean {dryRun : Bool} {summary : Summary}
    (h : (repair settings dryRun).Yields events (.ok summary))
    (hResolved : summary.fullyResolved = true) :
    ∃ output, (executions events).getLast? = some (.ok output) ∧
      Diagnostic.parse output.pass.text = [] := by
  obtain ⟨outer, hCourse, hPasses⟩ := yields_repair h
  obtain ⟨made, hLast, hClean⟩ := hCourse.last_pass_clean hResolved
  rw [hPasses, List.getLast?_map, Option.map_eq_some_iff] at hLast
  obtain ⟨answer, hAnswer, hMade⟩ := hLast
  cases answer with
  | error fault => cases hMade
  | ok output =>
    cases hMade
    exact ⟨output, hAnswer, hClean⟩

/-- What follows the loop executes nothing. -/
theorem LoopCourse.executions_eq {summary : Summary}
    (h : LoopCourse surroundings options settings events (.published settings summary)) :
    ∃ loop, (repair settings options.dryRun).Yields loop (.ok summary) ∧
      executions events = executions loop := by
  cases h with
  | reported hLoop hReport =>
    refine ⟨_, hLoop, ?_⟩
    have hEnd : executions (endNotes settings summary) = [] := by
      unfold endNotes
      split <;> rfl
    simp [loopNotes, hReport.executions_eq, hEnd]

end

/-! ## Outcomes -/

/-- There is nothing to complain about: a published summary without errors before, or with all
errors resolved and a file fixed. -/
def Reached.Succeeds : Reached → Prop
  | published _ summary =>
    summary.errorsBefore = 0 ∨ summary.fullyResolved = true ∧ summary.filesFixed ≠ []
  | _ => False

/-- The text of the error output for a failure that says this. -/
def complaint (text : String) : String :=
  "Error: " ++ Text.quoted text ++ "\n"

/-- What the calls of a run and its outcome say about how far it comes. -/
def Reached.Explains (options : CommandLine.Options) (events : List (Event Host.calls))
    (outcome : Outcome) : Reached → Prop
  -- Nothing is executed, sent or written without settings.
  | noSettings fault => outcome = .failure (.settings fault) ∧
    executions events = [] ∧ sendings events = [] ∧ fileWrites events = []
  -- The loop that fails comes last, and nothing is reported.
  | noSummary settings failure => outcome = .failure (.checker failure) ∧
    printings events = [] ∧ ∃ before loop, events = before ++ loop ∧ fileWrites before = [] ∧
      (repair settings options.dryRun).Yields loop (.error failure)
  -- The report that fails is the last file, whatever the summary says.
  | noReport _ _ failure => outcome = .failure (.report failure) ∧
    ∃ path text, (fileWrites events).getLast? = some (path, text, .error failure.cause)
  -- The files that are wanted are the last ones, and a failure says what is wrong.
  | published settings summary =>
    (∃ earlier, fileWrites events = earlier ++
      (options.output.toList.map (·, Report.markdown summary, .ok ()) ++
        options.json.toList.map (·, Report.json summary, .ok ()))) ∧
    (outcome = .failure (.notFixed summary.errorsBefore) ↔
      0 < summary.errorsBefore ∧ summary.filesFixed = []) ∧
    (outcome = .failure (.notResolved summary.errorsAfter settings.maxRetries) ↔
      summary.filesFixed ≠ [] ∧ summary.fullyResolved = false) ∧
    (0 < summary.errorsBefore ∧ summary.filesFixed = [] → outcome.errorText =
      complaint (toString summary.errorsBefore ++ " TypeScript error(s) could not be fixed")) ∧
    (summary.filesFixed ≠ [] ∧ summary.fullyResolved = false → outcome.errorText =
      complaint (toString summary.errorsAfter ++ " TypeScript error(s) remain after " ++
        toString settings.maxRetries ++ " attempts"))

theorem exitCode_eq_zero_iff (outcome : Outcome) : outcome.exitCode = 0 ↔ outcome = .success := by
  cases outcome <;> simp [Outcome.exitCode]

section

variable {surroundings : Surroundings} {options : CommandLine.Options}
  {events : List (Event Host.calls)} {reached : Reached}

theorem Course.succeeds_iff (h : Course surroundings options events reached) :
    reached.outcome = .success ↔ reached.Succeeds := by
  cases h with
  | notSettled hSettled => simp [Reached.outcome, Reached.Succeeds]
  | settled hSettled hRest =>
    cases hRest with
    | failed hLoop => simp [Reached.outcome, Reached.Succeeds]
    | notReported hLoop hReport => simp [Reached.outcome, Reached.Succeeds]
    | reported hLoop hReport => exact judge_eq_success_iff (coherent_of_repair hLoop)

/-- A success has resolved everything. -/
theorem Course.last_execution_clean (h : Course surroundings options events reached)
    (hSuccess : reached.Succeeds) :
    ∃ output, (executions events).getLast? = some (.ok output) ∧
      Diagnostic.parse output.pass.text = [] := by
  cases h with
  | notSettled hSettled => exact hSuccess.elim
  | settled hSettled hRest =>
    obtain ⟨hLoading, -⟩ := nothing_of_looks (looks_of_settled hSettled)
    rw [executions_noted, executions_append, hLoading, List.nil_append]
    cases hRest with
    | failed hLoop => exact hSuccess.elim
    | notReported hLoop hReport => exact hSuccess.elim
    | reported hLoop hReport =>
      obtain ⟨loop, hYields, hExecutions⟩ := (LoopCourse.reported hLoop hReport).executions_eq
      rw [hExecutions]
      refine Program.last_execution_clean hYields ?_
      rcases hSuccess with hBefore | ⟨hResolved, -⟩
      · exact coherent_of_repair hLoop hBefore
      · exact hResolved

theorem fileWrites_endNotes (settings : Settings) (summary : Summary) :
    fileWrites (endNotes settings summary) = [] := by
  unfold endNotes
  split <;> rfl

theorem Course.explains (h : Course surroundings options events reached) :
    reached.Explains options events reached.outcome := by
  cases h with
  | notSettled hSettled =>
    obtain ⟨hExecutions, hSendings, hWrites, -⟩ := nothing_of_looks (looks_of_settled hSettled)
    exact ⟨rfl, hExecutions, hSendings, hWrites⟩
  | @settled loading _ settings _ hSettled hRest =>
    obtain ⟨-, -, hWrites, hPrintings⟩ := nothing_of_looks (looks_of_settled hSettled)
    cases hRest with
    | @failed loop failure hLoop =>
      refine ⟨rfl, ?_,
        noted .configurationLoading :: (loading ++ loopNotes settings options.dryRun), loop, ?_, ?_,
        hLoop⟩
      · simp [hPrintings, loopNotes, printings_of_repair hLoop]
      · simp
      · simp [hWrites, loopNotes]
    | notReported hLoop hReport =>
      obtain ⟨path, text, hLast⟩ := hReport.last_write
      refine ⟨rfl, path, text, ?_⟩
      simp only [fileWrites_noted, fileWrites_append, List.getLast?_append, hLast, Option.some_or]
    | @reported loop reporting summary hLoop hReport =>
      refine ⟨⟨fileWrites loop, ?_⟩, judge_eq_notFixed_iff,
        judge_eq_notResolved_iff (coherent_of_repair hLoop), fun hNone => ?_, fun hLeft => ?_⟩
      · simp only [fileWrites_noted, fileWrites_append, hWrites, hReport.fileWrites_eq,
          fileWrites_endNotes, loopNotes, List.nil_append, List.append_nil]
        rfl
      · rw [show (Reached.published settings summary).outcome = _ from
          judge_eq_notFixed_iff.mpr hNone]
        rfl
      · rw [show (Reached.published settings summary).outcome = _ from
          (judge_eq_notResolved_iff (coherent_of_repair hLoop)).mpr hLeft]
        rfl

end

/-- A run with options that the command line accepts succeeds exactly if it comes to a published
summary with no errors before, or with all errors resolved and a file fixed; and then the last
execution of the checker printed no error. How far it comes explains its calls and its outcome. -/
theorem exit_status {σ : Type} (handler : Handler Host.calls σ) (surroundings : Surroundings)
    {arguments : List String} {options : CommandLine.Options}
    (hAccepted : CommandLine.parse arguments = .ok options) (state : σ) :
    let run := (Program.run surroundings arguments).run handler state
    ∃ reached, Course surroundings options run.events reached ∧
      (run.result.exitCode = 0 ↔ reached.Succeeds) ∧
      (run.result.exitCode = 0 → ∃ output,
        (executions run.events).getLast? = some (.ok output) ∧
          Diagnostic.parse output.pass.text = []) ∧
      reached.Explains options run.events run.result := by
  intro run
  have hRun : Program.run surroundings arguments = runOptions surroundings options := by
    simp only [Program.run, hAccepted]
  have hPath := yields_run handler (Program.run surroundings arguments) state
  rw [hRun] at hPath
  obtain ⟨reached, hCourse, hOutcome⟩ := yields_runOptions hPath
  have hSame : run = (runOptions surroundings options).run handler state := by rw [← hRun]
  rw [exitCode_eq_zero_iff, hSame, hOutcome, hCourse.succeeds_iff]
  exact ⟨reached, hCourse, Iff.rfl, hCourse.last_execution_clean, hCourse.explains⟩

-- A key in the environment, and a file whose one error the only reply mends.
def keyed : Surroundings where
  environment name := if name = "ANTHROPIC_API_KEY" then some "k" else none
  isTerminal := false

def oneError : Checker.Output := ⟨Text.encode "a.ts(1,1): error TS1: x\n", [], some 2⟩

def mendable : Machine Script where
  disk := ⟨[(["w"], .directory), (["w", "a.ts"], .file (Text.encode "a\nb"))], ["w"]⟩
  outside :=
    { checker := ⟨true, [oneError, oneError, ⟨[], [], some 0⟩], []⟩
      network := ⟨true, [.answered (.ofText 200
        "\x7b\"content\":[[\"text\",\"```\\na\\nc\\n```\"]]\x7d")], []⟩ }
  printed := ""

theorem mendable_exit_status :
    let arguments := ["--json", "r.json"]
    let options := { CommandLine.Options.none with json := some "r.json" }
    let run := (Program.run keyed arguments).run scripted.handler mendable
    CommandLine.parse arguments = .ok options ∧ run.result.exitCode = 0 ∧
      ∃ reached, Course keyed options run.events reached ∧ reached.Succeeds ∧
        reached.Explains options run.events run.result ∧
        ∃ output, (executions run.events).getLast? = some (.ok output) ∧
          Diagnostic.parse output.pass.text = [] := by
  intro arguments options run
  have hAccepted : CommandLine.parse arguments = .ok options := by decide +kernel
  have hCode : run.result.exitCode = 0 := by decide +kernel
  obtain ⟨reached, hCourse, hSucceeds, hLast, hExplains⟩ :=
    exit_status scripted.handler keyed hAccepted mendable
  exact ⟨hAccepted, hCode, reached, hCourse, hSucceeds.mp hCode, hExplains, hLast hCode⟩

end Program

end TypeRepair
