import TypeRepair.Program.Basic
import TypeRepair.Proofs.Procedure.Expression
import TypeRepair.Proofs.Repair.Stage
import TypeRepair.Proofs.Report.Publication

/-!
# The courses of the program

How far a run with options comes: to settings, to a summary of the loop, and to a published report.
The parts of a run stand one after the other among its events, and nothing follows a part that
fails.

* `yields_runOptions`: every run takes one of the courses.
* `looks_of_settled`: until there are settings, files are only looked at.
* `yields_repair`: the loop on the host is a course of the loop with the passes that were executed.
-/

namespace TypeRepair.Program

open Host Procedure

/-! ## Settings -/

/-- How settings are found: what loading the configuration comes to, and then resolving it. -/
inductive Settled (surroundings : Surroundings) (options : CommandLine.Options) :
    List (Event Host.calls) → Except Settings.Fault Settings → Prop
  | notLoaded {events : List (Event Host.calls)} {fault : Settings.Fault}
    (h : (Settings.load surroundings.environment).Yields events (.error fault)) :
    Settled surroundings options events (.error fault)
  | loaded {events : List (Event Host.calls)} {configuration : Configuration}
    (h : (Settings.load surroundings.environment).Yields events (.ok configuration)) :
    Settled surroundings options events (Settings.resolve configuration options.overrides)

/-- The call looks at a file. -/
def Looks : Call → Prop
  | .read _ | .pathExists _ => True
  | _ => False

/-- The call looks at this file. -/
def LooksAt (path : String) : Call → Prop
  | .read other | .pathExists other => other = path
  | _ => False

theorem LooksAt.looks {path : String} {call : Call} (h : LooksAt path call) : Looks call := by
  cases call <;> trivial

theorem readText_within (path : String) : (readText path).Within (LooksAt path) := by
  refine ⟨rfl, fun answer => ?_⟩
  cases answer with
  | error fault => trivial
  | ok bytes =>
    dsimp only [done_bind]
    split <;> trivial

theorem load_within (environment : String → Option String) :
    (Settings.load environment).Within (LooksAt Settings.configurationFile) := by
  refine ⟨rfl, fun found => ?_⟩
  dsimp only [done_bind]
  split
  · refine within_bind (readText_within _) fun events text _ => ?_
    cases text with
    | error fault => trivial
    | ok text =>
      dsimp only
      split <;> trivial
  · trivial

theorem looks_of_settled {surroundings : Surroundings} {options : CommandLine.Options}
    {events : List (Event Host.calls)} {result : Except Settings.Fault Settings}
    (h : Settled surroundings options events result) : ∀ event ∈ events, Looks event.call := by
  cases h with
  | notLoaded h => exact fun event hEvent => ((load_within _).of_mem h event hEvent).looks
  | loaded h => exact fun event hEvent => ((load_within _).of_mem h event hEvent).looks

/-! ## The loop on the host -/

/-- The call on the host may serve the call of the loop. -/
def Serves : Repair.Call → Call → Prop
  | .check, .execute _ _ | .read _, .read _ | .generate _, .send _ | .write _ _, .write _ _ => True
  | .check, .note _ | .generate _, .note _ | .write _ _, .note _ | .note _, .note _ => True
  | _, _ => False

theorem meaning_within (project : String) (client : Client) (store : Store) (call : Repair.Call) :
    (meaning project client store call).Within (Serves call) := by
  cases call with
  | check =>
    refine ⟨trivial, fun _ => ⟨trivial, fun answer => ?_⟩⟩
    cases answer with
    | error fault => trivial
    | ok output => exact ⟨trivial, fun _ => trivial⟩
  | read file =>
    refine ⟨trivial, fun answer => ?_⟩
    cases answer with
    | error fault => trivial
    | ok bytes =>
      dsimp only [done_bind]
      split <;> trivial
  | generate instruction =>
    refine ⟨trivial, fun _ => ⟨trivial, fun _ => ?_⟩⟩
    dsimp only [done_bind]
    split
    · refine ⟨trivial, fun delivery => ?_⟩
      dsimp only [done_bind]
      split
      · trivial
      · exact ⟨trivial, fun _ => trivial⟩
    · trivial
  | write file body =>
    unfold meaning Store.write
    dsimp only
    split
    · exact ⟨trivial, fun _ => trivial⟩
    · exact ⟨trivial, fun _ => trivial⟩
  | note n => exact ⟨trivial, fun _ => trivial⟩

/-- The pass that an execution of the checker comes to. -/
def passOf : Except SystemFault Checker.Output → Except Checker.Failure Checker.Pass
  | .error fault => .error ⟨fault⟩
  | .ok output => .ok output.pass

theorem executions_eq_nil {events : List (Event Host.calls)} {call : Repair.Call}
    (hCall : call ≠ .check) (h : ∀ event ∈ events, Serves call event.call) :
    executions events = [] := by
  rw [executions, List.filterMap_eq_nil_iff]
  rintro ⟨hostCall, answer⟩ hEvent
  have hServes := h _ hEvent
  cases hostCall with
  | execute program arguments =>
    cases call with
    | check => exact absurd rfl hCall
    | _ => exact hServes.elim
  | _ => rfl

/-- One call of the loop is a pass exactly if the checker is executed for it. -/
theorem executions_of_meaning {project : String} {client : Client} {store : Store}
    {call : Repair.Call} {answer : call.Answer} {part : List (Event Host.calls)}
    (h : (meaning project client store call).Yields part answer) :
    Repair.passes [⟨call, answer⟩] = (executions part).map passOf := by
  have hServes := (meaning_within project client store call).of_mem h
  cases call with
  | check =>
    obtain ⟨_, _, rfl, hExecute⟩ := yields_call h
    obtain ⟨output, _, rfl, hEnd⟩ := yields_call hExecute
    cases output with
    | error fault =>
      obtain ⟨rfl, rfl⟩ := hEnd
      rfl
    | ok output =>
      obtain ⟨_, _, rfl, rfl, rfl⟩ := yields_call hEnd
      rfl
  | _ =>
    rw [executions_eq_nil (by simp) hServes]
    rfl

theorem passes_of_expressed {project : String} {client : Client} {store : Store}
    {outer : List (Event Repair.calls)} {events : List (Event Host.calls)}
    (h : Expressed (meaning project client store) outer events) :
    Repair.passes outer = (executions events).map passOf := by
  induction h with
  | nil => rfl
  | @cons call answer outer part later head tail ih =>
    have hHead := executions_of_meaning head
    rw [executions_append, List.map_append, ← hHead, ← ih]
    exact Repair.passes_append [⟨call, answer⟩] outer

/-- The loop on the host takes a course of the loop, with the passes that were executed. -/
theorem yields_repair {settings : Settings} {dryRun : Bool} {events : List (Event Host.calls)}
    {result : Except Checker.Failure Summary}
    (h : (repair settings dryRun).Yields events result) :
    ∃ outer, Repair.Course settings.maxRetries outer result ∧
      Repair.passes outer = (executions events).map passOf := by
  obtain ⟨outer, hOuter, hExpressed⟩ := yields_via h
  exact ⟨outer, Repair.yields_run_loop hOuter, passes_of_expressed hExpressed⟩

/-- The loop prints nothing. -/
theorem printings_of_repair {settings : Settings} {dryRun : Bool}
    {events : List (Event Host.calls)} {result : Except Checker.Failure Summary}
    (h : (repair settings dryRun).Yields events result) : printings events = [] := by
  have hWithin : (repair settings dryRun).Within fun call => ∃ outer, Serves outer call :=
    within_via (fun call => (meaning_within _ _ _ call).mono fun _ hServes => ⟨call, hServes⟩) _
  rw [printings, List.filterMap_eq_nil_iff]
  rintro ⟨hostCall, answer⟩ hEvent
  obtain ⟨outer, hServes⟩ := hWithin.of_mem h _ hEvent
  cases hostCall with
  | print text => cases outer <;> exact hServes.elim
  | _ => rfl

/-! ## Courses -/

/-- How far a run comes. -/
inductive Reached
  /-- There are no settings. -/
  | noSettings (fault : Settings.Fault)
  /-- The loop fails. -/
  | noSummary (settings : Settings) (failure : Checker.Failure)
  /-- A report file cannot be written. -/
  | noReport (settings : Settings) (summary : Summary) (failure : Report.Failure)
  /-- The terminal has the report, and so has every file that is wanted. -/
  | published (settings : Settings) (summary : Summary)

/-- The outcome of a run that comes so far. -/
def Reached.outcome : Reached → Outcome
  | noSettings fault => .failure (.settings fault)
  | noSummary _ failure => .failure (.checker failure)
  | noReport _ _ failure => .failure (.report failure)
  | published settings summary => judge settings.maxRetries summary

/-- The notes before the loop. -/
def loopNotes (settings : Settings) (dryRun : Bool) : List (Event Host.calls) :=
  [noted (.settingsResolved settings.inFull), noted (.loopRunning settings.maxRetries),
    noted (.loopBegins settings.provider settings.tsconfigPath dryRun)]

/-- The note before the report. -/
abbrev reportNote (summary : Summary) : Event Host.calls :=
  noted (.loopFinished summary.errorsBefore summary.errorsAfter summary.filesFixed.length)

/-- The note at the end, which only a success leaves. -/
def endNotes (settings : Settings) (summary : Summary) : List (Event Host.calls) :=
  if judge settings.maxRetries summary = .success then [noted (.finished summary.verdict)] else []

/-- How a run with settings goes. -/
inductive LoopCourse (surroundings : Surroundings) (options : CommandLine.Options)
    (settings : Settings) : List (Event Host.calls) → Reached → Prop
  | failed {loop : List (Event Host.calls)} {failure : Checker.Failure}
    (hLoop : (repair settings options.dryRun).Yields loop (.error failure)) :
    LoopCourse surroundings options settings (loopNotes settings options.dryRun ++ loop)
      (.noSummary settings failure)
  | notReported {loop reporting : List (Event Host.calls)} {summary : Summary}
    {failure : Report.Failure}
    (hLoop : (repair settings options.dryRun).Yields loop (.ok summary))
    (hReport : Report.Published surroundings.wantsColor options.targets summary reporting
      (.error failure)) :
    LoopCourse surroundings options settings
      (loopNotes settings options.dryRun ++ (loop ++ reportNote summary :: reporting))
      (.noReport settings summary failure)
  | reported {loop reporting : List (Event Host.calls)} {summary : Summary}
    (hLoop : (repair settings options.dryRun).Yields loop (.ok summary))
    (hReport : Report.Published surroundings.wantsColor options.targets summary reporting
      (.ok ())) :
    LoopCourse surroundings options settings
      (loopNotes settings options.dryRun ++
        (loop ++ reportNote summary :: (reporting ++ endNotes settings summary)))
      (.published settings summary)

/-- How a run with options goes. -/
inductive Course (surroundings : Surroundings) (options : CommandLine.Options) :
    List (Event Host.calls) → Reached → Prop
  | notSettled {loading : List (Event Host.calls)} {fault : Settings.Fault}
    (h : Settled surroundings options loading (.error fault)) :
    Course surroundings options (noted .configurationLoading :: loading) (.noSettings fault)
  | settled {loading rest : List (Event Host.calls)} {settings : Settings} {reached : Reached}
    (h : Settled surroundings options loading (.ok settings))
    (hRest : LoopCourse surroundings options settings rest reached) :
    Course surroundings options (noted .configurationLoading :: (loading ++ rest)) reached

theorem yields_runWith {surroundings : Surroundings} {options : CommandLine.Options}
    {settings : Settings} {events : List (Event Host.calls)} {outcome : Outcome}
    (h : (runWith surroundings options settings).Yields events outcome) :
    ∃ reached, LoopCourse surroundings options settings events reached ∧
      outcome = reached.outcome := by
  obtain ⟨_, _, rfl, hRunning⟩ := yields_call h
  obtain ⟨_, _, rfl, hBegins⟩ := yields_call hRunning
  obtain ⟨_, _, rfl, hSummary⟩ := yields_call hBegins
  obtain ⟨loop, result, rest, rfl, hLoop, hRest⟩ := yields_bind.mp hSummary
  cases result with
  | error failure =>
    obtain ⟨rfl, rfl⟩ := hRest
    rw [List.append_nil]
    exact ⟨_, .failed hLoop, rfl⟩
  | ok summary =>
    obtain ⟨_, _, rfl, hReport⟩ := yields_call hRest
    obtain ⟨reporting, published, ending, rfl, hPublish, hEnd⟩ := yields_bind.mp hReport
    have hPublished := Report.yields_publish hPublish
    cases published with
    | error failure =>
      obtain ⟨rfl, rfl⟩ := hEnd
      rw [List.append_nil]
      exact ⟨_, .notReported hLoop hPublished, rfl⟩
    | ok _ =>
      have hEnding : ending = endNotes settings summary ∧
          outcome = judge settings.maxRetries summary := by
        unfold endNotes
        dsimp only at hEnd
        split at hEnd
        · rename_i hSuccess
          obtain ⟨_, _, rfl, rfl, rfl⟩ := yields_call hEnd
          rw [if_pos hSuccess]
          exact ⟨rfl, rfl⟩
        · rename_i hFailure
          obtain ⟨rfl, rfl⟩ := hEnd
          rw [if_neg hFailure]
          exact ⟨rfl, rfl⟩
      obtain ⟨rfl, rfl⟩ := hEnding
      exact ⟨_, .reported hLoop hPublished, rfl⟩

theorem yields_runOptions {surroundings : Surroundings} {options : CommandLine.Options}
    {events : List (Event Host.calls)} {outcome : Outcome}
    (h : (runOptions surroundings options).Yields events outcome) :
    ∃ reached, Course surroundings options events reached ∧ outcome = reached.outcome := by
  obtain ⟨_, _, rfl, hLoad⟩ := yields_call h
  obtain ⟨loading, configuration, rest, rfl, hLoading, hRest⟩ := yields_bind.mp hLoad
  cases configuration with
  | error fault =>
    obtain ⟨rfl, rfl⟩ := hRest
    rw [List.append_nil]
    exact ⟨_, .notSettled (.notLoaded hLoading), rfl⟩
  | ok configuration =>
    have hSettled : Settled surroundings options loading _ := .loaded hLoading
    dsimp only at hRest
    split at hRest
    · rename_i fault hResolve
      rw [hResolve] at hSettled
      obtain ⟨rfl, rfl⟩ := hRest
      rw [List.append_nil]
      exact ⟨_, .notSettled hSettled, rfl⟩
    · rename_i settings hResolve
      rw [hResolve] at hSettled
      obtain ⟨reached, hLoop, hOutcome⟩ := yields_runWith hRest
      exact ⟨reached, .settled hSettled hLoop, hOutcome⟩

end TypeRepair.Program
