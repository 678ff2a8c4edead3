import TypeRepair.Proofs.Host.Trace
import TypeRepair.Report.Publish

/-!
# How a summary is published

* `yields_publish`: the terminal text is printed once and first, and then the wanted files are
  written up to the first that fails.
-/

namespace TypeRepair.Report

open Host Procedure

/-- The events of a report file that is written, if it is wanted. -/
def wrote (note : String → Note) (text : String) : Option String → List (Event Host.calls)
  | none => []
  | some path => [noted (note path), ⟨.write path text, .ok ()⟩]

/-- The events before any file is written. -/
def opening (colored : Bool) (targets : Targets) (summary : Summary) : List (Event Host.calls) :=
  [noted (.reportBegins summary.verdict targets.markdown targets.json), noted .reportToTerminal,
    ⟨.print (terminal colored summary), ()⟩]

/-- How publishing a summary goes. -/
inductive Published (colored : Bool) (targets : Targets) (summary : Summary) :
    List (Event Host.calls) → Except Failure Unit → Prop
  | markdownFailed (path : String) (fault : SystemFault) (hWanted : targets.markdown = some path) :
    Published colored targets summary
      (opening colored targets summary ++
        [noted (.reportToMarkdown path), ⟨.write path (markdown summary), .error fault⟩])
      (.error ⟨fault⟩)
  | jsonFailed (path : String) (fault : SystemFault) (hWanted : targets.json = some path) :
    Published colored targets summary
      (opening colored targets summary ++
        (wrote .reportToMarkdown (markdown summary) targets.markdown ++
          [noted (.reportToJson path), ⟨.write path (json summary), .error fault⟩]))
      (.error ⟨fault⟩)
  | all :
    Published colored targets summary
      (opening colored targets summary ++
        (wrote .reportToMarkdown (markdown summary) targets.markdown ++
          wrote .reportToJson (json summary) targets.json)) (.ok ())

theorem yields_writeFile {note : String → Note} {text : String} {target : Option String}
    {events : List (Event Host.calls)} {result : Except Failure Unit}
    (h : (writeFile note text target).Yields events result) :
    (∃ path fault, target = some path ∧ result = .error ⟨fault⟩ ∧
      events = [noted (note path), ⟨.write path text, .error fault⟩]) ∨
    (result = .ok () ∧ events = wrote note text target) := by
  cases target with
  | none =>
    obtain ⟨rfl, rfl⟩ := h
    exact .inr ⟨rfl, rfl⟩
  | some path =>
    obtain ⟨_, _, rfl, answer, _, rfl, hEnd⟩ := h
    cases answer with
    | error fault =>
      obtain ⟨rfl, rfl⟩ := hEnd
      exact .inl ⟨path, fault, rfl, rfl, rfl⟩
    | ok _ =>
      obtain ⟨rfl, rfl⟩ := hEnd
      exact .inr ⟨rfl, rfl⟩

theorem yields_publish {colored : Bool} {targets : Targets} {summary : Summary}
    {events : List (Event Host.calls)} {result : Except Failure Unit}
    (h : (publish colored targets summary).Yields events result) :
    Published colored targets summary events result := by
  obtain ⟨_, _, rfl, hTerminal⟩ := yields_call h
  obtain ⟨_, _, rfl, hPrint⟩ := yields_call hTerminal
  obtain ⟨_, _, rfl, hFiles⟩ := yields_call hPrint
  obtain ⟨first, written, second, rfl, hFirst, hSecond⟩ := yields_bind.mp hFiles
  rcases yields_writeFile hFirst with ⟨path, fault, hWanted, rfl, rfl⟩ | ⟨rfl, rfl⟩
  · obtain ⟨rfl, rfl⟩ := hSecond
    exact .markdownFailed path fault hWanted
  · rcases yields_writeFile hSecond with ⟨path, fault, hWanted, rfl, rfl⟩ | ⟨rfl, rfl⟩
    · exact .jsonFailed path fault hWanted
    · exact .all

section

variable {colored : Bool} {targets : Targets} {summary : Summary}
  {events : List (Event Host.calls)} {result : Except Failure Unit}

theorem executions_wrote (note : String → Note) (text : String) (target : Option String) :
    executions (wrote note text target) = [] := by
  cases target <;> rfl

theorem fileWrites_wrote (note : String → Note) (text : String) (target : Option String) :
    fileWrites (wrote note text target) = target.toList.map (·, text, .ok ()) := by
  cases target <;> rfl

theorem Published.executions_eq (h : Published colored targets summary events result) :
    executions events = [] := by
  cases h <;> simp only [executions_append, executions_wrote] <;> rfl

/-- Without a failure all files that are wanted are written. -/
theorem Published.fileWrites_eq (h : Published colored targets summary events (.ok ())) :
    fileWrites events = targets.markdown.toList.map (·, markdown summary, .ok ()) ++
      targets.json.toList.map (·, json summary, .ok ()) := by
  cases h with
  | all =>
    simp only [fileWrites_append, fileWrites_wrote]
    rfl

/-- A failure is that of the last file. -/
theorem Published.last_write {failure : Failure}
    (h : Published colored targets summary events (.error failure)) :
    ∃ path text, (fileWrites events).getLast? = some (path, text, .error failure.cause) := by
  cases h with
  | markdownFailed path fault hWanted =>
    refine ⟨path, markdown summary, ?_⟩
    rw [fileWrites_append]
    exact List.getLast?_concat
  | jsonFailed path fault hWanted =>
    refine ⟨path, json summary, ?_⟩
    rw [fileWrites_append, fileWrites_append, ← List.append_assoc]
    exact List.getLast?_concat

end

end TypeRepair.Report
