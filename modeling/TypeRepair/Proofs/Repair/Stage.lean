import TypeRepair.Proofs.Diagnostic.Grouping
import TypeRepair.Proofs.Repair.Course

/-!
# Stages of a run

What is read off the events of a run: the calls of each kind with their answers, and the stages,
each a pass of the checker with all that follows it up to the next pass. Pass `2 * k` is the one
that opens attempt `k`, so the attempts are the stages at odd places.

* `flatMap_stages`: the stages of events that begin with a pass leave nothing out.
* `stages_append`: events without a pass belong to the stage before them.
* `stage_of_event`: where an event of a run lies.
-/

namespace TypeRepair.Repair

open Diagnostic

/-! ## Calls by kind -/

/-- The passes among events, each with what came of it. -/
def passes (events : List (Event calls)) : List (Except Checker.Failure Checker.Pass) :=
  events.filterMap fun
    | ⟨.check, answer⟩ => some answer
    | _ => none

/-- The readings among events, each with the file and what came of it. -/
def readings (events : List (Event calls)) : List (String × Except SystemFault String) :=
  events.filterMap fun
    | ⟨.read file, answer⟩ => some (file, answer)
    | _ => none

/-- The requests among events, each with the instruction and what came of it. -/
def requests (events : List (Event calls)) : List (String × Except GenerationFault Generated) :=
  events.filterMap fun
    | ⟨.generate instruction, answer⟩ => some (instruction, answer)
    | _ => none

/-- The attempted writes among events, each with the file and the body. -/
def writes (events : List (Event calls)) : List (String × String) :=
  events.filterMap fun
    | ⟨.write file body, _⟩ => some (file, body)
    | _ => none

/-- No file is read or written, and nothing is generated. -/
def Idle (events : List (Event calls)) : Prop :=
  readings events = [] ∧ requests events = [] ∧ writes events = []

/-- The event is a pass of the checker. -/
def isPass : Event calls → Bool
  | ⟨.check, _⟩ => true
  | _ => false

/-- The event is a reading of a file. -/
def isReading : Event calls → Bool
  | ⟨.read _, _⟩ => true
  | _ => false

/-- The event is a reading of this file. -/
def isReadingOf (file : String) : Event calls → Bool
  | ⟨.read other, _⟩ => other = file
  | _ => false

/-- The events about a file: its first reading, and what follows up to the next reading. -/
def about (file : String) (events : List (Event calls)) : List (Event calls) :=
  match events.dropWhile (!isReadingOf file ·) with
  | [] => []
  | reading :: rest => reading :: rest.takeWhile (!isReading ·)

section Kinds

variable (first second : List (Event calls)) (n : Note) (file body : String)
  (answer : Except SystemFault Unit)

@[simp] theorem readings_nil : readings [] = [] := rfl

@[simp] theorem requests_nil : requests [] = [] := rfl

@[simp] theorem writes_nil : writes [] = [] := rfl

@[simp] theorem passes_append : passes (first ++ second) = passes first ++ passes second :=
  List.filterMap_append

@[simp] theorem readings_append :
    readings (first ++ second) = readings first ++ readings second :=
  List.filterMap_append

@[simp] theorem requests_append :
    requests (first ++ second) = requests first ++ requests second :=
  List.filterMap_append

@[simp] theorem writes_append : writes (first ++ second) = writes first ++ writes second :=
  List.filterMap_append

@[simp] theorem readings_noted : readings (noted n :: first) = readings first := rfl

@[simp] theorem requests_noted : requests (noted n :: first) = requests first := rfl

@[simp] theorem writes_noted : writes (noted n :: first) = writes first := rfl

@[simp] theorem readings_write :
    readings (⟨.write file body, answer⟩ :: first) = readings first := rfl

@[simp] theorem requests_write :
    requests (⟨.write file body, answer⟩ :: first) = requests first := rfl

@[simp] theorem writes_write :
    writes (⟨.write file body, answer⟩ :: first) = (file, body) :: writes first := rfl

end Kinds

theorem readings_eq_nil_iff {events : List (Event calls)} :
    readings events = [] ↔ ∀ event ∈ events, isReading event = false := by
  rw [readings, List.filterMap_eq_nil_iff]
  refine forall₂_congr fun ⟨call, answer⟩ _ => ?_
  cases call <;> simp [isReading]

/-- A file is read among events if one of them is a reading of it. -/
theorem mem_readings_iff {file : String} {events : List (Event calls)} :
    file ∈ (readings events).map Prod.fst ↔ ∃ event ∈ events, isReadingOf file event = true := by
  simp only [readings, List.mem_map, List.mem_filterMap]
  constructor
  · rintro ⟨_, ⟨⟨call, answer⟩, hEvent, hReading⟩, rfl⟩
    cases call with
    | read other =>
      cases hReading
      exact ⟨_, hEvent, by simp [isReadingOf]⟩
    | _ => cases hReading
  · rintro ⟨⟨call, answer⟩, hEvent, hReading⟩
    cases call with
    | read other =>
      have hFile : other = file := by simpa [isReadingOf] using hReading
      subst hFile
      exact ⟨(other, answer), ⟨_, hEvent, rfl⟩, rfl⟩
    | _ => cases hReading

theorem filter_readings_eq_nil {file : String} {events : List (Event calls)}
    (h : file ∉ (readings events).map Prod.fst) :
    (readings events).filter (·.1 = file) = [] := by
  rw [List.filter_eq_nil_iff]
  intro reading hReading hFile
  exact h (List.mem_map.mpr ⟨reading, hReading, by simpa using hFile⟩)

/-- Events that do not read a file have nothing to do with what follows about it. -/
theorem about_append {file : String} {first : List (Event calls)}
    (h : file ∉ (readings first).map Prod.fst) (second : List (Event calls)) :
    about file (first ++ second) = about file second := by
  rw [mem_readings_iff] at h
  unfold about
  rw [List.dropWhile_append_of_pos]
  intro event hEvent
  cases hReading : isReadingOf file event with
  | false => rfl
  | true => exact absurd ⟨event, hEvent, hReading⟩ h

/-! ## Stages -/

/-- A pass of the checker, and the events up to the next pass. -/
structure Stage where
  answer : Except Checker.Failure Checker.Pass
  events : List (Event calls)

/-- The pass and the events after it. -/
def Stage.all (stage : Stage) : List (Event calls) :=
  ⟨.check, stage.answer⟩ :: stage.events

/-- What comes before the first pass. -/
def lead (events : List (Event calls)) : List (Event calls) :=
  events.takeWhile (!isPass ·)

/-- The stages of a run. -/
def stages : List (Event calls) → List Stage
  | [] => []
  | ⟨.check, answer⟩ :: rest => ⟨answer, lead rest⟩ :: stages rest
  | _ :: rest => stages rest

/-- Events among which there is no pass. -/
def Quiet (events : List (Event calls)) : Prop :=
  ∀ event ∈ events, isPass event = false

@[simp] theorem stages_nil : stages [] = [] := rfl

@[simp] theorem stages_check (answer : Except Checker.Failure Checker.Pass)
    (rest : List (Event calls)) :
    stages (⟨.check, answer⟩ :: rest) = ⟨answer, lead rest⟩ :: stages rest := rfl

@[simp] theorem stages_noted (n : Note) (rest : List (Event calls)) :
    stages (noted n :: rest) = stages rest := rfl

@[simp] theorem lead_nil : lead [] = [] := rfl

@[simp] theorem lead_check (answer : Except Checker.Failure Checker.Pass)
    (rest : List (Event calls)) : lead (⟨.check, answer⟩ :: rest) = [] := rfl

theorem stages_cons_quiet {event : Event calls} (h : isPass event = false)
    (rest : List (Event calls)) : stages (event :: rest) = stages rest := by
  obtain ⟨call, answer⟩ := event
  cases call with
  | check => cases h
  | _ => rfl

theorem stages_append {quiet : List (Event calls)} (h : Quiet quiet) (rest : List (Event calls)) :
    stages (quiet ++ rest) = stages rest := by
  induction quiet with
  | nil => rfl
  | cons event quiet ih =>
    rw [List.cons_append, stages_cons_quiet (h event List.mem_cons_self)]
    exact ih fun e he => h e (List.mem_cons_of_mem _ he)

theorem lead_append {quiet : List (Event calls)} (h : Quiet quiet) (rest : List (Event calls)) :
    lead (quiet ++ rest) = quiet ++ lead rest :=
  List.takeWhile_append_of_pos fun event hEvent => by simp [h event hEvent]

/-- After the request of a file at most one write of that file follows. -/
theorem Exchange.request_first {group : FileErrors} {events : List (Event calls)}
    {patch : Option Patch} (h : Exchange group events patch) :
    ∃ first result last, Asked group first result ∧ events = first ++ last ∧ Quiet last ∧
      readings last = [] ∧ requests last = [] ∧
      ((writes last).map Prod.fst).Sublist [group.file] := by
  cases h with
  | skipped skip h => exact ⟨_, _, _, h, rfl, by simp [Quiet, isPass], rfl, rfl, by simp⟩
  | notWritten patch fault h =>
    exact ⟨_, _, _, h, rfl, by simp [Quiet, isPass], rfl, rfl, by simp [h.patch_file]⟩
  | written patch h =>
    exact ⟨_, _, _, h, rfl, by simp [Quiet, isPass], rfl, rfl, by simp [h.patch_file]⟩

/-- A file is read first, and then nothing more is read. -/
theorem Exchange.reading_first {group : FileErrors} {events : List (Event calls)}
    {patch : Option Patch} (h : Exchange group events patch) :
    ∃ answer rest, events = ⟨.read group.file, answer⟩ :: rest ∧
      ∀ event ∈ rest, isReading event = false := by
  obtain ⟨first, result, last, hAsked, rfl, -, hLast, -⟩ := h.request_first
  have hFirst : ∃ answer rest, first = ⟨.read group.file, answer⟩ :: rest ∧
      ∀ event ∈ rest, isReading event = false := by
    cases hAsked <;> exact ⟨_, _, rfl, by simp [isReading]⟩
  obtain ⟨answer, rest, rfl, hRest⟩ := hFirst
  refine ⟨answer, rest ++ last, rfl, ?_⟩
  rw [List.forall_mem_append]
  exact ⟨hRest, readings_eq_nil_iff.mp hLast⟩

theorem Exchange.quiet {group : FileErrors} {events : List (Event calls)} {patch : Option Patch}
    (h : Exchange group events patch) : Quiet events := by
  obtain ⟨first, result, last, hAsked, rfl, hLast, -⟩ := h.request_first
  unfold Quiet
  rw [List.forall_mem_append]
  refine ⟨?_, hLast⟩
  cases hAsked <;> simp [isPass]

theorem Exchanges.quiet {groups : List FileErrors} {events : List (Event calls)}
    {patches : List Patch} (h : Exchanges groups events patches) : Quiet events := by
  induction h with
  | nil => exact fun _ h => absurd h List.not_mem_nil
  | cons head tail ih => exact List.forall_mem_append.mpr ⟨head.quiet, ih⟩

theorem map_answer_stages (events : List (Event calls)) :
    (stages events).map Stage.answer = passes events := by
  induction events with
  | nil => rfl
  | cons event events ih =>
    obtain ⟨call, answer⟩ := event
    cases call with
    | check => exact congrArg _ ih
    | _ => exact ih

/-- Nothing is left out: the events are those before the first pass and those of the stages. -/
theorem flatMap_stages (events : List (Event calls)) :
    lead events ++ (stages events).flatMap Stage.all = events := by
  induction events with
  | nil => rfl
  | cons event rest ih =>
    obtain ⟨call, answer⟩ := event
    cases call with
    | check =>
      rw [lead_check, stages_check, List.flatMap_cons, List.nil_append, Stage.all]
      rw [List.cons_append, ih]
    | _ => exact congrArg _ ih

theorem flatMap_stages_of_lead {events : List (Event calls)} (hLead : lead events = []) :
    (stages events).flatMap Stage.all = events := by
  have hAll := flatMap_stages events
  rwa [hLead, List.nil_append] at hAll

/-- An element of joined lists lies in one of them. -/
theorem flatMap_split {α β : Type} {f : α → List β} {list : List α} {before after : List β} {b : β}
    (h : list.flatMap f = before ++ b :: after) :
    ∃ i a inside rest, list[i]? = some a ∧ f a = inside ++ b :: rest ∧
      before = (list.take i).flatMap f ++ inside := by
  induction list generalizing before with
  | nil => exact absurd h (by simp)
  | cons a list ih =>
    have hLater : ∀ {between : List β}, list.flatMap f = between ++ b :: after →
        ∃ i c inside rest, (a :: list)[i]? = some c ∧ f c = inside ++ b :: rest ∧
          f a ++ between = ((a :: list).take i).flatMap f ++ inside := by
      intro between hBetween
      obtain ⟨i, c, inside, rest, hGet, hInside, rfl⟩ := ih hBetween
      exact ⟨i + 1, c, inside, rest, hGet, hInside, by simp⟩
    rw [List.flatMap_cons] at h
    rcases List.append_eq_append_iff.mp h with ⟨between, rfl, hBetween⟩ | ⟨rest, hHead, hRest⟩
    · exact hLater hBetween
    · cases rest with
      | nil =>
        rw [List.append_nil] at hHead
        rw [← hHead, ← List.append_nil (f a)]
        exact hLater hRest.symm
      | cons _ rest =>
        obtain ⟨rfl, -⟩ := List.cons.inj hRest
        exact ⟨0, a, before, rest, rfl, hHead, rfl⟩

/-- Where nothing comes before the first pass, every other event lies in a stage. -/
theorem stage_of_event {events before after : List (Event calls)} {event : Event calls}
    (hLead : lead events = []) (hPass : isPass event = false)
    (hSplit : events = before ++ event :: after) :
    ∃ j stage inside rest, (stages events)[j]? = some stage ∧
      stage.events = inside ++ event :: rest ∧
      before = ((stages events).take j).flatMap Stage.all ++ ⟨.check, stage.answer⟩ :: inside := by
  have hAll := (flatMap_stages_of_lead hLead).trans hSplit
  obtain ⟨j, stage, inside, rest, hStage, hInside, rfl⟩ := flatMap_split hAll
  cases inside with
  | nil =>
    obtain ⟨rfl, -⟩ := List.cons.inj hInside
    cases hPass
  | cons first inside =>
    obtain ⟨rfl, hEvents⟩ := List.cons.inj hInside
    exact ⟨j, stage, inside, rest, hStage, hEvents, rfl⟩

end TypeRepair.Repair
