import TypeRepair.Program.Machine
import TypeRepair.Proofs.Disk.Writing
import TypeRepair.Proofs.Report.Publication

/-!
# What a report leaves on the disk

Whether a report file can be written is settled before the first of them is: a written file is on
the way to no other path. So there are three ways to end, and each is told from the disk at the
start.

* `perform_publish_markdownRefused`, `perform_publish_jsonRefused`, `perform_publish_all`: the run
  in each case.
* `publish_result_eq_ok_iff`: success is settled by the paths.
* `publish_leaves_requested_files`: what was printed, attempted and left.
-/

namespace TypeRepair

namespace Report

open Host Procedure

/-- The report files that are wanted, with their texts. -/
def requested (targets : Targets) (summary : Summary) : List (String × String) :=
  targets.markdown.toList.map (·, markdown summary) ++ targets.json.toList.map (·, json summary)

section Runs

variable {σ : Type} (outside : Outside σ) (machine : Machine σ) (colored : Bool)
  (targets : Targets) (summary : Summary)

theorem perform_writeFile_refused {path : String} {fault : SystemFault}
    (h : machine.disk.writeTarget path = .error fault) (note : String → Note) (text : String) :
    outside.perform (writeFile note text (some path)) machine =
      ⟨.error ⟨fault⟩, machine, [noted (note path), ⟨.write path text, .error fault⟩]⟩ := by
  have hWrite : machine.disk.write path (Text.encode text) = (.error fault, machine.disk) := by
    rw [Disk.write, h]
  simp [Outside.perform, writeFile, Host.note, Host.write, Outside.handler, hWrite]

theorem perform_writeFile {target : Option String}
    (h : ∀ path ∈ target, machine.disk.Writable path) (note : String → Note) (text : String) :
    outside.perform (writeFile note text target) machine =
      ⟨.ok (), { machine with disk := machine.disk.stored text target },
        wrote note text target⟩ := by
  cases target with
  | none => rfl
  | some path =>
    obtain ⟨location, hLocation⟩ := h path rfl
    simp [Outside.perform, writeFile, Host.note, Host.write, Outside.handler, Disk.stored, wrote,
      Disk.write_of_writeTarget hLocation]

/-- What a run leaves on standard output is what it printed. -/
theorem printed_perform {α : Type} (action : Action α) :
    (outside.perform action machine).state.printed =
      machine.printed ++ String.join (printings (outside.perform action machine).events) := by
  induction action generalizing machine with
  | done a => exact (String.append_empty).symm
  | ask c next ih =>
    have hNext := ih (outside.handler c machine).1 (outside.handler c machine).2
    cases c with
    | print text =>
      have hPrinted : printings (outside.perform (.ask (.print text) next) machine).events =
        text :: printings (outside.perform (next (outside.handler (.print text) machine).1)
          (outside.handler (.print text) machine).2).events := rfl
      rw [hPrinted, String.join_cons, ← String.append_assoc]
      exact hNext
    | _ => exact hNext

/-- The machine once the summary is on the terminal. -/
def shown (machine : Machine σ) : Machine σ :=
  { machine with printed := machine.printed ++ terminal colored summary }

/-- Once the summary is shown, one file comes after the other, up to one that is refused. -/
theorem perform_publish :
    outside.perform (publish colored targets summary) machine =
      let first := outside.perform
        (writeFile .reportToMarkdown (markdown summary) targets.markdown)
        (shown colored summary machine)
      match first.result with
      | .error failure =>
        ⟨.error failure, first.state, opening colored targets summary ++ first.events⟩
      | .ok () =>
        let second := outside.perform
          (writeFile .reportToJson (json summary) targets.json) first.state
        ⟨second.result, second.state,
          opening colored targets summary ++ (first.events ++ second.events)⟩ := by
  simp only [Outside.perform, publish, Host.note, Host.print, bind_eq, call_eq, ask_bind, done_bind,
    run_ask, run_bind]
  have hShown : ({ machine with printed := machine.printed ++ terminal colored summary } :
    Machine σ) = shown colored summary machine := rfl
  simp only [Outside.handler, hShown]
  generalize run outside.handler
    (writeFile .reportToMarkdown (markdown summary) targets.markdown) _ = first
  rcases first with ⟨failure | _, after, events⟩
  · simp [opening]
  · rfl

theorem perform_publish_markdownRefused {path : String} {fault : SystemFault}
    (hWanted : targets.markdown = some path) (h : machine.disk.writeTarget path = .error fault) :
    outside.perform (publish colored targets summary) machine =
      ⟨.error ⟨fault⟩, shown colored summary machine, opening colored targets summary ++
        [noted (.reportToMarkdown path), ⟨.write path (markdown summary), .error fault⟩]⟩ := by
  rw [perform_publish, hWanted]
  simp only [perform_writeFile_refused outside (shown colored summary machine) h]

theorem perform_publish_jsonRefused {path : String} {fault : SystemFault}
    (hMarkdown : ∀ path ∈ targets.markdown, machine.disk.Writable path)
    (hWanted : targets.json = some path)
    (h : (machine.disk.stored (markdown summary) targets.markdown).writeTarget path =
      .error fault) :
    outside.perform (publish colored targets summary) machine =
      ⟨.error ⟨fault⟩,
        { shown colored summary machine with
          disk := machine.disk.stored (markdown summary) targets.markdown },
        opening colored targets summary ++
          (wrote .reportToMarkdown (markdown summary) targets.markdown ++
            [noted (.reportToJson path), ⟨.write path (json summary), .error fault⟩])⟩ := by
  rw [perform_publish, hWanted,
    perform_writeFile outside (shown colored summary machine) hMarkdown]
  simp only [shown] at h ⊢
  rw [perform_writeFile_refused outside _ h]

theorem perform_publish_all (hMarkdown : ∀ path ∈ targets.markdown, machine.disk.Writable path)
    (hJson : ∀ path ∈ targets.json, machine.disk.Writable path) :
    outside.perform (publish colored targets summary) machine =
      ⟨.ok (),
        { shown colored summary machine with
          disk := (machine.disk.stored (markdown summary) targets.markdown).stored (json summary)
            targets.json },
        opening colored targets summary ++
          (wrote .reportToMarkdown (markdown summary) targets.markdown ++
            wrote .reportToJson (json summary) targets.json)⟩ := by
  have hJson' : ∀ path ∈ targets.json,
      (machine.disk.stored (markdown summary) targets.markdown).Writable path :=
    fun path hPath => (Disk.writable_stored_iff (markdown summary) hMarkdown).mpr (hJson path hPath)
  rw [perform_publish, perform_writeFile outside (shown colored summary machine) hMarkdown]
  simp only [shown] at hJson' ⊢
  rw [perform_writeFile outside _ hJson']

end Runs

theorem printings_wrote (note : String → Note) (text : String) (target : Option String) :
    printings (wrote note text target) = [] := by
  cases target <;> rfl

/-- All that is printed is printed before any file is attempted. -/
theorem Published.exists_later {colored : Bool} {targets : Targets} {summary : Summary}
    {events : List (Event Host.calls)} {result : Except Failure Unit}
    (h : Published colored targets summary events result) :
    ∃ later, events = opening colored targets summary ++ later ∧ printings later = [] := by
  cases h with
  | markdownFailed path fault hWanted => exact ⟨_, rfl, rfl⟩
  | jsonFailed path fault hWanted =>
    refine ⟨_, rfl, ?_⟩
    rw [printings_append, printings_wrote]
    rfl
  | all =>
    refine ⟨_, rfl, ?_⟩
    rw [printings_append, printings_wrote, printings_wrote]
    rfl

/-- A run is successful if all files that are wanted were attempted, and none of them failed. -/
theorem Published.result_eq_ok_iff {colored : Bool} {targets : Targets} {summary : Summary}
    {events : List (Event Host.calls)} {result : Except Failure Unit}
    (h : Published colored targets summary events result) :
    result = .ok () ↔
      fileWrites events = (requested targets summary).map fun (path, text) =>
        (path, text, .ok ()) := by
  constructor
  · rintro rfl
    rw [h.fileWrites_eq, requested, List.map_append, List.map_map, List.map_map]
    rfl
  · intro hWrites
    cases result with
    | ok _ => rfl
    | error failure =>
      obtain ⟨path, text, hLast⟩ := h.last_write
      obtain ⟨file, -, hFile⟩ := List.mem_map.mp (hWrites ▸ List.mem_of_getLast? hLast)
      cases congrArg (·.2.2) hFile

/-! ## The three ways to end -/

section Ends

variable {σ : Type} {outside : Outside σ} {machine : Machine σ} {colored : Bool}
  {targets : Targets} {summary : Summary}

/-- The Markdown file is refused: nothing else is attempted and nothing is changed. -/
structure MarkdownRefused (machine : Machine σ) (summary : Summary) (path : String)
    (run : Run calls (Machine σ) (Except Failure Unit)) : Prop where
  fails : ∃ fault, run.result = .error ⟨fault⟩ ∧
    fileWrites run.events = [(path, markdown summary, .error fault)]
  disk_eq : run.state.disk = machine.disk

/-- Only the JSON file is refused: the Markdown file is there if it is wanted. -/
structure JsonRefused (machine : Machine σ) (targets : Targets) (summary : Summary)
    (path : String) (run : Run calls (Machine σ) (Except Failure Unit)) : Prop where
  fails : ∃ fault, run.result = .error ⟨fault⟩ ∧
    fileWrites run.events = targets.markdown.toList.map (·, markdown summary, .ok ()) ++
      [(path, json summary, .error fault)]
  amended : Disk.Amended machine.disk
    (machine.disk.bodiesAt (markdown summary) targets.markdown) run.state.disk
  markdown_read : ∀ path ∈ targets.markdown,
    run.state.disk.read path = .ok (Text.encode (markdown summary))

/-- All files that are wanted are there, the JSON file in place of a Markdown file at the same
location. -/
structure AllStored (machine : Machine σ) (targets : Targets) (summary : Summary)
    (run : Run calls (Machine σ) (Except Failure Unit)) : Prop where
  result_eq : run.result = .ok ()
  amended : Disk.Amended machine.disk
    (machine.disk.bodiesAt (json summary) targets.json ++
      machine.disk.bodiesAt (markdown summary) targets.markdown) run.state.disk
  json_read : ∀ path ∈ targets.json, run.state.disk.read path = .ok (Text.encode (json summary))
  markdown_read : ∀ path ∈ targets.markdown,
    (∀ other ∈ targets.json, machine.disk.writeTarget other ≠ machine.disk.writeTarget path) →
      run.state.disk.read path = .ok (Text.encode (markdown summary))
  shared_read : ∀ path ∈ targets.markdown, ∀ other ∈ targets.json,
    machine.disk.writeTarget other = machine.disk.writeTarget path →
      run.state.disk.read path = .ok (Text.encode (json summary))

theorem markdownRefused {path : String} (hWanted : targets.markdown = some path)
    (h : ¬machine.disk.Writable path) :
    MarkdownRefused machine summary path
      (outside.perform (publish colored targets summary) machine) := by
  obtain ⟨fault, hFault⟩ := Disk.exists_fault_of_not_writable h
  rw [perform_publish_markdownRefused _ _ _ _ _ hWanted hFault]
  exact ⟨⟨fault, rfl, rfl⟩, rfl⟩

theorem jsonRefused {path : String}
    (hMarkdown : ∀ path ∈ targets.markdown, machine.disk.Writable path)
    (hWanted : targets.json = some path) (h : ¬machine.disk.Writable path) :
    JsonRefused machine targets summary path
      (outside.perform (publish colored targets summary) machine) := by
  obtain ⟨fault, hFault⟩ := Disk.exists_fault_of_not_writable
    (mt (Disk.writable_stored_iff (markdown summary) hMarkdown).mp h)
  rw [perform_publish_jsonRefused _ _ _ _ _ hMarkdown hWanted hFault]
  have hAmended := Disk.amended_stored_refl (markdown summary) hMarkdown
  refine ⟨⟨fault, rfl, ?_⟩, hAmended, fun markdownPath hPath => ?_⟩
  · rw [fileWrites_append, fileWrites_append, fileWrites_wrote]
    rfl
  · obtain ⟨location, hLocation⟩ := hMarkdown markdownPath hPath
    refine hAmended.read_eq ((Disk.writeTarget_stored_iff _ hMarkdown).mpr hLocation) ?_
    rw [Option.mem_def.mp hPath, Disk.bodiesAt_some hLocation, List.lookup_cons_self]

theorem allStored (hMarkdown : ∀ path ∈ targets.markdown, machine.disk.Writable path)
    (hJson : ∀ path ∈ targets.json, machine.disk.Writable path) :
    AllStored machine targets summary
      (outside.perform (publish colored targets summary) machine) := by
  have hJsonLater : ∀ path ∈ targets.json,
      (machine.disk.stored (markdown summary) targets.markdown).Writable path :=
    fun path hPath => (Disk.writable_stored_iff (markdown summary) hMarkdown).mpr (hJson path hPath)
  have hLeads : ∀ {path location}, machine.disk.writeTarget path = .ok location →
      ((machine.disk.stored (markdown summary) targets.markdown).stored (json summary)
        targets.json).writeTarget path = .ok location := fun hPath =>
    (Disk.writeTarget_stored_iff _ hJsonLater).mpr
      ((Disk.writeTarget_stored_iff _ hMarkdown).mpr hPath)
  have hAmended := Disk.amended_stored (json summary)
    (Disk.amended_stored_refl (markdown summary) hMarkdown) hJsonLater
  rw [Disk.bodiesAt_stored hMarkdown] at hAmended
  rw [perform_publish_all _ _ _ _ _ hMarkdown hJson]
  refine ⟨rfl, hAmended, ?_, ?_, ?_⟩
  · intro path hPath
    obtain ⟨location, hLocation⟩ := hJson path hPath
    refine hAmended.read_eq (hLeads hLocation) ?_
    rw [Option.mem_def.mp hPath, Disk.bodiesAt_some hLocation, List.singleton_append,
      List.lookup_cons_self]
  · intro path hPath hApart
    obtain ⟨location, hLocation⟩ := hMarkdown path hPath
    refine hAmended.read_eq (hLeads hLocation) ?_
    rw [Option.mem_def.mp hPath, Disk.bodiesAt_some hLocation]
    cases hOther : targets.json with
    | none => exact List.lookup_cons_self
    | some other =>
      obtain ⟨place, hPlace⟩ := hJson other hOther
      have hNe : location ≠ place := by
        rintro rfl
        exact hApart other hOther (hPlace.trans hLocation.symm)
      rw [Disk.bodiesAt_some hPlace, List.singleton_append, List.lookup_cons,
        beq_eq_false_iff_ne.mpr hNe, List.lookup_cons_self]
  · intro path hPath other hOther hSame
    obtain ⟨location, hLocation⟩ := hMarkdown path hPath
    refine hAmended.read_eq (hLeads hLocation) ?_
    rw [Option.mem_def.mp hOther, Disk.bodiesAt_some (hSame.trans hLocation), List.singleton_append,
      List.lookup_cons_self]

/-- A run is successful if all paths led to places for files before it. -/
theorem publish_result_eq_ok_iff :
    (outside.perform (publish colored targets summary) machine).result = .ok () ↔
      (∀ path ∈ targets.markdown, machine.disk.Writable path) ∧
        ∀ path ∈ targets.json, machine.disk.Writable path := by
  refine ⟨fun hOk => ?_, fun ⟨hMarkdown, hJson⟩ => (allStored hMarkdown hJson).result_eq⟩
  have hMarkdown : ∀ path ∈ targets.markdown, machine.disk.Writable path := by
    intro path hWanted
    refine Classical.byContradiction fun hNot => ?_
    have hRefused : MarkdownRefused machine summary path
      (outside.perform (publish colored targets summary) machine) := markdownRefused hWanted hNot
    obtain ⟨fault, hFault, -⟩ := hRefused.fails
    cases hOk.symm.trans hFault
  refine ⟨hMarkdown, fun path hWanted => ?_⟩
  refine Classical.byContradiction fun hNot => ?_
  have hRefused : JsonRefused machine targets summary path
    (outside.perform (publish colored targets summary) machine) :=
    jsonRefused hMarkdown hWanted hNot
  obtain ⟨fault, hFault, -⟩ := hRefused.fails
  cases hOk.symm.trans hFault

end Ends

/-- On every machine the summary is printed once and before any file is attempted, and the run is
successful if each wanted file was attempted and written. A Markdown path that leads to no place for
a file ends the run with nothing changed. A JSON path that does leaves the Markdown file alone; a
path below that file is one, by whatever path the file is meant. Else both files are there, and
nothing else is changed. -/
theorem publish_leaves_requested_files {σ : Type} (outside : Outside σ) (machine : Machine σ)
    (colored : Bool) (targets : Targets) (summary : Summary) :
    let run := outside.perform (publish colored targets summary) machine
    (∃ later, run.events = opening colored targets summary ++ later ∧ printings later = []) ∧
    run.state.printed = machine.printed ++ terminal colored summary ∧
    (run.result = .ok () ↔
      fileWrites run.events = (requested targets summary).map fun (path, text) =>
        (path, text, .ok ())) ∧
    (∀ path ∈ targets.markdown, ¬machine.disk.Writable path →
      MarkdownRefused machine summary path run) ∧
    (∀ path ∈ targets.json, (∀ other ∈ targets.markdown, machine.disk.Writable other) →
      ¬machine.disk.Writable path → JsonRefused machine targets summary path run) ∧
    (∀ path ∈ targets.markdown, machine.disk.Writable path → ∀ same rest,
      machine.disk.writeTarget same = machine.disk.writeTarget path →
      same ++ "/" ++ rest ∈ targets.json →
        JsonRefused machine targets summary (same ++ "/" ++ rest) run) ∧
    ((∀ path ∈ targets.markdown, machine.disk.Writable path) →
      (∀ path ∈ targets.json, machine.disk.Writable path) →
        AllStored machine targets summary run) := by
  intro run
  have hPublished : Published colored targets summary run.events run.result :=
    yields_publish (yields_run outside.handler (publish colored targets summary) machine)
  have hPrinted : run.state.printed = machine.printed ++ terminal colored summary := by
    obtain ⟨later, hEvents, hLater⟩ := hPublished.exists_later
    rw [printed_perform, hEvents, printings_append, hLater, List.append_nil]
    rfl
  refine ⟨hPublished.exists_later, hPrinted, hPublished.result_eq_ok_iff,
    fun path hWanted hNot => markdownRefused hWanted hNot,
    fun path hWanted hMarkdown hNot => jsonRefused hMarkdown hWanted hNot, ?_, allStored⟩
  intro path hWanted hWritable same rest hSame hBelow
  obtain ⟨location, hLocation⟩ := hWritable
  have hMarkdown : ∀ other ∈ targets.markdown, machine.disk.Writable other := by
    intro other hOther
    obtain rfl : path = other := Option.some.inj (hWanted.symm.trans hOther)
    exact ⟨location, hLocation⟩
  refine jsonRefused hMarkdown hBelow ?_
  rintro ⟨target, hTarget⟩
  exact Disk.writeTarget_below (hSame.trans hLocation) rest hTarget

-- An empty directory with nothing around it, and a summary to be published there.
def nothingAround : Outside Unit where
  execute _ _ _ state := (.error .notFound, state)
  send _ state := (.unanswered, state)

def emptyDirectory : Machine Unit :=
  ⟨.empty ["w"], (), ""⟩

def oneOfTwo : Summary :=
  ⟨2, 1, ["a.ts"], [⟨"a.ts", "x", "y", 1⟩], false⟩

theorem shared_nested_and_refused_paths :
    let run := fun targets => nothingAround.perform (publish false targets oneOfTwo) emptyDirectory
    let shared := run ⟨some "s.md", some "./s.md"⟩
    let nested := run ⟨some "s.md", some "./s.md/r.json"⟩
    let refused := run ⟨some ".", some "r.json"⟩
    shared.result = .ok () ∧
      shared.state.disk.read "s.md" = .ok (Text.encode (json oneOfTwo)) ∧
      nested.result ≠ .ok () ∧
      nested.state.disk.read "s.md" = .ok (Text.encode (markdown oneOfTwo)) ∧
      refused.result ≠ .ok () ∧ refused.state.disk = emptyDirectory.disk := by
  intro run shared nested refused
  have hPlain : emptyDirectory.disk.writeTarget "s.md" = .ok ["w", "s.md"] := rfl
  have hDotted : emptyDirectory.disk.writeTarget "./s.md" = .ok ["w", "s.md"] := rfl
  have hHere : emptyDirectory.disk.writeTarget "." = .error .isADirectory := rfl
  obtain ⟨-, -, -, -, -, -, hAll⟩ := publish_leaves_requested_files nothingAround emptyDirectory
    false ⟨some "s.md", some "./s.md"⟩ oneOfTwo
  have hShared := hAll (by rintro _ ⟨⟩; exact ⟨_, hPlain⟩) (by rintro _ ⟨⟩; exact ⟨_, hDotted⟩)
  obtain ⟨-, -, -, -, -, hBelow, -⟩ := publish_leaves_requested_files nothingAround emptyDirectory
    false ⟨some "s.md", some "./s.md/r.json"⟩ oneOfTwo
  have hNested := hBelow "s.md" rfl ⟨_, hPlain⟩ "./s.md" "r.json" (hDotted.trans hPlain.symm) rfl
  obtain ⟨-, -, -, hFirst, -, -, -⟩ := publish_leaves_requested_files nothingAround emptyDirectory
    false ⟨some ".", some "r.json"⟩ oneOfTwo
  have hRefused := hFirst "." rfl (by rintro ⟨location, h⟩; cases hHere.symm.trans h)
  refine ⟨hShared.result_eq, hShared.shared_read "s.md" rfl "./s.md" rfl
    (hDotted.trans hPlain.symm), ?_, hNested.markdown_read "s.md" rfl, ?_, hRefused.disk_eq⟩
  · obtain ⟨fault, hFault, -⟩ := hNested.fails
    exact fun h => by cases hFault.symm.trans h
  · obtain ⟨fault, hFault, -⟩ := hRefused.fails
    exact fun h => by cases hFault.symm.trans h

end Report

end TypeRepair
