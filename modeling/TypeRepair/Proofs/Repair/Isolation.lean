import TypeRepair.Proofs.Diagnostic.Parsing
import TypeRepair.Proofs.Patch.Instruction
import TypeRepair.Proofs.Repair.Alone
import TypeRepair.Proofs.Repair.Provenance

/-!
# Files of an attempt do not influence each other

* `Trial.patches_eq`, `Trial.after_eq`, `Trial.about_eq`: what an attempt does to each file.
* `attempts_keep_files_apart`: attempts that agree on a file do the same to it, whatever they do to
  the others.
-/

namespace TypeRepair.Repair

open Diagnostic

/-! ## Events about one file -/

/-- The events about a file end where the next file is read. -/
theorem Exchange.about_append {group : FileErrors} {events later : List (Event calls)}
    {patch : Option Patch} (h : Exchange group events patch)
    (hLater : later.takeWhile (!isReading ·) = []) :
    about group.file (events ++ later) = events := by
  obtain ⟨answer, rest, rfl, hRest⟩ := h.reading_first
  have hReading : isReadingOf group.file ⟨.read group.file, answer⟩ = true := by simp [isReadingOf]
  unfold about
  rw [List.cons_append, List.dropWhile_cons_of_neg (by simp [hReading])]
  dsimp only
  rw [List.takeWhile_append_of_pos (fun event hEvent => by simp [hRest event hEvent]), hLater,
    List.append_nil]

theorem about_eq_nil {file : String} {events : List (Event calls)}
    (h : file ∉ (readings events).map Prod.fst) : about file events = [] := by
  rw [← List.append_nil events, Repair.about_append h]
  rfl

/-- Among the events of several files, each with its own, those about a file are its own. -/
theorem about_flatMap {groups : List FileErrors} (hNodup : (groups.map FileErrors.file).Nodup)
    {events : FileErrors → List (Event calls)}
    (h : ∀ group ∈ groups, ∃ patch, Exchange group (events group) patch) {group : FileErrors}
    (hMem : group ∈ groups) : about group.file (groups.flatMap events) = events group := by
  induction groups with
  | nil => cases hMem
  | cons first groups ih =>
    rw [List.map_cons, List.nodup_cons] at hNodup
    have hRest : ∀ other ∈ groups, ∃ patch, Exchange other (events other) patch :=
      fun other hOther => h other (List.mem_cons_of_mem _ hOther)
    obtain ⟨patch, hFirst⟩ := h first List.mem_cons_self
    rw [List.flatMap_cons]
    rcases List.mem_cons.mp hMem with rfl | hMem
    · refine hFirst.about_append ?_
      cases groups with
      | nil => rfl
      | cons next groups =>
        obtain ⟨_, hNext⟩ := hRest next List.mem_cons_self
        obtain ⟨answer, rest, hEvents, -⟩ := hNext.reading_first
        rw [List.flatMap_cons, hEvents]
        rfl
    · rw [Repair.about_append, ih hNodup.2 hRest hMem]
      obtain ⟨answer, hReadings, -, -⟩ := hFirst.calls_made
      rw [hReadings]
      intro hFile
      have hSame : group.file = first.file := List.mem_singleton.mp hFile
      exact hNodup.1 (hSame ▸ List.mem_map_of_mem hMem)

/-- Where no other element gives anything, an element gives all. -/
theorem flatMap_eq_of_mem {α β : Type} {list : List α} {f : α → List β} {a : α}
    (hNodup : list.Nodup) (hMem : a ∈ list) (hOther : ∀ b ∈ list, b ≠ a → f b = []) :
    list.flatMap f = f a := by
  induction list with
  | nil => cases hMem
  | cons first list ih =>
    rw [List.nodup_cons] at hNodup
    rw [List.flatMap_cons]
    by_cases hFirst : first = a
    · subst hFirst
      have hRest : list.flatMap f = [] := by
        rw [List.flatMap_eq_nil_iff]
        intro b hb
        exact hOther b (List.mem_cons_of_mem _ hb) fun hEq => hNodup.1 (hEq ▸ hb)
      rw [hRest, List.append_nil]
    · have hMem' : a ∈ list := (List.mem_cons.mp hMem).resolve_left (Ne.symm hFirst)
      rw [hOther first List.mem_cons_self hFirst, List.nil_append]
      exact ih hNodup.2 hMem' fun b hb => hOther b (List.mem_cons_of_mem _ hb)

/-! ## Attempts -/

/-- An attempt whose own pass could be made, over files that are kept apart. -/
structure Trial where
  σ : Type
  collaborators : Collaborators σ
  files : σ → Files
  conduct : σ → Conduct
  separate : Separate collaborators files conduct
  number : Nat
  state : σ
  made : Checker.Pass
  /-- What the pass leaves. -/
  opened : σ
  check_eq : collaborators.check state = (.ok made, opened)

namespace Trial

variable (trial : Trial)

/-- The errors that the attempt is about. -/
def errors : List Diagnostic := trial.made.errors

/-- What the calls of the attempt come to. -/
def way : Conduct := trial.conduct trial.opened

def run : Run calls trial.σ (Except Checker.Failure Attempt) :=
  trial.collaborators.perform (attempt trial.number) trial.state

/-- The files before the attempt. -/
def before : Files := trial.files trial.state

/-- The files after the attempt. -/
def after : Files := trial.files trial.run.state

/-- The patches that the attempt records. -/
def patches : List Patch :=
  match trial.run.result with
  | .ok outcome => outcome.patches
  | .error _ => []

/-- How a file would be dealt with alone. -/
def dealing (file : String) : Run calls (Option String) (Option Patch) :=
  trial.way.dealing file (errorsOf file trial.errors) (trial.before file)

/-- An attempt is its pass, a note, and the files that the pass reports. -/
theorem run_eq :
    let rest := trial.collaborators.perform (repairFiles (groupByFile trial.errors)) trial.opened
    ∃ outcome n, trial.run = ⟨.ok outcome, rest.state,
      passEvents trial.made ++ noted n :: rest.events⟩ ∧ outcome.patches = rest.result := by
  have hPass : Procedure.run trial.collaborators.handler pass trial.state =
      ⟨.ok trial.errors, trial.opened, passEvents trial.made⟩ := by
    simp only [pass, check, Procedure.call_eq, Procedure.bind_eq,
      Procedure.ask_bind, Procedure.done_bind, Procedure.run_ask, Collaborators.handler,
      trial.check_eq]
    rfl
  unfold Trial.run Collaborators.perform attempt
  rw [Procedure.bind_eq, Procedure.run_bind]
  dsimp only
  rw [hPass]
  dsimp only
  split
  · rename_i hClean
    rw [List.isEmpty_iff.mp hClean]
    exact ⟨.alreadyClean, .alreadyResolved, rfl, rfl⟩
  · refine ⟨.processed _, .errorsRemaining trial.number trial.errors.length
      (groupByFile trial.errors).length, ?_, rfl⟩
    simp only [Repair.note, Procedure.call_eq, Procedure.bind_eq, Procedure.ask_bind,
      Procedure.done_bind, Procedure.run_ask, Procedure.run_bind, Procedure.pure_eq,
      Procedure.run_done, List.append_nil, Collaborators.handler]

theorem files_opened : trial.files trial.opened = trial.before := by
  have hKeeps := trial.separate.check_keeps trial.state
  rwa [trial.check_eq] at hKeeps

/-- The reported files are dealt with one after the other as each is alone, and no other file
changes. -/
theorem rest_eq :
    let rest := trial.collaborators.perform (repairFiles (groupByFile trial.errors)) trial.opened
    rest.result = (reportedFiles trial.errors).flatMap
        (fun file => (trial.dealing file).result.toList) ∧
      (∀ file ∈ reportedFiles trial.errors, about file rest.events = (trial.dealing file).events ∧
        trial.files rest.state file = (trial.dealing file).state) ∧
      (∀ file, file ∉ reportedFiles trial.errors → about file rest.events = [] ∧
        trial.files rest.state file = trial.before file) := by
  have hNodup := groupByFile_files_nodup trial.errors
  have hRest := trial.separate.repairFiles_eq hNodup trial.opened
  dsimp only at hRest ⊢
  rw [trial.files_opened] at hRest
  obtain ⟨hResult, hEvents, hFiles, hOther⟩ := hRest
  have hExchange : ∀ group ∈ groupByFile trial.errors, ∃ patch, Exchange group
      (trial.way.dealing group.file group.errors (trial.before group.file)).events patch :=
    fun group _ => ⟨_, trial.way.dealing_exchange _ _ _⟩
  have hGroup : ∀ file ∈ reportedFiles trial.errors,
      (⟨file, errorsOf file trial.errors⟩ : FileErrors) ∈ groupByFile trial.errors := by
    intro file hFile
    rw [groupByFile_eq]
    exact List.mem_map_of_mem hFile
  refine ⟨?_, fun file hFile => ⟨?_, hFiles _ (hGroup file hFile)⟩, fun file hFile => ⟨?_, ?_⟩⟩
  · rw [hResult, groupByFile_eq, List.flatMap_map]
    rfl
  · rw [hEvents]
    exact about_flatMap hNodup hExchange (hGroup file hFile)
  · have hRest : Exchanges (groupByFile trial.errors) _ _ :=
      yields_repairFiles (Procedure.yields_run trial.collaborators.handler _ trial.opened)
    apply about_eq_nil
    rwa [Collaborators.perform, hRest.readings_eq, groupByFile_files]
  · apply hOther
    rwa [groupByFile_files]

theorem result_ok : ∃ outcome, trial.run.result = .ok outcome := by
  obtain ⟨outcome, n, hRun, -⟩ := trial.run_eq
  exact ⟨outcome, by rw [hRun]⟩

theorem patches_eq :
    trial.patches =
      (reportedFiles trial.errors).flatMap fun file => (trial.dealing file).result.toList := by
  obtain ⟨outcome, n, hRun, hPatches⟩ := trial.run_eq
  rw [patches, hRun]
  exact hPatches.trans trial.rest_eq.1

theorem about_run (file : String) :
    about file trial.run.events =
      about file (trial.collaborators.perform (repairFiles (groupByFile trial.errors))
        trial.opened).events := by
  obtain ⟨outcome, n, hRun, -⟩ := trial.run_eq
  have hQuiet : file ∉ (readings (passEvents trial.made ++ [noted n])).map Prod.fst := by
    simp [readings]
  have hAbout := Repair.about_append hQuiet
    (trial.collaborators.perform (repairFiles (groupByFile trial.errors)) trial.opened).events
  rw [hRun]
  exact hAbout

theorem after_eq_rest :
    trial.after = trial.files (trial.collaborators.perform (repairFiles (groupByFile trial.errors))
      trial.opened).state := by
  obtain ⟨outcome, n, hRun, -⟩ := trial.run_eq
  rw [after, hRun]

variable {trial} {file : String}

theorem about_eq (h : file ∈ reportedFiles trial.errors) :
    about file trial.run.events = (trial.dealing file).events := by
  rw [about_run]
  exact (trial.rest_eq.2.1 file h).1

theorem about_unreported (h : file ∉ reportedFiles trial.errors) :
    about file trial.run.events = [] := by
  rw [about_run]
  exact (trial.rest_eq.2.2 file h).1

theorem after_eq (h : file ∈ reportedFiles trial.errors) :
    trial.after file = (trial.dealing file).state := by
  rw [after_eq_rest]
  exact (trial.rest_eq.2.1 file h).2

theorem after_unreported (h : file ∉ reportedFiles trial.errors) :
    trial.after file = trial.before file := by
  rw [after_eq_rest]
  exact (trial.rest_eq.2.2 file h).2

theorem dealing_patch_file {patch : Patch} (h : patch ∈ (trial.dealing file).result.toList) :
    patch.file = file := by
  have hExchange := trial.way.dealing_exchange file (errorsOf file trial.errors)
    (trial.before file)
  rw [Option.mem_toList] at h
  rw [show (trial.way.dealing file (errorsOf file trial.errors) (trial.before file)).result =
    some patch from h] at hExchange
  exact hExchange.patch_file

theorem filter_dealing (file : String) :
    (trial.dealing file).result.toList.filter (·.file = file) =
      (trial.dealing file).result.toList := by
  rw [List.filter_eq_self]
  intro patch hPatch
  simpa using dealing_patch_file hPatch

/-- The patches of a file are those of the file alone. -/
theorem filter_patches (file : String) :
    trial.patches.filter (·.file = file) =
      if file ∈ reportedFiles trial.errors then (trial.dealing file).result.toList else [] := by
  rw [patches_eq, List.filter_flatMap]
  have hOther : ∀ other ∈ reportedFiles trial.errors, other ≠ file →
      (trial.dealing other).result.toList.filter (·.file = file) = [] := by
    intro other _ hNe
    rw [List.filter_eq_nil_iff]
    intro patch hPatch
    simpa [dealing_patch_file hPatch] using hNe
  split
  · rename_i hFile
    rw [flatMap_eq_of_mem (reportedFiles_nodup _) hFile hOther, filter_dealing]
  · rename_i hFile
    rw [List.flatMap_eq_nil_iff]
    exact fun other hMem => hOther other hMem fun hEq => hFile (hEq ▸ hMem)

/-! ## Two attempts -/

/-- Two attempts find the same at a file: the same errors in the same order, the same body, and the
same outcome of reading it, writing it and asking for it. -/
structure Matches (trial other : Trial) (file : String) : Prop where
  errors_eq : errorsOf file other.errors = errorsOf file trial.errors
  body_eq : other.before file = trial.before file
  reading_eq : other.way.reading file = trial.way.reading file
  writing_eq : other.way.writing file = trial.way.writing file
  answer_eq : ∀ body,
    other.way.answer (Patch.instruction file body (errorsOf file trial.errors)) =
      trial.way.answer (Patch.instruction file body (errorsOf file trial.errors))

variable {other : Trial}

theorem Matches.dealing_eq (h : trial.Matches other file) :
    other.dealing file = trial.dealing file := by
  rw [dealing, h.errors_eq, h.body_eq]
  exact Conduct.dealing_congr h.reading_eq h.writing_eq h.answer_eq _

theorem Matches.reported_iff (h : trial.Matches other file) :
    file ∈ reportedFiles other.errors ↔ file ∈ reportedFiles trial.errors := by
  rw [← not_iff_not, ← errorsOf_eq_nil_iff, ← errorsOf_eq_nil_iff, h.errors_eq]

/-- The same happens to a file at which two attempts find the same. -/
theorem Matches.same (h : trial.Matches other file) :
    about file other.run.events = about file trial.run.events ∧
      other.after file = trial.after file ∧
      other.patches.filter (·.file = file) = trial.patches.filter (·.file = file) := by
  have hReported := h.reported_iff
  rw [filter_patches, filter_patches]
  by_cases hFile : file ∈ reportedFiles trial.errors
  · have hOther := hReported.mpr hFile
    rw [about_eq hFile, about_eq hOther, after_eq hFile, after_eq hOther, if_pos hFile,
      if_pos hOther, h.dealing_eq]
    exact ⟨rfl, rfl, rfl⟩
  · have hOther : file ∉ reportedFiles other.errors := fun hMem => hFile (hReported.mp hMem)
    rw [about_unreported hFile, about_unreported hOther, after_unreported hFile,
      after_unreported hOther, if_neg hFile, if_neg hOther]
    exact ⟨rfl, h.body_eq, rfl⟩

/-- Attempts that find the same everywhere record the same patches, each in the order of its own
reports. -/
theorem patches_perm (h : ∀ file, trial.Matches other file) :
    other.patches.Perm trial.patches := by
  rw [patches_eq, patches_eq]
  have hFiles : (reportedFiles other.errors).Perm (reportedFiles trial.errors) :=
    (List.perm_ext_iff_of_nodup (reportedFiles_nodup _) (reportedFiles_nodup _)).mpr
      fun file => (h file).reported_iff
  have hDealing : ∀ file, (other.dealing file).result.toList =
      (trial.dealing file).result.toList := fun file => by rw [(h file).dealing_eq]
  simp only [hDealing]
  exact hFiles.flatMap_right _

/-- Attempts with the same errors that find the same everywhere but at one file record the same
patches of the other files, in the same order. -/
theorem patches_others (victim : String) (hErrors : other.errors = trial.errors)
    (h : ∀ file ∈ reportedFiles trial.errors, file ≠ victim → trial.Matches other file) :
    other.patches.filter (·.file ≠ victim) = trial.patches.filter (·.file ≠ victim) := by
  rw [patches_eq, patches_eq, List.filter_flatMap, List.filter_flatMap, hErrors]
  refine List.flatMap_congr fun file hFile => ?_
  by_cases hVictim : file = victim
  -- What either attempt records for the file itself is left out on both sides.
  · have hNone : ∀ t : Trial, (t.dealing file).result.toList.filter (·.file ≠ victim) = [] := by
      intro t
      rw [List.filter_eq_nil_iff]
      intro patch hPatch
      simp [dealing_patch_file hPatch, hVictim]
    rw [hNone, hNone]
  · rw [(h file hFile hVictim).dealing_eq]

end Trial

/-- The conducts agree but for what becomes of one file. -/
structure Conduct.AgreesExcept (victim : String) (conduct other : Conduct) : Prop where
  reading_eq : ∀ file, file ≠ victim → other.reading file = conduct.reading file
  writing_eq : ∀ file, file ≠ victim → other.writing file = conduct.writing file
  answer_eq : ∀ instruction, (∀ body errors, instruction ≠ Patch.instruction victim body errors) →
    other.answer instruction = conduct.answer instruction

/-- Whatever becomes of one reported file, two attempts find the same at the other ones. -/
theorem Trial.matches_of_agreesExcept {trial other : Trial} {victim : String}
    (hVictim : victim ∈ reportedFiles trial.errors) (hErrors : other.errors = trial.errors)
    (hBefore : ∀ file, file ≠ victim → other.before file = trial.before file)
    (hWay : trial.way.AgreesExcept victim other.way) {file : String}
    (hFile : file ∈ reportedFiles trial.errors) (hNe : file ≠ victim) :
    trial.Matches other file := by
  have hLine : ∀ {path : String}, path ∈ reportedFiles trial.errors → '\n' ∉ path.toList := by
    intro path hPath
    obtain ⟨d, hd, rfl⟩ := mem_reportedFiles.mp hPath
    exact newline_notMem_file hd
  refine ⟨by rw [hErrors], hBefore file hNe, hWay.reading_eq file hNe, hWay.writing_eq file hNe, ?_⟩
  intro body
  -- An instruction for this file is none for the other one, since both paths lie on one line.
  refine hWay.answer_eq _ fun otherBody errors hEq => ?_
  exact hNe (Patch.file_eq_of_instruction_eq (hLine hFile) (hLine hVictim) hEq)

/-- What an attempt does to a file follows from what it finds at that file, whatever happens to the
other ones. Hence the order in which files are reported does not matter to the files, and the
patches only change places; and whatever becomes of one file, the others get the same bodies and
patches. -/
theorem attempts_keep_files_apart (trial : Trial) :
    (∃ outcome, trial.run.result = .ok outcome) ∧
    (∀ other file, trial.Matches other file →
      about file other.run.events = about file trial.run.events ∧
        other.after file = trial.after file ∧
        other.patches.filter (·.file = file) = trial.patches.filter (·.file = file)) ∧
    (∀ other : Trial, other.before = trial.before → other.way = trial.way →
      (∀ file, errorsOf file other.errors = errorsOf file trial.errors) →
        other.after = trial.after ∧ other.patches.Perm trial.patches) ∧
    ∀ (other : Trial) (victim : String), victim ∈ reportedFiles trial.errors →
      other.errors = trial.errors →
      (∀ file, file ≠ victim → other.before file = trial.before file) →
      trial.way.AgreesExcept victim other.way →
        (∀ file, file ≠ victim → other.after file = trial.after file) ∧
          other.patches.filter (·.file ≠ victim) = trial.patches.filter (·.file ≠ victim) := by
  refine ⟨trial.result_ok, fun other file h => h.same, ?_, ?_⟩
  · intro other hBefore hWay hErrors
    have hMatches : ∀ file, trial.Matches other file := fun file =>
      ⟨hErrors file, by rw [hBefore], by rw [hWay], by rw [hWay], fun body => by rw [hWay]⟩
    exact ⟨funext fun file => (hMatches file).same.2.1, Trial.patches_perm hMatches⟩
  · intro other victim hVictim hErrors hBefore hWay
    have hMatches : ∀ file ∈ reportedFiles trial.errors, file ≠ victim →
        trial.Matches other file := fun file hFile hNe =>
      Trial.matches_of_agreesExcept hVictim hErrors hBefore hWay hFile hNe
    refine ⟨fun file hNe => ?_, Trial.patches_others victim hErrors hMatches⟩
    by_cases hFile : file ∈ reportedFiles trial.errors
    · exact (hMatches file hFile hNe).same.2.1
    · have hOther : file ∉ reportedFiles other.errors := by rwa [hErrors]
      rw [Trial.after_unreported hFile, Trial.after_unreported hOther, hBefore file hNe]

/-- A conduct with one answer to everything, and paths that cannot be written. -/
def Conduct.simple (content : String) (unwritable : List String) : Conduct where
  reading _ held :=
    match held with
    | some body => .ok body
    | none => .error .notFound
  writing file _ := if file ∈ unwritable then .error (.other "permission denied") else .ok ()
  answer _ := .ok ⟨content, "m", 0, 0⟩

theorem Conduct.simple_reading (content : String) (unwritable : List String)
    (file : String) (held : Option String) (body : String)
    (h : (simple content unwritable).reading file held = .ok body) : held = some body := by
  cases held with
  | none => cases h
  | some _ =>
    cases h
    rfl

/-- An attempt at files with the body `a`, `b`, which are all given the body `a`, `c`. -/
def Trial.simple (output : String) (unwritable : List String) : Trial where
  σ := Files
  collaborators := (Conduct.simple "```\na\nc\n```" unwritable).collaborators ⟨some 2, output⟩
  files := id
  conduct _ := Conduct.simple "```\na\nc\n```" unwritable
  separate := (Conduct.simple _ unwritable).separate _ (Conduct.simple_reading _ _)
  number := 1
  state := fun _ => some "a\nb"
  made := ⟨some 2, output⟩
  opened := fun _ => some "a\nb"
  check_eq := rfl

/-- Reports of two files. -/
def twoReports : String := "a.ts(1,1): error TS1: x\nb.ts(2,5): error TS2: y"

/-- The same reports in the other order. -/
def turnedReports : String := "b.ts(2,5): error TS2: y\na.ts(1,1): error TS1: x"

theorem simple_trials_kept_apart :
    let trial := Trial.simple twoReports []
    let turned := Trial.simple turnedReports []
    let spoiled := Trial.simple twoReports ["b.ts"]
    trial.patches.map Patch.file = ["a.ts", "b.ts"] ∧
      turned.patches.map Patch.file = ["b.ts", "a.ts"] ∧
      spoiled.patches.map Patch.file = ["a.ts"] ∧
      turned.after = trial.after ∧ turned.patches.Perm trial.patches ∧
      spoiled.after "a.ts" = trial.after "a.ts" ∧
      spoiled.patches.filter (·.file ≠ "b.ts") = trial.patches.filter (·.file ≠ "b.ts") := by
  have hErrors : ∀ file, errorsOf file (Trial.simple turnedReports []).errors =
      errorsOf file (Trial.simple twoReports []).errors := by
    intro file
    have hTwo : (Trial.simple twoReports []).errors =
        [⟨"a.ts", 1, 1, "TS1", "x"⟩, ⟨"b.ts", 2, 5, "TS2", "y"⟩] := rfl
    have hTurned : (Trial.simple turnedReports []).errors =
        [⟨"b.ts", 2, 5, "TS2", "y"⟩, ⟨"a.ts", 1, 1, "TS1", "x"⟩] := rfl
    rw [hTwo, hTurned]
    by_cases hFile : "a.ts" = file
    · subst hFile
      rfl
    · simp [errorsOf, List.filter_cons, hFile]
  have hWay : (Trial.simple twoReports []).way.AgreesExcept "b.ts"
      (Trial.simple twoReports ["b.ts"]).way := by
    refine ⟨fun _ _ => rfl, fun file hNe => funext fun body => ?_, fun _ _ => rfl⟩
    have hWritable : file ∉ ["b.ts"] := by simpa using hNe
    exact if_neg hWritable
  intro trial turned spoiled
  obtain ⟨-, -, hTurned, hSpoiled⟩ := attempts_keep_files_apart trial
  obtain ⟨hAfter, hPerm⟩ := hTurned turned rfl rfl hErrors
  obtain ⟨hOthers, hPatches⟩ := hSpoiled spoiled "b.ts" (by decide) rfl (fun _ _ => rfl) hWay
  exact ⟨rfl, rfl, rfl, hAfter, hPerm, hOthers "a.ts" (by decide), hPatches⟩

end TypeRepair.Repair
