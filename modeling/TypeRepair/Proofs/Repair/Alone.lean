import Mathlib.Data.List.Basic
import TypeRepair.Proofs.Repair.Files

/-!
# One file alone

When the store keeps paths apart and the generator goes by its instruction, an attempt deals with
each file as if there were no other.

* `Separate.repairFile_eq`: a file among others is dealt with as it is alone.
* `Separate.repairFiles_eq`: so are all files of an attempt.
-/

namespace TypeRepair.Repair

/-! ## Dealing with one file -/

/-- What reading, writing and asking come to. -/
structure Conduct where
  /-- What comes of reading a path that holds this body. -/
  reading : String → Option String → Except SystemFault String
  writing : String → String → Except SystemFault Unit
  answer : String → Except GenerationFault Generated

/-- A store of one file, and a generator. No pass is made over them. -/
def alone (reading : Option String → Except SystemFault String)
    (writing : String → Except SystemFault Unit)
    (answer : String → Except GenerationFault Generated) : Collaborators (Option String) where
  check body := (.ok ⟨none, ""⟩, body)
  read _ body := (reading body, body)
  generate instruction body := (answer instruction, body)
  write _ new body :=
    match writing new with
    | .ok () => (.ok (), some new)
    | .error fault => (.error fault, body)

/-- How a file with errors and a body is dealt with when there is no other. -/
def Conduct.dealing (conduct : Conduct) (file : String) (errors : List Diagnostic)
    (body : Option String) : Run calls (Option String) (Option Patch) :=
  (alone (conduct.reading file) (conduct.writing file) conduct.answer).perform
    (repairFile ⟨file, errors⟩) body

/-- The call has to do with this file and its errors only. -/
def Concerns (group : FileErrors) : Call → Prop
  | .check => False
  | .read file => file = group.file
  | .generate instruction => ∃ body, instruction = Patch.instruction group.file body group.errors
  | .write file _ => file = group.file
  | .note _ => True

theorem request_within (group : FileErrors) : (request group).Within (Concerns group) := by
  refine ⟨rfl, fun answer => ?_⟩
  cases answer with
  | error fault => trivial
  | ok previous =>
    refine ⟨⟨previous, rfl⟩, fun answer => ?_⟩
    cases answer with
    | error fault => trivial
    | ok answer =>
      refine ⟨trivial, fun _ => ?_⟩
      dsimp only
      split
      · trivial
      · exact ⟨trivial, fun _ => trivial⟩

theorem repairFile_within (group : FileErrors) : (repairFile group).Within (Concerns group) := by
  refine Procedure.within_bind (request_within group) fun events asked hAsked => ?_
  cases asked with
  | error skip => exact ⟨trivial, fun _ => trivial⟩
  | ok patch =>
    refine ⟨(yields_request hAsked).patch_file, fun answer => ?_⟩
    cases answer with
    | error fault => exact ⟨trivial, fun _ => trivial⟩
    | ok _ => exact ⟨trivial, fun _ => trivial⟩

theorem Conduct.dealing_exchange (conduct : Conduct) (file : String) (errors : List Diagnostic)
    (body : Option String) :
    Exchange ⟨file, errors⟩ (conduct.dealing file errors body).events
      (conduct.dealing file errors body).result :=
  yields_repairFile (Procedure.yields_run _ _ _)

/-- Nothing else about the conduct matters to a file than what comes of reading and writing it, and
of asking for it. -/
theorem Conduct.dealing_congr {conduct other : Conduct} {file : String}
    {errors : List Diagnostic} (hReading : other.reading file = conduct.reading file)
    (hWriting : other.writing file = conduct.writing file)
    (hAnswer : ∀ body, other.answer (Patch.instruction file body errors) =
      conduct.answer (Patch.instruction file body errors)) (body : Option String) :
    other.dealing file errors body = conduct.dealing file errors body := by
  refine Procedure.run_congr (fun call s hConcerns => ?_) (repairFile_within ⟨file, errors⟩) body
  cases call with
  | check => exact hConcerns.elim
  | read path => simp only [Collaborators.handler, alone, hReading]
  | generate instruction =>
    obtain ⟨previous, rfl⟩ := hConcerns
    simp only [Collaborators.handler, alone, hAnswer]
  | write path new => simp only [Collaborators.handler, alone, hWriting]
  | note n => rfl

/-! ## Files kept apart -/

/-- The collaborators keep these files by path, what comes of a call during an attempt is as the
conduct says, and only a pass can change the conduct. -/
structure Separate {σ : Type} (collaborators : Collaborators σ) (files : σ → Files)
    (conduct : σ → Conduct) : Prop extends PathKeyed collaborators files where
  read_answer : ∀ file s,
    (collaborators.read file s).1 = (conduct s).reading file (files s file)
  write_answer : ∀ file body s,
    (collaborators.write file body s).1 = (conduct s).writing file body
  generate_answer : ∀ instruction s,
    (collaborators.generate instruction s).1 = (conduct s).answer instruction
  read_conduct : ∀ file s, conduct (collaborators.read file s).2 = conduct s
  write_conduct : ∀ file body s, conduct (collaborators.write file body s).2 = conduct s
  generate_conduct : ∀ instruction s, conduct (collaborators.generate instruction s).2 = conduct s

section

variable {σ : Type} {collaborators : Collaborators σ} {files : σ → Files} {conduct : σ → Conduct}

/-- A file is dealt with as it is alone, and no other file changes. -/
theorem Separate.repairFile_eq (h : Separate collaborators files conduct) (group : FileErrors)
    (s : σ) :
    let run := collaborators.perform (repairFile group) s
    let single := (conduct s).dealing group.file group.errors (files s group.file)
    run.result = single.result ∧ run.events = single.events ∧ conduct run.state = conduct s ∧
      files run.state = Function.update (files s) group.file single.state := by
  -- A state goes with a body of the file if it has the first files but for that body.
  have hStep : ∀ call t body, Concerns group call →
      (conduct t = conduct s ∧ files t = Function.update (files s) group.file body) →
      (collaborators.handler call t).1 =
          ((alone ((conduct s).reading group.file) ((conduct s).writing group.file)
            (conduct s).answer).handler call body).1 ∧
        conduct (collaborators.handler call t).2 = conduct s ∧
        files (collaborators.handler call t).2 = Function.update (files s) group.file
          ((alone ((conduct s).reading group.file) ((conduct s).writing group.file)
            (conduct s).answer).handler call body).2 := by
    rintro call t body hConcerns ⟨hConduct, hFiles⟩
    cases call with
    | check => exact hConcerns.elim
    | read file =>
      obtain rfl : file = group.file := hConcerns
      refine ⟨?_, (h.read_conduct _ t).trans hConduct, (h.read_keeps _ t).trans hFiles⟩
      refine (h.read_answer _ t).trans ?_
      rw [hConduct, hFiles, Function.update_self]
      rfl
    | generate instruction =>
      refine ⟨?_, (h.generate_conduct _ t).trans hConduct, (h.generate_keeps _ t).trans hFiles⟩
      refine (h.generate_answer _ t).trans ?_
      rw [hConduct]
      rfl
    | write file new =>
      obtain rfl : file = group.file := hConcerns
      have hAnswer := h.write_answer group.file new t
      rw [hConduct] at hAnswer
      simp only [Collaborators.handler, alone]
      cases hWriting : (conduct s).writing group.file new with
      | ok _ =>
        rw [hWriting] at hAnswer
        refine ⟨hAnswer, (h.write_conduct _ new t).trans hConduct, ?_⟩
        rw [h.write_done _ new t hAnswer, hFiles, Function.update_idem]
      | error fault =>
        rw [hWriting] at hAnswer
        refine ⟨hAnswer, (h.write_conduct _ new t).trans hConduct, ?_⟩
        rw [h.write_failed _ new t fault hAnswer, hFiles]
    | note n => exact ⟨rfl, hConduct, hFiles⟩
  obtain ⟨hResult, hEvents, hConduct, hFiles⟩ :=
    Procedure.run_related hStep (repairFile_within group)
      ⟨rfl, (Function.update_eq_self group.file (files s)).symm⟩
  exact ⟨hResult, hEvents, hConduct, hFiles⟩

theorem perform_repairFiles_cons (group : FileErrors) (groups : List FileErrors) (s : σ) :
    collaborators.perform (repairFiles (group :: groups)) s =
      let first := collaborators.perform (repairFile group) s
      let later := collaborators.perform (repairFiles groups) first.state
      ⟨first.result.toList ++ later.result, later.state, first.events ++ later.events⟩ := by
  refine (Procedure.run_bind collaborators.handler (repairFile group)
    (fun patch => (repairFiles groups).bind fun patches => .done (patch.toList ++ patches)) s).trans
    ?_
  simp only [Procedure.run_bind, Procedure.run_done, List.append_nil]
  rfl

/-- Files with one group each are dealt with one after the other as each is alone. -/
theorem Separate.repairFiles_eq (h : Separate collaborators files conduct)
    {groups : List FileErrors} (hNodup : (groups.map FileErrors.file).Nodup) (s : σ) :
    let run := collaborators.perform (repairFiles groups) s
    let single := fun group : FileErrors =>
      (conduct s).dealing group.file group.errors (files s group.file)
    run.result = groups.flatMap (fun group => (single group).result.toList) ∧
      run.events = groups.flatMap (fun group => (single group).events) ∧
      (∀ group ∈ groups, files run.state group.file = (single group).state) ∧
      ∀ file, file ∉ groups.map FileErrors.file → files run.state file = files s file := by
  induction groups generalizing s with
  | nil => exact ⟨rfl, rfl, fun _ hGroup => absurd hGroup List.not_mem_nil, fun _ _ => rfl⟩
  | cons group groups ih =>
    rw [List.map_cons, List.nodup_cons] at hNodup
    dsimp only at ih ⊢
    rw [perform_repairFiles_cons]
    dsimp only
    have hHead := h.repairFile_eq group s
    generalize collaborators.perform (repairFile group) s = first at hHead ⊢
    obtain ⟨hResult, hEvents, hConduct, hFiles⟩ := hHead
    have hTail := ih hNodup.2 first.state
    generalize collaborators.perform (repairFiles groups) first.state = later at hTail ⊢
    obtain ⟨hLaterResult, hLaterEvents, hLaterFiles, hLaterOther⟩ := hTail
    have hOther : ∀ {file : String}, file ≠ group.file → files first.state file = files s file := by
      intro file hNe
      rw [hFiles, Function.update_of_ne hNe]
    -- The first file is none of the later ones, so these find what they would have found before.
    have hSingle : ∀ other ∈ groups, (conduct first.state).dealing other.file other.errors
        (files first.state other.file) =
          (conduct s).dealing other.file other.errors (files s other.file) := by
      intro other hMem
      have hNe : other.file ≠ group.file := fun hEq =>
        hNodup.1 (hEq ▸ List.mem_map_of_mem hMem)
      rw [hConduct, hOther hNe]
    refine ⟨?_, ?_, ?_, ?_⟩
    · rw [List.flatMap_cons, ← hResult, hLaterResult]
      congr 1
      exact List.flatMap_congr fun other hMem => by rw [hSingle other hMem]
    · rw [List.flatMap_cons, ← hEvents, hLaterEvents]
      congr 1
      exact List.flatMap_congr fun other hMem => by rw [hSingle other hMem]
    · intro other hMem
      rcases List.mem_cons.mp hMem with rfl | hMem
      · rw [hLaterOther other.file hNodup.1, hFiles, Function.update_self]
      · rw [hLaterFiles other hMem, hSingle other hMem]
    · intro file hFile
      rw [List.map_cons, List.mem_cons, not_or] at hFile
      rw [hLaterOther file hFile.2, hOther hFile.1]

end

/-! ## Conducts as collaborators -/

/-- Collaborators on the files themselves that do as a conduct says. -/
def Conduct.collaborators (conduct : Conduct) (made : Checker.Pass) : Collaborators Files where
  check files := (.ok made, files)
  read file files := (conduct.reading file (files file), files)
  generate instruction files := (conduct.answer instruction, files)
  write file body files :=
    match conduct.writing file body with
    | .ok () => (.ok (), Function.update files file (some body))
    | .error fault => (.error fault, files)

/-- Every conduct in which a body that is read is the one that is held is that of some
collaborators. -/
theorem Conduct.separate (conduct : Conduct) (made : Checker.Pass)
    (hReading : ∀ file held body, conduct.reading file held = .ok body → held = some body) :
    Separate (conduct.collaborators made) id fun _ => conduct where
  check_keeps _ := rfl
  generate_keeps _ _ := rfl
  read_keeps _ _ := rfl
  read_body file files body hRead := hReading file (files file) body hRead
  write_done file body files hWrite := by
    simp only [collaborators, id_eq] at hWrite ⊢
    split at hWrite
    · rfl
    · cases hWrite
  write_failed file body files fault hWrite := by
    simp only [collaborators, id_eq] at hWrite ⊢
    split at hWrite
    · cases hWrite
    · rfl
  read_answer _ _ := rfl
  write_answer file body files := by
    simp only [collaborators]
    split
    · rename_i hWriting
      exact hWriting.symm
    · rename_i hWriting
      exact hWriting.symm
  generate_answer _ _ := rfl
  read_conduct _ _ := rfl
  write_conduct _ _ _ := rfl
  generate_conduct _ _ := rfl

end TypeRepair.Repair
