import TypeRepair.Proofs.Repair.Fixpoint
import TypeRepair.Proofs.Store.Site

/-!
# Dry runs

The files are the same in every attempt of a dry run. If the checker also prints the same at every
pass and the generator goes by the instruction, no attempt of it can differ from the first one.

* `Site.Steady.settled`: such a checker and generator are settled collaborators.
* `dry_run_exhausts`: a dry run with errors uses up its attempts and ends where it began.
-/

namespace TypeRepair

open Repair

variable {σ : Type}

/-- The checker prints the same at every pass over the disk, and the generator goes by the
instruction. -/
structure Site.Steady (site : Site σ) (disk : Disk) (printed : String)
    (answer : String → Except GenerationFault Generated) : Prop where
  check_answer : ∀ outside, ∃ exitCode, (site.check disk outside).1 = .ok ⟨exitCode, printed⟩
  generate_answer : ∀ instruction outside,
    (site.generate instruction outside).1 = answer instruction

section

variable {site : Site σ} {disk : Disk} {printed : String}
  {answer : String → Except GenerationFault Generated}

theorem Site.Steady.settled (h : site.Steady disk printed answer) (root : String) :
    Settled (site.rehearsal root disk)
      (fun _ file => (site.text (Path.join root file) disk).toOption) (fun _ => printed)
      { reading := fun file _ => site.text (Path.join root file) disk
        writing := fun _ _ => .ok ()
        answer := answer }
      fun _ _ => false where
  faithful := h.check_answer
  check_keeps _ := rfl
  generate_keeps _ _ := rfl
  read_keeps _ _ := rfl
  generate_answer := h.generate_answer
  read_answer _ _ := rfl
  write_answer _ _ _ := rfl
  write_done _ _ _ _ := rfl
  write_failed _ _ _ _ _ := rfl

/-- With errors, a rehearsed run uses up its attempts. It ends with as many errors as it began with,
and has recorded the same patches at each attempt. -/
theorem Site.Steady.rehearsed_exhausts {machine : Host.Machine σ}
    (h : site.Steady machine.disk printed answer) (hErrors : Diagnostic.parse printed ≠ [])
    (root : String) (attempts : Nat) :
    ∃ patches : List Patch, (patches.map Patch.file).Nodup ∧
      ((site.collaborators ⟨root, true⟩).repair (attempts + 1) machine).result =
        .ok (.exhausted (Diagnostic.parse printed).length (Diagnostic.parse printed).length
          (List.replicate (attempts + 1) patches).flatten) := by
  let rehearsal := site.rehearsal root machine.disk
  have hCourse := rehearsal.course (attempts + 1) machine.outside
  have hFollows := Procedure.follows_run rehearsal.handler (run (attempts + 1)) machine.outside
  obtain ⟨-, patches, -, -, hNodup, hResult⟩ :=
    hCourse.discarded (h.settled root) (fun _ _ => rfl) hFollows hErrors
  obtain ⟨hSame, -⟩ := site.rehearsed_repair root machine (attempts + 1)
  exact ⟨patches, hNodup, hSame.trans hResult⟩

end

namespace Program

open Host

/-- A dry run of the program that finds errors, with a checker and a generator that are steady,
reports that many errors at its end. -/
theorem dry_run_exhausts (outside : Outside σ) (settings : Settings) (machine : Machine σ)
    {printed : String} {answer : String → Except GenerationFault Generated}
    (h : (outside.site settings.tsconfigPath
      (Client.ofCredentials settings.provider settings.credentials)).Steady machine.disk printed
        answer)
    (hErrors : Diagnostic.parse printed ≠ []) (hSome : 0 < settings.maxRetries) :
    ∃ summary, (outside.perform (repair settings true) machine).result = .ok summary ∧
      summary.verdict = .exhausted ∧
      summary.errorsBefore = (Diagnostic.parse printed).length ∧
      summary.errorsAfter = summary.errorsBefore ∧
      ∃ patches, summary.results = (List.replicate settings.maxRetries patches).flatten ∧
        summary.filesFixed = patches.map Patch.file := by
  obtain ⟨hRun, -⟩ := program_repair outside settings true machine
  obtain ⟨attempts, hAttempts⟩ := Nat.exists_eq_succ_of_ne_zero (Nat.ne_of_gt hSome)
  obtain ⟨patches, hNodup, hResult⟩ := h.rehearsed_exhausts hErrors "." attempts
  rw [hAttempts] at hRun ⊢
  exact ⟨_, hRun.trans hResult, rfl, rfl, rfl, patches, rfl,
    Summary.filesFixed_replicate hNodup _ _ (Nat.succ_pos attempts)⟩

end Program

end TypeRepair
