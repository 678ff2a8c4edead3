import Mathlib.Data.List.Nodup
import TypeRepair.Proofs.Disk.Shape
import TypeRepair.Proofs.Repair.Alone
import TypeRepair.Proofs.Repair.Attempt
import TypeRepair.Proofs.Store.Site

/-!
# Rehearsed and real attempts

A rehearsed run leaves the disk alone. Until it writes, a real attempt does what a rehearsed one
does; after that it finds new bodies, but only in files that it has dealt with already. So it reads,
asks and decides the same to its end, as long as no two of its paths lead to the same file.

* `Alongside`: what a real attempt has in common with a rehearsed one.
* `Alongside.repairFile`, `Alongside.repairFiles`: one file after the other keeps it.
* `rehearsal_previews_attempt`: the first attempt of a real run as against that of a rehearsed run.
-/

namespace TypeRepair

namespace Repair

/-! ## What is decided -/

/-- What is decided about files: the reason to leave one as it is, or the share with which the gate
admits a body. -/
def decisions (events : List (Event calls)) : List (String × Except Skip Binary64) :=
  events.filterMap fun
    | ⟨.note (.fileSkipped file skip), _⟩ => some (file, .error skip)
    | ⟨.note (.patchAdmitted file share), _⟩ => some (file, .ok share)
    | _ => none

/-- An event without what comes of a write. -/
def foresee : Event calls → Option (Event calls)
  | ⟨.write file body, _⟩ => some ⟨.write file body, .ok ()⟩
  | ⟨.note (.fixApplied _ _ _), _⟩ => none
  | ⟨.note (.fixNotWritten _ _), _⟩ => none
  | event => some event

/-- Events without what comes of writes. -/
def foreseen (events : List (Event calls)) : List (Event calls) :=
  events.filterMap foresee

/-- The event is a write that fails. -/
def isFailedWrite : Event calls → Bool
  | ⟨.write _ _, .error _⟩ => true
  | _ => false

/-- No write among the events fails. -/
def AllWritten (events : List (Event calls)) : Prop :=
  ∀ event ∈ events, isFailedWrite event = false

theorem foreseen_append (first second : List (Event calls)) :
    foreseen (first ++ second) = foreseen first ++ foreseen second :=
  List.filterMap_append

/-- What does not depend on what comes of writes can be foreseen. -/
theorem filterMap_foreseen {α : Type} {f : Event calls → Option α}
    (hWrite : ∀ file body answer, f ⟨.write file body, answer⟩ = f ⟨.write file body, .ok ()⟩)
    (hApplied : ∀ file errors changed, f (noted (.fixApplied file errors changed)) = none)
    (hNotWritten : ∀ file fault, f (noted (.fixNotWritten file fault)) = none)
    (events : List (Event calls)) : (foreseen events).filterMap f = events.filterMap f := by
  rw [foreseen, List.filterMap_filterMap]
  refine congrArg (events.filterMap ·) (funext fun ⟨call, answer⟩ => ?_)
  cases call with
  | write file body => exact (hWrite file body answer).symm
  | note n =>
    cases n with
    | fixApplied file errors changed => exact (hApplied file errors changed).symm
    | fixNotWritten file fault => exact (hNotWritten file fault).symm
    | _ => rfl
  | _ => rfl

theorem readings_foreseen (events : List (Event calls)) :
    readings (foreseen events) = readings events :=
  filterMap_foreseen (fun _ _ _ => rfl) (fun _ _ _ => rfl) (fun _ _ => rfl) events

theorem requests_foreseen (events : List (Event calls)) :
    requests (foreseen events) = requests events :=
  filterMap_foreseen (fun _ _ _ => rfl) (fun _ _ _ => rfl) (fun _ _ => rfl) events

theorem writes_foreseen (events : List (Event calls)) :
    writes (foreseen events) = writes events :=
  filterMap_foreseen (fun _ _ _ => rfl) (fun _ _ _ => rfl) (fun _ _ => rfl) events

theorem decisions_foreseen (events : List (Event calls)) :
    decisions (foreseen events) = decisions events :=
  filterMap_foreseen (fun _ _ _ => rfl) (fun _ _ _ => rfl) (fun _ _ => rfl) events

/-- One decision is taken about each file. -/
theorem Exchange.decisions_eq {group : FileErrors} {events : List (Event calls)}
    {patch : Option Patch} (h : Exchange group events patch) :
    (decisions events).map Prod.fst = [group.file] := by
  cases h with
  | skipped skip h => cases h <;> rfl
  | notWritten patch fault h =>
    cases h
    rfl
  | written patch h =>
    cases h
    rfl

theorem Exchanges.decisions_eq {groups : List FileErrors} {events : List (Event calls)}
    {patches : List Patch} (h : Exchanges groups events patches) :
    (decisions events).map Prod.fst = groups.map FileErrors.file := by
  induction h with
  | nil => rfl
  | cons head tail ih =>
    rw [decisions, List.filterMap_append, List.map_append, List.map_cons]
    exact congrArg₂ (· ++ ·) head.decisions_eq ih

/-- The call prepares a body for this file. -/
def Prepares (file : String) : Call → Prop
  | .read other => other = file
  | .generate _ | .note _ => True
  | _ => False

theorem request_prepares (group : FileErrors) : (request group).Within (Prepares group.file) := by
  refine ⟨rfl, fun answer => ?_⟩
  cases answer with
  | error fault => trivial
  | ok previous =>
    refine ⟨trivial, fun answer => ?_⟩
    cases answer with
    | error fault => trivial
    | ok answer =>
      refine ⟨trivial, fun _ => ?_⟩
      dsimp only
      split
      · trivial
      · exact ⟨trivial, fun _ => trivial⟩

end Repair

open Repair

/-! ## Alongside -/

/-- The paths do not lead to the same file. -/
def Disk.Apart (disk : Disk) (path other : String) : Prop :=
  ∀ location, disk.fileAt? path = some location → disk.fileAt? other ≠ some location

theorem Disk.Apart.symm {disk : Disk} {path other : String} (h : disk.Apart path other) :
    disk.Apart other path :=
  fun location hOther hPath => h location hPath hOther

section

variable {σ : Type} (site : Site σ) (root : String) {paths : List String} {disk : Disk}
  {rehearsed made : Host.Machine σ}

/-- A machine on which writes are rehearsed still has the disk, and one on which they are made has
it but for the files of some paths. What is outside of the machines is the same. -/
structure Alongside (paths : List String) (disk : Disk) (rehearsed made : Host.Machine σ) :
    Prop where
  disk_eq : rehearsed.disk = disk
  outside_eq : made.outside = rehearsed.outside
  touched : disk.Touched paths made.disk

theorem Alongside.text_eq (h : Alongside paths disk rehearsed made) {path : String}
    (hApart : ∀ touched ∈ paths, disk.Apart path touched) :
    site.text path made.disk = site.text path disk := by
  unfold Site.text
  rw [h.touched.read_eq fun location hFile touched hTouched =>
    hApart touched hTouched location hFile]

/-- A text that was read is that of a file. -/
theorem Site.read_of_text {path text : String} (h : site.text path disk = .ok text) :
    ∃ bytes, disk.read path = .ok bytes := by
  unfold Site.text at h
  split at h
  · cases h
  · cases hRead : disk.read path with
    | error fault =>
      rw [hRead] at h
      cases h
    | ok bytes => exact ⟨bytes, rfl⟩

/-- Both attempts ask for a body in the same way. -/
theorem Alongside.request (h : Alongside paths disk rehearsed made) (group : FileErrors)
    (hApart : ∀ touched ∈ paths, disk.Apart (Path.join root group.file) touched) :
    let dry := (site.collaborators ⟨root, true⟩).perform (request group) rehearsed
    let real := (site.collaborators ⟨root, false⟩).perform (request group) made
    real.result = dry.result ∧ real.events = dry.events ∧
      Alongside paths disk dry.state real.state ∧ real.state.disk = made.disk := by
  have hStep : ∀ call s t, Prepares group.file call →
      (Alongside paths disk t s ∧ s.disk = made.disk) →
      ((site.collaborators ⟨root, false⟩).handler call s).1 =
          ((site.collaborators ⟨root, true⟩).handler call t).1 ∧
        Alongside paths disk ((site.collaborators ⟨root, true⟩).handler call t).2
          ((site.collaborators ⟨root, false⟩).handler call s).2 ∧
        ((site.collaborators ⟨root, false⟩).handler call s).2.disk = made.disk := by
    rintro call s t hPrepares ⟨hAlong, hDisk⟩
    cases call with
    | read file =>
      obtain rfl : file = group.file := hPrepares
      simp only [Collaborators.handler, Site.read_eq]
      exact ⟨by rw [hAlong.text_eq site hApart, hAlong.disk_eq], hAlong, hDisk⟩
    | generate instruction =>
      simp only [Collaborators.handler, Site.collaborators, hAlong.outside_eq]
      exact ⟨trivial, ⟨hAlong.disk_eq, rfl, hAlong.touched⟩, hDisk⟩
    | note n => exact ⟨rfl, hAlong, hDisk⟩
    | _ => exact hPrepares.elim
  exact Procedure.run_related hStep (request_prepares group) ⟨h, rfl⟩

/-- A body that is asked for is one for a file that could be read. -/
theorem Site.read_of_request (store : Store) {group : FileErrors}
    {machine : Host.Machine σ} {patch : Patch}
    (h : ((site.collaborators store).perform (request group) machine).result = .ok patch) :
    patch.file = group.file ∧
      ∃ bytes, machine.disk.read (Path.join store.root group.file) = .ok bytes := by
  have hAsked := yields_request (Procedure.yields_run (site.collaborators store).handler
    (request group) machine)
  have hFollows := Procedure.follows_run (site.collaborators store).handler (request group) machine
  rw [show (Procedure.run (site.collaborators store).handler (request group) machine).result =
    .ok patch from h] at hAsked
  refine ⟨hAsked.patch_file, ?_⟩
  obtain ⟨previous, answer, share, -, hEvents⟩ := hAsked.admitted_inv
  rw [hEvents] at hFollows
  have hRead : .ok previous = ((site.collaborators store).read group.file machine).1 := hFollows.1
  rw [Site.read_eq] at hRead
  exact site.read_of_text hRead.symm

/-- Both attempts deal with a file in the same way, but for what comes of a write. -/
theorem Alongside.repairFile (h : Alongside paths disk rehearsed made) (group : FileErrors)
    (hApart : ∀ touched ∈ paths, disk.Apart (Path.join root group.file) touched) :
    let dry := (site.collaborators ⟨root, true⟩).perform (repairFile group) rehearsed
    let real := (site.collaborators ⟨root, false⟩).perform (repairFile group) made
    foreseen real.events = foreseen dry.events ∧
      Alongside (Path.join root group.file :: paths) disk dry.state real.state ∧
      (AllWritten real.events → real.result = dry.result) := by
  have hRequest := h.request site root group hApart
  have hPatch : ∀ patch,
      ((site.collaborators ⟨root, false⟩).perform (Repair.request group) made).result = .ok patch →
        patch.file = group.file ∧
          ∃ bytes, made.disk.read (Path.join root group.file) = .ok bytes :=
    fun patch hPatch => site.read_of_request ⟨root, false⟩ hPatch
  dsimp only at hRequest ⊢
  rw [perform_repairFile, perform_repairFile]
  -- From here on only what the two requests come to matters.
  generalize (site.collaborators ⟨root, true⟩).perform (Repair.request group) rehearsed = dry
    at hRequest ⊢
  generalize (site.collaborators ⟨root, false⟩).perform (Repair.request group) made = real
    at hRequest hPatch ⊢
  obtain ⟨_, dry, _⟩ := dry
  obtain ⟨result, real, events⟩ := real
  obtain ⟨rfl, rfl, hAlong, hDisk⟩ := hRequest
  dsimp only at hAlong hDisk ⊢
  cases result with
  | error skip =>
    refine ⟨rfl, ⟨hAlong.disk_eq, hAlong.outside_eq, ?_⟩, fun _ => rfl⟩
    exact hAlong.touched.mono (List.subset_cons_self _ _)
  | ok patch =>
    obtain ⟨hFile, bytes, hRead⟩ := hPatch patch rfl
    dsimp only
    rw [Site.rehearsed_write, Site.real_write, hFile]
    cases site.refusesWrite (Path.join root group.file) patch.proposed with
    | some fault =>
      refine ⟨by rw [foreseen_append, foreseen_append]; rfl, ?_, fun hAll => ?_⟩
      · refine ⟨hAlong.disk_eq, hAlong.outside_eq, ?_⟩
        exact hAlong.touched.mono (List.subset_cons_self _ _)
      · cases hAll _ (List.mem_append_right _ List.mem_cons_self)
    | none =>
      -- A path that could be read leads to a file, so the disk takes the body.
      obtain ⟨location, -, -, hWrite⟩ := Disk.write_of_read hRead (Text.encode patch.proposed)
      have hTouched := hAlong.touched.write (hDisk ▸ hRead) (Text.encode patch.proposed)
      rw [hDisk, hWrite] at hTouched
      rw [hDisk, hWrite]
      refine ⟨rfl, ?_, fun _ => rfl⟩
      exact ⟨hAlong.disk_eq, hAlong.outside_eq, hTouched⟩

/-- So they do with files whose paths do not lead to the same file, neither as one another nor as
the paths of files before them. -/
theorem Alongside.repairFiles (h : Alongside paths disk rehearsed made) (groups : List FileErrors)
    (hPairwise : (groups.map fun group => Path.join root group.file).Pairwise disk.Apart)
    (hApart : ∀ group ∈ groups, ∀ touched ∈ paths,
      disk.Apart (Path.join root group.file) touched) :
    let dry := (site.collaborators ⟨root, true⟩).perform (repairFiles groups) rehearsed
    let real := (site.collaborators ⟨root, false⟩).perform (repairFiles groups) made
    foreseen real.events = foreseen dry.events ∧
      (AllWritten real.events → real.result = dry.result) := by
  induction groups generalizing paths rehearsed made with
  | nil => exact ⟨rfl, fun _ => rfl⟩
  | cons group groups ih =>
    obtain ⟨hHead, hTail⟩ := List.pairwise_cons.mp hPairwise
    obtain ⟨hEvents, hAlong, hResult⟩ := h.repairFile site root group
      (hApart group List.mem_cons_self)
    have hLater : ∀ other ∈ groups, ∀ touched ∈ Path.join root group.file :: paths,
        disk.Apart (Path.join root other.file) touched := by
      intro other hOther touched hTouched
      rcases List.mem_cons.mp hTouched with rfl | hTouched
      · exact (hHead _ (List.mem_map_of_mem hOther)).symm
      · exact hApart other (List.mem_cons_of_mem _ hOther) touched hTouched
    obtain ⟨hLaterEvents, hLaterResult⟩ := ih hAlong hTail hLater
    dsimp only
    rw [perform_repairFiles_cons, perform_repairFiles_cons]
    refine ⟨?_, fun hAll => ?_⟩
    · rw [foreseen_append, foreseen_append, hEvents, hLaterEvents]
    · have hFirst := hResult fun event hMem => hAll event (List.mem_append_left _ hMem)
      have hRest := hLaterResult fun event hMem => hAll event (List.mem_append_right _ hMem)
      dsimp only
      rw [hFirst, hRest]

end

/-! ## Attempts -/

section

variable {σ : Type} (site : Site σ) (root : String) (machine : Host.Machine σ)

/-- The paths of different files among these do not lead to the same file. -/
def Disk.KeptApart (disk : Disk) (root : String) (files : List String) : Prop :=
  ∀ file ∈ files, ∀ other ∈ files, file ≠ other →
    disk.Apart (Path.join root file) (Path.join root other)

theorem Disk.KeptApart.pairwise {disk : Disk} {root : String} {errors : List Diagnostic}
    (h : disk.KeptApart root (Diagnostic.reportedFiles errors)) :
    ((Diagnostic.groupByFile errors).map fun group => Path.join root group.file).Pairwise
      disk.Apart := by
  have hFiles : (Diagnostic.groupByFile errors).map (fun group => Path.join root group.file) =
      (Diagnostic.reportedFiles errors).map (Path.join root) := by
    rw [← Diagnostic.groupByFile_files, List.map_map]
    rfl
  rw [hFiles, List.pairwise_map]
  exact (Diagnostic.reportedFiles_nodup errors).pairwise_of_forall_ne h

/-- An attempt that is rehearsed and the same attempt made. -/
theorem Site.attempt_previewed (number : Nat) :
    let dry := (site.collaborators ⟨root, true⟩).perform (attempt number) machine
    let real := (site.collaborators ⟨root, false⟩).perform (attempt number) machine
    ∃ answer inside inside', dry.events = Stage.all ⟨answer, inside⟩ ∧
      real.events = Stage.all ⟨answer, inside'⟩ ∧
      ∀ opening, answer = .ok opening →
        machine.disk.KeptApart root (Diagnostic.reportedFiles opening.errors) →
          foreseen inside' = foreseen inside ∧
          (decisions inside).map Prod.fst = Diagnostic.reportedFiles opening.errors ∧
          (AllWritten inside' → real.result = dry.result) := by
  have hCheck : (site.collaborators ⟨root, false⟩).check machine =
      (site.collaborators ⟨root, true⟩).check machine := rfl
  have hDisk : ((site.collaborators ⟨root, true⟩).check machine).2.disk = machine.disk := rfl
  dsimp only
  rw [perform_attempt, perform_attempt, hCheck]
  generalize (site.collaborators ⟨root, true⟩).check machine = checked at hDisk ⊢
  rcases checked with ⟨failure | made, opened⟩
  · exact ⟨.error failure, [], [], rfl, rfl, fun opening hOpening => by cases hOpening⟩
  · dsimp only at hDisk ⊢
    split
    · rename_i hClean
      refine ⟨.ok made, _, _, rfl, rfl, fun opening hOpening _ => ?_⟩
      cases hOpening
      rw [hClean]
      exact ⟨rfl, rfl, fun _ => rfl⟩
    · refine ⟨.ok made, _, _, rfl, rfl, fun opening hOpening hApart => ?_⟩
      cases hOpening
      have hSame : Alongside [] machine.disk opened opened :=
        ⟨hDisk, rfl, hDisk ▸ Disk.Touched.refl [] opened.disk⟩
      obtain ⟨hEvents, hResult⟩ := hSame.repairFiles site root
        (Diagnostic.groupByFile made.errors) hApart.pairwise
        fun _ _ _ hNone => absurd hNone List.not_mem_nil
      have hDecisions := (yields_repairFiles (Procedure.yields_run
        (site.collaborators ⟨root, true⟩).handler
        (repairFiles (Diagnostic.groupByFile made.errors)) opened)).decisions_eq
      rw [Diagnostic.groupByFile_files] at hDecisions
      refine ⟨congrArg (_ :: _ :: ·) hEvents, hDecisions, fun hAll => ?_⟩
      have hPatches := hResult fun event hMem =>
        hAll event (List.mem_cons_of_mem _ (List.mem_cons_of_mem _ hMem))
      rw [hPatches]

end

/-! ## Runs -/

/-- No rehearsed run changes the disk. The first attempt of a real run, in which different reported
paths do not lead to the same file, goes as that of the rehearsed run from the same machine: it
starts from the same pass, reads the same texts, gets the same answers to the same instructions,
takes the same decision about each file and attempts the same writes. If all its writes succeed, it
records the same patches. -/
theorem rehearsal_previews_attempt {σ : Type} (site : Site σ) (root : String)
    (machine : Host.Machine σ) (attempts : Nat) :
    let dry := site.collaborators ⟨root, true⟩
    let real := site.collaborators ⟨root, false⟩
    let rehearsed := dry.repair attempts machine
    let made := real.repair attempts machine
    rehearsed.state.disk = machine.disk ∧
    (0 < attempts →
      (stages made.events)[1]?.map Stage.answer = (stages rehearsed.events)[1]?.map Stage.answer ∧
      ∀ opening inside, (stages rehearsed.events)[1]? = some ⟨.ok opening, inside⟩ →
        machine.disk.KeptApart root (Diagnostic.reportedFiles opening.errors) →
          ∃ inside', (stages made.events)[1]? = some ⟨.ok opening, inside'⟩ ∧
            readings inside' = readings inside ∧ requests inside' = requests inside ∧
            decisions inside' = decisions inside ∧ writes inside' = writes inside ∧
            (decisions inside).map Prod.fst = Diagnostic.reportedFiles opening.errors ∧
            let opened := (dry.check machine).2
            (dry.perform (attempt 1) opened).events = Stage.all ⟨.ok opening, inside⟩ ∧
            (real.perform (attempt 1) opened).events = Stage.all ⟨.ok opening, inside'⟩ ∧
            (AllWritten inside' →
              (real.perform (attempt 1) opened).result =
                (dry.perform (attempt 1) opened).result)) := by
  intro dry real rehearsed made
  obtain ⟨-, -, hState⟩ := site.rehearsed_repair root machine attempts
  refine ⟨congrArg (·.disk) hState, fun hSome => ?_⟩
  have hDry := first_attempt dry hSome machine
  have hReal := first_attempt real hSome machine
  have hCheck : real.check machine = dry.check machine := rfl
  have hDisk : (dry.check machine).2.disk = machine.disk := rfl
  rw [hCheck] at hReal
  generalize dry.check machine = checked at hDry hReal hDisk ⊢
  rcases checked with ⟨failure | first, opened⟩
  · rw [hReal, hDry]
    exact ⟨rfl, fun opening inside hStage => by cases hStage⟩
  · dsimp only at hDry hReal hDisk ⊢
    split at hDry
    · rename_i hClean
      rw [if_pos hClean] at hReal
      rw [hReal, hDry]
      exact ⟨rfl, fun opening inside hStage => by cases hStage⟩
    · rename_i hErrors
      rw [if_neg hErrors] at hReal
      obtain ⟨answer, inside, inside', hRehearsed, hMade, hSame⟩ :=
        site.attempt_previewed root opened 1
      rw [stages_attempt dry opened hRehearsed] at hDry
      rw [stages_attempt real opened hMade] at hReal
      rw [hReal, hDry]
      refine ⟨rfl, fun opening other hStage hApart => ?_⟩
      cases hStage
      obtain ⟨hForeseen, hDecisions, hPatches⟩ := hSame opening rfl (hDisk ▸ hApart)
      refine ⟨inside', rfl, ?_, ?_, ?_, ?_, hDecisions, hRehearsed, hMade, hPatches⟩
      · rw [← readings_foreseen, hForeseen, readings_foreseen]
      · rw [← requests_foreseen, hForeseen, requests_foreseen]
      · rw [← decisions_foreseen, hForeseen, decisions_foreseen]
      · rw [← writes_foreseen, hForeseen, writes_foreseen]

/-- A site with errors in two files, and one answer for both. -/
def Site.plain : Site Unit where
  check _ state := (.ok ⟨some 2, "a.ts(1,1): error TS1: x\nb.ts(2,5): error TS2: y"⟩, state)
  generate _ state := (.ok ⟨"```\na\nc\n```", "m", 0, 0⟩, state)
  refusesRead _ := none
  refusesWrite _ _ := none

/-- A machine with the two files. -/
def Host.Machine.plain : Host.Machine Unit where
  disk := ((Disk.empty ["w"]).withFile "a.ts" (Text.encode "a\nb")).withFile "b.ts"
    (Text.encode "a\nd")
  outside := ()
  printed := ""

theorem plain_attempt_previewed :
    let rehearsed := (Site.plain.collaborators ⟨".", true⟩).repair 1 .plain
    let made := (Site.plain.collaborators ⟨".", false⟩).repair 1 .plain
    rehearsed.state.disk = Host.Machine.plain.disk ∧
      made.state.disk ≠ Host.Machine.plain.disk ∧
      ∃ opening inside inside', (stages rehearsed.events)[1]? = some ⟨.ok opening, inside⟩ ∧
        (stages made.events)[1]? = some ⟨.ok opening, inside'⟩ ∧
        writes inside' = [("a.ts", "a\nc"), ("b.ts", "a\nc")] ∧
        decisions inside' = decisions inside ∧
        ((Site.plain.collaborators ⟨".", false⟩).perform (attempt 1) .plain).result =
          .ok (.processed [⟨"a.ts", "a\nb", "a\nc", 1⟩, ⟨"b.ts", "a\nd", "a\nc", 1⟩]) := by
  intro rehearsed made
  obtain ⟨hDisk, hAttempt⟩ := rehearsal_previews_attempt Site.plain "." .plain 1
  obtain ⟨-, hPreview⟩ := hAttempt (by decide)
  have hPlaces : ∀ file ∈ ["a.ts", "b.ts"],
      Host.Machine.plain.disk.fileAt? (Path.join "." file) = some ["w", file] := by decide
  have hApart : Host.Machine.plain.disk.KeptApart "." ["a.ts", "b.ts"] := by
    intro file hFile other hOther hNe location hAt hOtherAt
    have hSame := (hPlaces file hFile).symm.trans (hAt.trans hOtherAt.symm)
    rw [hPlaces other hOther] at hSame
    cases hSame
    exact hNe rfl
  obtain ⟨opening, inside, hStage, hFiles, hWrites⟩ : ∃ opening inside,
      (stages rehearsed.events)[1]? = some ⟨.ok opening, inside⟩ ∧
        Diagnostic.reportedFiles opening.errors = ["a.ts", "b.ts"] ∧
        writes inside = [("a.ts", "a\nc"), ("b.ts", "a\nc")] := ⟨_, _, rfl, rfl, rfl⟩
  obtain ⟨inside', hMade, -, -, hDecisions, hSameWrites, -, -, -, hPatches⟩ :=
    hPreview opening inside hStage (hFiles ▸ hApart)
  have hAll : AllWritten inside' := by
    obtain ⟨made', list, hList, hFine⟩ : ∃ made' list,
        (stages made.events)[1]? = some ⟨.ok made', list⟩ ∧
          (list.all fun event => !isFailedWrite event) = true := ⟨_, _, rfl, rfl⟩
    cases hMade.symm.trans hList
    simpa [AllWritten] using hFine
  refine ⟨hDisk, by decide, opening, inside, inside', hStage, hMade, hSameWrites.trans hWrites,
    hDecisions, (hPatches hAll).trans rfl⟩

end TypeRepair
