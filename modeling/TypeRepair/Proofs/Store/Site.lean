import TypeRepair.Program.Basic
import TypeRepair.Program.Machine
import TypeRepair.Proofs.Program.Course
import TypeRepair.Repair.Collaborators

/-!
# Stores at work

A store together with whatever checker and generator the loop is run with, on a machine on which
some files may refuse to be read or written.

* `Site.read_eq`, `Site.rehearsed_write`, `Site.real_write`: what the calls on a store come to.
* `Site.rehearsed_repair`: a rehearsed run leaves the disk alone.
* `program_repair`: the loop of the program is the loop at a site.
* `dry_run_keeps_disk`: a dry run of the program leaves all files as they are.
-/

namespace TypeRepair

/-- What a store is used with: a checker that sees the disk, a generator that does not, and the
paths and bodies for which the system refuses to read or to write. -/
structure Site (σ : Type) where
  check : Disk → σ → Except Checker.Failure Checker.Pass × σ
  generate : String → σ → Except GenerationFault Generated × σ
  refusesRead : String → Option SystemFault
  refusesWrite : String → String → Option SystemFault

namespace Site

variable {σ : Type}

/-- What the calls of a store on the host come to. A store starts no program and sends nothing. -/
def host (site : Site σ) : Handler Host.calls (Host.Machine σ)
  | .read path, machine =>
    match site.refusesRead path with
    | some fault => (.error fault, machine)
    | none => (machine.disk.read path, machine)
  | .write path body, machine =>
    match site.refusesWrite path body with
    | some fault => (.error fault, machine)
    | none =>
      let (answer, disk) := machine.disk.write path (Text.encode body)
      (answer, { machine with disk := disk })
  | .pathExists path, machine => (machine.disk.pathExists path, machine)
  | .execute _ _, machine => (.error .notFound, machine)
  | .send _, machine => (.unanswered, machine)
  | .print _, machine => ((), machine)
  | .note _, machine => ((), machine)

/-- The collaborators of the loop when it uses a store. -/
def collaborators (site : Site σ) (store : Store) : Repair.Collaborators (Host.Machine σ) where
  check machine :=
    let (answer, outside) := site.check machine.disk machine.outside
    (answer, { machine with outside := outside })
  read file machine :=
    let run := (store.read file).run site.host machine
    (run.result, run.state)
  generate instruction machine :=
    let (answer, outside) := site.generate instruction machine.outside
    (answer, { machine with outside := outside })
  write file body machine :=
    let run := (store.write file body).run site.host machine
    (run.result, run.state)

/-- What comes of reading the text at a path of a disk. -/
def text (site : Site σ) (path : String) (disk : Disk) : Except SystemFault String :=
  match site.refusesRead path with
  | some fault => .error fault
  | none =>
    match disk.read path with
    | .error fault => .error fault
    | .ok bytes =>
      match Text.decode? bytes with
      | some text => .ok text
      | none => .error .notUtf8

variable (site : Site σ) (root : String) (machine : Host.Machine σ)

theorem read_eq (store : Store) (file : String) :
    (site.collaborators store).read file machine =
      (site.text (Path.join store.root file) machine.disk, machine) := by
  simp only [collaborators, Store.read, Host.readText, Host.read, Procedure.call_eq,
    Procedure.bind_eq, Procedure.ask_bind, Procedure.done_bind, Procedure.run_ask, host, text]
  cases site.refusesRead (Path.join store.root file) with
  | some fault => rfl
  | none =>
    cases machine.disk.read (Path.join store.root file) with
    | error fault => rfl
    | ok bytes =>
      dsimp only
      cases Text.decode? bytes with
      | none => rfl
      | some text => rfl

/-- A rehearsed write succeeds and does nothing. -/
theorem rehearsed_write (file body : String) :
    (site.collaborators ⟨root, true⟩).write file body machine = (.ok (), machine) := rfl

theorem real_write (file body : String) :
    (site.collaborators ⟨root, false⟩).write file body machine =
      match site.refusesWrite (Path.join root file) body with
      | some fault => (.error fault, machine)
      | none =>
        let (answer, disk) := machine.disk.write (Path.join root file) (Text.encode body)
        (answer, { machine with disk := disk }) := rfl

/-- The collaborators of a rehearsed run on a disk, which stays as it is. -/
def rehearsal (site : Site σ) (root : String) (disk : Disk) : Repair.Collaborators σ where
  check := site.check disk
  read file outside := (site.text (Path.join root file) disk, outside)
  generate := site.generate
  write _ _ outside := (.ok (), outside)

/-- A rehearsed run always finds the disk as it was, and leaves it so. -/
theorem rehearsed_repair (attempts : Nat) :
    let run := (site.collaborators ⟨root, true⟩).repair attempts machine
    let rehearsed := (site.rehearsal root machine.disk).repair attempts machine.outside
    run.result = rehearsed.result ∧ run.events = rehearsed.events ∧
      run.state = { machine with outside := rehearsed.state } := by
  have hStep : ∀ call s t, True → s = { machine with outside := t } →
      ((site.collaborators ⟨root, true⟩).handler call s).1 =
          ((site.rehearsal root machine.disk).handler call t).1 ∧
        ((site.collaborators ⟨root, true⟩).handler call s).2 =
          { machine with outside := ((site.rehearsal root machine.disk).handler call t).2 } := by
    rintro call s t - rfl
    cases call with
    | read file =>
      have hRead := site.read_eq { machine with outside := t } ⟨root, true⟩ file
      exact ⟨congrArg Prod.fst hRead, congrArg Prod.snd hRead⟩
    | _ => exact ⟨rfl, rfl⟩
  exact Procedure.run_related hStep (Procedure.within_true _) rfl

end Site

/-! ## The program -/

namespace Host

variable {σ : Type}

/-- The call leaves the files alone; if it can see them, they have to be the same. -/
def Abroad (same : Prop) : Call → Prop
  | .send _ | .note _ => True
  | .execute _ _ => same
  | _ => False

/-- What is done outside leaves the rest of the machine as it is and does not depend on it. -/
theorem Outside.perform_abroad (outside : Outside σ) {α : Type} {action : Action α}
    (machine other : Machine σ) (h : action.Within (Abroad (machine.disk = other.disk)))
    (hOutside : machine.outside = other.outside) :
    (outside.perform action machine).result = (outside.perform action other).result ∧
      (outside.perform action machine).state =
        { machine with outside := (outside.perform action other).state.outside } := by
  have hStep : ∀ call s t, Abroad (machine.disk = other.disk) call →
      (s = { machine with outside := t.outside } ∧ t.disk = other.disk) →
      (outside.handler call s).1 = (outside.handler call t).1 ∧
        (outside.handler call s).2 =
          { machine with outside := (outside.handler call t).2.outside } ∧
        (outside.handler call t).2.disk = other.disk := by
    rintro call s t hAbroad ⟨rfl, hDisk⟩
    cases call with
    | send request => exact ⟨rfl, rfl, hDisk⟩
    | note n => exact ⟨rfl, rfl, hDisk⟩
    | execute program arguments =>
      have hSame : machine.disk = t.disk := Eq.trans hAbroad hDisk.symm
      simp only [Outside.handler, hSame, hDisk, and_self]
    | _ => exact hAbroad.elim
  obtain ⟨hResult, -, hState, -⟩ := Procedure.run_related hStep h
    (s := machine) (t := other) ⟨by rw [← hOutside], rfl⟩
  exact ⟨hResult, hState⟩

/-- The site at which the program works on a machine. Every file that the disk can give or take is
read or written. -/
def Outside.site (outside : Outside σ) (project : String) (client : Client) : Site σ where
  check disk s :=
    let run := outside.perform (Program.check project) ⟨disk, s, ""⟩
    (run.result, run.state.outside)
  generate instruction s :=
    let run := outside.perform (client.generate instruction) ⟨⟨[], []⟩, s, ""⟩
    (run.result, run.state.outside)
  refusesRead _ := none
  refusesWrite _ _ := none

end Host

namespace Program

open Host

variable {σ : Type}

/-- The meaning of the calls of the loop is that of the collaborators at the site. -/
theorem through_meaning (outside : Outside σ) (project : String) (client : Client)
    (store : Store) :
    Procedure.Handler.through (meaning project client store) outside.handler =
      ((outside.site project client).collaborators store).handler := by
  funext call machine
  have hServes := meaning_within project client store call
  cases call with
  | check =>
    have hAbroad : (check project).Within (Abroad (machine.disk = machine.disk)) := by
      refine Procedure.Within.mono (fun call hCall => ?_) hServes
      cases call with
      | execute program arguments => exact rfl
      | note n => trivial
      | _ => exact hCall.elim
    obtain ⟨hResult, hState⟩ :=
      outside.perform_abroad machine ⟨machine.disk, machine.outside, ""⟩ hAbroad rfl
    exact Prod.ext hResult hState
  | read file =>
    have hSame : Procedure.run outside.handler (store.read file) machine =
        Procedure.run (outside.site project client).host (store.read file) machine := by
      refine Procedure.run_congr (fun call s hCall => ?_) hServes machine
      cases call with
      | read path => rfl
      | _ => exact hCall.elim
    exact congrArg (fun run => (run.result, run.state)) hSame
  | generate instruction =>
    have hAbroad : (client.generate instruction).Within (Abroad (machine.disk = ⟨[], []⟩)) := by
      refine Procedure.Within.mono (fun call hCall => ?_) hServes
      cases call with
      | send request => trivial
      | note n => trivial
      | _ => exact hCall.elim
    obtain ⟨hResult, hState⟩ :=
      outside.perform_abroad machine ⟨⟨[], []⟩, machine.outside, ""⟩ hAbroad rfl
    exact Prod.ext hResult hState
  | write file body =>
    have hSame : Procedure.run outside.handler (store.write file body) machine =
        Procedure.run (outside.site project client).host (store.write file body) machine := by
      refine Procedure.run_congr (fun call s hCall => ?_) hServes machine
      cases call with
      | write path bytes => rfl
      | note n => rfl
      | _ => exact hCall.elim
    exact congrArg (fun run => (run.result, run.state)) hSame
  | note n => rfl

/-- The loop of the program on a machine is the loop at the site, with the store that the flag
chooses. -/
theorem program_repair (outside : Outside σ) (settings : Settings) (dryRun : Bool)
    (machine : Machine σ) :
    let client := Client.ofCredentials settings.provider settings.credentials
    let site := outside.site settings.tsconfigPath client
    let program := outside.perform (repair settings dryRun) machine
    let loop := (site.collaborators ⟨".", dryRun⟩).repair settings.maxRetries machine
    program.result = loop.result ∧ program.state = loop.state := by
  intro client site program loop
  have hVia := Procedure.run_via (meaning settings.tsconfigPath client ⟨".", dryRun⟩)
    outside.handler (Repair.run settings.maxRetries) machine
  rwa [through_meaning] at hVia

/-- A dry run leaves the disk as it is. -/
theorem dry_run_keeps_disk (outside : Outside σ) (settings : Settings) (machine : Machine σ) :
    (outside.perform (repair settings true) machine).state.disk = machine.disk := by
  obtain ⟨-, hState⟩ := program_repair outside settings true machine
  let client := Client.ofCredentials settings.provider settings.credentials
  obtain ⟨-, -, hRehearsed⟩ := (outside.site settings.tsconfigPath client).rehearsed_repair "."
    machine settings.maxRetries
  rw [hState, hRehearsed]

end Program

end TypeRepair
