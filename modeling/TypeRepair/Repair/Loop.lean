import TypeRepair.Diagnostic.Checker
import TypeRepair.Diagnostic.Group
import TypeRepair.Diagnostic.Parser
import TypeRepair.Patch.Fence
import TypeRepair.Patch.Instruction
import TypeRepair.Procedure
import TypeRepair.Repair.Summary

/-!
# The repair loop

A first pass of the checker counts the errors. Each attempt opens with a pass of its own, asks the
generator once for every file with errors, writes the bodies that the gate lets through, and ends
with a pass that may find the project clean. After the last attempt one more pass counts what is
left. Only a pass that cannot be made ends the loop with a failure; a file that cannot be repaired
is noted and left for the next attempt.
-/

namespace TypeRepair.Repair

/-- The calls of the loop on its collaborators. -/
inductive Call
  /-- Run the checker. -/
  | check
  /-- Read a file by its reported path. -/
  | read (file : String)
  /-- Ask the generator. -/
  | generate (instruction : String)
  /-- Replace the body of a file. -/
  | write (file body : String)
  /-- Log a note. -/
  | note (note : Note)

/-- The answers to the calls. -/
@[reducible] def Call.Answer : Call → Type
  | check => Except Checker.Failure Checker.Pass
  | read _ => Except SystemFault String
  | generate _ => Except GenerationFault Generated
  | write _ _ => Except SystemFault Unit
  | note _ => Unit

/-- The interface of the loop. -/
abbrev calls : Interface := ⟨Call, Call.Answer⟩

/-- A part of the loop. -/
abbrev Action (α : Type) := Procedure calls α

/-- Runs the checker. -/
def check : Action (Except Checker.Failure Checker.Pass) := Procedure.call (I := calls) .check

/-- Reads a file. -/
def read (file : String) : Action (Except SystemFault String) :=
  Procedure.call (I := calls) (.read file)

/-- Asks the generator. -/
def generate (instruction : String) : Action (Except GenerationFault Generated) :=
  Procedure.call (I := calls) (.generate instruction)

/-- Replaces the body of a file. -/
def write (file body : String) : Action (Except SystemFault Unit) :=
  Procedure.call (I := calls) (.write file body)

/-- Logs a note. -/
def note (note : Note) : Action Unit :=
  Procedure.call (I := calls) (.note note)

/-- A pass of the checker and the errors that it reports. -/
def pass : Action (Except Checker.Failure (List Diagnostic)) := do
  match ← check with
  | .error failure => return .error failure
  | .ok made =>
    let errors := Diagnostic.parse made.text
    note (.passMade made.exitCode errors.length)
    return .ok errors

/-- What an answer proposes for a file, as the gate decides. -/
def propose (group : FileErrors) (previous answer : String) : Except Skip (Patch × Binary64) :=
  match Patch.block? answer with
  | none => .error .noBlock
  | some body =>
    if body = "" then .error .noBlock
    else
      let proposed := Patch.withFinalNewline previous body
      match Gate.judge previous proposed with
      | .refused reason => .error (.refused reason)
      | .admitted share => .ok (⟨group.file, previous, proposed, group.errors.length⟩, share)

/-- Reads a file, asks for a new body and takes it to the gate. -/
def request (group : FileErrors) : Action (Except Skip Patch) := do
  match ← read group.file with
  | .error fault => return .error (.unreadable fault)
  | .ok previous =>
    match ← generate (Patch.instruction group.file previous group.errors) with
    | .error fault => return .error (.notGenerated fault)
    | .ok answer =>
      note (.answerReceived group.file answer.model)
      match propose group previous answer.content with
      | .error skip => return .error skip
      | .ok (patch, share) =>
        note (.patchAdmitted group.file share)
        return .ok patch

/-- Writes the body of a patch; `none` if that fails. -/
def apply (patch : Patch) : Action (Option Patch) := do
  match ← write patch.file patch.proposed with
  | .error fault =>
    note (.fixNotWritten patch.file fault)
    return none
  | .ok () =>
    note (.fixApplied patch.file patch.errorsTargeted
      (Gate.changedLines patch.previous patch.proposed))
    return some patch

/-- Deals with one file of an attempt: the patch that was written, if one was. -/
def repairFile (group : FileErrors) : Action (Option Patch) := do
  match ← request group with
  | .error skip =>
    note (.fileSkipped group.file skip)
    return none
  | .ok patch => apply patch

/-- Deals with the files of an attempt one after the other. -/
def repairFiles : List FileErrors → Action (List Patch)
  | [] => return []
  | group :: groups => do
    let patch ← repairFile group
    let patches ← repairFiles groups
    return patch.toList ++ patches

/-- How an attempt ended. -/
inductive Attempt
  /-- Its own pass was clean. -/
  | alreadyClean
  /-- Every file was dealt with; these patches were written. -/
  | processed (patches : List Patch)

/-- One attempt: a pass, and then each file that it reports. -/
def attempt (number : Nat) : Action (Except Checker.Failure Attempt) := do
  match ← pass with
  | .error failure => return .error failure
  | .ok errors =>
    if errors.isEmpty then
      note .alreadyResolved
      return .ok .alreadyClean
    else
      let groups := Diagnostic.groupByFile errors
      note (.errorsRemaining number errors.length groups.length)
      return .ok (.processed (← repairFiles groups))

/-- The attempts that are left, of `attempts` in all, and the last pass after them. -/
def attemptsFrom (attempts errorsBefore : Nat) :
    (left : Nat) → Progress → Action (Except Checker.Failure Summary)
  | 0, progress => do
    match ← pass with
    | .error failure => return .error failure
    | .ok errors =>
      note (.attemptsExhausted errors.length attempts)
      return .ok (progress.exhausted errorsBefore errors.length)
  | left + 1, progress => do
    let number := attempts - left
    note (.attemptBegins number attempts)
    match ← attempt number with
    | .error failure => return .error failure
    | .ok .alreadyClean => return .ok (progress.resolved errorsBefore)
    | .ok (.processed patches) =>
      let progress := progress.recordAll patches
      match ← pass with
      | .error failure => return .error failure
      | .ok errors =>
        if errors.isEmpty then
          note (.allFixed number)
          return .ok (progress.resolved errorsBefore)
        else
          note (.errorsAfterAttempt number errors.length)
          attemptsFrom attempts errorsBefore left progress

/-- The repair loop with a number of attempts. -/
def run (attempts : Nat) : Action (Except Checker.Failure Summary) := do
  match ← pass with
  | .error failure => return .error failure
  | .ok errors =>
    note (.errorsFound errors.length)
    if errors.isEmpty then return .ok .clean
    else attemptsFrom attempts errors.length attempts .none

end TypeRepair.Repair
