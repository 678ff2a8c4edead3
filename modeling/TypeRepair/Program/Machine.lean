import TypeRepair.Disk.Medium
import TypeRepair.Host

/-!
# Machines

A host whose files and printed text are values. What lies outside of it, the programs it can start
and the services it can reach, are functions on a state of their own; a program may look at the
files, but only the calls on the host change them. Its files are on a medium that takes every body
whole, unless another one is given.
-/

namespace TypeRepair.Host

/-- What is outside of a machine. -/
structure Outside (σ : Type) where
  execute : String → List String → Disk → σ → Except SystemFault Checker.Output × σ
  send : Http.Request → σ → Http.Delivery × σ

/-- A machine and the state of what is outside of it. -/
structure Machine (σ : Type) where
  disk : Disk
  outside : σ
  /-- What was written to standard output. -/
  printed : String

namespace Outside

variable {σ : Type}

/-- What the calls do on a machine. -/
def handler (outside : Outside σ) : Handler calls (Machine σ)
  | .read path, machine => (machine.disk.read path, machine)
  | .write path body, machine =>
    let (answer, disk) := machine.disk.write path (Text.encode body)
    (answer, { machine with disk := disk })
  | .pathExists path, machine => (machine.disk.pathExists path, machine)
  | .execute program arguments, machine =>
    let (answer, after) := outside.execute program arguments machine.disk machine.outside
    (answer, { machine with outside := after })
  | .send request, machine =>
    let (delivery, after) := outside.send request machine.outside
    (delivery, { machine with outside := after })
  | .print text, machine => ((), { machine with printed := machine.printed ++ text })
  | .note _, machine => ((), machine)

/-- What the calls do on a machine with its files on a medium. -/
def handlerOn (outside : Outside σ) (medium : Medium σ) : Handler calls (Machine σ)
  | .write path body, machine =>
    let (answer, disk, after) :=
      machine.disk.writeOn medium path (Text.encode body) machine.outside
    (answer, { machine with disk := disk, outside := after })
  | call, machine => outside.handler call machine

theorem handlerOn_plain (outside : Outside σ) : outside.handlerOn .plain = outside.handler := by
  funext call machine
  cases call with
  | write path body => simp only [handlerOn, handler, Disk.writeOn_plain]
  | _ => rfl

/-- Runs a procedure on a machine. -/
def perform {α : Type} (outside : Outside σ) (action : Action α) (machine : Machine σ) :
    Run calls (Machine σ) α :=
  action.run outside.handler machine

end Outside

/-- The notes among the calls of a run. -/
def notes (events : List (Event calls)) : List Note :=
  events.filterMap fun
    | ⟨.note note, _⟩ => some note
    | _ => none

end TypeRepair.Host
