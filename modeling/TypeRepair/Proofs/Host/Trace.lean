import TypeRepair.Host
import TypeRepair.Proofs.Procedure.Path

/-!
# Calls on the host

The events of a run on the host by kind: what was executed, sent, written and printed.
-/

namespace TypeRepair.Host

/-- The event of a note. -/
abbrev noted (n : Note) : Event calls := ⟨.note n, ()⟩

/-- A sequence that starts with a call begins with the event of the call. -/
theorem yields_call {α : Type} {c : Call} {next : c.Answer → Action α}
    {events : List (Event calls)} {result : α}
    (h : (Procedure.bind (Procedure.call c) next).Yields events result) :
    ∃ answer rest, events = ⟨c, answer⟩ :: rest ∧ (next answer).Yields rest result :=
  h

/-- What came of the programs that were started. -/
def executions (events : List (Event calls)) : List (Except SystemFault Checker.Output) :=
  events.filterMap fun
    | ⟨.execute _ _, answer⟩ => some answer
    | _ => none

/-- The requests that were sent, each with what came of it. -/
def sendings (events : List (Event calls)) : List (Http.Request × Http.Delivery) :=
  events.filterMap fun
    | ⟨.send request, delivery⟩ => some (request, delivery)
    | _ => none

/-- The attempted writes, each with the path, the body and what came of it. -/
def fileWrites (events : List (Event calls)) : List (String × String × Except SystemFault Unit) :=
  events.filterMap fun
    | ⟨.write path body, answer⟩ => some (path, body, answer)
    | _ => none

/-- The texts that were printed. -/
def printings (events : List (Event calls)) : List String :=
  events.filterMap fun
    | ⟨.print text, _⟩ => some text
    | _ => none

section Kinds

variable (first second : List (Event calls)) (n : Note)

@[simp] theorem executions_nil : executions [] = [] := rfl

@[simp] theorem sendings_nil : sendings [] = [] := rfl

@[simp] theorem fileWrites_nil : fileWrites [] = [] := rfl

@[simp] theorem printings_nil : printings [] = [] := rfl

@[simp] theorem executions_append :
    executions (first ++ second) = executions first ++ executions second :=
  List.filterMap_append

@[simp] theorem sendings_append :
    sendings (first ++ second) = sendings first ++ sendings second :=
  List.filterMap_append

@[simp] theorem fileWrites_append :
    fileWrites (first ++ second) = fileWrites first ++ fileWrites second :=
  List.filterMap_append

@[simp] theorem printings_append :
    printings (first ++ second) = printings first ++ printings second :=
  List.filterMap_append

@[simp] theorem executions_noted : executions (noted n :: first) = executions first := rfl

@[simp] theorem sendings_noted : sendings (noted n :: first) = sendings first := rfl

@[simp] theorem fileWrites_noted : fileWrites (noted n :: first) = fileWrites first := rfl

@[simp] theorem printings_noted : printings (noted n :: first) = printings first := rfl

end Kinds

end TypeRepair.Host
