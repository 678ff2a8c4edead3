import TypeRepair.Repair.Loop

/-!
# Collaborators of the loop

The checker, the generator and the store as functions on a state of their own, which notes do not
touch. The state may remember every call, so that any behaviour can be described.
-/

namespace TypeRepair.Repair

/-- A checker, a generator and a store on states of type `σ`. -/
structure Collaborators (σ : Type) where
  check : σ → Except Checker.Failure Checker.Pass × σ
  read : String → σ → Except SystemFault String × σ
  generate : String → σ → Except GenerationFault Generated × σ
  write : String → String → σ → Except SystemFault Unit × σ

namespace Collaborators

variable {σ : Type}

/-- What the calls of the loop do. -/
def handler (collaborators : Collaborators σ) : Handler calls σ
  | .check, state => collaborators.check state
  | .read file, state => collaborators.read file state
  | .generate instruction, state => collaborators.generate instruction state
  | .write file body, state => collaborators.write file body state
  | .note _, state => ((), state)

/-- Runs a part of the loop. -/
def perform {α : Type} (collaborators : Collaborators σ) (action : Action α) (state : σ) :
    Run calls σ α :=
  action.run collaborators.handler state

/-- Runs the loop with a number of attempts. -/
def repair (collaborators : Collaborators σ) (attempts : Nat) (state : σ) :
    Run calls σ (Except Checker.Failure Summary) :=
  collaborators.perform (run attempts) state

end Collaborators

end TypeRepair.Repair
