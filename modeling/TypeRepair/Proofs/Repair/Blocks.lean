import TypeRepair.Proofs.Repair.Budget

/-!
# What the loop takes from an answer

Of an answer of the generator the loop takes the first fenced block and nothing else, and an answer
without a block, or with an empty one, comes to the same as no answer at all. So generators whose
answers hold the same blocks lead to the same run, notes apart.

* `usable`, `offer`: the block of an answer, and what the gate makes of it.
* `unnoted_settle`: notes apart, the block alone decides what becomes of a file.
* `blind_run`: the loop does not look at anything else in an answer.
* `Alike.repair_eq`: runs whose collaborators differ in answers of the same use.
-/

namespace TypeRepair.Repair

open Procedure

/-! ## Blocks -/

/-- The block of an answer, unless it is empty. -/
def usable : Except GenerationFault Generated → Option String
  | .error _ => none
  | .ok answer => (Patch.block? answer.content).filter (· ≠ "")

/-- The patch that a block comes to, if the gate lets it through. -/
def offer (group : FileErrors) (previous : String) (block : Option String) : Option Patch :=
  block.bind fun block =>
    match Gate.judge previous (Patch.withFinalNewline previous block) with
    | .refused _ => none
    | .admitted _ =>
      some ⟨group.file, previous, Patch.withFinalNewline previous block, group.errors.length⟩

theorem usable_ok (answer : Generated) :
    usable (.ok answer) = (Patch.block? answer.content).filter (· ≠ "") := rfl

theorem offer_usable (group : FileErrors) (previous : String) (answer : Generated) :
    offer group previous (usable (.ok answer)) =
      (propose group previous answer.content).toOption.map Prod.fst := by
  rw [usable_ok, offer, propose]
  cases Patch.block? answer.content with
  | none => rfl
  | some block =>
    by_cases hEmpty : block = ""
    · subst hEmpty
      rfl
    · rw [Option.filter_some, if_pos (by simpa using hEmpty), Option.bind_some]
      cases hJudge : Gate.judge previous (Patch.withFinalNewline previous block) <;>
        simp [hEmpty, hJudge, Except.toOption]

/-- What is left to do for a file when the generator has answered. -/
def settle (group : FileErrors) (previous : String) :
    Except GenerationFault Generated → Action (Option Patch)
  | .error fault => do
    note (.fileSkipped group.file (.notGenerated fault))
    return none
  | .ok answer => do
    note (.answerReceived group.file answer.model)
    match propose group previous answer.content with
    | .error skip =>
      note (.fileSkipped group.file skip)
      return none
    | .ok (patch, share) =>
      note (.patchAdmitted group.file share)
      apply patch

theorem repairFile_eq (group : FileErrors) :
    repairFile group = (read group.file).bind fun
      | .error fault =>
        (note (.fileSkipped group.file (.unreadable fault))).bind fun _ => .done none
      | .ok previous =>
        (generate (Patch.instruction group.file previous group.errors)).bind
          (settle group previous) := by
  refine congrArg (Procedure.ask (I := calls) (.read group.file)) (funext fun reading => ?_)
  cases reading with
  | error fault => rfl
  | ok previous =>
    refine congrArg (Procedure.ask (I := calls) (.generate _)) (funext fun answer => ?_)
    cases answer with
    | error fault => rfl
    | ok answer =>
      refine congrArg (Procedure.ask (I := calls) (.note _)) (funext fun _ => ?_)
      dsimp only [done_bind]
      cases propose group previous answer.content <;> rfl

theorem unnoted_settle (group : FileErrors) (previous : String)
    (answer : Except GenerationFault Generated) :
    unnoted (settle group previous answer) =
      match offer group previous (usable answer) with
      | none => .done none
      | some patch => unnoted (apply patch) := by
  cases answer with
  | error fault => rfl
  | ok answer =>
    rw [offer_usable, settle, bind_eq, unnoted_note]
    cases propose group previous answer.content <;> rfl

/-! ## Blind procedures -/

/-- Two answers to a call are of the same use: answers of the generator if they hold the same block,
and others if they are the same. -/
def SameUse : (call : Call) → call.Answer → call.Answer → Prop
  | .generate _ => fun first second => usable first = usable second
  | _ => fun first second => first = second

/-- The part of the loop goes on alike after answers of the same use. -/
def Blind {α : Type} : Action α → Prop
  | .done _ => True
  | .ask call next =>
    (∀ first second, SameUse call first second → next first = next second) ∧
      ∀ answer, Blind (next answer)

section

variable {α β : Type}

theorem blind_bind {action : Action α} (h : Blind action) {next : α → Action β}
    (hNext : ∀ a, Blind (next a)) : Blind (action.bind next) := by
  induction action with
  | done a => exact hNext a
  | ask call rest ih =>
    refine ⟨fun first second hSame => ?_, fun answer => ih answer (h.2 answer)⟩
    dsimp only
    rw [h.1 first second hSame]

/-- A call that is not on the generator leaves nothing to be seen. -/
theorem blind_ask (call : Call) (hCall : ∀ first second, SameUse call first second → first = second)
    {next : call.Answer → Action α} (h : ∀ answer, Blind (next answer)) :
    Blind (.ask call next) :=
  ⟨fun first second hSame => congrArg next (hCall first second hSame), h⟩

theorem blind_pass : Blind (unnoted pass) := by
  refine blind_ask .check (fun _ _ hSame => hSame) fun answer => ?_
  cases answer <;> trivial

theorem blind_apply (patch : Patch) : Blind (unnoted (apply patch)) := by
  refine blind_ask (.write patch.file patch.proposed) (fun _ _ hSame => hSame) fun answer => ?_
  cases answer <;> trivial

theorem blind_repairFile (group : FileErrors) : Blind (unnoted (repairFile group)) := by
  rw [repairFile_eq]
  refine blind_ask (.read group.file) (fun _ _ hSame => hSame) fun reading => ?_
  cases reading with
  | error fault => trivial
  | ok previous =>
    refine ⟨fun first second hSame => ?_, fun answer => ?_⟩
    · have hUsable : usable first = usable second := hSame
      exact (unnoted_settle group previous first).trans
        (hUsable ▸ (unnoted_settle group previous second).symm)
    · have hSettle : Blind (unnoted (settle group previous answer)) := by
        rw [unnoted_settle]
        cases offer group previous (usable answer) with
        | none => trivial
        | some patch => exact blind_apply patch
      exact hSettle

theorem blind_repairFiles (groups : List FileErrors) : Blind (unnoted (repairFiles groups)) := by
  induction groups with
  | nil => trivial
  | cons group groups ih =>
    rw [repairFiles, bind_eq, unnoted_bind]
    refine blind_bind (blind_repairFile group) fun patch => ?_
    rw [bind_eq, unnoted_bind]
    exact blind_bind ih fun _ => trivial

theorem blind_attempt (number : Nat) : Blind (unnoted (attempt number)) := by
  rw [unnoted_attempt]
  refine blind_bind blind_pass fun opened => ?_
  cases opened with
  | error failure => trivial
  | ok errors =>
    dsimp only
    split
    · trivial
    · exact blind_bind (blind_repairFiles _) fun _ => trivial

theorem blind_attemptsFrom (attempts errorsBefore left : Nat) (progress : Progress) :
    Blind (unnoted (attemptsFrom attempts errorsBefore left progress)) := by
  induction left generalizing progress with
  | zero =>
    rw [unnoted_attemptsFrom_zero]
    refine blind_bind blind_pass fun opened => ?_
    cases opened <;> trivial
  | succ left ih =>
    rw [unnoted_attemptsFrom_succ]
    refine blind_bind (blind_attempt 0) fun outcome => ?_
    rcases outcome with failure | _ | patches
    · trivial
    · trivial
    · refine blind_bind blind_pass fun opened => ?_
      cases opened with
      | error failure => trivial
      | ok errors =>
        dsimp only
        split
        · trivial
        · exact ih (progress.recordAll patches)

theorem blind_run (attempts : Nat) : Blind (unnoted (run attempts)) := by
  rw [unnoted_run]
  refine blind_bind blind_pass fun opened => ?_
  cases opened with
  | error failure => trivial
  | ok errors =>
    dsimp only
    split
    · trivial
    · exact blind_attemptsFrom attempts errors.length attempts .none

end

/-! ## Runs -/

/-- What a run does to others: passes, readings and writes with their answers, and instructions. -/
inductive Deed
  | checked (answer : Except Checker.Failure Checker.Pass)
  | wasRead (file : String) (answer : Except SystemFault String)
  | asked (instruction : String)
  | written (file body : String) (answer : Except SystemFault Unit)

/-- The deeds among events, in order. -/
def deeds (events : List (Event calls)) : List Deed :=
  events.filterMap fun
    | ⟨.check, answer⟩ => some (.checked answer)
    | ⟨.read file, answer⟩ => some (.wasRead file answer)
    | ⟨.generate instruction, _⟩ => some (.asked instruction)
    | ⟨.write file body, answer⟩ => some (.written file body answer)
    | ⟨.note _, _⟩ => none

theorem deeds_contacts (events : List (Event calls)) : deeds (contacts events) = deeds events := by
  induction events with
  | nil => rfl
  | cons event events ih =>
    obtain ⟨call, answer⟩ := event
    cases call with
    | note n => exact ih
    | _ => exact congrArg (_ :: ·) ih

theorem deeds_cons {call : Call} {first second : call.Answer} (hSame : SameUse call first second)
    {rest later : List (Event calls)} (h : deeds rest = deeds later) :
    deeds (⟨call, first⟩ :: rest) = deeds (⟨call, second⟩ :: later) := by
  cases call with
  | note n => exact h
  | generate instruction => exact congrArg (_ :: ·) h
  | _ =>
    obtain rfl := hSame
    exact congrArg (_ :: ·) h

/-- The collaborators do the same and give answers of the same use. -/
def Alike {σ : Type} (collaborators others : Collaborators σ) : Prop :=
  ∀ call state,
    SameUse call (collaborators.handler call state).1 (others.handler call state).1 ∧
      (collaborators.handler call state).2 = (others.handler call state).2

section

variable {σ α : Type} {collaborators others : Collaborators σ}

/-- By induction on the procedure: after answers of the same use both runs go on with one
procedure. -/
theorem Alike.perform_eq (h : Alike collaborators others) {action : Action α}
    (hBlind : Blind action) (state : σ) :
    let run := collaborators.perform action state
    let other := others.perform action state
    run.result = other.result ∧ run.state = other.state ∧
      deeds run.events = deeds other.events := by
  induction action generalizing state with
  | done a => exact ⟨rfl, rfl, rfl⟩
  | ask call next ih =>
    obtain ⟨hSame, hState⟩ := h call state
    have hNext := hBlind.1 _ _ hSame
    obtain ⟨hResult, hAfter, hDeeds⟩ := ih _ (hBlind.2 _) (collaborators.handler call state).2
    simp only [Collaborators.perform, run_ask] at hResult hAfter hDeeds ⊢
    rw [← hState, ← hNext]
    exact ⟨hResult, hAfter, deeds_cons hSame hDeeds⟩

theorem Alike.repair_eq (h : Alike collaborators others) (attempts : Nat) (state : σ) :
    let run := collaborators.repair attempts state
    let other := others.repair attempts state
    run.result = other.result ∧ run.state = other.state ∧
      deeds run.events = deeds other.events := by
  have hPerform := h.perform_eq (blind_run attempts) state
  rw [perform_unnoted, perform_unnoted] at hPerform
  simp only [deeds_contacts] at hPerform
  exact hPerform

end

end TypeRepair.Repair
