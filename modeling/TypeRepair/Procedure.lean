/-!
# Procedures

A procedure is a finite tree of calls on an interface: at each node it makes one call and goes on
with the answer. What the calls do is left open. `run` gives them a meaning as functions on a state
and records each call with its answer; `via` expresses the calls of one interface by procedures on
another; `runM` performs them in a monad.

* `run_bind`: the parts of a sequence run one after the other, and so do their records.
* `run_via`: a procedure expressed on another interface ends as the procedure itself does under the
  meaning that its calls have there.
-/

namespace TypeRepair

/-- The calls that can be made and the type of each call's answer. -/
structure Interface where
  Call : Type
  Answer : Call → Type

/-- A call together with the answer it got. -/
structure Event (I : Interface) where
  call : I.Call
  answer : I.Answer call

/-- A result, or a call and how to go on with its answer. -/
inductive Procedure (I : Interface) (α : Type) : Type
  | done (result : α)
  | ask (call : I.Call) (next : I.Answer call → Procedure I α)

/-- What a run leaves: its result, the state afterwards and the calls that were made, in order. -/
structure Run (I : Interface) (σ α : Type) where
  result : α
  state : σ
  events : List (Event I)

/-- A meaning of the calls of an interface on a state. -/
abbrev Handler (I : Interface) (σ : Type) :=
  (call : I.Call) → σ → I.Answer call × σ

namespace Procedure

variable {I J : Interface} {σ α β : Type}

/-- Goes on with `next` where the procedure ends. -/
protected def bind : Procedure I α → (α → Procedure I β) → Procedure I β
  | done result, next => next result
  | ask call rest, next => ask call fun answer => (rest answer).bind next

instance : Monad (Procedure I) where
  pure := done
  bind := Procedure.bind

/-- The procedure that makes one call. -/
def call (c : I.Call) : Procedure I (I.Answer c) :=
  ask c done

/-- Runs a procedure from a state. -/
def run (handler : Handler I σ) : Procedure I α → σ → Run I σ α
  | done result, state => ⟨result, state, []⟩
  | ask call next, state =>
    let (answer, after) := handler call state
    let rest := run handler (next answer) after
    ⟨rest.result, rest.state, ⟨call, answer⟩ :: rest.events⟩

/-- Performs a procedure in a monad. -/
def runM {m : Type → Type} [Monad m] (perform : (c : I.Call) → m (I.Answer c)) :
    Procedure I α → m α
  | done result => pure result
  | ask call next => do runM perform (next (← perform call))

/-- Expresses each call by a procedure on another interface. -/
def via (meaning : (c : I.Call) → Procedure J (I.Answer c)) : Procedure I α → Procedure J α
  | done result => done result
  | ask call next => (meaning call).bind fun answer => via meaning (next answer)

@[simp] theorem pure_eq (a : α) : (pure a : Procedure I α) = done a := rfl

@[simp] theorem bind_eq (p : Procedure I α) (next : α → Procedure I β) :
    p >>= next = p.bind next := rfl

@[simp] theorem done_bind (a : α) (next : α → Procedure I β) :
    (done a).bind next = next a := rfl

@[simp] theorem ask_bind (c : I.Call) (rest : I.Answer c → Procedure I α)
    (next : α → Procedure I β) :
    (ask c rest).bind next = ask c fun answer => (rest answer).bind next := rfl

@[simp] theorem call_eq (c : I.Call) : call c = ask c done := rfl

@[simp] theorem run_done (handler : Handler I σ) (a : α) (s : σ) :
    run handler (done a) s = ⟨a, s, []⟩ := rfl

@[simp] theorem run_ask (handler : Handler I σ) (c : I.Call) (next : I.Answer c → Procedure I α)
    (s : σ) :
    run handler (ask c next) s =
      let rest := run handler (next (handler c s).1) (handler c s).2
      ⟨rest.result, rest.state, ⟨c, (handler c s).1⟩ :: rest.events⟩ := rfl

theorem run_bind (handler : Handler I σ) (p : Procedure I α) (next : α → Procedure I β) (s : σ) :
    run handler (p.bind next) s =
      let first := run handler p s
      let second := run handler (next first.result) first.state
      ⟨second.result, second.state, first.events ++ second.events⟩ := by
  induction p generalizing s with
  | done a => rfl
  | ask c rest ih => simp [ih]

/-- The meaning of a call that is expressed by a procedure, its own calls unrecorded. -/
def Handler.through (meaning : (c : I.Call) → Procedure J (I.Answer c)) (handler : Handler J σ) :
    Handler I σ := fun c s =>
  let inner := run handler (meaning c) s
  (inner.result, inner.state)

theorem run_via (meaning : (c : I.Call) → Procedure J (I.Answer c)) (handler : Handler J σ)
    (p : Procedure I α) (s : σ) :
    (run handler (p.via meaning) s).result =
        (run (Handler.through meaning handler) p s).result ∧
      (run handler (p.via meaning) s).state =
        (run (Handler.through meaning handler) p s).state := by
  induction p generalizing s with
  | done a => exact ⟨rfl, rfl⟩
  | ask c next ih =>
    have h := ih (run handler (meaning c) s).result (run handler (meaning c) s).state
    simpa [via, run_bind, Handler.through] using h

end Procedure

end TypeRepair
