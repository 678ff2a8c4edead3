import TypeRepair.Procedure

/-!
# Paths through a procedure

A path gives an answer to each call that a procedure makes until it is done. What holds of every
path holds of every run, whatever the handler and its state; what a handler does to its state is
read off the events of the path.

* `yields_run`, `follows_run`: the events of a run are a path, and the handler's answers along it.
* `run_eq_of_yields`: the only path along which the handler answers is the one of its run.
* `yields_bind`, `follows_append`: paths and answers of a sequence are those of its parts.
* `run_related`: handlers that answer alike from related states lead to the same events.
* `run_congr`: calls that a procedure does not make have no influence on its runs.
-/

namespace TypeRepair

variable {I : Interface} {σ τ α β : Type}

/-- The answers of the events are the handler's, which goes from the first state to the last. -/
def Handler.Follows (handler : Handler I σ) : σ → List (Event I) → σ → Prop
  | state, [], final => final = state
  | state, event :: events, final =>
    event.answer = (handler event.call state).1 ∧
      Handler.Follows handler (handler event.call state).2 events final

theorem Handler.follows_append {handler : Handler I σ} {state final : σ}
    {first second : List (Event I)} :
    handler.Follows state (first ++ second) final ↔
      ∃ middle, handler.Follows state first middle ∧ handler.Follows middle second final := by
  induction first generalizing state with
  | nil => simp [Handler.Follows]
  | cons event events ih => simp [Handler.Follows, ih, and_assoc]

/-- The state after the calls of these events, whatever they were answered. -/
def Handler.after (handler : Handler I σ) (state : σ) (events : List (Event I)) : σ :=
  events.foldl (fun s event => (handler event.call s).2) state

theorem Handler.after_append (handler : Handler I σ) (state : σ) (first second : List (Event I)) :
    handler.after state (first ++ second) = handler.after (handler.after state first) second :=
  List.foldl_append

theorem Handler.Follows.eq_after {handler : Handler I σ} {state final : σ}
    {events : List (Event I)} (h : handler.Follows state events final) :
    final = handler.after state events := by
  induction events generalizing state with
  | nil => exact h
  | cons event events ih => exact ih h.2

namespace Procedure

/-- The events are a path through the procedure that ends with the result. -/
def Yields : Procedure I α → List (Event I) → α → Prop
  | done a, events, result => events = [] ∧ result = a
  | ask c next, events, result =>
    ∃ answer rest, events = ⟨c, answer⟩ :: rest ∧ (next answer).Yields rest result

theorem yields_bind {p : Procedure I α} {next : α → Procedure I β} {events : List (Event I)}
    {result : β} :
    (p.bind next).Yields events result ↔
      ∃ first a second, events = first ++ second ∧ p.Yields first a ∧
        (next a).Yields second result := by
  induction p generalizing events with
  | done a =>
    constructor
    · intro h
      exact ⟨[], a, events, rfl, ⟨rfl, rfl⟩, h⟩
    · rintro ⟨_, _, second, rfl, ⟨rfl, rfl⟩, h⟩
      exact h
  | ask c rest ih =>
    constructor
    · rintro ⟨answer, tail, rfl, h⟩
      obtain ⟨first, a, second, rfl, hFirst, hSecond⟩ := (ih answer).mp h
      exact ⟨⟨c, answer⟩ :: first, a, second, rfl, ⟨answer, first, rfl, hFirst⟩, hSecond⟩
    · rintro ⟨_, a, second, rfl, ⟨answer, first, rfl, hFirst⟩, hSecond⟩
      exact ⟨answer, first ++ second, rfl, (ih answer).mpr ⟨first, a, second, rfl, hFirst, hSecond⟩⟩

/-- A run takes a path. -/
theorem yields_run (handler : Handler I σ) (p : Procedure I α) (state : σ) :
    p.Yields (run handler p state).events (run handler p state).result := by
  induction p generalizing state with
  | done a => exact ⟨rfl, rfl⟩
  | ask c next ih => exact ⟨_, _, rfl, ih _ _⟩

/-- Along the path of a run the handler answers and leads to the last state. -/
theorem follows_run (handler : Handler I σ) (p : Procedure I α) (state : σ) :
    handler.Follows state (run handler p state).events (run handler p state).state := by
  induction p generalizing state with
  | done a => rfl
  | ask c next ih => exact ⟨rfl, ih _ _⟩

/-- A path along which the handler answers is the one that the run takes. -/
theorem run_eq_of_yields {handler : Handler I σ} {p : Procedure I α} {events : List (Event I)}
    {result : α} {state final : σ} (h : p.Yields events result)
    (hFollows : handler.Follows state events final) :
    run handler p state = ⟨result, final, events⟩ := by
  induction p generalizing events state with
  | done a =>
    obtain ⟨rfl, rfl⟩ := h
    rw [hFollows]
    rfl
  | ask c next ih =>
    obtain ⟨answer, rest, rfl, hRest⟩ := h
    have hAnswer : answer = (handler c state).1 := hFollows.1
    subst hAnswer
    rw [run_ask, ih _ hRest hFollows.2]

/-! ## Related runs -/

/-- Every call that the procedure can make is one of these. -/
def Within (allowed : I.Call → Prop) : Procedure I α → Prop
  | done _ => True
  | ask c next => allowed c ∧ ∀ answer, (next answer).Within allowed

theorem within_true (p : Procedure I α) : p.Within fun _ => True := by
  induction p with
  | done a => trivial
  | ask c next ih => exact ⟨trivial, ih⟩

theorem within_bind {allowed : I.Call → Prop} {p : Procedure I α} {next : α → Procedure I β}
    (h : p.Within allowed)
    (hNext : ∀ events a, p.Yields events a → (next a).Within allowed) :
    (p.bind next).Within allowed := by
  induction p with
  | done a => exact hNext [] a ⟨rfl, rfl⟩
  | ask c rest ih =>
    refine ⟨h.1, fun answer => ih answer (h.2 answer) fun events a hYields => ?_⟩
    exact hNext (⟨c, answer⟩ :: events) a ⟨answer, events, rfl, hYields⟩

/-- Two handlers that give the same answers in related states, and lead to related states again,
take a procedure along the same path. -/
theorem run_related {handler : Handler I σ} {other : Handler I τ} {R : σ → τ → Prop}
    {allowed : I.Call → Prop}
    (hStep : ∀ c s t, allowed c → R s t →
      (handler c s).1 = (other c t).1 ∧ R (handler c s).2 (other c t).2)
    {p : Procedure I α} (hWithin : p.Within allowed) {s : σ} {t : τ} (hRelated : R s t) :
    (run handler p s).result = (run other p t).result ∧
      (run handler p s).events = (run other p t).events ∧
      R (run handler p s).state (run other p t).state := by
  induction p generalizing s t with
  | done a => exact ⟨rfl, rfl, hRelated⟩
  | ask c next ih =>
    obtain ⟨hAnswer, hNext⟩ := hStep c s t hWithin.1 hRelated
    obtain ⟨hResult, hEvents, hState⟩ := ih (handler c s).1 (hWithin.2 _) hNext
    rw [hAnswer] at hResult hEvents hState
    refine ⟨?_, ?_, ?_⟩
    · simpa only [run_ask, hAnswer] using hResult
    · simp only [run_ask, hAnswer, hEvents]
    · simpa only [run_ask, hAnswer] using hState

/-- Handlers that do the same at every call that is made run a procedure alike. -/
theorem run_congr {handler other : Handler I σ} {allowed : I.Call → Prop}
    (hSame : ∀ c s, allowed c → handler c s = other c s) {p : Procedure I α}
    (hWithin : p.Within allowed) (s : σ) : run handler p s = run other p s := by
  induction p generalizing s with
  | done a => rfl
  | ask c next ih =>
    rw [run_ask, run_ask, hSame c s hWithin.1]
    simp only [ih (other c s).1 (hWithin.2 _) (other c s).2]

end Procedure

end TypeRepair
