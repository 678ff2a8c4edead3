import TypeRepair.Proofs.Procedure.Path

/-!
# Procedures expressed on another interface

A path of a procedure that is expressed on another interface is a path of the procedure itself in
which each call is replaced by a path of what expresses it.

* `yields_via`: the paths of an expressed procedure.
* `within_via`: the calls that it can make.
-/

namespace TypeRepair.Procedure

variable {I J : Interface} {α β : Type}

/-- The second list consists of paths that express the events of the first list one by one. -/
inductive Expressed (meaning : (c : I.Call) → Procedure J (I.Answer c)) :
    List (Event I) → List (Event J) → Prop
  | nil : Expressed meaning [] []
  | cons {c : I.Call} {answer : I.Answer c} {outer : List (Event I)} {part later : List (Event J)}
    (head : (meaning c).Yields part answer) (tail : Expressed meaning outer later) :
    Expressed meaning (⟨c, answer⟩ :: outer) (part ++ later)

theorem yields_via {meaning : (c : I.Call) → Procedure J (I.Answer c)} {p : Procedure I α}
    {events : List (Event J)} {result : α} (h : (p.via meaning).Yields events result) :
    ∃ outer, p.Yields outer result ∧ Expressed meaning outer events := by
  induction p generalizing events with
  | done a =>
    obtain ⟨rfl, rfl⟩ := h
    exact ⟨[], ⟨rfl, rfl⟩, .nil⟩
  | ask c next ih =>
    obtain ⟨part, answer, later, rfl, hPart, hLater⟩ := yields_bind.mp h
    obtain ⟨outer, hOuter, hExpressed⟩ := ih answer hLater
    exact ⟨⟨c, answer⟩ :: outer, ⟨answer, outer, rfl, hOuter⟩, .cons hPart hExpressed⟩

theorem Within.mono {allowed other : I.Call → Prop} (hOther : ∀ c, allowed c → other c)
    {p : Procedure I α} (h : p.Within allowed) : p.Within other := by
  induction p with
  | done a => trivial
  | ask c next ih => exact ⟨hOther c h.1, fun answer => ih answer (h.2 answer)⟩

/-- Every call on a path is one that the procedure can make. -/
theorem Within.of_mem {allowed : I.Call → Prop} {p : Procedure I α} (h : p.Within allowed)
    {events : List (Event I)} {result : α} (hPath : p.Yields events result) :
    ∀ event ∈ events, allowed event.call := by
  induction p generalizing events with
  | done a =>
    obtain ⟨rfl, rfl⟩ := hPath
    exact fun _ hEvent => absurd hEvent List.not_mem_nil
  | ask c next ih =>
    obtain ⟨answer, rest, rfl, hRest⟩ := hPath
    exact List.forall_mem_cons.mpr ⟨h.1, ih answer (h.2 answer) hRest⟩

theorem within_via {meaning : (c : I.Call) → Procedure J (I.Answer c)} {allowed : J.Call → Prop}
    (h : ∀ c, (meaning c).Within allowed) (p : Procedure I α) :
    (p.via meaning).Within allowed := by
  induction p with
  | done a => trivial
  | ask c next ih => exact within_bind (h c) fun _ answer _ => ih answer

end TypeRepair.Procedure
