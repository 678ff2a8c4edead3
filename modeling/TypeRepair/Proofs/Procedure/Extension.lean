import TypeRepair.Procedure

/-!
# Procedures that go on

One procedure begins another if it makes the same calls and the other one goes on, if at all, only
where it ends with a result that is left open. Runs follow: the events of the one are the first
events of the other, and a result that is not open stands.

* `bind_assoc`, `via_bind`: sequences can be regrouped, and a sequence is expressed part by part.
* `begins_bind`: what comes after the same first part decides.
* `Begins.run`: the runs of a procedure that begins another.
-/

namespace TypeRepair.Procedure

variable {I J : Interface} {σ α β γ : Type}

theorem bind_assoc (p : Procedure I α) (f : α → Procedure I β) (g : β → Procedure I γ) :
    (p.bind f).bind g = p.bind fun a => (f a).bind g := by
  induction p with
  | done a => rfl
  | ask c next ih => simp only [ask_bind, ih]

theorem via_bind (meaning : (c : I.Call) → Procedure J (I.Answer c)) (p : Procedure I α)
    (f : α → Procedure I β) :
    (p.bind f).via meaning = (p.via meaning).bind fun a => (f a).via meaning := by
  induction p with
  | done a => rfl
  | ask c next ih => simp only [ask_bind, via, bind_assoc, ih]

/-- The other procedure makes the same calls, and either ends with the same result or goes on where
the result is open. -/
def Begins (isOpen : α → Prop) : Procedure I α → Procedure I α → Prop
  | done a, other => other = done a ∨ isOpen a
  | ask c next, other =>
    ∃ rest, other = ask c rest ∧ ∀ answer, (next answer).Begins isOpen (rest answer)

theorem begins_refl {isOpen : α → Prop} (p : Procedure I α) : p.Begins isOpen p := by
  induction p with
  | done a => exact .inl rfl
  | ask c next ih => exact ⟨next, rfl, ih⟩

theorem begins_bind {isOpen : β → Prop} (p : Procedure I α) {f g : α → Procedure I β}
    (h : ∀ a, (f a).Begins isOpen (g a)) : (p.bind f).Begins isOpen (p.bind g) := by
  induction p with
  | done a => exact h a
  | ask c next ih => exact ⟨_, rfl, ih⟩

theorem Begins.run {isOpen : α → Prop} {p q : Procedure I α} (h : p.Begins isOpen q)
    (handler : Handler I σ) (s : σ) :
    (p.run handler s).events <+: (q.run handler s).events ∧
      (¬ isOpen (p.run handler s).result → q.run handler s = p.run handler s) := by
  induction p generalizing q s with
  | done a =>
    refine ⟨List.nil_prefix, fun hClosed => ?_⟩
    rcases h with rfl | hOpen
    · rfl
    · exact absurd hOpen hClosed
  | ask c next ih =>
    obtain ⟨rest, rfl, hRest⟩ := h
    obtain ⟨hPrefix, hSame⟩ := ih _ (hRest (handler c s).1) (handler c s).2
    refine ⟨?_, fun hClosed => ?_⟩
    · simpa using hPrefix
    · rw [run_ask] at hClosed
      simp only [run_ask, hSame hClosed]

end TypeRepair.Procedure
