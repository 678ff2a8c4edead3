import Mathlib.Algebra.BigOperators.Group.Finset.Basic
import Mathlib.Algebra.BigOperators.Intervals
import TypeRepair.Gate

/-!
# Changed positions

The positions at which two lists differ, counted over all positions that one of them has.

* `changedPositions_eq_card`: the count as the size of a set of positions.
* `length_le_kept_add_changed`: what is not changed is kept.
* `length_sub_le_changed`: the positions that only one list has are changed.
* `changed_subset_union`, `changedPositions_triangle`: what changes on the way to a list changes by
  way of any other one.
* `changedPositions_append_left`: a common start changes nothing.
-/

namespace TypeRepair.Gate

open Finset

variable {α : Type} [DecidableEq α]

/-- The positions at which two lists differ. -/
def changed (as bs : List α) : Finset ℕ :=
  {i ∈ range (max as.length bs.length) | as[i]? ≠ bs[i]?}

theorem mem_changed {as bs : List α} {i : ℕ} : i ∈ changed as bs ↔ as[i]? ≠ bs[i]? := by
  rw [changed, mem_filter, mem_range, and_iff_right_iff_imp]
  intro hOther
  by_contra hOutside
  apply hOther
  rw [List.getElem?_eq_none (by omega), List.getElem?_eq_none (by omega)]

theorem changed_nil (bs : List α) : changed [] bs = range bs.length := by
  ext i
  rw [mem_changed, mem_range, List.getElem?_nil, ne_comm, ne_eq, List.getElem?_eq_none_iff, not_le]

theorem changed_comm (as bs : List α) : changed as bs = changed bs as := by
  ext i
  rw [mem_changed, mem_changed, ne_comm]

theorem card_changed_cons (a b : α) (as bs : List α) :
    #(changed (a :: as) (b :: bs)) = #(changed as bs) + if a = b then 0 else 1 := by
  simp only [changed, card_filter, List.length_cons, Nat.add_max_add_right, sum_range_succ',
    List.getElem?_cons_succ, List.getElem?_cons_zero]
  simp

theorem changedPositions_eq_card (as bs : List α) : changedPositions as bs = #(changed as bs) := by
  fun_induction changedPositions as bs with
  | case1 bs => rw [changed_nil, card_range]
  | case2 a as => rw [changed_comm, changed_nil, card_range, List.length_cons]
  | case3 a as bs ih => rw [ih, card_changed_cons, if_pos rfl, Nat.add_zero]
  | case4 a as b bs hOther ih => rw [ih, card_changed_cons, if_neg hOther]

theorem changedPositions_comm (as bs : List α) :
    changedPositions as bs = changedPositions bs as := by
  rw [changedPositions_eq_card, changedPositions_eq_card, changed_comm]

theorem changedPositions_le (as bs : List α) :
    changedPositions as bs ≤ max as.length bs.length := by
  rw [changedPositions_eq_card, changed]
  exact (card_filter_le _ _).trans_eq (card_range _)

/-- Every position of a list is changed or kept. -/
theorem length_le_kept_add_changed (as bs : List α) :
    as.length ≤ #{i ∈ range as.length | as[i]? = bs[i]?} + changedPositions as bs := by
  have hOthers : {i ∈ range as.length | ¬as[i]? = bs[i]?} ⊆ changed as bs := by
    intro i hi
    exact mem_changed.mpr (mem_filter.mp hi).2
  have hSplit := card_filter_add_card_filter_not (s := range as.length) fun i => as[i]? = bs[i]?
  have hLess := card_le_card hOthers
  rw [card_range] at hSplit
  rw [changedPositions_eq_card]
  omega

/-- The positions that only one of two lists has are changed. -/
theorem length_sub_le_changed (as bs : List α) :
    as.length - bs.length ≤ changedPositions as bs ∧
      bs.length - as.length ≤ changedPositions as bs := by
  fun_induction changedPositions as bs with
  | case1 bs => simp
  | case2 a as => simp
  | case3 a as bs ih => simpa using ih
  | case4 a as b bs hOther ih =>
    simp only [List.length_cons]
    omega

/-- A position that differs between two lists differs from any third list on one of the sides. -/
theorem changed_subset_union (as bs cs : List α) :
    changed as cs ⊆ changed as bs ∪ changed bs cs := by
  intro i hi
  rw [mem_changed] at hi
  rw [mem_union, mem_changed, mem_changed]
  by_contra! hSame
  exact hi (hSame.1.trans hSame.2)

theorem changedPositions_triangle (as bs cs : List α) :
    changedPositions as cs ≤ changedPositions as bs + changedPositions bs cs := by
  simp only [changedPositions_eq_card]
  calc #(changed as cs)
    _ ≤ #(changed as bs ∪ changed bs cs) := card_le_card (changed_subset_union as bs cs)
    _ ≤ #(changed as bs) + #(changed bs cs) := card_union_le _ _

/-- The positions in a common start agree, and those after it are moved together. -/
theorem changedPositions_append_left (start as bs : List α) :
    changedPositions (start ++ as) (start ++ bs) = changedPositions as bs := by
  induction start with
  | nil => rfl
  | cons a start ih => rw [List.cons_append, List.cons_append, changedPositions, if_pos rfl, ih]

end TypeRepair.Gate
