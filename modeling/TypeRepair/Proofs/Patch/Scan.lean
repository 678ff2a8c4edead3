import Mathlib.Data.Nat.Find
import TypeRepair.Proofs.Patch.Block

/-!
# Where the first block lies

The first block of an answer by the positions of the lines around it: the first line that opens a
block, and the next line that closes one, where the line right after the opening one is passed over.

* `opensBlock_eq_true_iff`: the lines that open a block.
* `blockLines?_eq_some_iff_isBlock`: the positions.
* `not_exists_isBlock_iff`: when there is no block.
-/

namespace TypeRepair.Patch

open Text

/-- Any text, three backticks and a tag without backticks. -/
def IsOpening (line : List Char) : Prop :=
  ∃ before tag, '\x60' ∉ tag ∧ line = before ++ (fence ++ tag)

theorem opensBlock_eq_true_iff {line : List Char} : opensBlock line = true ↔ IsOpening line := by
  have hReverse : fence.reverse = fence := rfl
  constructor
  · intro h
    obtain ⟨before, hBefore⟩ := List.isPrefixOf_iff_prefix.mp h
    refine ⟨before.reverse, (line.reverse.takeWhile (· ≠ '\x60')).reverse, ?_, ?_⟩
    · intro hMem
      have hNe := List.mem_takeWhile_imp (List.mem_reverse.mp hMem)
      simp at hNe
    · calc line
        _ = (line.reverse.takeWhile (· ≠ '\x60') ++ (fence ++ before)).reverse := by
          rw [hBefore, List.takeWhile_append_dropWhile, List.reverse_reverse]
        _ = _ := by simp [hReverse]
  · rintro ⟨before, tag, hTag, rfl⟩
    have hDrop : (before ++ (fence ++ tag)).reverse.dropWhile (· ≠ '\x60') =
        fence ++ before.reverse := by
      rw [List.reverse_append, List.reverse_append, hReverse, List.append_assoc,
        List.dropWhile_append_of_pos]
      · rfl
      · intro c hc
        have hNe : c ≠ '\x60' := fun hEq => hTag (hEq ▸ List.mem_reverse.mp hc)
        simpa using hNe
    rw [opensBlock, hDrop, List.isPrefixOf_iff_prefix]
    exact List.prefix_append _ _

/-! ## Positions -/

/-- At this position is a line that opens a block, and it is not the last one. -/
def OpensAt (pieces : List (List Char)) (i : Nat) : Prop :=
  i + 1 < pieces.length ∧ ∃ line, pieces[i]? = some line ∧ IsOpening line

/-- At this position is a line that closes a block; only before the last position may a carriage
return end it. -/
def ClosesAt (pieces : List (List Char)) (j : Nat) : Prop :=
  ∃ line, pieces[j]? = some line ∧ IsClosing (decide (j + 1 < pieces.length)) line

/-- The lines between two positions. -/
def linesBetween (pieces : List (List Char)) (i j : Nat) : List (List Char) :=
  (pieces.drop (i + 1)).take (j - (i + 1))

theorem linesBetween_append (earlier : List (List Char)) (line : List Char)
    (inner later : List (List Char)) {i j : Nat} (hi : earlier.length = i)
    (hj : i + 1 + inner.length = j) :
    linesBetween (earlier ++ line :: (inner ++ later)) i j = inner := by
  have hDrop : (earlier ++ line :: (inner ++ later)).drop (i + 1) = inner ++ later := by
    rw [List.append_cons]
    exact List.drop_left' (by rw [List.length_append, hi]; rfl)
  rw [linesBetween, hDrop]
  exact List.take_left' (by omega)

/-- The first block lies between these positions. -/
structure IsBlock (pieces : List (List Char)) (i j : Nat) : Prop where
  opens : OpensAt pieces i
  first : ∀ k < i, ¬OpensAt pieces k
  later : i + 2 ≤ j
  closes : ClosesAt pieces j
  next : ∀ k, i + 2 ≤ k → k < j → ¬ClosesAt pieces k

theorem exists_split {pieces : List (List Char)} {i : Nat} (h : i < pieces.length) :
    ∃ earlier line others, pieces = earlier ++ line :: others ∧ earlier.length = i :=
  ⟨pieces.take i, pieces[i], pieces.drop (i + 1), by simp, List.length_take_of_le h.le⟩

theorem opensAt_append {earlier others : List (List Char)} {line : List Char} :
    OpensAt (earlier ++ line :: others) earlier.length ↔ others ≠ [] ∧ opensBlock line = true := by
  have hLine : (earlier ++ line :: others)[earlier.length]? = some line := by simp
  have hNotLast : earlier.length + 1 < (earlier ++ line :: others).length ↔ others ≠ [] := by
    rw [List.length_append, List.length_cons, ← List.length_pos_iff]
    omega
  rw [OpensAt, hLine, hNotLast, opensBlock_eq_true_iff]
  simp

theorem closesAt_append {earlier others : List (List Char)} {line : List Char} :
    ClosesAt (earlier ++ line :: others) earlier.length ↔
      closesBlock others.isEmpty line = true := by
  have hLine : (earlier ++ line :: others)[earlier.length]? = some line := by simp
  have hNotLast : decide (earlier.length + 1 < (earlier ++ line :: others).length) =
      !others.isEmpty := by
    cases others <;> simp
  rw [ClosesAt, hLine, hNotLast, closesBlock_eq_true_iff]
  simp

theorem closesAt_inside {before earlier later : List (List Char)} {opening first line : List Char} :
    ClosesAt (before ++ opening :: first :: (earlier ++ line :: later))
        (before.length + 2 + earlier.length) ↔ closesBlock later.isEmpty line = true := by
  have hPieces : before ++ opening :: first :: (earlier ++ line :: later) =
      (before ++ opening :: first :: earlier) ++ line :: later := by simp
  have hPosition : before.length + 2 + earlier.length =
      (before ++ opening :: first :: earlier).length := by
    simp only [List.length_append, List.length_cons]
    omega
  rw [hPieces, hPosition, closesAt_append]

theorem blockLines?_eq_some_iff_isBlock {pieces result : List (List Char)} :
    blockLines? pieces = some result ↔
      ∃ i j, IsBlock pieces i j ∧ result = linesBetween pieces i j := by
  rw [blockLines?_eq_some_iff]
  constructor
  · rintro ⟨before, opening, first, inner, closing, after, rfl, hBefore, hOpening, hInner, hClosing,
      rfl⟩
    refine ⟨before.length, before.length + 2 + inner.length, ⟨?_, ?_, by omega, ?_, ?_⟩, ?_⟩
    · exact opensAt_append.mpr ⟨List.cons_ne_nil _ _, hOpening⟩
    · intro k hk hOpens
      obtain ⟨earlier, line, others, rfl, rfl⟩ := exists_split hk
      rw [List.append_assoc, List.cons_append, opensAt_append, hBefore line (by simp)] at hOpens
      cases hOpens.2
    · exact closesAt_inside.mpr hClosing
    · intro k hk hBeforeClosing hCloses
      have hInside : k - (before.length + 2) < inner.length := by omega
      obtain ⟨earlier, line, others, rfl, hEarlier⟩ := exists_split hInside
      obtain rfl : k = before.length + 2 + earlier.length := by omega
      have hNotLast : (others ++ closing :: after).isEmpty = false := by simp
      rw [List.append_assoc, List.cons_append, closesAt_inside, hNotLast,
        hInner line (by simp)] at hCloses
      cases hCloses
    · exact (linesBetween_append before opening (first :: inner) (closing :: after) rfl
        (by rw [List.length_cons]; omega)).symm
  · rintro ⟨i, j, h, rfl⟩
    obtain ⟨before, opening, others, rfl, rfl⟩ := exists_split (Nat.lt_of_succ_lt h.opens.1)
    obtain ⟨hOthers, hOpening⟩ := opensAt_append.mp h.opens
    obtain ⟨first, rest, rfl⟩ := List.exists_cons_of_ne_nil hOthers
    obtain ⟨line, hLine, -⟩ := h.closes
    have hInside := (List.getElem?_eq_some_iff.mp hLine).1
    have hLater := h.later
    rw [List.length_append, List.length_cons, List.length_cons] at hInside
    have hRest : j - (before.length + 2) < rest.length := by omega
    obtain ⟨inner, closing, after, rfl, hInner⟩ := exists_split hRest
    obtain rfl : j = before.length + 2 + inner.length := by omega
    refine ⟨before, opening, first, inner, closing, after, rfl, fun line hBefore => ?_, hOpening,
      fun line hBetween => ?_, closesAt_inside.mp h.closes, ?_⟩
    · obtain ⟨earlier, others, rfl⟩ := List.append_of_mem hBefore
      have hNot := h.first earlier.length (by simp)
      rw [List.append_assoc, List.cons_append, opensAt_append] at hNot
      simpa using hNot
    · obtain ⟨earlier, others, rfl⟩ := List.append_of_mem hBetween
      have hNot := h.next (before.length + 2 + earlier.length) (by omega) (by simp)
      have hNotLast : (others ++ closing :: after).isEmpty = false := by simp
      rw [List.append_assoc, List.cons_append, closesAt_inside, hNotLast] at hNot
      simpa using hNot
    · exact linesBetween_append before opening (first :: inner) (closing :: after) rfl
        (by rw [List.length_cons]; omega)

/-- There is no block exactly if no line opens one, or none closes the one that is opened first. -/
theorem not_exists_isBlock_iff {pieces : List (List Char)} :
    (¬∃ i j, IsBlock pieces i j) ↔ (∀ i, ¬OpensAt pieces i) ∨
      ∃ i, OpensAt pieces i ∧ (∀ k < i, ¬OpensAt pieces k) ∧
        ∀ j, i + 2 ≤ j → ¬ClosesAt pieces j := by
  classical
  constructor
  · intro hNone
    by_cases hOpening : ∃ i, OpensAt pieces i
    · right
      refine ⟨Nat.find hOpening, Nat.find_spec hOpening, fun k hk => Nat.find_min hOpening hk,
        fun j hj hCloses => hNone ?_⟩
      have hClosing : ∃ j, Nat.find hOpening + 2 ≤ j ∧ ClosesAt pieces j := ⟨j, hj, hCloses⟩
      obtain ⟨hLater, hFirst⟩ := Nat.find_spec hClosing
      refine ⟨Nat.find hOpening, Nat.find hClosing, Nat.find_spec hOpening,
        fun k hk => Nat.find_min hOpening hk, hLater, hFirst, fun k hk hBefore hOther => ?_⟩
      exact Nat.find_min hClosing hBefore ⟨hk, hOther⟩
    · exact .inl (not_exists.mp hOpening)
  · rintro (hNone | ⟨i, hOpens, hFirst, hNone⟩) ⟨k, j, h⟩
    · exact hNone k h.opens
    · have hSame : k = i := by
        rcases Nat.lt_trichotomy k i with hLess | hSame | hMore
        · exact absurd h.opens (hFirst k hLess)
        · exact hSame
        · exact absurd hOpens (h.first i hMore)
      rw [← hSame] at hNone
      exact hNone j h.later h.closes

end TypeRepair.Patch
