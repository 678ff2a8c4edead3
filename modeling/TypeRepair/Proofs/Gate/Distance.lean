import TypeRepair.Proofs.Gate.Positions
import TypeRepair.Proofs.Text.Lines

/-!
# Changed lines as a distance

The number of changed lines says how far two texts are from each other. It is a metric: texts
without a changed line are equal, a change counts the same both ways, and by way of another text at
least as many lines change. It bounds how much longer one of the texts is, and lines that both texts
begin with do not count.

* `changedLines_triangle`: the way by another text is no shorter.
* `changedLines_append_line`: a common start does not count.
* `changedLines_is_metric`: the laws of the distance.
-/

namespace TypeRepair.Gate

theorem changedLines_triangle (first between last : String) :
    changedLines first last ≤ changedLines first between + changedLines between last :=
  changedPositions_triangle _ _ _

theorem changedLines_append_line (start first second : String) :
    changedLines (start ++ "\n" ++ first) (start ++ "\n" ++ second) =
      changedLines first second := by
  have hLines : ∀ rest : String, Text.lines (start ++ "\n" ++ rest).toList =
      Text.lines start.toList ++ Text.lines rest.toList := by
    intro rest
    rw [← Text.lines_append_newline]
    simp
  rw [changedLines, hLines, hLines, changedPositions_append_left, changedLines]

/-- The number of changed lines is a metric on texts. With it the numbers of lines differ by at most
the distance, which is at most the larger of them, and the distance is that of the rests of two
texts after lines that they have in common. -/
theorem changedLines_is_metric (a b c start : String) :
    (changedLines a b = 0 ↔ a = b) ∧ changedLines a b = changedLines b a ∧
      changedLines a c ≤ changedLines a b + changedLines b c ∧
      (lineCount a - lineCount b : ℤ).natAbs ≤ changedLines a b ∧
      changedLines a b ≤ max (lineCount a) (lineCount b) ∧
      changedLines (start ++ "\n" ++ a) (start ++ "\n" ++ b) = changedLines a b := by
  refine ⟨changedLines_eq_zero_iff, changedPositions_comm _ _, changedLines_triangle a b c, ?_,
    changedPositions_le _ _, changedLines_append_line start a b⟩
  have hLengths : lineCount a - lineCount b ≤ changedLines a b ∧
      lineCount b - lineCount a ≤ changedLines a b :=
    length_sub_le_changed _ _
  omega

end TypeRepair.Gate
