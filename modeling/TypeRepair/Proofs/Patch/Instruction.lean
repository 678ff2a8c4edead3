import TypeRepair.Patch.Instruction
import TypeRepair.Proofs.Text.Lines

/-!
# What an instruction tells

* `file_eq_of_instruction_eq`: an instruction tells which file it is about.
-/

namespace TypeRepair.Patch

open Text

/-- What comes before a newline is told by what comes before it on the same line. -/
theorem eq_of_append_newline_eq {first second cs ds : List Char} (hFirst : '\n' ∉ first)
    (hSecond : '\n' ∉ second) (h : first ++ '\n' :: cs = second ++ '\n' :: ds) :
    first = second := by
  have hTake : ∀ piece rest : List Char, '\n' ∉ piece →
      (piece ++ '\n' :: rest).takeWhile (· ≠ '\n') = piece := by
    intro piece rest hPiece
    have hRun : ∀ c ∈ piece, decide (c ≠ '\n') = true := fun c hc =>
      decide_eq_true fun hEq => hPiece (hEq ▸ hc)
    exact (span_append hRun (show decide ('\n' ≠ '\n') = false by decide) rest).1
  rw [← hTake first cs hFirst, h, hTake second ds hSecond]

/-- Instructions for files whose paths lie on one line differ if the paths do. -/
theorem file_eq_of_instruction_eq {file other body otherBody : String}
    {errors otherErrors : List Diagnostic} (hFile : '\n' ∉ file.toList)
    (hOther : '\n' ∉ other.toList)
    (h : instruction file body errors = instruction other otherBody otherErrors) :
    file = other := by
  have hText := congrArg String.toList h
  simp only [instruction, String.toList_append, List.append_assoc,
    List.append_cancel_left_eq] at hText
  have hPath : file.toList = other.toList := eq_of_append_newline_eq hFile hOther hText
  exact String.toList_inj.mp hPath

end TypeRepair.Patch
