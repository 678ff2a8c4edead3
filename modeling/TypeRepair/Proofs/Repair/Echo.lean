import TypeRepair.Proofs.Gate.HalfTest
import TypeRepair.Proofs.Patch.Scan
import TypeRepair.Proofs.Patch.Shape
import TypeRepair.Repair.Loop

/-!
# A body that is sent back

An answer may send a body back as it was. What reaches the gate is the body without the blanks at
its end, and with one newline there if it ended at one; so a body that ends otherwise is changed by
its own echo.

* `block?_fenced`: what is found in the block of such an answer.
* `eq_echoed_iff`: the bodies that their echo does not change.
* `changedLines_echoed_le`: an echo changes no more lines than there are.
* `echo_trims_end`: what becomes of an echo.
-/

namespace TypeRepair

open Text Patch

/-! ## Echoes -/

namespace Repair

/-- An answer with a body in a block that has a tag, and what comes after the block. -/
def fenced (tag body continuation : String) : String :=
  "\x60\x60\x60" ++ tag ++ "\n" ++ body ++ "\n\x60\x60\x60" ++ continuation

/-- The tag lies on the line that opens the block, and what comes after the block begins on a line
of its own. -/
structure Encloses (tag continuation : String) : Prop where
  tag_line : '\n' ∉ tag.toList
  tag_plain : '\x60' ∉ tag.toList
  apart : continuation = "" ∨ ∃ more, continuation = "\n" ++ more

/-- Not all of the body is blank, and no line after its first one closes a block. -/
structure Enclosable (body : String) : Prop where
  solid : ∃ c ∈ body.toList, isBlank c = false
  no_closing : ∀ line ∈ (lines body.toList).tail, ¬IsClosing true line

/-- A body without the blanks at its end. -/
def trimmedEnd (body : String) : String :=
  String.ofList (trimEnd body.toList)

/-- What a body that is sent back is taken for. -/
def echoed (original : String) : String :=
  trimmedEnd original ++ if endsAtNewline original then "\n" else ""

/-- What the gate makes of a proposed body. -/
def gated (group : FileErrors) (previous proposed : String) : Except Skip (Patch × Binary64) :=
  match Gate.judge previous proposed with
  | .refused reason => .error (.refused reason)
  | .admitted share => .ok (⟨group.file, previous, proposed, group.errors.length⟩, share)

theorem toList_trimmedEnd (body : String) : (trimmedEnd body).toList = trimEnd body.toList :=
  String.toList_ofList

theorem trimmedEnd_ne {body : String} (h : ∃ c ∈ body.toList, isBlank c = false) :
    trimmedEnd body ≠ "" := by
  intro hEmpty
  obtain ⟨c, hc, hSolid⟩ := h
  have hNil : body.toList.reverse.dropWhile isBlank = [] := by
    have hTrimmed := toList_trimmedEnd body
    rw [hEmpty] at hTrimmed
    exact List.reverse_eq_nil_iff.mp hTrimmed.symm
  have hBlank := List.dropWhile_eq_nil_iff.mp hNil c (List.mem_reverse.mpr hc)
  rw [hSolid] at hBlank
  cases hBlank

theorem endsAtNewline_trimmedEnd (body : String) : endsAtNewline (trimmedEnd body) = false := by
  refine endsAtNewline_of_solid ?_
  rw [toList_trimmedEnd]
  exact fun c hc => isBlank_getLast_trimEnd hc

theorem withFinalNewline_trimmedEnd (original : String) :
    withFinalNewline original (trimmedEnd original) = echoed original := by
  rw [withFinalNewline_eq (endsAtNewline_trimmedEnd original), echoed]
  split
  · rfl
  · rw [String.append_empty]

/-! ## The block of an echo -/

theorem opensBlock_fence {tag : String} (h : '\x60' ∉ tag.toList) :
    opensBlock (fence ++ tag.toList) = true :=
  opensBlock_eq_true_iff.mpr ⟨[], tag.toList, h, rfl⟩

theorem lines_continuation {tag continuation : String} (h : Encloses tag continuation) :
    ∃ after, lines (fence ++ continuation.toList) = fence :: after := by
  rcases h.apart with rfl | ⟨more, rfl⟩
  · exact ⟨[], rfl⟩
  · refine ⟨lines more.toList, ?_⟩
    rw [String.toList_append]
    exact lines_line (by decide) more.toList

theorem block?_fenced {tag body continuation : String} (hAround : Encloses tag continuation)
    (hBody : ∀ line ∈ (lines body.toList).tail, ¬IsClosing true line) :
    block? (fenced tag body continuation) = some (trimmedEnd body) := by
  obtain ⟨after, hAfter⟩ := lines_continuation hAround
  have hText : (fenced tag body continuation).toList =
      (fence ++ tag.toList) ++ '\n' :: (body.toList ++ '\n' :: (fence ++ continuation.toList)) := by
    simp [fenced, fence]
  have hOpening : '\n' ∉ fence ++ tag.toList := by
    rw [List.mem_append, not_or]
    exact ⟨by decide, hAround.tag_line⟩
  have hAll : lines (fenced tag body continuation).toList =
      [] ++ (fence ++ tag.toList) :: (lines body.toList ++ fence :: after) := by
    rw [hText, lines_line hOpening, lines_append_newline, hAfter, List.nil_append]
  rw [block?_of_lines hAll (by simp) (opensBlock_fence hAround.tag_plain) (lines_ne_nil _) hBody,
    joinLines_lines, trimmedEnd]

theorem propose_fenced (group : FileErrors) {tag original continuation : String}
    (hAround : Encloses tag continuation) (h : Enclosable original) :
    propose group original (fenced tag original continuation) =
      gated group original (echoed original) := by
  simp only [propose, block?_fenced hAround h.no_closing, trimmedEnd_ne h.solid, if_false,
    withFinalNewline_trimmedEnd]
  rfl

/-! ## What an echo changes -/

/-- The bodies that their echo does not change end without blanks, or with one newline. -/
theorem eq_echoed_iff {original : String} :
    original = echoed original ↔
      original = trimmedEnd original ∨ original = trimmedEnd original ++ "\n" := by
  constructor
  · intro h
    rw [echoed] at h
    split at h
    · exact .inr h
    · rw [String.append_empty] at h
      exact .inl h
  · rintro (h | h)
    · have hOpen : endsAtNewline original = false := by
        rw [h]
        exact endsAtNewline_trimmedEnd original
      rwa [echoed, hOpen, if_neg Bool.false_ne_true, String.append_empty]
    · have hClosed : endsAtNewline original = true := by
        rw [h]
        exact endsAtNewline_concat _
      rwa [echoed, hClosed, if_pos rfl]

/-- An echo leaves characters out and adds none: its last newline is one of the blanks that were
trimmed. -/
theorem echoed_sublist (original : String) : (echoed original).toList.Sublist original.toList := by
  obtain ⟨blanks, hBlanks⟩ := trimEnd_prefix original.toList
  rw [echoed, String.toList_append, toList_trimmedEnd]
  conv_rhs => rw [← hBlanks]
  refine List.Sublist.append_left ?_ _
  split
  · rename_i hNewline
    have hNe : blanks ≠ [] := by
      rintro rfl
      rw [List.append_nil, ← toList_trimmedEnd, String.toList_inj] at hBlanks
      rw [← hBlanks, endsAtNewline_trimmedEnd] at hNewline
      cases hNewline
    have hLast : blanks.getLast? = some '\n' := by
      rw [endsAtNewline, beq_iff_eq, ← hBlanks, List.getLast?_append_of_ne_nil _ hNe] at hNewline
      exact hNewline
    exact List.singleton_sublist.mpr (List.mem_of_getLast? hLast)
  · exact List.nil_sublist _

theorem lineCount_echoed_le (original : String) :
    Gate.lineCount (echoed original) ≤ Gate.lineCount original := by
  rw [Gate.lineCount, Gate.lineCount, length_lines, length_lines]
  exact Nat.succ_le_succ ((echoed_sublist original).count_le '\n')

theorem changedLines_echoed_le (original : String) :
    Gate.changedLines original (echoed original) ≤ Gate.lineCount original := by
  have hChanged := Gate.changedPositions_le (lines original.toList) (lines (echoed original).toList)
  exact hChanged.trans_eq (Nat.max_eq_left (lineCount_echoed_le original))

/-! ## Decisions -/

theorem gated_eq_noChange_iff {group : FileErrors} {previous proposed : String} :
    gated group previous proposed = .error (.refused .noChange) ↔ previous = proposed := by
  rw [← Gate.judge_eq_noChange_iff, gated]
  cases Gate.judge previous proposed <;> simp

theorem gated_eq_ok_iff {group : FileErrors} {previous proposed : String} :
    (∃ share, gated group previous proposed =
        .ok (⟨group.file, previous, proposed, group.errors.length⟩, share)) ↔
      ∃ share, Gate.judge previous proposed = .admitted share := by
  unfold gated
  cases Gate.judge previous proposed <;> simp

/-- An echo is taken for the body without the blanks at its end, and with one newline there if it
ended at one. It is no change exactly if the body ends without blanks or with one newline; otherwise
it is taken over if it changes half of the lines at most. -/
theorem echo_trims_end (group : FileErrors) {tag original continuation : String}
    (hAround : Encloses tag continuation) (h : Enclosable original) :
    let proposal := propose group original (fenced tag original continuation)
    let patch : Patch := ⟨group.file, original, echoed original, group.errors.length⟩
    let n := Gate.lineCount original
    let c := Gate.changedLines original (echoed original)
    proposal = gated group original (echoed original) ∧
      (proposal = .error (.refused .noChange) ↔
        original = trimmedEnd original ∨ original = trimmedEnd original ++ "\n") ∧
      (original ≠ trimmedEnd original → original ≠ trimmedEnd original ++ "\n" →
        (n < 2 ^ 53 → ((∃ share, proposal = .ok (patch, share)) ↔ 2 * c ≤ n)) ∧
        (2 * c ≤ n → ∃ share, proposal = .ok (patch, share))) := by
  intro proposal patch n c
  have hProposal : proposal = gated group original (echoed original) :=
    propose_fenced group hAround h
  rw [hProposal]
  refine ⟨rfl, gated_eq_noChange_iff.trans eq_echoed_iff, fun hOpen hClosed => ?_⟩
  have hOther : original ≠ echoed original := fun hSame =>
    (eq_echoed_iff.mp hSame).elim hOpen hClosed
  rw [gated_eq_ok_iff]
  refine ⟨fun hLines => ?_, fun hHalf => ⟨_, Gate.judge_of_half hOther hHalf⟩⟩
  have hChanged : c < 2 ^ 53 := (changedLines_echoed_le original).trans_lt hLines
  rw [Gate.judge_of_ne hOther hLines hChanged]
  split <;> simp <;> omega

-- The lines of the body end at a carriage return and a newline, and the last one loses its carriage
-- return.
theorem echo_drops_last_return :
    let group : FileErrors := ⟨"a.ts", []⟩
    let original := "/* \x60\x60\x60ts */\r\nlet a = 1;\r\n"
    Encloses "ts" "\nDone." ∧ Enclosable original ∧
      ∃ share, propose group original (fenced "ts" original "\nDone.") =
        .ok (⟨"a.ts", original, "/* \x60\x60\x60ts */\r\nlet a = 1;\n", 0⟩, share) := by
  intro group original
  have hAround : Encloses "ts" "\nDone." := ⟨by decide, by decide, .inr ⟨"Done.", rfl⟩⟩
  have hOpen : ∀ line ∈ (lines original.toList).tail, closesBlock false line = false := by
    decide +kernel
  have h : Enclosable original :=
    ⟨⟨'l', by decide, rfl⟩, fun line hLine => closesBlock_eq_false_iff.mp (hOpen line hLine)⟩
  have hEchoed : echoed original = "/* \x60\x60\x60ts */\r\nlet a = 1;\n" := by decide +kernel
  refine ⟨hAround, h, ?_⟩
  rw [← hEchoed]
  exact ((echo_trims_end group hAround h).2.2 (by decide +kernel) (by decide +kernel)).2
    (by decide +kernel)

end Repair

end TypeRepair
