import TypeRepair.Patch.Basic
import TypeRepair.Proofs.Patch.Block

/-!
# The shape of proposed bodies

* `endsAtNewline_withFinalNewline`: a body ends as the previous one does.
* `shaped_of_block`: what else holds of the body of a block, its final newline restored.
-/

namespace TypeRepair.Patch

open Text

/-- A text without the newline at its end, if there is one. -/
def content (text : String) : List Char :=
  if endsAtNewline text then text.toList.dropLast else text.toList

/-- A body that may be written over another one: it ends at a newline if that one does, it has a
last character that is not blank, and no line that would close a block stands between its first
line and its last line with something on it. -/
structure Shaped (previous body : String) : Prop where
  newline_iff : endsAtNewline body = true ↔ endsAtNewline previous = true
  content_ne : content body ≠ []
  content_solid : ∀ c ∈ (content body).getLast?, isBlank c = false
  no_closing : ∀ i j line later, (lines body.toList)[i]? = some line →
    (lines body.toList)[j]? = some later → later ≠ [] → 0 < i → i < j → ¬ IsClosing true line

theorem Shaped.exists_solid {previous body : String} (h : Shaped previous body) :
    ∃ c ∈ body.toList, isBlank c = false := by
  have hSubset : content body ⊆ body.toList := by
    unfold content
    split
    · exact List.dropLast_subset _
    · exact List.Subset.refl _
  have hLast := List.getLast?_eq_some_getLast h.content_ne
  exact ⟨_, hSubset (List.getLast_mem h.content_ne), h.content_solid _ hLast⟩

/-! ## The final newline -/

theorem endsAtNewline_concat (text : String) : endsAtNewline (text ++ "\n") = true := by
  simp [endsAtNewline]

theorem endsAtNewline_of_solid {text : String} (h : ∀ c ∈ text.toList.getLast?, isBlank c = false) :
    endsAtNewline text = false := by
  cases hEnd : endsAtNewline text with
  | false => rfl
  | true => exact absurd (h '\n' (by simpa [endsAtNewline] using hEnd)) (by decide)

/-- A body that does not end at a newline gets one if the previous one does. -/
theorem withFinalNewline_eq {body : String} (h : endsAtNewline body = false) (previous : String) :
    withFinalNewline previous body =
      if endsAtNewline previous then body ++ "\n" else body := by
  simp [withFinalNewline, h]

theorem endsAtNewline_withFinalNewline {body : String} (h : endsAtNewline body = false)
    (previous : String) :
    endsAtNewline (withFinalNewline previous body) = endsAtNewline previous := by
  rw [withFinalNewline_eq h]
  split
  · rename_i hPrevious
    rw [endsAtNewline_concat, hPrevious]
  · rename_i hPrevious
    rw [h, Bool.not_eq_true _ |>.mp hPrevious]

theorem content_withFinalNewline {body : String} (h : endsAtNewline body = false)
    (previous : String) : content (withFinalNewline previous body) = body.toList := by
  rw [withFinalNewline_eq h]
  split
  · rw [content, if_pos (endsAtNewline_concat body)]
    simp
  · rw [content, if_neg (by simp [h])]

/-- A newline at the end adds an empty line and nothing else. -/
theorem lines_withFinalNewline {body : String} (h : endsAtNewline body = false)
    (previous : String) : ∃ more, (∀ line ∈ more, line = []) ∧
      lines (withFinalNewline previous body).toList = lines body.toList ++ more := by
  rw [withFinalNewline_eq h]
  split
  · refine ⟨[[]], by simp, ?_⟩
    rw [String.toList_append]
    exact lines_append_newline body.toList []
  · exact ⟨[], by simp, (List.append_nil _).symm⟩

/-! ## Bodies of blocks -/

/-- All lines of a trimmed text but the last one are lines of the text. -/
theorem getElem?_of_lines_trimEnd {pieces : List (List Char)} (hNe : pieces ≠ [])
    (hLines : ∀ piece ∈ pieces, '\n' ∉ piece) {i : Nat} {line : List Char}
    (hLine : (lines (trimEnd (joinLines pieces)))[i]? = some line)
    (hLess : i + 1 < (lines (trimEnd (joinLines pieces))).length) : pieces[i]? = some line := by
  obtain ⟨blanks, hBlanks⟩ := trimEnd_prefix (joinLines pieces)
  have hPrefix : (lines (trimEnd (joinLines pieces))).dropLast <+: pieces := by
    have hLonger := dropLast_lines_prefix (trimEnd (joinLines pieces)) blanks
    rwa [hBlanks, lines_joinLines hNe hLines] at hLonger
  have hDropped : (lines (trimEnd (joinLines pieces))).dropLast[i]? = some line := by
    rw [List.getElem?_dropLast, if_pos (by omega), hLine]
  obtain ⟨more, hMore⟩ := hPrefix
  rw [← hMore, List.getElem?_append_left (List.getElem?_eq_some_iff.mp hDropped).1, hDropped]

/-- The body of a block that is not empty, its final newline restored, may be written over the
previous body. -/
theorem shaped_of_block {answer block : String} (hBlock : block? answer = some block)
    (hNe : block ≠ "") (previous : String) : Shaped previous (withFinalNewline previous block) := by
  obtain ⟨first, between, hText, hLines, hBetween⟩ := block?_eq_some hBlock
  have hList : block.toList = trimEnd (joinLines (first :: between)) := by
    rw [hText, String.toList_ofList]
  have hSolid : ∀ c ∈ block.toList.getLast?, isBlank c = false := by
    rw [hList]
    exact fun c hc => isBlank_getLast_trimEnd hc
  have hOpen := endsAtNewline_of_solid hSolid
  refine ⟨by rw [endsAtNewline_withFinalNewline hOpen], ?_, ?_, ?_⟩
  · rw [content_withFinalNewline hOpen]
    exact fun hNil => hNe (String.toList_eq_nil_iff.mp hNil)
  · rwa [content_withFinalNewline hOpen]
  · intro i j line later hLine hLater hLaterNe hPos hLess hClosing
    obtain ⟨more, hMore, hAll⟩ := lines_withFinalNewline hOpen previous
    rw [hAll] at hLine hLater
    -- A line with something on it is no line that the final newline has added.
    have hPlace : j < (lines block.toList).length := by
      by_contra hBeyond
      rw [List.getElem?_append_right (by omega)] at hLater
      exact hLaterNe (hMore later (List.mem_of_getElem? hLater))
    rw [List.getElem?_append_left (by omega), hList] at hLine
    rw [hList] at hPlace
    have hPiece := getElem?_of_lines_trimEnd (List.cons_ne_nil _ _) hLines hLine (by omega)
    obtain ⟨k, rfl⟩ := Nat.exists_eq_succ_of_ne_zero (Nat.pos_iff_ne_zero.mp hPos)
    rw [List.getElem?_cons_succ] at hPiece
    exact hBetween line (List.mem_of_getElem? hPiece) hClosing

end TypeRepair.Patch
