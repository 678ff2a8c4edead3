import TypeRepair.Diagnostic.Parser

/-!
# What an error line holds

* `split?_eq_some`: the file of an error line is what comes before the last of its parentheses that
  a tail follows.
* `newline_notMem_file`: the files that output reports lie on one line each.
-/

namespace TypeRepair

/-! ## Lines -/

namespace Text

theorem newline_notMem_of_mem_lines {cs line : List Char} (h : line ∈ lines cs) : '\n' ∉ line := by
  induction cs generalizing line with
  | nil =>
    rw [List.mem_singleton.mp h]
    exact List.not_mem_nil
  | cons c cs ih =>
    rw [lines_cons] at h
    unfold addToPieces at h
    split at h
    · rcases List.mem_cons.mp h with rfl | h
      · exact List.not_mem_nil
      · exact ih h
    · rename_i hc
      split at h
      · rw [List.mem_singleton.mp h]
        simpa using Ne.symm hc
      · rename_i piece rest hPieces
        rw [hPieces] at ih
        rcases List.mem_cons.mp h with rfl | h
        · rw [List.mem_cons, not_or]
          exact ⟨Ne.symm hc, ih List.mem_cons_self⟩
        · exact ih (List.mem_cons_of_mem _ h)

theorem dropReturn_subset (line : List Char) : dropReturn line ⊆ line := by
  unfold dropReturn
  split
  · exact List.dropLast_subset line
  · exact List.Subset.refl line

theorem subset_of_mem_terminatedLines {pieces : List (List Char)} {line : List Char}
    (h : line ∈ terminatedLines pieces) : ∃ piece ∈ pieces, line ⊆ piece := by
  fun_induction terminatedLines pieces with
  | case1 => cases h
  | case2 => cases h
  | case3 rest hRest => exact ⟨rest, List.mem_cons_self, by rw [List.mem_singleton.mp h]; simp⟩
  | case4 piece next pieces ih =>
    rcases List.mem_cons.mp h with rfl | h
    · exact ⟨piece, List.mem_cons_self, dropReturn_subset piece⟩
    · obtain ⟨other, hOther, hLine⟩ := ih h
      exact ⟨other, List.mem_cons_of_mem _ hOther, hLine⟩

theorem newline_notMem_of_mem_outputLines {output line : List Char}
    (h : line ∈ outputLines output) : '\n' ∉ line := by
  obtain ⟨piece, hPiece, hLine⟩ := subset_of_mem_terminatedLines h
  exact fun hNewline => newline_notMem_of_mem_lines hPiece (hLine hNewline)

theorem trim_subset (cs : List Char) : trim cs ⊆ cs := by
  intro c hc
  rw [trim, trimEnd, List.mem_reverse] at hc
  have hStart := List.mem_reverse.mp ((List.dropWhile_sublist isBlank).subset hc)
  exact (List.dropWhile_sublist isBlank).subset hStart

end Text

/-! ## Error lines -/

namespace Diagnostic

open Text

/-- The file ends at a parenthesis that a tail follows, and no other one comes later. -/
theorem lastSplit?_eq_some {cs file : List Char} {tail : Tail}
    (h : lastSplit? cs = some (file, tail)) :
    ∃ rest, cs = file ++ '(' :: rest ∧ Tail.read? rest = some tail ∧ lastSplit? rest = none := by
  induction cs generalizing file with
  | nil => cases h
  | cons c cs ih =>
    rw [lastSplit?] at h
    split at h
    · rename_i file' tail' hLater
      cases h
      obtain ⟨rest, hRest, hTail⟩ := ih hLater
      exact ⟨rest, by rw [hRest, List.cons_append], hTail⟩
    · rename_i hLater
      split at h
      · rename_i hc
        obtain ⟨tail', hTail, hEq⟩ := Option.map_eq_some_iff.mp h
        cases hEq
        exact ⟨cs, by rw [hc, List.nil_append], hTail, hLater⟩
      · cases h

theorem split?_eq_some {cs file : List Char} {tail : Tail} (h : split? cs = some (file, tail)) :
    file ≠ [] ∧
      ∃ rest, cs = file ++ '(' :: rest ∧ Tail.read? rest = some tail ∧ lastSplit? rest = none := by
  cases cs with
  | nil => cases h
  | cons c cs =>
    obtain ⟨⟨file', tail'⟩, hLast, hEq⟩ := Option.map_eq_some_iff.mp h
    cases hEq
    obtain ⟨rest, hRest, hTail⟩ := lastSplit?_eq_some hLast
    exact ⟨List.cons_ne_nil _ _, rest, by rw [hRest, List.cons_append], hTail⟩

theorem parseLine?_file {line : List Char} {d : Diagnostic} (h : parseLine? line = some d) :
    ∃ file rest, line = file ++ '(' :: rest ∧ d.file = String.ofList (trim file) := by
  simp only [parseLine?, Option.bind_eq_bind, Option.bind_eq_some_iff] at h
  obtain ⟨⟨file, tail⟩, hSplit, number, -, col, -, hEq⟩ := h
  cases hEq
  obtain ⟨-, rest, hRest, -⟩ := split?_eq_some hSplit
  exact ⟨file, rest, hRest, rfl⟩

theorem newline_notMem_file {output : String} {d : Diagnostic} (h : d ∈ parse output) :
    '\n' ∉ d.file.toList := by
  obtain ⟨line, hLine, hParse⟩ := List.mem_filterMap.mp h
  obtain ⟨file, rest, rfl, hFile⟩ := parseLine?_file hParse
  rw [hFile, String.toList_ofList]
  intro hNewline
  exact newline_notMem_of_mem_outputLines hLine
    (List.mem_append_left _ (trim_subset file hNewline))

end Diagnostic

end TypeRepair
