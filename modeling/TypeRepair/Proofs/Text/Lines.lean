import Mathlib.Data.List.Basic
import Mathlib.Data.List.TakeWhile
import TypeRepair.Text.Blank
import TypeRepair.Text.Lines

/-!
# Texts made of lines

* `span_append`, `span_word`: where a run of characters ends.
* `lines_joinLines`: lines that are put together are found again.
* `joinLines_append`, `joinLines_concat_append`: putting together more lines, or a longer last one.
* `length_lines`: how many lines a text has.
* `dropLast_lines_prefix`: all lines of a text but the last one stay when the text goes on.
* `Consists.filterMap_outputLines`: what is read from output is read from the lines it consists of.
* `trimEnd_prefix`, `isBlank_getLast_trimEnd`, `prefix_trimEnd_append`: what trimming leaves.
-/

namespace TypeRepair.Text

/-! ## Runs and words -/

/-- A run ends where the next element is of another kind. -/
theorem span_append {α : Type} {p : α → Bool} {run : List α} (hRun : ∀ a ∈ run, p a = true)
    {next : α} (hNext : p next = false) (rest : List α) :
    (run ++ next :: rest).takeWhile p = run ∧
      (run ++ next :: rest).dropWhile p = next :: rest := by
  constructor
  · rw [List.takeWhile_append_of_pos hRun, List.takeWhile_cons_of_neg (by simp [hNext]),
      List.append_nil]
  · rw [List.dropWhile_append_of_pos hRun, List.dropWhile_cons_of_neg (by simp [hNext])]

/-- A run of characters ends where a word starts with one of another kind. -/
theorem span_word {p : Char → Bool} {run : List Char} (hRun : ∀ c ∈ run, p c = true)
    {word : List Char} (hWord : word.head?.map p = some false) (rest : List Char) :
    (run ++ (word ++ rest)).takeWhile p = run ∧
      (run ++ (word ++ rest)).dropWhile p = word ++ rest := by
  cases word with
  | nil => cases hWord
  | cons c word => exact span_append hRun (Option.some.inj hWord) (word ++ rest)

theorem isPrefixOf?_append (front rest : List Char) :
    front.isPrefixOf? (front ++ rest) = some rest :=
  List.isPrefixOf?_eq_some_iff_append_eq.mpr rfl

/-! ## Lines -/

theorem lines_of_newline_notMem {line : List Char} (h : '\n' ∉ line) : lines line = [line] := by
  induction line with
  | nil => rfl
  | cons c line ih =>
    rw [List.mem_cons, not_or] at h
    rw [lines_cons, ih h.2, addToPieces, if_neg (Ne.symm h.1)]

theorem lines_line {line : List Char} (h : '\n' ∉ line) (text : List Char) :
    lines (line ++ '\n' :: text) = line :: lines text := by
  rw [lines_append_newline, lines_of_newline_notMem h, List.singleton_append]

theorem joinLines_singleton (line : List Char) : joinLines [line] = line := by
  simp [joinLines]

theorem joinLines_cons (line : List Char) {pieces : List (List Char)} (hNe : pieces ≠ []) :
    joinLines (line :: pieces) = line ++ '\n' :: joinLines pieces := by
  cases pieces with
  | nil => exact absurd rfl hNe
  | cons next pieces => simp [joinLines, List.intercalate_cons_cons]

theorem joinLines_append {pieces more : List (List Char)} (hNe : pieces ≠ []) (hMore : more ≠ []) :
    joinLines (pieces ++ more) = joinLines pieces ++ '\n' :: joinLines more := by
  induction pieces with
  | nil => exact absurd rfl hNe
  | cons line pieces ih =>
    cases pieces with
    | nil => rw [List.singleton_append, joinLines_cons line hMore, joinLines_singleton]
    | cons next pieces =>
      rw [List.cons_append, joinLines_cons line (by simp), ih (by simp),
        joinLines_cons line (by simp), List.append_assoc, List.cons_append]

/-- What follows the last line lengthens it. -/
theorem joinLines_concat_append (pieces : List (List Char)) (line more : List Char) :
    joinLines (pieces ++ [line ++ more]) = joinLines (pieces ++ [line]) ++ more := by
  by_cases hNe : pieces = []
  · rw [hNe, List.nil_append, List.nil_append, joinLines_singleton, joinLines_singleton]
  · rw [joinLines_append hNe (by simp), joinLines_append hNe (by simp), joinLines_singleton,
      joinLines_singleton, List.append_assoc, List.cons_append]

theorem lines_joinLines {pieces : List (List Char)} (hNe : pieces ≠ [])
    (h : ∀ piece ∈ pieces, '\n' ∉ piece) : lines (joinLines pieces) = pieces := by
  induction pieces with
  | nil => exact absurd rfl hNe
  | cons piece pieces ih =>
    cases pieces with
    | nil => rw [joinLines_singleton, lines_of_newline_notMem (h piece List.mem_cons_self)]
    | cons next pieces =>
      have hRest := ih (List.cons_ne_nil _ _) fun p hp => h p (List.mem_cons_of_mem _ hp)
      rw [joinLines_cons piece (List.cons_ne_nil _ _), lines_line (h piece List.mem_cons_self),
        hRest]

theorem addToPieces_newline (pieces : List (List Char)) : addToPieces '\n' pieces = [] :: pieces :=
  if_pos rfl

theorem addToPieces_cons {c : Char} (hc : c ≠ '\n') (piece : List Char)
    (pieces : List (List Char)) : addToPieces c (piece :: pieces) = (c :: piece) :: pieces :=
  if_neg hc

/-- A text has one line more than newlines. -/
theorem length_lines (cs : List Char) : (lines cs).length = cs.count '\n' + 1 := by
  induction cs with
  | nil => rfl
  | cons c cs ih =>
    rw [lines_cons]
    by_cases hc : c = '\n'
    · rw [hc, addToPieces_newline, List.length_cons, ih, List.count_cons_self]
    · obtain ⟨piece, pieces, hPieces⟩ := List.exists_cons_of_ne_nil (lines_ne_nil cs)
      rw [hPieces] at ih
      rw [hPieces, addToPieces_cons hc, List.count_cons_of_ne hc, ← ih]
      rfl

theorem subset_of_mem_lines {cs line : List Char} (h : line ∈ lines cs) : line ⊆ cs := by
  induction cs generalizing line with
  | nil =>
    rw [List.mem_singleton.mp h]
    exact List.Subset.refl _
  | cons c cs ih =>
    rw [lines_cons] at h
    by_cases hc : c = '\n'
    · subst hc
      rw [addToPieces_newline] at h
      rcases List.mem_cons.mp h with rfl | h
      · exact List.nil_subset _
      · exact List.subset_cons_of_subset _ (ih h)
    · obtain ⟨piece, pieces, hPieces⟩ := List.exists_cons_of_ne_nil (lines_ne_nil cs)
      rw [hPieces, addToPieces_cons hc] at h
      rw [hPieces] at ih
      rcases List.mem_cons.mp h with rfl | h
      · exact List.cons_subset_cons _ (ih List.mem_cons_self)
      · exact List.subset_cons_of_subset _ (ih (List.mem_cons_of_mem _ h))

/-- Only the last line of a text changes when the text goes on. -/
theorem dropLast_lines_prefix (cs ds : List Char) :
    (lines cs).dropLast <+: lines (cs ++ ds) := by
  induction cs with
  | nil => exact List.nil_prefix
  | cons c cs ih =>
    rw [List.cons_append, lines_cons, lines_cons]
    by_cases hc : c = '\n'
    · subst hc
      rw [addToPieces_newline, addToPieces_newline,
        List.dropLast_cons_of_ne_nil (lines_ne_nil cs)]
      exact List.cons_prefix_cons.mpr ⟨rfl, ih⟩
    · rcases hLines : lines cs with _ | ⟨piece, _ | ⟨next, pieces⟩⟩
      · exact absurd hLines (lines_ne_nil cs)
      · rw [addToPieces_cons hc]
        exact List.nil_prefix
      · rw [hLines] at ih
        obtain ⟨more, hMore⟩ := ih
        rw [List.dropLast_cons_cons, List.cons_append] at hMore
        rw [← hMore, addToPieces_cons hc, addToPieces_cons hc, List.dropLast_cons_cons]
        exact List.cons_prefix_cons.mpr ⟨rfl, List.prefix_append _ _⟩

/-! ## Output -/

/-- The text consists of these lines: a newline ends each of them, with or without a carriage return
before it, and the last one may be left open. -/
inductive Consists : List (List Char) → List Char → Prop
  | nil : Consists [] []
  | last (line : List Char) : Consists [line] line
  | newline (line : List Char) {pieces : List (List Char)} {text : List Char}
    (h : Consists pieces text) : Consists (line :: pieces) (line ++ '\n' :: text)
  | returnNewline (line : List Char) {pieces : List (List Char)} {text : List Char}
    (h : Consists pieces text) : Consists (line :: pieces) (line ++ '\r' :: '\n' :: text)

theorem outputLines_line {line : List Char} (h : '\n' ∉ line) (text : List Char) :
    outputLines (line ++ '\n' :: text) = dropReturn line :: outputLines text := by
  rw [outputLines_append, lines_of_newline_notMem h]
  rfl

theorem outputLines_last {line : List Char} (h : '\n' ∉ line) :
    outputLines line = if line = [] then [] else [line] := by
  rw [outputLines, lines_of_newline_notMem h, terminatedLines]

theorem dropReturn_of_ne {line : List Char} (h : line.getLast? ≠ some '\r') :
    dropReturn line = line :=
  if_neg h

theorem dropReturn_concat (line : List Char) : dropReturn (line ++ ['\r']) = line := by
  rw [dropReturn, List.getLast?_concat, if_pos rfl, List.dropLast_concat]

/-- Lines do not run on over a newline. -/
theorem outputLines_append_of_newline (front more : List Char) :
    outputLines (front ++ ['\n'] ++ more) = outputLines (front ++ ['\n']) ++ outputLines more := by
  have hNil : outputLines [] = [] := rfl
  rw [outputLines_append, List.append_assoc, List.singleton_append, outputLines_append, hNil,
    List.append_nil]

/-- Whatever is read line by line, and nothing from an empty line, does not depend on how the lines
are ended. -/
theorem Consists.filterMap_outputLines {α : Type} {read : List Char → Option α}
    (hEmpty : read [] = none) {pieces : List (List Char)} {text : List Char}
    (h : Consists pieces text)
    (hLines : ∀ line ∈ pieces, '\n' ∉ line ∧ line.getLast? ≠ some '\r') :
    (outputLines text).filterMap read = pieces.filterMap read := by
  induction h with
  | nil => rfl
  | last line =>
    rw [outputLines_last (hLines line List.mem_cons_self).1]
    split
    · rename_i hLine
      rw [hLine, List.filterMap_cons_none hEmpty]
    · rfl
  | newline line _ ih =>
    obtain ⟨hNewline, hReturn⟩ := hLines line List.mem_cons_self
    rw [outputLines_line hNewline, dropReturn_of_ne hReturn, List.filterMap_cons,
      List.filterMap_cons, ih fun other hOther => hLines other (List.mem_cons_of_mem _ hOther)]
  | returnNewline line _ ih =>
    obtain ⟨hNewline, -⟩ := hLines line List.mem_cons_self
    have hEnded : '\n' ∉ line ++ ['\r'] := by simp [hNewline]
    rw [← List.singleton_append (x := '\r'), ← List.append_assoc, outputLines_line hEnded,
      dropReturn_concat, List.filterMap_cons, List.filterMap_cons,
      ih fun other hOther => hLines other (List.mem_cons_of_mem _ hOther)]

/-! ## Trimming -/

theorem trimEnd_prefix (cs : List Char) : trimEnd cs <+: cs := by
  have hSuffix := (List.dropWhile_suffix isBlank (l := cs.reverse)).reverse
  rwa [List.reverse_reverse] at hSuffix

/-- Nothing blank is left at the end. -/
theorem isBlank_getLast_trimEnd {cs : List Char} {c : Char} (h : c ∈ (trimEnd cs).getLast?) :
    isBlank c = false := by
  rw [trimEnd, List.getLast?_reverse] at h
  have hHead := List.head?_dropWhile_not isBlank cs.reverse
  rw [Option.mem_def.mp h] at hHead
  exact hHead

theorem trimEnd_trim (cs : List Char) : trimEnd (trim cs) = trim cs :=
  trimEnd_trimEnd (trimStart cs)

theorem trimStart_trim (cs : List Char) : trimStart (trim cs) = trim cs :=
  trimStart_trimEnd_of_trimStart (dropWhile_dropWhile isBlank cs)

theorem trimEnd_concat {c : Char} (h : isBlank c = false) (cs : List Char) :
    trimEnd (cs ++ [c]) = cs ++ [c] := by
  simp [trimEnd, h]

/-- A text without blanks at its start has none there when it goes on. -/
theorem trimStart_append {cs : List Char} (hNe : cs ≠ []) (h : trimStart cs = cs)
    (more : List Char) : trimStart (cs ++ more) = cs ++ more := by
  rw [trimStart, List.dropWhile_append, ← trimStart, h, if_neg (by simpa using hNe)]

/-- A text without blanks at its end stays whole when it goes on and is trimmed there. -/
theorem prefix_trimEnd_append {cs : List Char} (h : trimEnd cs = cs) (more : List Char) :
    cs <+: trimEnd (cs ++ more) := by
  rw [trimEnd, List.reverse_append, List.dropWhile_append]
  split
  · exact ⟨[], by rw [List.append_nil, ← trimEnd, h]⟩
  · rw [List.reverse_append, List.reverse_reverse]
    exact List.prefix_append _ _

end TypeRepair.Text
