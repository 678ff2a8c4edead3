import TypeRepair.Proofs.Patch.Scan

/-!
# Blocks as matches of a pattern

A block can be described without lines: three backticks, a tag on the same line, a body, and on a
line of their own three backticks again. Of all such stretches of an answer the one that starts
first counts, and for it the shortest body.

* `Occurs`, `FirstMatch`: the stretches, and the one that counts.
* `occurs_iff`: where they lie among the lines of the answer.
* `block_is_line_scan`: the first match is what one scan over the lines finds.
-/

namespace TypeRepair.Patch

open Text

/-! ## Matches -/

/-- What may follow the closing backticks and the blanks after them: the end of the answer, or of
the line. -/
def EndsLine (rest : List Char) : Prop :=
  rest = [] ∨ ∃ later, rest = '\n' :: later ∨ rest = '\r' :: '\n' :: later

/-- At the front of the text is a line that closes a block. -/
def StartsClosing (text : List Char) : Prop :=
  ∃ indent blanks rest, indent ≤ 3 ∧ (∀ c ∈ blanks, c = ' ' ∨ c = '\t') ∧ EndsLine rest ∧
    text = List.replicate indent ' ' ++ (fence ++ (blanks ++ rest))

/-- The answer goes on after `before` with a block that has this body. -/
def Occurs (answer before body : List Char) : Prop :=
  ∃ tag rest, '\n' ∉ tag ∧ '\x60' ∉ tag ∧ StartsClosing rest ∧
    answer = before ++ (fence ++ (tag ++ '\n' :: (body ++ '\n' :: rest)))

/-- The block starts before all others, and its body is the shortest one from there. -/
structure FirstMatch (answer before body : List Char) : Prop where
  occurs : Occurs answer before body
  leftmost : ∀ other text, Occurs answer other text → before.length ≤ other.length
  shortest : ∀ text, Occurs answer before text → body.length ≤ text.length

/-! ## Matches among lines -/

theorem lines_append_of_notMem {cs more line : List Char} {earlier : List (List Char)}
    (hLines : lines cs = earlier ++ [line]) (hMore : '\n' ∉ more) :
    lines (cs ++ more) = earlier ++ [line ++ more] := by
  have hText : cs ++ more = joinLines (earlier ++ [line ++ more]) := by
    rw [joinLines_concat_append, ← hLines, joinLines_lines]
  rw [hText, lines_joinLines (by simp)]
  intro piece hPiece
  have hOld : ∀ piece ∈ earlier ++ [line], '\n' ∉ piece := by
    rw [← hLines]
    exact fun piece hPiece => newline_notMem_of_mem_lines hPiece
  rcases List.mem_append.mp hPiece with hPiece | hPiece
  · exact hOld piece (List.mem_append_left _ hPiece)
  · rw [List.mem_singleton.mp hPiece, List.mem_append, not_or]
    exact ⟨hOld line (by simp), hMore⟩

theorem newline_notMem_of_isClosing {returnAllowed : Bool} {line : List Char}
    (h : IsClosing returnAllowed line) : '\n' ∉ line := by
  obtain ⟨indent, blanks, ending, -, hBlanks, hEnding, rfl⟩ := h
  have hNotBlank : '\n' ∉ blanks := fun hMem => absurd (hBlanks _ hMem) (by decide)
  have hNotEnding : '\n' ∉ ending := by
    rcases hEnding with rfl | ⟨-, rfl⟩ <;> decide
  simp [fence, hNotBlank, hNotEnding]

theorem startsClosing_iff {text : List Char} :
    StartsClosing text ↔
      ∃ line others, lines text = line :: others ∧ IsClosing (!others.isEmpty) line := by
  constructor
  · rintro ⟨indent, blanks, rest, hIndent, hBlanks, hRest, rfl⟩
    have hClosing : ∀ returnAllowed ending, (ending = [] ∨ returnAllowed = true ∧ ending = ['\r']) →
        IsClosing returnAllowed (List.replicate indent ' ' ++ (fence ++ (blanks ++ ending))) :=
      fun _ ending hEnding => ⟨indent, blanks, ending, hIndent, hBlanks, hEnding, rfl⟩
    have hLater : ∀ later, (!(lines later).isEmpty) = true := by
      intro later
      simpa using lines_ne_nil later
    rcases hRest with rfl | ⟨later, rfl | rfl⟩
    · have hOnly := hClosing false [] (.inl rfl)
      exact ⟨_, [], lines_of_newline_notMem (newline_notMem_of_isClosing hOnly), hOnly⟩
    · have hBare := hClosing (!(lines later).isEmpty) [] (.inl rfl)
      refine ⟨_, lines later, ?_, hBare⟩
      rw [← lines_line (newline_notMem_of_isClosing hBare)]
      simp
    · have hReturn := hClosing (!(lines later).isEmpty) ['\r'] (.inr ⟨hLater later, rfl⟩)
      refine ⟨_, lines later, ?_, hReturn⟩
      rw [← lines_line (newline_notMem_of_isClosing hReturn)]
      simp
  · rintro ⟨line, others, hLines, indent, blanks, ending, hIndent, hBlanks, hEnding, rfl⟩
    have hText := joinLines_lines text
    rw [hLines] at hText
    cases others with
    | nil =>
      obtain rfl : ending = [] := by simpa using hEnding
      rw [joinLines_singleton] at hText
      exact ⟨indent, blanks, [], hIndent, hBlanks, .inl rfl, hText.symm⟩
    | cons next others =>
      rw [joinLines_cons _ (List.cons_ne_nil _ _)] at hText
      refine ⟨indent, blanks, ending ++ '\n' :: joinLines (next :: others), hIndent, hBlanks, .inr
        ⟨joinLines (next :: others), ?_⟩, by rw [← hText]; simp⟩
      rcases hEnding with rfl | ⟨-, rfl⟩
      · exact .inl rfl
      · exact .inr rfl

/-- The lines around a match: the one in which it starts, those of its body, and the closing one. -/
theorem occurs_iff {answer before body : List Char} :
    Occurs answer before body ↔ ∃ earlier start tag inner closing later,
      lines answer = earlier ++ (start ++ (fence ++ tag)) :: (inner ++ closing :: later) ∧
        '\x60' ∉ tag ∧ inner ≠ [] ∧ closesBlock later.isEmpty closing = true ∧
        before = joinLines (earlier ++ [start]) ∧ body = joinLines inner := by
  constructor
  · rintro ⟨tag, rest, hTag, hPlain, hRest, rfl⟩
    obtain ⟨closing, later, hLater, hClosing⟩ := startsClosing_iff.mp hRest
    obtain ⟨earlier, start, hBefore⟩ : ∃ earlier start, lines before = earlier ++ [start] :=
      ⟨_, _, (List.dropLast_append_getLast (lines_ne_nil before)).symm⟩
    have hMore : '\n' ∉ fence ++ tag := by simpa [fence] using hTag
    have hAnswer : before ++ (fence ++ (tag ++ '\n' :: (body ++ '\n' :: rest))) =
        (before ++ (fence ++ tag)) ++ '\n' :: (body ++ '\n' :: rest) := by simp
    refine ⟨earlier, start, tag, lines body, closing, later, ?_, hPlain, lines_ne_nil body,
      closesBlock_of_isClosing hClosing, ?_, (joinLines_lines body).symm⟩
    · rw [hAnswer, lines_append_newline, lines_append_newline, hLater,
        lines_append_of_notMem hBefore hMore]
      simp
    · rw [← hBefore, joinLines_lines]
  · rintro ⟨earlier, start, tag, inner, closing, later, hLines, hPlain, hInner, hClosing, rfl, rfl⟩
    have hTag : '\n' ∉ tag := by
      have hMem : start ++ (fence ++ tag) ∈ lines answer := by
        rw [hLines]
        simp
      have hLine := newline_notMem_of_mem_lines hMem
      simp only [List.mem_append, not_or] at hLine
      exact hLine.2.2
    have hPieces : ∀ piece ∈ closing :: later, '\n' ∉ piece := by
      intro piece hPiece
      have hMem : piece ∈ lines answer := by
        rw [hLines]
        simp only [List.mem_append, List.mem_cons] at hPiece ⊢
        tauto
      exact newline_notMem_of_mem_lines hMem
    refine ⟨tag, joinLines (closing :: later), hTag, hPlain, startsClosing_iff.mpr ⟨closing, later,
      lines_joinLines (List.cons_ne_nil _ _) hPieces, isClosing_of_closesBlock hClosing⟩, ?_⟩
    calc answer
      _ = joinLines ((earlier ++ [start ++ (fence ++ tag)]) ++ (inner ++ closing :: later)) := by
        rw [← joinLines_lines answer, hLines]
        simp
      _ = joinLines (earlier ++ [start]) ++ (fence ++ tag) ++ '\n' ::
          (joinLines inner ++ '\n' :: joinLines (closing :: later)) := by
        rw [joinLines_append (by simp) (by simp), joinLines_concat_append,
          joinLines_append hInner (by simp)]
      _ = _ := by simp

/-! ## Matches by position -/

/-- What comes before a match that starts after `start` in the line at a position. -/
def textBefore (pieces : List (List Char)) (i : Nat) (start : List Char) : List Char :=
  joinLines (pieces.take i ++ [start])

/-- A match starts in the line at `i` and ends in the one at `j`. -/
structure Spans (pieces : List (List Char)) (i j : Nat) (start : List Char) : Prop where
  starts : ∃ tag, '\x60' ∉ tag ∧ pieces[i]? = some (start ++ (fence ++ tag))
  later : i + 2 ≤ j
  closes : ClosesAt pieces j

theorem ClosesAt.lt {pieces : List (List Char)} {j : Nat} (h : ClosesAt pieces j) :
    j < pieces.length := by
  obtain ⟨line, hLine, -⟩ := h
  exact (List.getElem?_eq_some_iff.mp hLine).1

theorem Spans.opens {pieces : List (List Char)} {i j : Nat} {start : List Char}
    (h : Spans pieces i j start) : OpensAt pieces i := by
  obtain ⟨tag, hTag, hLine⟩ := h.starts
  have hInside := h.closes.lt
  have hLater := h.later
  exact ⟨by omega, _, hLine, start, tag, hTag, rfl⟩

theorem occurs_iff_spans {answer before body : List Char} :
    Occurs answer before body ↔ ∃ i j start, Spans (lines answer) i j start ∧
      before = textBefore (lines answer) i start ∧
      body = joinLines (linesBetween (lines answer) i j) := by
  rw [occurs_iff]
  generalize lines answer = pieces
  constructor
  · rintro ⟨earlier, start, tag, inner, closing, later, rfl, hTag, hInner, hClosing, rfl, rfl⟩
    obtain ⟨first, inner, rfl⟩ := List.exists_cons_of_ne_nil hInner
    refine ⟨earlier.length, earlier.length + 2 + inner.length, start,
      ⟨⟨tag, hTag, by simp⟩, by omega, closesAt_inside.mpr hClosing⟩, ?_, ?_⟩
    · rw [textBefore, List.take_left']
      rfl
    · rw [linesBetween_append earlier _ (first :: inner) (closing :: later) rfl]
      rw [List.length_cons]
      omega
  · rintro ⟨i, j, start, ⟨⟨tag, hTag, hLine⟩, hLater, hCloses⟩, rfl, rfl⟩
    have hInside := hCloses.lt
    have hStart : i < pieces.length := by omega
    obtain ⟨earlier, line, others, rfl, rfl⟩ := exists_split hStart
    obtain rfl : line = start ++ (fence ++ tag) := by simpa using hLine
    rw [List.length_append, List.length_cons] at hInside
    have hOthers : j - (earlier.length + 1) < others.length := by omega
    obtain ⟨inner, closing, later, rfl, hInner⟩ := exists_split hOthers
    obtain ⟨first, inner, rfl⟩ := List.exists_cons_of_ne_nil (l := inner) (by
      rintro rfl
      rw [List.length_nil] at hInner
      omega)
    rw [List.length_cons] at hInner
    obtain rfl : j = earlier.length + 2 + inner.length := by omega
    refine ⟨earlier, start, tag, first :: inner, closing, later, rfl, hTag, List.cons_ne_nil _ _,
      closesAt_inside.mp hCloses, ?_, ?_⟩
    · rw [textBefore, List.take_left']
      rfl
    · rw [linesBetween_append earlier _ (first :: inner) (closing :: later) rfl]
      rw [List.length_cons]
      omega

/-! ## The first match -/

section

variable {pieces : List (List Char)} {i j k : Nat}

theorem length_textBefore (pieces : List (List Char)) (i : Nat) (start : List Char) :
    (textBefore pieces i start).length = (textBefore pieces i []).length + start.length := by
  have hConcat := joinLines_concat_append (pieces.take i) [] start
  rw [List.nil_append] at hConcat
  rw [textBefore, hConcat, List.length_append, textBefore]

/-- What starts in a later line starts later. -/
theorem length_textBefore_lt {start more : List Char} (hLine : pieces[i]? = some (start ++ more))
    (hLess : i < k) (other : List Char) :
    (textBefore pieces i start).length < (textBefore pieces k other).length := by
  obtain ⟨hInside, -⟩ := List.getElem?_eq_some_iff.mp hLine
  obtain ⟨earlier, line, others, rfl, rfl⟩ := exists_split hInside
  obtain rfl : line = start ++ more := by simpa using hLine
  have hTake : (earlier ++ (start ++ more) :: others).take k =
      earlier ++ [start ++ more] ++ others.take (k - (earlier.length + 1)) := by
    rw [List.append_cons, List.take_append, List.take_of_length_le]
    · simp
    · rw [List.length_append]
      exact hLess
  have hLonger : textBefore (earlier ++ (start ++ more) :: others) k other =
      joinLines (earlier ++ [start]) ++ more ++
        '\n' :: joinLines (others.take (k - (earlier.length + 1)) ++ [other]) := by
    rw [textBefore, hTake, List.append_assoc, joinLines_append (by simp) (by simp),
      joinLines_concat_append]
  rw [hLonger, textBefore, List.take_left' rfl]
  simp only [List.length_append, List.length_cons]
  omega

/-- A body that ends later is longer. -/
theorem length_linesBetween_lt (hSome : i + 2 ≤ j) (hLess : j < k) (hInside : k ≤ pieces.length) :
    (joinLines (linesBetween pieces i j)).length <
      (joinLines (linesBetween pieces i k)).length := by
  have hSplit : linesBetween pieces i k = linesBetween pieces i j ++
      ((pieces.drop (i + 1)).drop (j - (i + 1))).take (k - j) := by
    rw [linesBetween, linesBetween, ← List.take_add]
    congr 1
    omega
  rw [hSplit, joinLines_append]
  · simp only [List.length_append, List.length_cons]
    omega
  · rw [← List.length_pos_iff, linesBetween]
    simp
    omega
  · rw [← List.length_pos_iff]
    simp
    omega

end

/-- The first match starts in the first line that opens a block, and ends in the next one that
closes it. -/
theorem FirstMatch.isBlock {answer before body : List Char} (h : FirstMatch answer before body) :
    ∃ i j, IsBlock (lines answer) i j ∧ body = joinLines (linesBetween (lines answer) i j) := by
  obtain ⟨i, j, start, hSpans, rfl, rfl⟩ := occurs_iff_spans.mp h.occurs
  refine ⟨i, j, ⟨hSpans.opens, ?_, hSpans.later, hSpans.closes, ?_⟩, rfl⟩
  · rintro k hk ⟨-, line, hLine, other, tag, hTag, rfl⟩
    have hLater := hSpans.later
    have hEarlier : Spans (lines answer) k j other :=
      ⟨⟨tag, hTag, hLine⟩, by omega, hSpans.closes⟩
    have hLeftmost := h.leftmost _ _ (occurs_iff_spans.mpr ⟨k, j, other, hEarlier, rfl, rfl⟩)
    have hShorter := length_textBefore_lt hLine hk start
    omega
  · intro k hk hBefore hCloses
    have hSooner : Spans (lines answer) i k start := ⟨hSpans.starts, hk, hCloses⟩
    have hShortest := h.shortest _ (occurs_iff_spans.mpr ⟨i, k, start, hSooner, rfl, rfl⟩)
    have hShorter := length_linesBetween_lt hk hBefore hSpans.closes.lt.le
    omega

theorem IsBlock.firstMatch {answer : List Char} {i j : Nat} (h : IsBlock (lines answer) i j) :
    ∃ before, FirstMatch answer before (joinLines (linesBetween (lines answer) i j)) := by
  classical
  -- Of several ways to see three backticks in the opening line the first one counts.
  have hStarts : ∃ n, ∃ start tag : List Char, start.length = n ∧ '\x60' ∉ tag ∧
      (lines answer)[i]? = some (start ++ (fence ++ tag)) := by
    obtain ⟨-, line, hLine, start, tag, hTag, rfl⟩ := h.opens
    exact ⟨_, start, tag, rfl, hTag, hLine⟩
  obtain ⟨start, tag, hLength, hTag, hStart⟩ := Nat.find_spec hStarts
  have hSpans : Spans (lines answer) i j start := ⟨⟨tag, hTag, hStart⟩, h.later, h.closes⟩
  refine ⟨textBefore (lines answer) i start,
    occurs_iff_spans.mpr ⟨i, j, start, hSpans, rfl, rfl⟩, fun other text hOther => ?_,
    fun text hOther => ?_⟩
  · obtain ⟨k, end', later, hLater, rfl, -⟩ := occurs_iff_spans.mp hOther
    have hFirst : i ≤ k := Nat.le_of_not_lt fun hLess => h.first k hLess hLater.opens
    rcases hFirst.lt_or_eq with hLess | rfl
    · exact (length_textBefore_lt hStart hLess later).le
    · obtain ⟨otherTag, hOtherTag, hOtherStart⟩ := hLater.starts
      have hLeast := Nat.find_min' hStarts ⟨later, otherTag, rfl, hOtherTag, hOtherStart⟩
      rw [length_textBefore, length_textBefore _ _ later]
      omega
  · obtain ⟨k, end', later, hLater, hBefore, rfl⟩ := occurs_iff_spans.mp hOther
    have hFirst : i ≤ k := Nat.le_of_not_lt fun hLess => h.first k hLess hLater.opens
    rcases hFirst.lt_or_eq with hLess | rfl
    · have hLonger := length_textBefore_lt hStart hLess later
      rw [hBefore] at hLonger
      omega
    · have hNext : j ≤ end' :=
        Nat.le_of_not_lt fun hLess => h.next end' hLater.later hLess hLater.closes
      rcases hNext.lt_or_eq with hLess | rfl
      · exact (length_linesBetween_lt h.later hLess hLater.closes.lt.le).le
      · exact le_rfl

/-- In an answer the first block is the first match of the pattern, which is found by one scan over
the lines: the body reaches from the first line that opens a block to the next one that closes it,
where the line right after the opening one is passed over. There is no block exactly if no line
opens one or none closes the one that is opened first. -/
theorem block_is_line_scan (answer : String) :
    let pieces := lines answer.toList
    (∀ block, block? answer = some block ↔ ∃ before body, FirstMatch answer.toList before body ∧
      block = String.ofList (trimEnd body)) ∧
    (∀ block, block? answer = some block ↔ ∃ i j, IsBlock pieces i j ∧
      block = String.ofList (trimEnd (joinLines (linesBetween pieces i j)))) ∧
    (block? answer = none ↔ (∀ i, ¬OpensAt pieces i) ∨
      ∃ i, OpensAt pieces i ∧ (∀ k < i, ¬OpensAt pieces k) ∧
        ∀ j, i + 2 ≤ j → ¬ClosesAt pieces j) := by
  intro pieces
  have hScan : ∀ block, block? answer = some block ↔ ∃ i j, IsBlock pieces i j ∧
      block = String.ofList (trimEnd (joinLines (linesBetween pieces i j))) := by
    intro block
    rw [block?, Option.map_eq_some_iff]
    simp only [blockLines?_eq_some_iff_isBlock]
    constructor
    · rintro ⟨_, ⟨i, j, h, rfl⟩, rfl⟩
      exact ⟨i, j, h, rfl⟩
    · rintro ⟨i, j, h, rfl⟩
      exact ⟨_, ⟨i, j, h, rfl⟩, rfl⟩
  refine ⟨fun block => ?_, hScan, ?_⟩
  · rw [hScan]
    constructor
    · rintro ⟨i, j, h, rfl⟩
      obtain ⟨before, hFirst⟩ := h.firstMatch
      exact ⟨before, _, hFirst, rfl⟩
    · rintro ⟨before, body, h, rfl⟩
      obtain ⟨i, j, hBlock, rfl⟩ := h.isBlock
      exact ⟨i, j, hBlock, rfl⟩
  · have hSome : block? answer = none ↔ ¬∃ i j, IsBlock pieces i j := by
      rw [Option.eq_none_iff_forall_ne_some]
      simp only [ne_eq, hScan]
      constructor
      · rintro h ⟨i, j, hBlock⟩
        exact h _ ⟨i, j, hBlock, rfl⟩
      · rintro h block ⟨i, j, hBlock, -⟩
        exact h ⟨i, j, hBlock⟩
    rw [hSome]
    exact not_exists_isBlock_iff

end TypeRepair.Patch
