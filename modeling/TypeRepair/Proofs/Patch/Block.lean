import Mathlib.Data.List.TakeWhile
import TypeRepair.Patch.Fence
import TypeRepair.Proofs.Diagnostic.Parsing
import TypeRepair.Proofs.Text.Lines

/-!
# What is in a fenced block

* `closesBlock_eq_true_iff`: the lines that close a block.
* `blockLines?_eq_some_iff`: where the first block of an answer lies.
* `block?_of_lines`: the body of a block that a fence ends.
* `block?_eq_some`: its body, in which only the last line may have lost blanks.
-/

namespace TypeRepair.Patch

open Text

/-- At most three spaces, three backticks and then blanks; where it is allowed, a carriage return
may end the line. -/
def IsClosing (returnAllowed : Bool) (line : List Char) : Prop :=
  ∃ indent blanks ending, indent ≤ 3 ∧ (∀ c ∈ blanks, c = ' ' ∨ c = '\t') ∧
    (ending = [] ∨ returnAllowed = true ∧ ending = ['\r']) ∧
    line = List.replicate indent ' ' ++ (fence ++ (blanks ++ ending))

theorem isClosing_fence (returnAllowed : Bool) : IsClosing returnAllowed fence :=
  ⟨0, [], [], by decide, by simp, .inl rfl, rfl⟩

/-- The spaces at the front of a line end at the next character. -/
theorem span_indent (indent : Nat) {c : Char} (hc : c ≠ ' ') (rest : List Char) :
    (List.replicate indent ' ' ++ c :: rest).takeWhile (· = ' ') = List.replicate indent ' ' ∧
      (List.replicate indent ' ' ++ c :: rest).dropWhile (· = ' ') = c :: rest := by
  have hSpaces : ∀ d ∈ List.replicate indent ' ', decide (d = ' ') = true := fun d hd =>
    decide_eq_true (List.eq_of_mem_replicate hd)
  exact span_append hSpaces (decide_eq_false hc) rest

theorem closesBlock_of_isClosing {isLast : Bool} {line : List Char} (h : IsClosing (!isLast) line) :
    closesBlock isLast line = true := by
  obtain ⟨indent, blanks, ending, hIndent, hBlanks, hEnding, rfl⟩ := h
  obtain ⟨hTake, hDrop⟩ := span_indent indent (show '\x60' ≠ ' ' by decide)
    ('\x60' :: '\x60' :: (blanks ++ ending))
  have hFence : fence.isPrefixOf? ('\x60' :: '\x60' :: '\x60' :: (blanks ++ ending)) =
      some (blanks ++ ending) := isPrefixOf?_append fence (blanks ++ ending)
  have hRest : (blanks ++ ending).dropWhile (fun c => c = ' ' || c = '\t') = ending := by
    rw [List.dropWhile_append_of_pos fun c hc => by simpa using hBlanks c hc]
    rcases hEnding with rfl | ⟨-, rfl⟩ <;> rfl
  change closesBlock isLast (List.replicate indent ' ' ++ '\x60' :: '\x60' :: '\x60' ::
    (blanks ++ ending)) = true
  simp only [closesBlock, hTake, hDrop, hFence, hRest, List.length_replicate, Bool.and_eq_true,
    decide_eq_true_eq]
  refine ⟨hIndent, ?_⟩
  rcases hEnding with rfl | ⟨hReturn, rfl⟩
  · rfl
  · exact hReturn

theorem isClosing_of_closesBlock {isLast : Bool} {line : List Char}
    (h : closesBlock isLast line = true) : IsClosing (!isLast) line := by
  rw [closesBlock, Bool.and_eq_true, decide_eq_true_eq] at h
  obtain ⟨hIndent, h⟩ := h
  split at h
  · cases h
  · rename_i rest hFence
    rw [List.isPrefixOf?_eq_some_iff_append_eq] at hFence
    have hSpaces : line.takeWhile (· = ' ') =
        List.replicate (line.takeWhile (· = ' ')).length ' ' :=
      List.eq_replicate_of_mem fun c hc => by simpa using List.mem_takeWhile_imp hc
    have hBlanks : ∀ c ∈ rest.takeWhile (fun c => c = ' ' || c = '\t'), c = ' ' ∨ c = '\t' :=
      fun c hc => by simpa using List.mem_takeWhile_imp hc
    have hEnding : rest.dropWhile (fun c => c = ' ' || c = '\t') = [] ∨
        (!isLast) = true ∧ rest.dropWhile (fun c => c = ' ' || c = '\t') = ['\r'] := by
      split at h
      · exact .inl (by assumption)
      · exact .inr ⟨h, by assumption⟩
      · cases h
    refine ⟨_, _, _, hIndent, hBlanks, hEnding, ?_⟩
    rw [List.takeWhile_append_dropWhile, hFence, ← hSpaces, List.takeWhile_append_dropWhile]

theorem closesBlock_eq_true_iff {isLast : Bool} {line : List Char} :
    closesBlock isLast line = true ↔ IsClosing (!isLast) line :=
  ⟨isClosing_of_closesBlock, closesBlock_of_isClosing⟩

theorem closesBlock_eq_false_iff {isLast : Bool} {line : List Char} :
    closesBlock isLast line = false ↔ ¬IsClosing (!isLast) line := by
  rw [← closesBlock_eq_true_iff, Bool.not_eq_true]

/-! ## The lines of a block -/

/-- The first line that opens a block is not the last one of the answer. -/
theorem afterOpening_eq_some_iff {pieces rest : List (List Char)} :
    afterOpening pieces = some rest ↔ rest ≠ [] ∧ ∃ before opening,
      pieces = before ++ opening :: rest ∧ (∀ line ∈ before, opensBlock line = false) ∧
        opensBlock opening = true := by
  induction pieces with
  | nil => simp [afterOpening]
  | cons line pieces ih =>
    rcases pieces with _ | ⟨next, pieces⟩
    · simp only [afterOpening, List.singleton_eq_append_iff]
      simp +contextual
    · rw [afterOpening]
      · split
        · rename_i hOpens
          constructor
          · intro h
            cases h
            exact ⟨List.cons_ne_nil _ _, [], line, rfl, by simp, hOpens⟩
          · rintro ⟨-, before, opening, hPieces, hBefore, -⟩
            cases before with
            | nil =>
              obtain ⟨-, rfl⟩ := List.cons.inj hPieces
              rfl
            | cons first before =>
              obtain ⟨rfl, -⟩ := List.cons.inj hPieces
              rw [hBefore line List.mem_cons_self] at hOpens
              cases hOpens
        · rename_i hOpens
          rw [ih]
          refine and_congr_right fun _ => ?_
          constructor
          · rintro ⟨before, opening, hPieces, hBefore, hOpening⟩
            exact ⟨line :: before, opening, by rw [hPieces, List.cons_append],
              List.forall_mem_cons.mpr ⟨by simpa using hOpens, hBefore⟩, hOpening⟩
          · rintro ⟨before, opening, hPieces, hBefore, hOpening⟩
            cases before with
            | nil =>
              obtain ⟨rfl, -⟩ := List.cons.inj hPieces
              exact absurd hOpening hOpens
            | cons first before =>
              obtain ⟨-, hRest⟩ := List.cons.inj hPieces
              exact ⟨before, opening, hRest, (List.forall_mem_cons.mp hBefore).2, hOpening⟩
      · exact List.cons_ne_nil _ _

/-- A block ends before the first line that closes it. -/
theorem beforeClosing_eq_some_iff {body pieces result : List (List Char)} :
    beforeClosing body pieces = some result ↔ ∃ between closing after,
      pieces = between ++ closing :: after ∧ (∀ line ∈ between, closesBlock false line = false) ∧
        closesBlock after.isEmpty closing = true ∧ result = body.reverse ++ between := by
  induction pieces generalizing body with
  | nil => simp [beforeClosing]
  | cons line pieces ih =>
    -- A line is not the last one if the closing line comes after it.
    have hNotLast : ∀ {between after : List (List Char)} {closing : List Char},
        pieces = between ++ closing :: after → pieces.isEmpty = false := by
      intro between after closing hPieces
      simp [hPieces]
    rw [beforeClosing]
    split
    · rename_i hCloses
      constructor
      · intro h
        cases h
        exact ⟨[], line, pieces, rfl, by simp, hCloses, by simp⟩
      · rintro ⟨between, closing, after, hPieces, hBetween, -, rfl⟩
        cases between with
        | nil => simp
        | cons first between =>
          obtain ⟨rfl, hRest⟩ := List.cons.inj hPieces
          rw [hNotLast hRest, hBetween line List.mem_cons_self] at hCloses
          cases hCloses
    · rename_i hCloses
      rw [ih]
      constructor
      · rintro ⟨between, closing, after, hPieces, hBetween, hClosing, rfl⟩
        rw [hNotLast hPieces] at hCloses
        exact ⟨line :: between, closing, after, by rw [hPieces, List.cons_append],
          List.forall_mem_cons.mpr ⟨by simpa using hCloses, hBetween⟩, hClosing, by simp⟩
      · rintro ⟨between, closing, after, hPieces, hBetween, hClosing, rfl⟩
        cases between with
        | nil =>
          obtain ⟨rfl, rfl⟩ := List.cons.inj hPieces
          exact absurd hClosing hCloses
        | cons first between =>
          obtain ⟨rfl, hRest⟩ := List.cons.inj hPieces
          exact ⟨between, closing, after, hRest, (List.forall_mem_cons.mp hBetween).2, hClosing,
            by simp⟩

/-- A block reaches from the line after the opening one to the next line that closes it; its own
first line never does. -/
theorem blockLines?_eq_some_iff {pieces result : List (List Char)} :
    blockLines? pieces = some result ↔ ∃ before opening first between closing after,
      pieces = before ++ opening :: first :: (between ++ closing :: after) ∧
        (∀ line ∈ before, opensBlock line = false) ∧ opensBlock opening = true ∧
        (∀ line ∈ between, closesBlock false line = false) ∧
        closesBlock after.isEmpty closing = true ∧ result = first :: between := by
  unfold blockLines?
  constructor
  · intro h
    split at h
    · rename_i first rest hOpened
      obtain ⟨-, before, opening, rfl, hBefore, hOpening⟩ := afterOpening_eq_some_iff.mp hOpened
      obtain ⟨between, closing, after, rfl, hBetween, hClosing, rfl⟩ :=
        beforeClosing_eq_some_iff.mp h
      exact ⟨before, opening, first, between, closing, after, rfl, hBefore, hOpening, hBetween,
        hClosing, rfl⟩
    · cases h
  · rintro ⟨before, opening, first, between, closing, after, rfl, hBefore, hOpening, hBetween,
      hClosing, rfl⟩
    rw [afterOpening_eq_some_iff.mpr
      ⟨List.cons_ne_nil _ _, before, opening, rfl, hBefore, hOpening⟩]
    exact beforeClosing_eq_some_iff.mpr ⟨between, closing, after, rfl, hBetween, hClosing, rfl⟩

/-- A block that a fence ends, after its opening line and a body of which at most the first line
looks like one that closes a block. -/
theorem block?_of_lines {answer : String} {before body after : List (List Char)}
    {opening : List Char}
    (hLines : lines answer.toList = before ++ opening :: (body ++ fence :: after))
    (hBefore : ∀ line ∈ before, opensBlock line = false) (hOpening : opensBlock opening = true)
    (hNe : body ≠ []) (hBody : ∀ line ∈ body.tail, ¬IsClosing true line) :
    block? answer = some (String.ofList (trimEnd (joinLines body))) := by
  obtain ⟨first, between, rfl⟩ := List.exists_cons_of_ne_nil hNe
  have hBetween : ∀ line ∈ between, closesBlock false line = false := fun line hLine =>
    closesBlock_eq_false_iff.mpr (hBody line hLine)
  have hClosing : closesBlock after.isEmpty fence = true :=
    closesBlock_eq_true_iff.mpr (isClosing_fence _)
  have hBlock := blockLines?_eq_some_iff.mpr
    ⟨before, opening, first, between, fence, after, hLines, hBefore, hOpening, hBetween, hClosing,
      rfl⟩
  rw [block?, hBlock, Option.map_some]

/-- The body of a block: lines of which only the first one may look like one that closes a block,
without the blanks at their end. -/
theorem block?_eq_some {answer block : String} (h : block? answer = some block) :
    ∃ first between, block = String.ofList (trimEnd (joinLines (first :: between))) ∧
      (∀ line ∈ first :: between, '\n' ∉ line) ∧ ∀ line ∈ between, ¬ IsClosing true line := by
  obtain ⟨body, hBody, rfl⟩ := Option.map_eq_some_iff.mp h
  obtain ⟨before, opening, first, between, closing, after, hPieces, -, -, hBetween, -, rfl⟩ :=
    blockLines?_eq_some_iff.mp hBody
  refine ⟨first, between, rfl, fun line hLine => ?_, fun line hLine => ?_⟩
  · have hMem : line ∈ lines answer.toList := by
      rw [hPieces]
      simp only [List.mem_append, List.mem_cons] at hLine ⊢
      tauto
    exact newline_notMem_of_mem_lines hMem
  · exact closesBlock_eq_false_iff.mp (hBetween line hLine)

end TypeRepair.Patch
