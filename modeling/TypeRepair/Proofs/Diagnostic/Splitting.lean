import Mathlib.Data.List.Basic
import TypeRepair.Diagnostic.Parser
import TypeRepair.Proofs.Text.Lines

/-!
# Where an error line splits

After the file of an error line comes `(line,col): error code: message`. The text after the
parenthesis determines these four parts, and the file ends at the last parenthesis that such a text
follows.

* `Tail.read?_eq_some_iff`: the texts that may follow the parenthesis.
* `lastSplit?_append`: a line splits at the last parenthesis with such a text behind it.
-/

namespace TypeRepair.Diagnostic

open Text

theorem splitLast?_eq_some_iff {run before : List Char} {last : Char} :
    splitLast? run = some (before, last) ↔ run = before ++ [last] := by
  unfold splitLast?
  constructor
  · intro h
    obtain ⟨c, hLast, hEq⟩ := Option.map_eq_some_iff.mp h
    cases hEq
    exact (List.dropLast_append_getLast? last hLast).symm
  · rintro rfl
    simp

namespace Tail

/-- The tail as it stands in a line. -/
def text (tail : Tail) : List Char :=
  tail.line ++ ',' :: (tail.col ++ "): error ".toList ++ tail.code ++ ": ".toList ++ tail.message)

/-- The parts are such as an error line has: two runs of digits, a code without blanks and a
message. -/
structure WellFormed (tail : Tail) : Prop where
  line_ne : tail.line ≠ []
  line_digits : ∀ c ∈ tail.line, isDecimalDigit c = true
  col_ne : tail.col ≠ []
  col_digits : ∀ c ∈ tail.col, isDecimalDigit c = true
  code_ne : tail.code ≠ []
  code_solid : ∀ c ∈ tail.code, isBlank c = false
  message_ne : tail.message ≠ []

theorem read?_text {tail : Tail} (h : tail.WellFormed) : read? tail.text = some tail := by
  obtain ⟨line, col, code, message⟩ := tail
  obtain ⟨hLine, hLineDigits, hCol, hColDigits, hCode, hSolid, hMessage⟩ := h
  dsimp only at hLine hLineDigits hCol hColDigits hCode hSolid hMessage
  have hSolid' : ∀ c ∈ code ++ [':'], (fun c => !isBlank c) c = true := by
    intro c hc
    rcases List.mem_append.mp hc with hc | hc
    · simp [hSolid c hc]
    · rw [List.mem_singleton.mp hc]
      rfl
  obtain ⟨hTakeLine, hDropLine⟩ := span_append hLineDigits
    (show isDecimalDigit ',' = false from rfl)
    (col ++ "): error ".toList ++ code ++ ": ".toList ++ message)
  obtain ⟨hTakeCol, hDropCol⟩ := span_append hColDigits (show isDecimalDigit ')' = false from rfl)
    (": error ".toList ++ code ++ ": ".toList ++ message)
  obtain ⟨hTakeCode, hDropCode⟩ := span_append hSolid'
    (show (!isBlank ' ') = false from rfl) message
  have hComma : [','].isPrefixOf?
      (',' :: (col ++ "): error ".toList ++ code ++ ": ".toList ++ message)) =
        some (col ++ ')' :: (": error ".toList ++ code ++ ": ".toList ++ message)) := by
    rw [List.isPrefixOf?_eq_some_iff_append_eq]
    simp
  have hError : "): error ".toList.isPrefixOf?
      (')' :: (": error ".toList ++ code ++ ": ".toList ++ message)) =
        some (code ++ [':'] ++ ' ' :: message) := by
    rw [List.isPrefixOf?_eq_some_iff_append_eq]
    simp
  have hSpace : [' '].isPrefixOf? (' ' :: message) = some message := by
    rw [List.isPrefixOf?_eq_some_iff_append_eq]
    rfl
  have hLast : splitLast? (code ++ [':']) = some (code, ':') := splitLast?_eq_some_iff.mpr rfl
  simp only [read?, text, Option.bind_eq_bind]
  simp only [hTakeLine, hDropLine, hComma, Option.bind_some, hTakeCol, hDropCol, hError, hTakeCode,
    hDropCode, hLast, hSpace]
  simp [hLine, hCol, hCode, hMessage]

theorem wellFormed_of_read? {cs : List Char} {tail : Tail} (h : read? cs = some tail) :
    cs = tail.text ∧ tail.WellFormed := by
  simp only [read?, Option.bind_eq_bind, Option.bind_eq_some_iff] at h
  obtain ⟨afterLine, hComma, afterCol, hError, ⟨code, colon⟩, hLast, message, hSpace, h⟩ := h
  split at h
  · rename_i hParts
    obtain ⟨rfl, hLine, hCol, hCode, hMessage⟩ := hParts
    cases h
    have hRun := splitLast?_eq_some_iff.mp hLast
    rw [List.isPrefixOf?_eq_some_iff_append_eq] at hComma hError hSpace
    refine ⟨?_, hLine, fun c hc => List.mem_takeWhile_imp hc, hCol,
      fun c hc => List.mem_takeWhile_imp hc, hCode, fun c hc => ?_, hMessage⟩
    -- The line is put together again from its runs and what was found between them.
    · have hAfterCol : afterCol = code ++ ": ".toList ++ message :=
        calc afterCol
          _ = code ++ [':'] ++ ([' '] ++ message) := by
            rw [← hRun, hSpace, List.takeWhile_append_dropWhile]
          _ = code ++ ": ".toList ++ message := by simp
      have hAfterLine : afterLine =
          afterLine.takeWhile isDecimalDigit ++ ("): error ".toList ++ afterCol) := by
        rw [hError, List.takeWhile_append_dropWhile]
      have hAll : cs = cs.takeWhile isDecimalDigit ++ ([','] ++ afterLine) := by
        rw [hComma, List.takeWhile_append_dropWhile]
      calc cs
        _ = cs.takeWhile isDecimalDigit ++ ([','] ++ (afterLine.takeWhile isDecimalDigit ++
              ("): error ".toList ++ (code ++ ": ".toList ++ message)))) := by
          rw [← hAfterCol, ← hAfterLine, ← hAll]
        _ = _ := by simp [text]
    · have hMem : c ∈ afterCol.takeWhile fun c => !isBlank c := by
        rw [hRun]
        exact List.mem_append_left _ hc
      simpa using List.mem_takeWhile_imp hMem
  · cases h

theorem read?_eq_some_iff {cs : List Char} {tail : Tail} :
    read? cs = some tail ↔ cs = tail.text ∧ tail.WellFormed := by
  constructor
  · exact wellFormed_of_read?
  · rintro ⟨rfl, h⟩
    exact read?_text h

/-- What follows a parenthesis cannot be read if it is no tail. -/
theorem read?_eq_none_iff {cs : List Char} :
    read? cs = none ↔ ∀ tail : Tail, tail.WellFormed → cs ≠ tail.text := by
  rw [Option.eq_none_iff_forall_ne_some]
  refine forall_congr' fun tail => ?_
  rw [ne_eq, read?_eq_some_iff, not_and', ne_eq]

end Tail

theorem lastSplit?_eq_none_iff {cs : List Char} :
    lastSplit? cs = none ↔
      ∀ before after, cs = before ++ '(' :: after → Tail.read? after = none := by
  induction cs with
  | nil => simp [lastSplit?]
  | cons c cs ih =>
    rw [lastSplit?]
    constructor
    · intro h before after hSplit
      split at h
      · cases h
      · rename_i hLater
        cases before with
        | nil =>
          obtain ⟨rfl, rfl⟩ := List.cons.inj hSplit
          simpa using h
        | cons first before =>
          obtain ⟨-, hRest⟩ := List.cons.inj hSplit
          exact ih.mp hLater before after hRest
    · intro h
      have hLater : lastSplit? cs = none := ih.mpr fun before after hSplit =>
        h (c :: before) after (by rw [hSplit, List.cons_append])
      rw [hLater]
      dsimp only
      split
      · rename_i hc
        rw [h [] cs (by rw [hc, List.nil_append])]
        rfl
      · rfl

/-- The file reaches to the last parenthesis that a tail follows. -/
theorem lastSplit?_append {rest : List Char} {tail : Tail} (hTail : Tail.read? rest = some tail)
    (hLast : lastSplit? rest = none) (file : List Char) :
    lastSplit? (file ++ '(' :: rest) = some (file, tail) := by
  induction file with
  | nil => simp [lastSplit?, hLast, hTail]
  | cons c file ih => rw [List.cons_append, lastSplit?, ih]

end TypeRepair.Diagnostic
