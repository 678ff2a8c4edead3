import TypeRepair.Proofs.Diagnostic.Splitting
import TypeRepair.Proofs.Text.Number

/-!
# Diagnostics as the checker prints them

* `Printable.parseLine?_render`: a printed diagnostic is read back.
* `parse_printed`: so is every list of them, whatever stands between their lines.
-/

namespace TypeRepair

theorem Text.all_not_isBlank_iff {cs : List Char} :
    (cs.all fun c => !isBlank c) = true ↔ ∀ c ∈ cs, isBlank c = false := by
  simp only [List.all_eq_true, Bool.not_eq_true']

namespace Diagnostic

open Text

/-- The line of a diagnostic: `file(line,col): error code: message`. -/
def render (d : Diagnostic) : String :=
  d.file ++ "(" ++ toString d.line ++ "," ++ toString d.col ++ "): error " ++ d.code ++ ": " ++
    d.message

/-- What follows the file in the line of a diagnostic. -/
def tail (d : Diagnostic) : Tail :=
  ⟨Nat.toDigits 10 d.line, Nat.toDigits 10 d.col, d.code.toList, d.message.toList⟩

/-- The diagnostic can be printed on one line so that its parts can be told apart: no parenthesis
after the one behind the file is followed by a tail of its own. -/
structure Printable (d : Diagnostic) : Prop where
  file_ne : d.file ≠ ""
  file_line : '\n' ∉ d.file.toList
  file_trimmed : trimmed d.file = d.file
  line_pos : 0 < d.line
  line_lt : d.line < Nat.pow 2 32
  col_pos : 0 < d.col
  col_lt : d.col < Nat.pow 2 32
  code_ne : d.code ≠ ""
  code_solid : ∀ c ∈ d.code.toList, isBlank c = false
  message_ne : d.message ≠ ""
  message_line : '\n' ∉ d.message.toList
  message_trimmed : trimmed d.message = d.message
  unambiguous : ∀ before after, d.tail.text = before ++ '(' :: after →
    ∀ other : Tail, other.WellFormed → after ≠ other.text

theorem toList_render (d : Diagnostic) : d.render.toList = d.file.toList ++ '(' :: d.tail.text := by
  simp [render, tail, Tail.text]

/-- No further tail stands behind the file exactly if the reader finds none. -/
theorem lastSplit?_tail_eq_none_iff {d : Diagnostic} :
    lastSplit? d.tail.text = none ↔ ∀ before after, d.tail.text = before ++ '(' :: after →
      ∀ other : Tail, other.WellFormed → after ≠ other.text := by
  simp only [lastSplit?_eq_none_iff, Tail.read?_eq_none_iff]

instance (d : Diagnostic) : Decidable d.Printable :=
  decidable_of_iff
    ((d.file ≠ "" ∧ '\n' ∉ d.file.toList ∧ trimmed d.file = d.file) ∧
      (0 < d.line ∧ d.line < Nat.pow 2 32 ∧ 0 < d.col ∧ d.col < Nat.pow 2 32) ∧
      (d.code ≠ "" ∧ (d.code.toList.all fun c => !isBlank c) = true) ∧
      (d.message ≠ "" ∧ '\n' ∉ d.message.toList ∧ trimmed d.message = d.message) ∧
      lastSplit? d.tail.text = none)
    ⟨fun ⟨⟨h₁, h₂, h₃⟩, ⟨h₄, h₅, h₆, h₇⟩, ⟨h₈, h₉⟩, ⟨h₁₀, h₁₁, h₁₂⟩, hLast⟩ =>
      ⟨h₁, h₂, h₃, h₄, h₅, h₆, h₇, h₈, all_not_isBlank_iff.mp h₉, h₁₀, h₁₁, h₁₂,
        lastSplit?_tail_eq_none_iff.mp hLast⟩,
    fun h => ⟨⟨h.file_ne, h.file_line, h.file_trimmed⟩,
      ⟨h.line_pos, h.line_lt, h.col_pos, h.col_lt⟩,
      ⟨h.code_ne, all_not_isBlank_iff.mpr h.code_solid⟩,
      ⟨h.message_ne, h.message_line, h.message_trimmed⟩,
      lastSplit?_tail_eq_none_iff.mpr h.unambiguous⟩⟩

theorem position?_toDigits {n : Nat} (hPos : 0 < n) (hLt : n < Nat.pow 2 32) :
    position? (Nat.toDigits 10 n) = some n := by
  rw [position?, readNat?_toDigits, Option.filter_some, if_pos]
  simpa using ⟨hPos, hLt⟩

section

variable {d : Diagnostic} (h : d.Printable)

include h

theorem Printable.tail_wellFormed : d.tail.WellFormed where
  line_ne := Nat.toDigits_ne_nil
  line_digits _ hc := isDecimalDigit_of_isDigit (isDigit_of_mem_toDigits hc)
  col_ne := Nat.toDigits_ne_nil
  col_digits _ hc := isDecimalDigit_of_isDigit (isDigit_of_mem_toDigits hc)
  code_ne hNil := h.code_ne (String.toList_eq_nil_iff.mp hNil)
  code_solid := h.code_solid
  message_ne hNil := h.message_ne (String.toList_eq_nil_iff.mp hNil)

/-- The line splits behind the file, whatever the file itself looks like. -/
theorem Printable.split?_render : split? d.render.toList = some (d.file.toList, d.tail) := by
  have hTail : Tail.read? d.tail.text = some d.tail := Tail.read?_text h.tail_wellFormed
  have hLast : lastSplit? d.tail.text = none := lastSplit?_tail_eq_none_iff.mpr h.unambiguous
  rw [toList_render]
  cases hFile : d.file.toList with
  | nil => exact absurd (String.toList_eq_nil_iff.mp hFile) h.file_ne
  | cons c file => rw [List.cons_append, split?, lastSplit?_append hTail hLast, Option.map_some]

theorem Printable.parseLine?_render : parseLine? d.render.toList = some d := by
  have hFile : String.ofList (trim d.file.toList) = d.file := h.file_trimmed
  have hMessage : String.ofList (trim d.message.toList) = d.message := h.message_trimmed
  simp only [parseLine?, Option.bind_eq_bind]
  rw [h.split?_render, Option.bind_some]
  dsimp only [tail]
  rw [position?_toDigits h.line_pos h.line_lt, Option.bind_some,
    position?_toDigits h.col_pos h.col_lt, Option.bind_some, hFile, hMessage, String.ofList_toList]

theorem Printable.newline_notMem_render : '\n' ∉ d.render.toList := by
  have hDigits : ∀ n, '\n' ∉ Nat.toDigits 10 n := fun n hMem =>
    absurd (isDigit_of_mem_toDigits hMem) (by decide)
  have hCode : '\n' ∉ d.code.toList := fun hMem =>
    absurd (h.code_solid _ hMem) (by decide)
  rw [toList_render]
  simp [Tail.text, tail, h.file_line, hDigits, hCode, h.message_line]

/-- The line ends as the message does, and the message does not end with a blank. -/
theorem Printable.getLast?_render_ne : d.render.toList.getLast? ≠ some '\r' := by
  have hMessage : d.message.toList ≠ [] := h.tail_wellFormed.message_ne
  have hTrimmed : trim d.message.toList = d.message.toList := by
    have hText := congrArg String.toList h.message_trimmed
    rwa [trimmed, String.toList_ofList] at hText
  obtain ⟨front, hFront⟩ : ∃ front, d.render.toList = front ++ d.message.toList :=
    ⟨_, String.toList_append⟩
  have hEnd : d.render.toList.getLast? = d.message.toList.getLast? := by
    rw [hFront, List.getLast?_append_of_ne_nil _ hMessage]
  rw [hEnd]
  intro hReturn
  rw [← hTrimmed, ← trimEnd_trim] at hReturn
  exact absurd (isBlank_getLast_trimEnd hReturn) (by decide)

end

/-! ## Output -/

/-- A line of output that reports nothing. -/
structure Noise (line : List Char) : Prop where
  one_line : '\n' ∉ line
  no_return : line.getLast? ≠ some '\r'
  rejected : parseLine? line = none

instance (line : List Char) : Decidable (Noise line) :=
  decidable_of_iff ('\n' ∉ line ∧ line.getLast? ≠ some '\r' ∧ parseLine? line = none)
    ⟨fun ⟨hLine, hReturn, hRejected⟩ => ⟨hLine, hReturn, hRejected⟩,
    fun h => ⟨h.one_line, h.no_return, h.rejected⟩⟩

/-- The lines are those of the diagnostics, in order, with any noise before, between and after
them. -/
inductive Interleaved : List Diagnostic → List (List Char) → Prop
  | nil : Interleaved [] []
  | report (d : Diagnostic) {diagnostics : List Diagnostic} {pieces : List (List Char)}
    (h : Interleaved diagnostics pieces) :
    Interleaved (d :: diagnostics) (d.render.toList :: pieces)
  | noise {line : List Char} (hNoise : Noise line) {diagnostics : List Diagnostic}
    {pieces : List (List Char)} (h : Interleaved diagnostics pieces) :
    Interleaved diagnostics (line :: pieces)

theorem Interleaved.filterMap_parseLine? {diagnostics : List Diagnostic}
    {pieces : List (List Char)} (h : Interleaved diagnostics pieces)
    (hPrintable : ∀ d ∈ diagnostics, d.Printable) : pieces.filterMap parseLine? = diagnostics := by
  induction h with
  | nil => rfl
  | report d _ ih =>
    rw [List.forall_mem_cons] at hPrintable
    rw [List.filterMap_cons_some hPrintable.1.parseLine?_render, ih hPrintable.2]
  | noise hNoise _ ih => rw [List.filterMap_cons_none hNoise.rejected, ih hPrintable]

theorem Interleaved.lines_closed {diagnostics : List Diagnostic} {pieces : List (List Char)}
    (h : Interleaved diagnostics pieces) (hPrintable : ∀ d ∈ diagnostics, d.Printable) :
    ∀ line ∈ pieces, '\n' ∉ line ∧ line.getLast? ≠ some '\r' := by
  induction h with
  | nil => exact fun _ hLine => absurd hLine List.not_mem_nil
  | report d _ ih =>
    rw [List.forall_mem_cons] at hPrintable
    exact List.forall_mem_cons.mpr
      ⟨⟨hPrintable.1.newline_notMem_render, hPrintable.1.getLast?_render_ne⟩, ih hPrintable.2⟩
  | noise hNoise _ ih =>
    exact List.forall_mem_cons.mpr ⟨⟨hNoise.one_line, hNoise.no_return⟩, ih hPrintable⟩

/-- The diagnostics that output was printed for are those that are read from it, in order, whatever
noise stands between their lines and however the lines are ended. -/
theorem parse_printed {diagnostics : List Diagnostic} {pieces : List (List Char)} {output : String}
    (hPrintable : ∀ d ∈ diagnostics, d.Printable) (hPieces : Interleaved diagnostics pieces)
    (hOutput : Consists pieces output.toList) : parse output = diagnostics := by
  have hLines : parse output = pieces.filterMap parseLine? :=
    hOutput.filterMap_outputLines rfl (hPieces.lines_closed hPrintable)
  exact hLines.trans (hPieces.filterMap_parseLine? hPrintable)

/-- A report of a path with parentheses. -/
def bracketed : Diagnostic := ⟨"src (old)\\a.ts", 12, 5, "TS2322", "Type 'f(1,2)' is bad."⟩

/-- A report of a path that looks like a report itself. -/
def disguised : Diagnostic :=
  ⟨"b.ts(3,4): error TS1: c.ts", 1, 4294967295, "TS2", "see (2,3): warning TS1: x"⟩

/-- The lines of these reports with noise before and between them. -/
def noisyLines : List (List Char) :=
  ["Version 5.4.2".toList, bracketed.render.toList, "  Type 'number' is not assignable.".toList, [],
    disguised.render.toList]

def noisyOutput : String :=
  "Version 5.4.2\nsrc (old)\\a.ts(12,5): error TS2322: Type 'f(1,2)' is bad.\r\n" ++
    "  Type 'number' is not assignable.\n\r\n" ++
    "b.ts(3,4): error TS1: c.ts(1,4294967295): error TS2: see (2,3): warning TS1: x"

theorem noisyOutput_read :
    (∀ d ∈ [bracketed, disguised], d.Printable) ∧ Interleaved [bracketed, disguised] noisyLines ∧
      Consists noisyLines noisyOutput.toList ∧ parse noisyOutput = [bracketed, disguised] := by
  have hPrintable : ∀ d ∈ [bracketed, disguised], d.Printable := by decide
  have hLines : Interleaved [bracketed, disguised] noisyLines :=
    .noise (by decide) (.report _ (.noise (by decide) (.noise (by decide) (.report _ .nil))))
  have hOutput : Consists noisyLines noisyOutput.toList := by
    have hText : noisyOutput = "Version 5.4.2" ++ "\n" ++ bracketed.render ++ "\r\n" ++
        "  Type 'number' is not assignable." ++ "\n" ++ "\r\n" ++ disguised.render := rfl
    have hEnds : "\n".toList = ['\n'] ∧ "\r\n".toList = ['\r', '\n'] := ⟨rfl, rfl⟩
    rw [hText]
    simp only [String.toList_append, List.append_assoc, hEnds, List.cons_append, List.nil_append]
    exact .newline _ (.returnNewline _ (.newline _ (.returnNewline [] (.last _))))
  exact ⟨hPrintable, hLines, hOutput, parse_printed hPrintable hLines hOutput⟩

end Diagnostic

end TypeRepair
