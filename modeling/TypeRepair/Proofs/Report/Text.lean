import TypeRepair.Proofs.Diagnostic.Parsing
import TypeRepair.Proofs.Repair.Rounds
import TypeRepair.Proofs.Text.Number
import TypeRepair.Report.Text

/-!
# What reports to read tell

Reports are made of lines, and no path breaks a line. So each line can be taken for itself: numbers
are found from its ends, and whatever is left of a row between its fixed parts is the path.

* `markdown_eq_unlines`, `terminal_eq_unlines`: the lines of the reports.
* `Frame.Legible.line_inj`: a line tells its file and its number.
* `tableRows?_markdown`: the rows of the table.
* `reports_tell_what_they_show`: what equal reports agree on.
-/

namespace TypeRepair

namespace Text

/-- Lines with a newline behind each of them. -/
def unlines (pieces : List String) : String :=
  String.join (pieces.map (· ++ "\n"))

theorem unlines_nil : unlines [] = "" :=
  String.join_nil

theorem unlines_cons (piece : String) (pieces : List String) :
    unlines (piece :: pieces) = piece ++ ("\n" ++ unlines pieces) := by
  rw [unlines, List.map_cons, String.join_cons, String.append_assoc, unlines]

theorem unlines_append (pieces more : List String) :
    unlines (pieces ++ more) = unlines pieces ++ unlines more := by
  rw [unlines, List.map_append, String.join_append, unlines, unlines]

theorem lines_unlines {pieces : List String} (h : ∀ piece ∈ pieces, '\n' ∉ piece.toList) :
    lines (unlines pieces).toList = pieces.map String.toList ++ [[]] := by
  induction pieces with
  | nil => simp [unlines_nil]
  | cons piece pieces ih =>
    obtain ⟨hPiece, hPieces⟩ := List.forall_mem_cons.mp h
    have hText : (unlines (piece :: pieces)).toList =
        piece.toList ++ '\n' :: (unlines pieces).toList := by simp [unlines_cons]
    rw [hText, lines_line hPiece, ih hPieces, List.map_cons, List.cons_append]

theorem unlines_inj {pieces more : List String} (h : ∀ piece ∈ pieces, '\n' ∉ piece.toList)
    (hMore : ∀ piece ∈ more, '\n' ∉ piece.toList) :
    unlines pieces = unlines more ↔ pieces = more := by
  refine ⟨fun hSame => ?_, fun hSame => by rw [hSame]⟩
  have hLines := lines_unlines h
  rw [hSame, lines_unlines hMore] at hLines
  have hSameLines := List.append_cancel_right hLines
  exact (List.map_injective_iff.mpr (fun _ _ => String.toList_inj.mp) hSameLines).symm

end Text

namespace Summary

/-- The files of the patches with the numbers of errors, in order. -/
def targeted (summary : Summary) : List (String × Nat) :=
  summary.results.map fun patch => (patch.file, patch.errorsTargeted)

/-- What is made of each patch without its bodies is made of its file and its number. -/
theorem map_results {β : Type} (summary : Summary) (f : String → Nat → β) :
    (summary.results.map fun patch => f patch.file patch.errorsTargeted) =
      summary.targeted.map fun (file, errors) => f file errors := by
  rw [targeted, List.map_map]
  rfl

theorem targeted_eq_nil_iff {summary : Summary} : summary.targeted = [] ↔ summary.results = [] :=
  List.map_eq_nil_iff

end Summary

namespace Report

open Text

/-! ## The lines -/

/-- The fixed texts of a line that holds a file and a number. -/
structure Frame where
  before : String
  between : String
  after : String

/-- The line for a file. -/
def Frame.line (frame : Frame) (file : String) (errors : Nat) : String :=
  frame.before ++ file ++ frame.between ++ toString errors ++ frame.after

/-- The lines for files. -/
def Frame.lines (frame : Frame) (targeted : List (String × Nat)) : List String :=
  targeted.map fun (file, errors) => frame.line file errors

/-- The rows of the table. -/
def rowFrame : Frame := ⟨"| \x60", "\x60 | ", " |"⟩

/-- The items on the terminal. -/
def itemFrame : Frame := ⟨"  • ", " (", " errors targeted)"⟩

/-- The head of the table. -/
def tableHead : String := "| File | Errors targeted |"

/-- The line below the head. -/
def tableRule : String := "|---|---|"

/-- The table of all files with an empty line behind it, which is left out if there are none. -/
def tableLines (targeted : List (String × Nat)) : List String :=
  if targeted = [] then []
  else tableHead :: tableRule :: rowFrame.lines targeted ++ [""]

/-- The numbers of errors and of files. -/
def countsLine (before after files : Nat) : String :=
  "**Errors before:** " ++ toString before ++ " | **Errors after:** " ++ toString after ++
    " | **Files fixed:** " ++ toString files

/-- What is left to do. -/
def outcomeLine (after : Nat) (resolved : Bool) : String :=
  if resolved then "All type errors are resolved."
  else "⚠️ " ++ toString after ++ " error(s) remain and need manual attention."

/-- The last line of the Markdown report. -/
def remark : String :=
  "Each fix was limited to the reported errors and rejected if it changed more than half of a " ++
  "file. Please review before merging."

/-- The lines of the Markdown report above the table. -/
def frontLines (before after files : Nat) : List String :=
  ["## Automated TypeScript error fixes", "", countsLine before after files, ""]

/-- The lines of the Markdown report. -/
def markdownLines (before after files : Nat) (targeted : List (String × Nat)) (resolved : Bool) :
    List String :=
  frontLines before after files ++
    (tableLines targeted ++ [outcomeLine after resolved, "", remark])

/-- The numbers of errors on the terminal. -/
def changeLine (before after : Nat) : String :=
  "Errors: " ++ toString before ++ " → " ++ toString after

/-- The lines of the terminal that are about files. -/
def itemLines (targeted : List (String × Nat)) : List String :=
  if targeted = [] then ["  No fixes applied."] else itemFrame.lines targeted

/-- The verdict on the terminal. -/
def statusLine (colored : Bool) (verdict : Verdict) : String :=
  "═══ Status: " ++ coloredVerdict colored verdict ++ " ═══"

/-- The lines of the terminal report. -/
def terminalLines (colored : Bool) (before after : Nat) (targeted : List (String × Nat))
    (verdict : Verdict) : List String :=
  ["", "═══ TypeScript Fix Summary ═══", changeLine before after] ++
    (itemLines targeted ++ ["", statusLine colored verdict, ""])

/-- The texts of patches are the lines of a frame if each of them ends at a newline. -/
theorem join_results (summary : Summary) {text : Patch → String} {frame : Frame}
    (h : ∀ patch, text patch = frame.line patch.file patch.errorsTargeted ++ "\n") :
    String.join (summary.results.map text) = unlines (frame.lines summary.targeted) := by
  rw [unlines, Frame.lines, ← summary.map_results, List.map_map]
  exact congrArg String.join (List.map_congr_left fun patch _ => h patch)

theorem markdownRow_eq (patch : Patch) :
    markdownRow patch = rowFrame.line patch.file patch.errorsTargeted ++ "\n" := by
  have hEnd : " |\n" = " |" ++ "\n" := by decide
  rw [markdownRow, hEnd, ← String.append_assoc]
  rfl

theorem terminalItem_eq (patch : Patch) :
    terminalItem patch = itemFrame.line patch.file patch.errorsTargeted ++ "\n" := by
  have hEnd : " errors targeted)\n" = " errors targeted)" ++ "\n" := by decide
  rw [terminalItem, hEnd, ← String.append_assoc]
  rfl

theorem markdownTable_eq (summary : Summary) :
    markdownTable summary.results = unlines (tableLines summary.targeted) := by
  have hHead : "| File | Errors targeted |\n|---|---|\n" =
      tableHead ++ ("\n" ++ (tableRule ++ "\n")) := by decide
  rw [markdownTable, tableLines]
  by_cases hNone : summary.results = []
  · rw [if_pos (Summary.targeted_eq_nil_iff.mpr hNone), hNone]
    rfl
  · rw [if_neg (mt Summary.targeted_eq_nil_iff.mp hNone), if_neg (by simpa using hNone), hHead,
      join_results summary markdownRow_eq, unlines_append]
    simp only [unlines_cons, unlines_nil, String.append_assoc, String.empty_append,
      String.append_empty]

theorem markdownOutcome_eq (summary : Summary) :
    markdownOutcome summary =
      outcomeLine summary.errorsAfter summary.fullyResolved ++ "\n" := by
  unfold markdownOutcome outcomeLine
  cases summary.fullyResolved with
  | true => rfl
  | false =>
    have hEnd : " error(s) remain and need manual attention.\n" =
      " error(s) remain and need manual attention." ++ "\n" := by decide
    rw [if_neg Bool.false_ne_true, if_neg Bool.false_ne_true, hEnd, ← String.append_assoc]

theorem remark_eq :
    "\nEach fix was limited to the reported errors and rejected if it changed more than half of a "
      ++ "file. Please review before merging.\n" = "\n" ++ (remark ++ "\n") := by
  decide +kernel

theorem markdown_eq_unlines (summary : Summary) :
    markdown summary = unlines (markdownLines summary.errorsBefore summary.errorsAfter
      summary.filesFixed.length summary.targeted summary.fullyResolved) := by
  have hTitle : "## Automated TypeScript error fixes\n\n" =
    "## Automated TypeScript error fixes" ++ ("\n" ++ ("" ++ "\n")) := by decide +kernel
  have hEmpty : "\n\n" = "\n" ++ ("" ++ "\n") := by decide
  unfold markdown
  rw [hTitle, hEmpty, markdownTable_eq, markdownOutcome_eq, markdownLines, unlines_append,
    unlines_append]
  unfold frontLines countsLine
  simp only [unlines_cons, unlines_nil, String.append_assoc, String.empty_append,
    String.append_empty, remark_eq, -String.reduceAppend]

theorem terminal_eq_unlines (colored : Bool) (summary : Summary) :
    terminal colored summary = unlines (terminalLines colored summary.errorsBefore
      summary.errorsAfter summary.targeted summary.verdict) := by
  have hTitle : "\n═══ TypeScript Fix Summary ═══\n" =
    "" ++ ("\n" ++ ("═══ TypeScript Fix Summary ═══" ++ "\n")) := by decide +kernel
  have hStatus : "\n═══ Status: " = "" ++ ("\n" ++ "═══ Status: ") := by decide
  have hEnd : " ═══\n\n" = " ═══" ++ ("\n" ++ ("" ++ "\n")) := by decide
  have hItems : (if summary.results.isEmpty then "  No fixes applied.\n"
      else String.join (summary.results.map terminalItem)) =
      unlines (itemLines summary.targeted) := by
    by_cases hNone : summary.results = []
    · rw [itemLines, if_pos (Summary.targeted_eq_nil_iff.mpr hNone), hNone]
      rfl
    · rw [itemLines, if_neg (mt Summary.targeted_eq_nil_iff.mp hNone),
        if_neg (by simpa using hNone), join_results summary terminalItem_eq]
  unfold terminal
  rw [hTitle, hStatus, hEnd, hItems, terminalLines, unlines_append, unlines_append]
  unfold changeLine statusLine
  simp only [unlines_cons, unlines_nil, String.append_assoc, String.empty_append,
    String.append_empty, -String.reduceAppend]

/-! ## What a line tells -/

/-- A frame with lines that can be told apart: none of them is empty, the number starts where the
text between ends, and no newline comes from the fixed texts. -/
structure Frame.Legible (frame : Frame) : Prop where
  before_ne : frame.before ≠ ""
  seam : frame.between.toList.getLast?.map Char.isDigit = some false
  one_line : '\n' ∉ (frame.before ++ frame.between ++ frame.after).toList

theorem legible_rowFrame : rowFrame.Legible :=
  ⟨by decide, by decide, by decide⟩

theorem legible_itemFrame : itemFrame.Legible :=
  ⟨by decide, by decide, by decide⟩

theorem newline_notMem_append {front rest : String} :
    '\n' ∉ (front ++ rest).toList ↔ '\n' ∉ front.toList ∧ '\n' ∉ rest.toList := by
  rw [String.toList_append, List.mem_append, not_or]

namespace Frame.Legible

variable {frame : Frame} (hFrame : frame.Legible)

include hFrame

theorem line_inj {file file' : String} {errors errors' : Nat}
    (h : frame.line file errors = frame.line file' errors') : file = file' ∧ errors = errors' :=
  framed_inj hFrame.seam h

theorem line_ne (file : String) (errors : Nat) : frame.line file errors ≠ "" := by
  intro h
  simp only [Frame.line, String.append_eq_empty_iff] at h
  exact hFrame.before_ne h.1.1.1.1

theorem newline_notMem_line {file : String} (h : '\n' ∉ file.toList) (errors : Nat) :
    '\n' ∉ (frame.line file errors).toList := by
  have hFixed := hFrame.one_line
  simp only [newline_notMem_append] at hFixed
  obtain ⟨⟨hBefore, hBetween⟩, hAfter⟩ := hFixed
  simp only [Frame.line, newline_notMem_append]
  exact ⟨⟨⟨⟨hBefore, h⟩, hBetween⟩, newline_notMem_toString errors⟩, hAfter⟩

theorem lines_injective : Function.Injective frame.lines := by
  refine List.map_injective_iff.mpr ?_
  rintro ⟨file, errors⟩ ⟨file', errors'⟩ hSame
  obtain ⟨rfl, rfl⟩ := hFrame.line_inj hSame
  rfl

theorem ne_of_mem_lines {targeted : List (String × Nat)} :
    ∀ piece ∈ frame.lines targeted, piece ≠ "" := by
  intro piece hPiece
  obtain ⟨⟨file, errors⟩, -, rfl⟩ := List.mem_map.mp hPiece
  exact hFrame.line_ne file errors

theorem newline_notMem_of_mem_lines {targeted : List (String × Nat)}
    (h : ∀ entry ∈ targeted, '\n' ∉ entry.1.toList) :
    ∀ piece ∈ frame.lines targeted, '\n' ∉ piece.toList := by
  intro piece hPiece
  obtain ⟨⟨file, errors⟩, hEntry, rfl⟩ := List.mem_map.mp hPiece
  exact hFrame.newline_notMem_line (h _ hEntry) errors

end Frame.Legible

theorem changeLine_injective {before before' after after' : Nat}
    (h : changeLine before after = changeLine before' after') :
    before = before' ∧ after = after' := by
  unfold changeLine at h
  simp only [String.append_assoc, String.append_right_inj] at h
  obtain ⟨hBefore, hAfter⟩ := toString_append_inj (by decide) h
  exact ⟨hBefore, toString_injective hAfter⟩

theorem countsLine_injective {before before' after after' files files' : Nat}
    (h : countsLine before after files = countsLine before' after' files') :
    before = before' ∧ after = after' ∧ files = files' := by
  unfold countsLine at h
  simp only [String.append_assoc, String.append_right_inj] at h
  obtain ⟨hBefore, hLater⟩ := toString_append_inj (by decide) h
  obtain ⟨hAfter, hFiles⟩ := toString_append_inj (by decide) hLater
  exact ⟨hBefore, hAfter, toString_injective hFiles⟩

theorem outcomeLine_ne (after : Nat) :
    "⚠️ " ++ toString after ++ " error(s) remain and need manual attention." ≠
      "All type errors are resolved." := by
  intro h
  have hChars := congrArg (String.toList · |>.head?) h
  simp at hChars

theorem outcomeLine_injective {after after' : Nat} {resolved resolved' : Bool}
    (h : outcomeLine after resolved = outcomeLine after' resolved') : resolved = resolved' := by
  unfold outcomeLine at h
  cases resolved <;> cases resolved'
  · rfl
  · exact absurd h (outcomeLine_ne after)
  · exact absurd h.symm (outcomeLine_ne after')
  · rfl

theorem statusLine_injective {colored : Bool} {verdict verdict' : Verdict}
    (h : statusLine colored verdict = statusLine colored verdict') : verdict = verdict' := by
  unfold statusLine at h
  have hTitle := (String.append_right_inj _).mp ((String.append_left_inj _).mp h)
  revert hTitle
  cases colored <;> cases verdict <;> cases verdict' <;> decide

/-! ## What the lines tell -/

/-- A block of lines ends at the first empty one. -/
theorem span_block {block : List String} (h : ∀ piece ∈ block, piece ≠ "") (rest : List String) :
    (block ++ "" :: rest).takeWhile (· ≠ "") = block ∧
      (block ++ "" :: rest).dropWhile (· ≠ "") = "" :: rest :=
  span_append (by simpa using h) (by decide) rest

theorem block_inj {block block' rest rest' : List String} (h : ∀ piece ∈ block, piece ≠ "")
    (h' : ∀ piece ∈ block', piece ≠ "") (hSame : block ++ "" :: rest = block' ++ "" :: rest') :
    block = block' ∧ rest = rest' := by
  obtain ⟨hTake, hDrop⟩ := span_block h rest
  obtain ⟨hTake', hDrop'⟩ := span_block h' rest'
  rw [hSame] at hTake hDrop
  exact ⟨hTake.symm.trans hTake', List.tail_eq_of_cons_eq (hDrop.symm.trans hDrop')⟩

theorem itemLines_ne {targeted : List (String × Nat)} :
    ∀ item ∈ itemLines targeted, item ≠ "" := by
  unfold itemLines
  split
  · exact List.forall_mem_singleton.mpr (by decide)
  · exact legible_itemFrame.ne_of_mem_lines

theorem items_ne (targeted : List (String × Nat)) :
    itemFrame.lines targeted ≠ ["  No fixes applied."] := by
  intro h
  obtain ⟨⟨file, errors⟩, -, hItem⟩ := List.mem_map.mp (h ▸ List.mem_singleton_self _)
  have hChars := congrArg (·.toList[2]?) hItem
  simp [Frame.line, itemFrame] at hChars

theorem itemLines_injective {targeted targeted' : List (String × Nat)}
    (h : itemLines targeted = itemLines targeted') : targeted = targeted' := by
  unfold itemLines at h
  split at h <;> split at h
  · rename_i hNone hNone'
    exact hNone.trans hNone'.symm
  · exact absurd h.symm (items_ne targeted')
  · exact absurd h (items_ne targeted)
  · exact legible_itemFrame.lines_injective h

theorem outcomeLine_ne_tableHead (after : Nat) (resolved : Bool) :
    outcomeLine after resolved ≠ tableHead := by
  intro h
  have hChars := congrArg (String.toList · |>.head?) h
  cases resolved <;> simp [outcomeLine, tableHead] at hChars

theorem countsLine_ne_tableHead (before after files : Nat) :
    countsLine before after files ≠ tableHead := by
  intro h
  have hChars := congrArg (String.toList · |>.head?) h
  unfold countsLine at hChars
  simp [tableHead] at hChars

theorem tableLines_inj {targeted targeted' : List (String × Nat)} {after after' : Nat}
    {resolved resolved' : Bool} {rest rest' : List String}
    (h : tableLines targeted ++ outcomeLine after resolved :: rest =
      tableLines targeted' ++ outcomeLine after' resolved' :: rest') :
    targeted = targeted' ∧ resolved = resolved' := by
  unfold tableLines at h
  split at h <;> split at h
  · rename_i hNone hNone'
    exact ⟨hNone.trans hNone'.symm, outcomeLine_injective (List.head_eq_of_cons_eq h)⟩
  · exact absurd (List.head_eq_of_cons_eq h) (outcomeLine_ne_tableHead _ _)
  · exact absurd (List.head_eq_of_cons_eq h).symm (outcomeLine_ne_tableHead _ _)
  · simp only [List.cons_append, List.append_assoc, List.nil_append, List.cons.injEq,
      true_and] at h
    obtain ⟨hRows, hRest⟩ :=
      block_inj legible_rowFrame.ne_of_mem_lines legible_rowFrame.ne_of_mem_lines h
    exact ⟨legible_rowFrame.lines_injective hRows,
      outcomeLine_injective (List.head_eq_of_cons_eq hRest)⟩

/-! ## Lines without newlines -/

section Newlines

variable {targeted : List (String × Nat)} (h : ∀ entry ∈ targeted, '\n' ∉ entry.1.toList)

include h

theorem newline_notMem_tableLines : ∀ piece ∈ tableLines targeted, '\n' ∉ piece.toList := by
  unfold tableLines
  split
  · exact List.forall_mem_nil _
  · rw [List.forall_mem_append, List.forall_mem_cons, List.forall_mem_cons,
      List.forall_mem_singleton]
    exact ⟨⟨by decide, by decide, legible_rowFrame.newline_notMem_of_mem_lines h⟩, by decide⟩

theorem newline_notMem_markdownLines (before after files : Nat) (resolved : Bool) :
    ∀ piece ∈ markdownLines before after files targeted resolved, '\n' ∉ piece.toList := by
  have hCounts : '\n' ∉ (countsLine before after files).toList := by
    unfold countsLine
    simp only [newline_notMem_append]
    exact ⟨⟨⟨⟨⟨by decide, newline_notMem_toString _⟩, by decide⟩, newline_notMem_toString _⟩,
      by decide⟩, newline_notMem_toString _⟩
  have hOutcome : '\n' ∉ (outcomeLine after resolved).toList := by
    cases resolved with
    | true =>
      show '\n' ∉ "All type errors are resolved.".toList
      decide
    | false =>
      show '\n' ∉ ("⚠️ " ++ toString after ++ _).toList
      simp only [newline_notMem_append]
      exact ⟨⟨by decide, newline_notMem_toString _⟩, by decide⟩
  unfold markdownLines
  rw [List.forall_mem_append, List.forall_mem_append]
  refine ⟨?_, newline_notMem_tableLines h, ?_⟩
  · simp only [frontLines, List.forall_mem_cons]
    exact ⟨by decide, by decide, hCounts, by decide⟩
  · exact List.forall_mem_cons.mpr ⟨hOutcome, by decide +kernel⟩

theorem newline_notMem_terminalLines (colored : Bool) (before after : Nat) (verdict : Verdict) :
    ∀ piece ∈ terminalLines colored before after targeted verdict, '\n' ∉ piece.toList := by
  have hChange : '\n' ∉ (changeLine before after).toList := by
    unfold changeLine
    simp only [newline_notMem_append]
    exact ⟨⟨⟨by decide, newline_notMem_toString _⟩, by decide⟩, newline_notMem_toString _⟩
  have hStatus : '\n' ∉ (statusLine colored verdict).toList := by
    cases colored <;> cases verdict <;> decide
  have hItems : ∀ piece ∈ itemLines targeted, '\n' ∉ piece.toList := by
    unfold itemLines
    split
    · exact List.forall_mem_singleton.mpr (by decide)
    · exact legible_itemFrame.newline_notMem_of_mem_lines h
  unfold terminalLines
  rw [List.forall_mem_append, List.forall_mem_append]
  refine ⟨?_, hItems, ?_⟩
  · simp only [List.forall_mem_cons]
    exact ⟨by decide, by decide, hChange, List.forall_mem_nil _⟩
  · exact List.forall_mem_cons.mpr ⟨by decide, List.forall_mem_cons.mpr ⟨hStatus, by decide⟩⟩

end Newlines

/-! ## Equal reports -/

section Equal

variable {summary other : Summary}
  (h : ∀ patch ∈ summary.results, '\n' ∉ patch.file.toList)
  (hOther : ∀ patch ∈ other.results, '\n' ∉ patch.file.toList)

include h

theorem newline_notMem_targeted : ∀ entry ∈ summary.targeted, '\n' ∉ entry.1.toList := by
  intro entry hEntry
  obtain ⟨patch, hPatch, rfl⟩ := List.mem_map.mp hEntry
  exact h patch hPatch

include hOther

theorem markdown_eq_iff : markdown summary = markdown other ↔
    summary.errorsBefore = other.errorsBefore ∧ summary.errorsAfter = other.errorsAfter ∧
      summary.filesFixed.length = other.filesFixed.length ∧
      summary.fullyResolved = other.fullyResolved ∧ summary.targeted = other.targeted := by
  rw [markdown_eq_unlines, markdown_eq_unlines,
    unlines_inj (newline_notMem_markdownLines (newline_notMem_targeted h) _ _ _ _)
      (newline_notMem_markdownLines (newline_notMem_targeted hOther) _ _ _ _)]
  constructor
  · intro hLines
    simp only [markdownLines, frontLines, List.cons_append, List.nil_append, List.cons.injEq,
      true_and] at hLines
    obtain ⟨hCounts, hRest⟩ := hLines
    obtain ⟨hBefore, hAfter, hFiles⟩ := countsLine_injective hCounts
    obtain ⟨hTargeted, hResolved⟩ := tableLines_inj hRest
    exact ⟨hBefore, hAfter, hFiles, hResolved, hTargeted⟩
  · rintro ⟨hBefore, hAfter, hFiles, hResolved, hTargeted⟩
    rw [hBefore, hAfter, hFiles, hResolved, hTargeted]

theorem terminal_eq_iff (colored : Bool) : terminal colored summary = terminal colored other ↔
    summary.errorsBefore = other.errorsBefore ∧ summary.errorsAfter = other.errorsAfter ∧
      summary.verdict = other.verdict ∧ summary.targeted = other.targeted := by
  rw [terminal_eq_unlines, terminal_eq_unlines,
    unlines_inj (newline_notMem_terminalLines (newline_notMem_targeted h) _ _ _ _)
      (newline_notMem_terminalLines (newline_notMem_targeted hOther) _ _ _ _)]
  constructor
  · intro hLines
    simp only [terminalLines, List.cons_append, List.nil_append, List.cons.injEq,
      true_and] at hLines
    obtain ⟨hChange, hRest⟩ := hLines
    obtain ⟨hBefore, hAfter⟩ := changeLine_injective hChange
    obtain ⟨hItems, hStatus⟩ := block_inj itemLines_ne itemLines_ne hRest
    exact ⟨hBefore, hAfter, statusLine_injective (List.head_eq_of_cons_eq hStatus),
      itemLines_injective hItems⟩
  · rintro ⟨hBefore, hAfter, hVerdict, hTargeted⟩
    rw [hBefore, hAfter, hVerdict, hTargeted]

end Equal

/-! ## The table -/

/-- The rows of the first table in a Markdown text: the lines below its head and the rule under
that, up to an empty line. -/
def tableRows? (text : String) : Option (List String) :=
  match ((lines text.toList).map String.ofList).dropWhile (· ≠ tableHead) with
  | _ :: rule :: rest => if rule = tableRule then some (rest.takeWhile (· ≠ "")) else none
  | _ => none

theorem tableRows?_markdown {summary : Summary}
    (h : ∀ patch ∈ summary.results, '\n' ∉ patch.file.toList) :
    tableRows? (markdown summary) =
      if summary.results = [] then none
      else some (summary.results.map fun patch =>
        rowFrame.line patch.file patch.errorsTargeted) := by
  have hText : (lines (markdown summary).toList).map String.ofList =
      markdownLines summary.errorsBefore summary.errorsAfter summary.filesFixed.length
        summary.targeted summary.fullyResolved ++ [""] := by
    have hLines := newline_notMem_markdownLines (newline_notMem_targeted h)
      summary.errorsBefore summary.errorsAfter summary.filesFixed.length summary.fullyResolved
    rw [markdown_eq_unlines, lines_unlines hLines]
    simp
  have hFront : ∀ piece ∈ frontLines summary.errorsBefore summary.errorsAfter
      summary.filesFixed.length, decide (piece ≠ tableHead) = true := by
    simp only [frontLines, List.forall_mem_cons, decide_eq_true_eq]
    exact ⟨by decide, by decide, countsLine_ne_tableHead _ _ _, by decide⟩
  rw [tableRows?, hText, markdownLines, List.append_assoc, List.dropWhile_append_of_pos hFront,
    tableLines]
  by_cases hNone : summary.results = []
  · rw [if_pos (Summary.targeted_eq_nil_iff.mpr hNone), if_pos hNone, List.nil_append,
      List.cons_append, List.dropWhile_cons_of_pos (by simp [outcomeLine_ne_tableHead])]
    decide +kernel
  · obtain ⟨hRows, -⟩ := span_block legible_rowFrame.ne_of_mem_lines
      [outcomeLine summary.errorsAfter summary.fullyResolved, "", remark, ""]
    rw [if_neg (mt Summary.targeted_eq_nil_iff.mp hNone), if_neg hNone,
      summary.map_results rowFrame.line]
    simp only [List.cons_append, List.append_assoc, List.nil_append]
    rw [List.dropWhile_cons_of_neg (by simp)]
    exact congrArg some hRows

/-- What a run of the repair loop reports about are paths on one line. -/
theorem newline_notMem_of_repair {σ : Type} (collaborators : Repair.Collaborators σ)
    (attempts : Nat) (state : σ) {summary : Summary}
    (hResult : (collaborators.repair attempts state).result = .ok summary) :
    ∀ patch ∈ summary.results, '\n' ∉ patch.file.toList := by
  obtain ⟨first, list, parts, -, -, hRounds, hSummary⟩ :=
    (collaborators.course attempts state).rounds
  obtain ⟨-, after, resolved, hEq⟩ := hSummary summary hResult
  have hResults : summary.results = parts.flatten := congrArg Summary.results hEq
  intro patch hPatch
  rw [hResults] at hPatch
  obtain ⟨stage, -, group, hGroup, _, hExchange⟩ := Repair.exists_of_records hRounds.forall₂ hPatch
  have hFile : group.file ∈ Diagnostic.reportedFiles stage.errors := by
    rw [← Diagnostic.groupByFile_files]
    exact List.mem_map_of_mem hGroup
  obtain ⟨d, hReported, hSame⟩ := Diagnostic.mem_reportedFiles.mp hFile
  rw [hExchange.patch_file, ← hSame]
  unfold Repair.Stage.errors at hReported
  split at hReported
  · cases hReported
  · exact Diagnostic.newline_notMem_file hReported

/-- Reports to read are unambiguous, whatever else than newlines the paths hold: equal ones agree on
all that they show, and the Markdown has a table of one row for each result just if there is one. -/
theorem reports_tell_what_they_show {summary other : Summary}
    (h : ∀ patch ∈ summary.results, '\n' ∉ patch.file.toList)
    (hOther : ∀ patch ∈ other.results, '\n' ∉ patch.file.toList) :
    (markdown summary = markdown other ↔
      summary.errorsBefore = other.errorsBefore ∧ summary.errorsAfter = other.errorsAfter ∧
        summary.filesFixed.length = other.filesFixed.length ∧
        summary.fullyResolved = other.fullyResolved ∧ summary.targeted = other.targeted) ∧
    (∀ colored, terminal colored summary = terminal colored other ↔
      summary.errorsBefore = other.errorsBefore ∧ summary.errorsAfter = other.errorsAfter ∧
        summary.verdict = other.verdict ∧ summary.targeted = other.targeted) ∧
    tableRows? (markdown summary) =
      if summary.results = [] then none
      else some (summary.results.map fun patch => rowFrame.line patch.file patch.errorsTargeted) :=
  ⟨markdown_eq_iff h hOther, terminal_eq_iff h hOther, tableRows?_markdown h⟩

-- Paths that imitate the end of a row and of an item.
def imitating (errors : Nat) : Summary :=
  ⟨3, 1, ["a"], [⟨"a\x60 | 1 |", "x", "y", errors⟩, ⟨"b (1 errors targeted)", "x", "y", 1⟩], false⟩

theorem imitating_rows_read :
    markdown (imitating 1) ≠ markdown (imitating 11) ∧
      terminal true (imitating 1) ≠ terminal true (imitating 11) ∧
      tableRows? (markdown (imitating 1)) =
        some ["| \x60a\x60 | 1 |\x60 | 1 |", "| \x60b (1 errors targeted)\x60 | 1 |"] := by
  have hLines : ∀ errors, ∀ patch ∈ (imitating errors).results, '\n' ∉ patch.file.toList := by
    intro errors
    simp only [imitating, List.forall_mem_cons]
    exact ⟨by decide, by decide, List.forall_mem_nil _⟩
  obtain ⟨hMarkdown, hTerminal, hTable⟩ := reports_tell_what_they_show (hLines 1) (hLines 11)
  have hDiffer : (imitating 1).targeted ≠ (imitating 11).targeted := by decide
  exact ⟨fun hSame => hDiffer (hMarkdown.mp hSame).2.2.2.2,
    fun hSame => hDiffer ((hTerminal true).mp hSame).2.2.2, hTable⟩

end Report

end TypeRepair
