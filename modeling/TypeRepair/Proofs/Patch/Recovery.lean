import TypeRepair.Proofs.Diagnostic.Grammar
import TypeRepair.Proofs.Diagnostic.Grouping
import TypeRepair.Proofs.Diagnostic.Printing
import TypeRepair.Proofs.Patch.Instruction
import TypeRepair.Proofs.Patch.Scan

/-!
# Reading an instruction back

An instruction tells the path, the body and the errors that it was written for, whatever the body
holds: each line of the body stands behind a number, so none is taken for the fence that ends the
body, and a message is all the rest of its line.

* `map_unnumbered_numberFrom`: lines are found again behind their numbers.
* `not_isClosing_numbered`: a numbered line closes no block.
* `readItem?_errorItem`: one error of the list is read back.
* `legible_of_mem_groupByFile`: what the checker reports for a file can be told.
* `instruction_recoverable`: the whole instruction, and the block in it.
-/

namespace TypeRepair.Patch

open Text Diagnostic

/-! ## Numbered lines -/

/-- A numbered line without its number. -/
def unnumbered (line : List Char) : List Char :=
  (line.dropWhile (· ≠ '|')).drop 2

theorem eq_space_or_isDigit_of_mem_lineNumber {n : Nat} {c : Char} (hc : c ∈ lineNumber n) :
    c = ' ' ∨ c.isDigit = true := by
  rcases List.mem_append.mp hc with hc | hc
  · exact .inl (List.eq_of_mem_replicate hc)
  · exact .inr (isDigit_of_mem_toDigits hc)

/-- The spaces before a number end at its first digit. -/
theorem exists_dropWhile_numbered (n : Nat) (line : List Char) : ∃ digit rest,
    digit.isDigit = true ∧
      (lineNumber n ++ " | ".toList ++ line).dropWhile (· = ' ') = digit :: rest := by
  obtain ⟨digit, digits, hDigits⟩ :=
    List.exists_cons_of_ne_nil (Nat.toDigits_ne_nil (n := n) (b := 10))
  have hDigit : digit.isDigit = true :=
    isDigit_of_mem_toDigits (n := n) (by rw [hDigits]; exact List.mem_cons_self)
  have hOther : digit ≠ ' ' := by
    rintro rfl
    cases hDigit
  refine ⟨digit, digits ++ (" | ".toList ++ line), hDigit, ?_⟩
  rw [lineNumber, hDigits, List.append_assoc, List.append_assoc, List.cons_append]
  exact (span_indent _ hOther _).2

theorem unnumbered_numbered (n : Nat) (line : List Char) :
    unnumbered (lineNumber n ++ " | ".toList ++ line) = line := by
  have hRun : ∀ c ∈ lineNumber n ++ [' '], decide (c ≠ '|') = true := by
    intro c hc
    refine decide_eq_true ?_
    rintro rfl
    rcases List.mem_append.mp hc with hc | hc
    · rcases eq_space_or_isDigit_of_mem_lineNumber hc with hc | hc <;> cases hc
    · cases List.mem_singleton.mp hc
  have hLine : lineNumber n ++ " | ".toList ++ line =
      lineNumber n ++ [' '] ++ '|' :: ' ' :: line := by simp
  have hDrop := (span_append hRun (show decide ('|' ≠ '|') = false by decide) (' ' :: line)).2
  rw [unnumbered, hLine, hDrop, List.drop_succ_cons, List.drop_succ_cons, List.drop_zero]

theorem map_unnumbered_numberFrom (first : Nat) (pieces : List (List Char)) :
    (numberFrom first pieces).map unnumbered = pieces := by
  rw [numberFrom, List.map_map]
  calc (pieces.zipIdx first).map _
    _ = (pieces.zipIdx first).map Prod.fst :=
      List.map_congr_left fun numbered _ => unnumbered_numbered numbered.2 numbered.1
    _ = pieces := List.zipIdx_map_fst first pieces

theorem exists_of_mem_numberFrom {first : Nat} {pieces : List (List Char)} {line : List Char}
    (h : line ∈ numberFrom first pieces) :
    ∃ n, ∃ piece ∈ pieces, line = lineNumber n ++ " | ".toList ++ piece := by
  obtain ⟨⟨piece, n⟩, hMem, rfl⟩ := List.mem_map.mp h
  exact ⟨n, piece, List.fst_mem_of_mem_zipIdx hMem, rfl⟩

theorem newline_notMem_of_mem_numberFrom {first : Nat} {pieces : List (List Char)}
    {line : List Char} (hPieces : ∀ piece ∈ pieces, '\n' ∉ piece)
    (h : line ∈ numberFrom first pieces) : '\n' ∉ line := by
  obtain ⟨n, piece, hPiece, rfl⟩ := exists_of_mem_numberFrom h
  have hNumber : '\n' ∉ lineNumber n := fun hMem => by
    rcases eq_space_or_isDigit_of_mem_lineNumber hMem with hc | hc <;> cases hc
  simp [hNumber, hPieces piece hPiece]

/-- The first character of a numbered line that is no space is a digit, and that of a line that
closes a block is a backtick. -/
theorem not_isClosing_numbered (returnAllowed : Bool) (n : Nat) (line : List Char) :
    ¬IsClosing returnAllowed (lineNumber n ++ " | ".toList ++ line) := by
  rintro ⟨indent, blanks, ending, -, -, -, hEq⟩
  obtain ⟨digit, rest, hDigit, hDrop⟩ := exists_dropWhile_numbered n line
  have hFence := (span_indent indent (show '\x60' ≠ ' ' by decide)
    ('\x60' :: '\x60' :: (blanks ++ ending))).2
  have hHead : digit :: rest = fence ++ (blanks ++ ending) := by
    rw [← hDrop, hEq]
    exact hFence
  rw [(List.cons.inj hHead).1] at hDigit
  cases hDigit

/-! ## The list of errors -/

/-- Reads one item of the list of errors: the message is all that comes after the code. -/
def readItem? (file : String) (item : List Char) : Option Diagnostic := do
  let cs ← "- Line ".toList.isPrefixOf? item
  let line ← readNat? (cs.takeWhile Char.isDigit)
  let cs ← ", Col ".toList.isPrefixOf? (cs.dropWhile Char.isDigit)
  let col ← readNat? (cs.takeWhile Char.isDigit)
  let cs ← ": ".toList.isPrefixOf? (cs.dropWhile Char.isDigit)
  let message ← " — ".toList.isPrefixOf? (cs.dropWhile fun c => !isBlank c)
  some ⟨file, line, col, String.ofList (cs.takeWhile fun c => !isBlank c), String.ofList message⟩

theorem errorItem_eq (d : Diagnostic) :
    errorItem d = "- Line ".toList ++ (Nat.toDigits 10 d.line ++ (", Col ".toList ++
      (Nat.toDigits 10 d.col ++ (": ".toList ++ (d.code.toList ++ (" — ".toList ++
        d.message.toList)))))) := by
  simp [errorItem]

theorem readItem?_errorItem {d : Diagnostic} (hCode : ∀ c ∈ d.code.toList, isBlank c = false) :
    readItem? d.file (errorItem d) = some d := by
  have hDigits : ∀ n, ∀ c ∈ Nat.toDigits 10 n, c.isDigit = true :=
    fun n c hc => isDigit_of_mem_toDigits hc
  have hSolid : ∀ c ∈ d.code.toList, (!isBlank c) = true := fun c hc => by
    rw [hCode c hc]
    rfl
  have hLine := span_word (hDigits d.line) (show ", Col ".toList.head?.map _ = _ from rfl)
  have hCol := span_word (hDigits d.col) (show ": ".toList.head?.map _ = _ from rfl)
  have hWord := span_word hSolid (show " — ".toList.head?.map _ = _ from rfl)
  simp only [errorItem_eq, readItem?, Option.bind_eq_bind, isPrefixOf?_append, Option.bind_some,
    (hLine _).1, (hLine _).2, (hCol _).1, (hCol _).2, (hWord _).1, (hWord _).2, readNat?_toDigits,
    String.ofList_toList]

theorem mapM_readItem? {file : String} {errors : List Diagnostic}
    (h : ∀ d ∈ errors, d.file = file ∧ ∀ c ∈ d.code.toList, isBlank c = false) :
    (errors.map errorItem).mapM (readItem? file) = some errors := by
  induction errors with
  | nil => rfl
  | cons d errors ih =>
    obtain ⟨⟨rfl, hCode⟩, hRest⟩ := List.forall_mem_cons.mp h
    rw [List.map_cons, List.mapM_cons, readItem?_errorItem hCode, ih hRest]
    rfl

theorem errorItem_ne (d : Diagnostic) : errorItem d ≠ [] := by
  rw [errorItem_eq]
  exact List.cons_ne_nil _ _

/-! ## What can be told -/

/-- The errors of a file whose path and messages lie on one line each and whose codes hold no
blanks. -/
structure Legible (group : FileErrors) : Prop where
  file_line : '\n' ∉ group.file.toList
  own : ∀ d ∈ group.errors, d.file = group.file
  code_solid : ∀ d ∈ group.errors, ∀ c ∈ d.code.toList, isBlank c = false
  message_line : ∀ d ∈ group.errors, '\n' ∉ d.message.toList

theorem newline_notMem_errorItem {d : Diagnostic} (hCode : ∀ c ∈ d.code.toList, isBlank c = false)
    (hMessage : '\n' ∉ d.message.toList) : '\n' ∉ errorItem d := by
  have hDigits : ∀ n, '\n' ∉ Nat.toDigits 10 n := fun n hMem => by
    cases isDigit_of_mem_toDigits hMem
  have hSolid : '\n' ∉ d.code.toList := fun hMem => by
    cases hCode _ hMem
  rw [errorItem_eq]
  simp [hDigits, hSolid, hMessage]

/-- The checker's output reports nothing for a file that an instruction cannot tell. -/
theorem legible_of_mem_groupByFile {output : String} {group : FileErrors}
    (h : group ∈ groupByFile (parse output)) : Legible group := by
  have hErrors : ∀ d ∈ group.errors, d ∈ parse output ∧ d.file = group.file := by
    intro d hd
    rw [errors_of_mem_groupByFile h] at hd
    simpa [errorsOf] using hd
  have hFile : group.file ∈ reportedFiles (parse output) := by
    rw [← groupByFile_files]
    exact List.mem_map_of_mem h
  have hTold : ∀ d ∈ group.errors, ∃ line ∈ outputLines output.toList, ∃ file tail,
      Splits line file tail ∧ Tells file tail d := by
    intro d hd
    obtain ⟨line, hLine, hParsed⟩ := List.mem_filterMap.mp (hErrors d hd).1
    obtain ⟨file, tail, hSplit, hTells⟩ := parseLine?_eq_some_iff.mp hParsed
    exact ⟨line, hLine, file, tail, hSplit.toSplits, hTells⟩
  constructor
  · obtain ⟨d, hd, hSame⟩ := mem_reportedFiles.mp hFile
    rw [← hSame]
    exact newline_notMem_file hd
  · exact fun d hd => (hErrors d hd).2
  · intro d hd
    obtain ⟨line, -, file, tail, hSplit, hTells⟩ := hTold d hd
    rw [hTells.code_eq, String.toList_ofList]
    exact hSplit.wellFormed.code_solid
  · intro d hd hNewline
    obtain ⟨line, hLine, file, tail, hSplit, hTells⟩ := hTold d hd
    rw [hTells.message_eq, String.toList_ofList] at hNewline
    apply newline_notMem_of_mem_outputLines hLine
    rw [hSplit.line_eq, Tail.text]
    have hMessage := trim_subset _ hNewline
    simp [hMessage]

/-! ## The lines of an instruction -/

/-- The lines of the body with their numbers. -/
def numberedLines (body : String) : List (List Char) :=
  numberFrom 1 (lines body.toList)

/-- What comes after the line that opens the block. -/
def afterFence (body : String) (errors : List Diagnostic) : List Char :=
  joinLines (numberedLines body) ++ (beforeErrors.toList ++
    (joinLines (errors.map errorItem) ++ closing.toList))

theorem toList_instruction (file body : String) (errors : List Diagnostic) :
    (instruction file body errors).toList =
      opening.toList ++ (file.toList ++ (beforeBody.toList ++ afterFence body errors)) := by
  simp only [instruction, afterFence, numberedLines, numberLines, String.toList_append,
    List.append_assoc, String.toList_ofList]

theorem numberedLines_ne (body : String) : numberedLines body ≠ [] := by
  intro hNil
  exact lines_ne_nil body.toList (by simpa [numberedLines, numberFrom] using hNil)

theorem not_isClosing_of_mem_numberedLines {body : String} {line : List Char}
    (h : line ∈ numberedLines body) (returnAllowed : Bool) : ¬IsClosing returnAllowed line := by
  obtain ⟨n, piece, -, rfl⟩ := exists_of_mem_numberFrom h
  exact not_isClosing_numbered returnAllowed n piece

theorem prefix_toList_append {front : List Char} {s : String} (h : front <+: s.toList)
    (t : String) : front <+: (s ++ t).toList := by
  rw [String.toList_append]
  exact h.trans (List.prefix_append _ _)

theorem closing_starts : ['\n', '\n'] <+: closing.toList := by
  unfold closing
  iterate 6 refine prefix_toList_append ?_ _
  exact ⟨_, rfl⟩

/-- The numbered lines, the fence that ends them, the errors, and an empty line behind these. -/
theorem lines_afterFence (body : String) (errors : List Diagnostic) : ∃ later,
    lines (afterFence body errors) =
      numberedLines body ++ fence :: [] :: "## TypeScript Errors to Fix".toList :: [] ::
        (lines (joinLines (errors.map errorItem)) ++ [] :: later) := by
  have hNumbered : lines (joinLines (numberedLines body)) = numberedLines body :=
    lines_joinLines (numberedLines_ne body) fun _ =>
      newline_notMem_of_mem_numberFrom fun _ => newline_notMem_of_mem_lines
  have hBefore : ∀ cs, beforeErrors.toList ++ cs =
      '\n' :: (fence ++ '\n' :: '\n' :: ("## TypeScript Errors to Fix".toList ++
        '\n' :: '\n' :: cs)) := by
    intro cs
    rfl
  obtain ⟨later, hClosing⟩ := closing_starts
  refine ⟨lines later, ?_⟩
  rw [afterFence, hBefore, ← hClosing, List.cons_append, List.singleton_append,
    lines_append_newline, hNumbered, lines_line (by decide), lines_newline, lines_line (by decide),
    lines_newline, lines_append_newline, lines_newline]

/-! ## Reading back -/

/-- Reads the file, the errors and the body of an instruction. -/
def readInstruction? (text : String) : Option (FileErrors × String) := do
  let cs ← opening.toList.isPrefixOf? text.toList
  let file := String.ofList (cs.takeWhile (· ≠ '\n'))
  let cs ← beforeBody.toList.isPrefixOf? (cs.dropWhile (· ≠ '\n'))
  let body := ((lines cs).takeWhile (· ≠ fence)).map unnumbered
  let items := (((lines cs).dropWhile (· ≠ fence)).drop 4).takeWhile (· ≠ [])
  let errors ← items.mapM (readItem? file)
  some (⟨file, errors⟩, String.ofList (joinLines body))

/-- The items of the list of errors reach to the next empty line. -/
theorem takeWhile_items {items : List (List Char)} (hNe : ∀ item ∈ items, item ≠ [])
    (hLine : ∀ item ∈ items, '\n' ∉ item) (later : List (List Char)) :
    (lines (joinLines items) ++ [] :: later).takeWhile (· ≠ []) = items := by
  have hItems : ∀ item ∈ items, decide (item ≠ []) = true := fun item hItem =>
    decide_eq_true (hNe item hItem)
  by_cases hNil : items = []
  · rw [hNil]
    rfl
  · rw [lines_joinLines hNil hLine]
    exact (span_append hItems (show decide (([] : List Char) ≠ []) = false by decide) later).1

theorem readInstruction?_instruction {group : FileErrors} (h : Legible group) (body : String) :
    readInstruction? (instruction group.file body group.errors) = some (group, body) := by
  have hFile : ∀ c ∈ group.file.toList, decide (c ≠ '\n') = true := fun c hc =>
    decide_eq_true fun hEq => h.file_line (hEq ▸ hc)
  have hPath := span_word hFile (show beforeBody.toList.head?.map _ = _ from rfl)
    (afterFence body group.errors)
  obtain ⟨later, hLines⟩ := lines_afterFence body group.errors
  have hNumbered : ∀ line ∈ numberedLines body, decide (line ≠ fence) = true := by
    intro line hLine
    refine decide_eq_true fun hEq => not_isClosing_of_mem_numberedLines hLine true ?_
    rw [hEq]
    exact isClosing_fence true
  have hSplit := span_append hNumbered (show decide (fence ≠ fence) = false by decide)
    ([] :: "## TypeScript Errors to Fix".toList :: [] ::
      (lines (joinLines (group.errors.map errorItem)) ++ [] :: later))
  have hItems : (lines (joinLines (group.errors.map errorItem)) ++ [] :: later).takeWhile (· ≠ []) =
      group.errors.map errorItem := by
    refine takeWhile_items ?_ ?_ later
    · exact List.forall_mem_map.mpr fun d _ => errorItem_ne d
    · exact List.forall_mem_map.mpr fun d hd =>
        newline_notMem_errorItem (h.code_solid d hd) (h.message_line d hd)
  have hErrors := mapM_readItem? fun d hd => ⟨h.own d hd, h.code_solid d hd⟩
  have hBody : String.ofList (joinLines ((numberedLines body).map unnumbered)) = body := by
    rw [numberedLines, map_unnumbered_numberFrom, joinLines_lines, String.ofList_toList]
  simp only [readInstruction?, toList_instruction, isPrefixOf?_append, Option.bind_eq_bind,
    Option.bind_some, hPath.1, hPath.2, hLines, hSplit.1, hSplit.2, List.drop_succ_cons,
    List.drop_zero, hItems, hBody, String.ofList_toList, hErrors]

/-! ## The block in an instruction -/

theorem notMem_toList_append {c : Char} {s t : String} (hs : c ∉ s.toList) (ht : c ∉ t.toList) :
    c ∉ (s ++ t).toList := by
  rw [String.toList_append, List.mem_append, not_or]
  exact ⟨hs, ht⟩

theorem backtick_notMem_opening : '\x60' ∉ opening.toList := by
  unfold opening
  exact notMem_toList_append (notMem_toList_append (by decide) (by decide)) (by decide)

theorem opensBlock_of_backtick_notMem {line : List Char} (h : '\x60' ∉ line) :
    opensBlock line = false := by
  rw [Bool.eq_false_iff, Ne, opensBlock_eq_true_iff]
  rintro ⟨before, tag, -, rfl⟩
  simp [fence] at h

/-- The block of an instruction is the numbered body, if no part of the path is taken for the line
that opens one. -/
theorem block?_instruction {file : String} (hFile : '\x60' ∉ file.toList) (body : String)
    (errors : List Diagnostic) :
    block? (instruction file body errors) =
      some (String.ofList (trimEnd (numberLines body).toList)) := by
  obtain ⟨after, hLines⟩ : ∃ after,
      lines (afterFence body errors) = numberedLines body ++ fence :: after := by
    obtain ⟨later, hLater⟩ := lines_afterFence body errors
    exact ⟨_, hLater⟩
  have hBefore : '\x60' ∉ opening.toList ++ file.toList := by
    rw [List.mem_append, not_or]
    exact ⟨backtick_notMem_opening, hFile⟩
  have hText : (instruction file body errors).toList =
      (opening.toList ++ file.toList) ++ '\n' :: '\n' :: ("\x60\x60\x60typescript".toList ++
        '\n' :: afterFence body errors) := by
    rw [toList_instruction, List.append_assoc]
    rfl
  have hAll : lines (instruction file body errors).toList =
      (lines (opening.toList ++ file.toList) ++ [[]]) ++ "\x60\x60\x60typescript".toList ::
        (numberedLines body ++ fence :: after) := by
    rw [hText, lines_append_newline, lines_newline, lines_line (by decide), hLines,
      List.append_assoc, List.singleton_append]
  rw [block?_of_lines hAll ?_ (by decide) (numberedLines_ne body) ?_, numberLines,
    String.toList_ofList, numberedLines]
  · intro line hLine
    apply opensBlock_of_backtick_notMem
    rcases List.mem_append.mp hLine with hLine | hLine
    · exact fun hMem => hBefore (subset_of_mem_lines hLine hMem)
    · rw [List.mem_singleton.mp hLine]
      exact List.not_mem_nil
  · exact fun line hLine =>
      not_isClosing_of_mem_numberedLines (List.mem_of_mem_tail hLine) true

/-! ## The instruction -/

/-- An instruction tells which errors of which file, and which body, it was written for; no other
errors and no other body have the same one. Its block is the numbered body without the blanks at
its end, so no line of the body ends the block or opens another one. -/
theorem instruction_recoverable {group : FileErrors} (h : Legible group) (body : String) :
    readInstruction? (instruction group.file body group.errors) = some (group, body) ∧
      (∀ other otherBody, Legible other →
        instruction other.file otherBody other.errors = instruction group.file body group.errors →
        other = group ∧ otherBody = body) ∧
      ('\x60' ∉ group.file.toList →
        block? (instruction group.file body group.errors) =
          some (String.ofList (trimEnd (numberLines body).toList))) := by
  refine ⟨readInstruction?_instruction h body, fun other otherBody hOther hSame => ?_,
    fun hFile => block?_instruction hFile body group.errors⟩
  have hBoth := readInstruction?_instruction hOther otherBody
  rw [hSame, readInstruction?_instruction h body] at hBoth
  cases hBoth
  exact ⟨rfl, rfl⟩

-- The body has lines that look like fences and like numbered lines, and the message has what stands
-- between a code and a message.
theorem fenced_body_recovered :
    let group : FileErrors := ⟨"a.ts", [⟨"a.ts", 2, 7, "TS1005", "':' — ',' expected."⟩]⟩
    let body := "\x60\x60\x60\n   1 | x\n\x60\x60\x60ts"
    group ∈ groupByFile (parse "a.ts(2,7): error TS1005: ':' — ',' expected.\n") ∧ Legible group ∧
      readInstruction? (instruction group.file body group.errors) = some (group, body) ∧
      block? (instruction group.file body group.errors) =
        some "   1 | \x60\x60\x60\n   2 |    1 | x\n   3 | \x60\x60\x60ts" := by
  intro group body
  have hMem : group ∈ groupByFile (parse "a.ts(2,7): error TS1005: ':' — ',' expected.\n") := by
    decide +kernel
  have hLegible := legible_of_mem_groupByFile hMem
  obtain ⟨hRead, -, hBlock⟩ := instruction_recoverable hLegible body
  refine ⟨hMem, hLegible, hRead, (hBlock (by decide)).trans ?_⟩
  decide +kernel

end TypeRepair.Patch
