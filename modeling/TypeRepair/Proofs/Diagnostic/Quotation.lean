import TypeRepair.Proofs.Diagnostic.Grammar
import TypeRepair.Proofs.Diagnostic.Printing

/-!
# Messages that quote an error line

A message may hold any text. If it holds a parenthesis with the rest of an error line behind it,
the line of the diagnostic splits there, and the message is read as the end of the file.

* `lastSplit?_eq_none_iff_not_quotesError`: the messages that quote an error line.
* `Plain.heading_prefix_file`: what file is read if the message is one of them.
* `report_read_back_iff`: the diagnostics that are read back from their lines.
-/

namespace TypeRepair.Diagnostic

open Text

/-! ## Quotations -/

/-- After one of the parentheses of the text stands all that follows the file in an error line. -/
def QuotesError (text : List Char) : Prop :=
  ∃ before tail, Tail.WellFormed tail ∧ text = before ++ '(' :: tail.text

theorem lastSplit?_eq_none_iff_not_quotesError {text : List Char} :
    lastSplit? text = none ↔ ¬QuotesError text := by
  simp only [lastSplit?_eq_none_iff, Tail.read?_eq_none_iff, QuotesError]
  constructor
  · rintro h ⟨before, tail, hTail, hText⟩
    exact h before tail.text hText tail hTail rfl
  · rintro h before after hText tail hTail rfl
    exact h ⟨before, tail, hTail, hText⟩

/-- A tail at the end of a line is found whatever stands before it. -/
theorem lastSplit?_append_some {cs before : List Char} {tail : Tail}
    (h : lastSplit? cs = some (before, tail)) (head : List Char) :
    lastSplit? (head ++ cs) = some (head ++ before, tail) := by
  induction head with
  | nil => exact h
  | cons c head ih => rw [List.cons_append, lastSplit?, ih, List.cons_append]

theorem lastSplit?_append_none {head cs : List Char} (hHead : '(' ∉ head)
    (h : lastSplit? cs = none) : lastSplit? (head ++ cs) = none := by
  induction head with
  | nil => exact h
  | cons c head ih =>
    rw [List.mem_cons, not_or] at hHead
    rw [List.cons_append, lastSplit?, ih hHead.2]
    exact if_neg (Ne.symm hHead.1)

/-! ## Headings -/

/-- The line of a diagnostic up to its message. -/
def heading (d : Diagnostic) : String :=
  d.file ++ "(" ++ toString d.line ++ "," ++ toString d.col ++ "): error " ++ d.code ++ ":"

theorem toList_heading (d : Diagnostic) : d.heading.toList =
    d.file.toList ++ ('(' :: Nat.toDigits 10 d.line ++ ',' :: Nat.toDigits 10 d.col ++
      "): error ".toList ++ d.code.toList ++ [':']) := by
  simp [heading]

theorem heading_ne (d : Diagnostic) : d.heading.toList ≠ [] := by
  simp [toList_heading]

theorem toList_render_heading (d : Diagnostic) :
    d.render.toList = d.heading.toList ++ ' ' :: d.message.toList := by
  simp [render, heading]

/-- Of a message that quotes an error only the end is read as a message, and the rest with all that
stands before it as the file. -/
theorem split?_quoting {d : Diagnostic} {before : List Char} {tail : Tail}
    (hMessage : lastSplit? d.message.toList = some (before, tail)) :
    split? d.render.toList = some (d.heading.toList ++ ' ' :: before, tail) := by
  obtain ⟨c, rest, hHeading⟩ := List.exists_cons_of_ne_nil (heading_ne d)
  have hRest := lastSplit?_append_some hMessage (rest ++ [' '])
  rw [List.append_assoc, List.append_assoc, List.singleton_append, List.singleton_append] at hRest
  rw [toList_render_heading, hHeading, List.cons_append, split?, hRest, Option.map_some,
    List.cons_append]

/-! ## Reports -/

/-- The diagnostic can be printed on one line so that its parts can be told apart as far as the
message allows. -/
structure Plain (d : Diagnostic) : Prop where
  file_ne : d.file ≠ ""
  file_line : '\n' ∉ d.file.toList
  file_trimmed : trimmed d.file = d.file
  line_pos : 0 < d.line
  line_lt : d.line < Nat.pow 2 32
  col_pos : 0 < d.col
  col_lt : d.col < Nat.pow 2 32
  code_ne : d.code ≠ ""
  code_solid : ∀ c ∈ d.code.toList, isBlank c = false
  code_open : '(' ∉ d.code.toList
  message_ne : d.message ≠ ""
  message_line : '\n' ∉ d.message.toList
  message_trimmed : trimmed d.message = d.message

section

variable {d : Diagnostic} (h : d.Plain)

include h

/-- Behind the file only the message has parentheses. -/
theorem Plain.printable (hMessage : ¬QuotesError d.message.toList) : d.Printable := by
  have hDigits : ∀ n, '(' ∉ Nat.toDigits 10 n := fun n hMem =>
    absurd (isDigit_of_mem_toDigits hMem) (by decide)
  have hLead : '(' ∉ Nat.toDigits 10 d.line ++ ',' :: (Nat.toDigits 10 d.col ++
      "): error ".toList ++ d.code.toList ++ ": ".toList) := by
    simp [hDigits, h.code_open]
  have hText : d.tail.text = Nat.toDigits 10 d.line ++ ',' :: (Nat.toDigits 10 d.col ++
      "): error ".toList ++ d.code.toList ++ ": ".toList) ++ d.message.toList := by
    simp [tail, Tail.text]
  have hLast : lastSplit? d.tail.text = none := by
    rw [hText]
    exact lastSplit?_append_none hLead (lastSplit?_eq_none_iff_not_quotesError.mpr hMessage)
  exact ⟨h.file_ne, h.file_line, h.file_trimmed, h.line_pos, h.line_lt, h.col_pos, h.col_lt,
    h.code_ne, h.code_solid, h.message_ne, h.message_line, h.message_trimmed,
    lastSplit?_tail_eq_none_iff.mp hLast⟩

theorem Plain.heading_prefix_trim (more : List Char) :
    d.heading.toList <+: trim (d.heading.toList ++ more) := by
  have hFile : trimStart d.file.toList = d.file.toList := by
    have hText := congrArg String.toList h.file_trimmed
    rw [trimmed, String.toList_ofList] at hText
    rw [← hText, trimStart_trim]
  have hNe : d.file.toList ≠ [] := fun hNil => h.file_ne (String.toList_eq_nil_iff.mp hNil)
  have hStart : trimStart d.heading.toList = d.heading.toList := by
    rw [toList_heading, trimStart_append hNe hFile]
  have hEnd : trimEnd d.heading.toList = d.heading.toList := by
    rw [toList_heading, ← List.append_assoc, trimEnd_concat rfl]
  rw [trim, trimStart_append (heading_ne d) hStart]
  exact prefix_trimEnd_append hEnd more

theorem Plain.heading_prefix_file (hMessage : QuotesError d.message.toList) {e : Diagnostic}
    (hParsed : parseLine? d.render.toList = some e) : d.heading.toList <+: e.file.toList := by
  have hSome : lastSplit? d.message.toList ≠ none := fun hNone =>
    lastSplit?_eq_none_iff_not_quotesError.mp hNone hMessage
  obtain ⟨⟨before, tail⟩, hLast⟩ := Option.ne_none_iff_exists'.mp hSome
  obtain ⟨file, other, hSplit, hTells⟩ := parseLine?_eq_some_iff.mp hParsed
  rw [← split?_eq_some_iff, split?_quoting hLast, Option.some.injEq, Prod.mk.injEq] at hSplit
  obtain ⟨rfl, rfl⟩ := hSplit
  rw [hTells.file_eq, String.toList_ofList]
  exact h.heading_prefix_trim _

end

/-- A diagnostic is read back from its line exactly if its message quotes no error. If the message
does, nothing is read, or the error of another file, whose path starts with all of the line that
stands before the message. -/
theorem report_read_back_iff {d : Diagnostic} (h : d.Plain) :
    (parseLine? d.render.toList = some d ↔ ¬QuotesError d.message.toList) ∧
      ∀ e, parseLine? d.render.toList = some e → e = d ∨ d.heading.toList <+: e.file.toList := by
  have hBack : ¬QuotesError d.message.toList → parseLine? d.render.toList = some d :=
    fun hMessage => (h.printable hMessage).parseLine?_render
  refine ⟨⟨fun hParsed hMessage => ?_, hBack⟩, fun e hParsed => ?_⟩
  · have hLonger := (h.heading_prefix_file hMessage hParsed).length_le
    rw [toList_heading] at hLonger
    simp only [List.length_append, List.length_cons] at hLonger
    omega
  · by_cases hMessage : QuotesError d.message.toList
    · exact .inr (h.heading_prefix_file hMessage hParsed)
    · rw [hBack hMessage] at hParsed
      exact .inl (Option.some.inj hParsed).symm

/-- A report whose message has everything of an error line but the code. -/
def nearlyQuoting : Diagnostic :=
  ⟨"a.ts", 3, 7, "TS2345", "Type '(9,2): error : ' is bad."⟩

theorem nearlyQuoting_read_back :
    nearlyQuoting.Plain ∧ ¬QuotesError nearlyQuoting.message.toList ∧
      parseLine? nearlyQuoting.render.toList = some nearlyQuoting := by
  have hPlain : nearlyQuoting.Plain := by
    constructor
    case code_solid => exact all_not_isBlank_iff.mp (by decide)
    all_goals decide
  have hMessage : ¬QuotesError nearlyQuoting.message.toList :=
    lastSplit?_eq_none_iff_not_quotesError.mp (by decide +kernel)
  exact ⟨hPlain, hMessage, (report_read_back_iff hPlain).1.mpr hMessage⟩

/-- A report of a string literal that quotes an error line. -/
def literalQuoting : Diagnostic :=
  ⟨"a.ts", 3, 7, "TS2322", "Type '\"b.ts(9,2): error TS1: no\"' is bad."⟩

theorem literalQuoting_moved :
    literalQuoting.Plain ∧ '(' ∉ literalQuoting.file.toList ∧ ':' ∉ literalQuoting.code.toList ∧
      parseLine? literalQuoting.render.toList ≠ some literalQuoting ∧
      parseLine? literalQuoting.render.toList =
        some ⟨"a.ts(3,7): error TS2322: Type '\"b.ts", 9, 2, "TS1", "no\"' is bad."⟩ := by
  have hParsed : parseLine? literalQuoting.render.toList =
      some ⟨"a.ts(3,7): error TS2322: Type '\"b.ts", 9, 2, "TS1", "no\"' is bad."⟩ := by
    decide +kernel
  have hPlain : literalQuoting.Plain := by
    constructor
    case code_solid => exact all_not_isBlank_iff.mp (by decide)
    all_goals decide
  refine ⟨hPlain, by decide, by decide, ?_, hParsed⟩
  rw [hParsed]
  decide

end TypeRepair.Diagnostic
