import Mathlib.Algebra.Group.Nat.Defs
import TypeRepair.Proofs.Diagnostic.Parsing
import TypeRepair.Proofs.Diagnostic.Splitting

/-!
# The grammar of error lines

A line can split into a file and a tail in several ways. The split with the longest file counts,
and it alone: it is not given up for another one when its position is none.

* `Splits`, `LongestSplit`: the ways to split a line.
* `split?_eq_some_iff`: the reader takes the longest split.
* `position?_eq_some_iff`: the runs of digits that denote a position.
* `parseLine?_accepts_grammar`: which lines report an error, and which one.
-/

namespace TypeRepair.Diagnostic

open Text

/-! ## Splits -/

/-- The line has the form `file(line,col): error code: message`. -/
structure Splits (line file : List Char) (tail : Tail) : Prop where
  file_ne : file ≠ []
  wellFormed : tail.WellFormed
  line_eq : line = file ++ '(' :: tail.text

/-- No way to split the line has a longer file. -/
structure LongestSplit (line file : List Char) (tail : Tail) : Prop
    extends Splits line file tail where
  longest : ∀ other otherTail, Splits line other otherTail → other.length ≤ file.length

/-- The file determines the tail. -/
theorem Splits.tail_unique {line file : List Char} {tail other : Tail} (h : Splits line file tail)
    (hOther : Splits line file other) : other = tail := by
  have hText : file ++ '(' :: other.text = file ++ '(' :: tail.text :=
    hOther.line_eq.symm.trans h.line_eq
  rw [List.append_cancel_left_eq, List.cons.injEq] at hText
  have hRead := Tail.read?_text hOther.wellFormed
  rw [hText.2, Tail.read?_text h.wellFormed] at hRead
  exact (Option.some.inj hRead).symm

/-- Two ways to split a line: the longer file goes on behind the parenthesis of the shorter one. -/
theorem Splits.exists_between {line file other rest : List Char} {tail : Tail}
    (hLine : line = file ++ '(' :: rest) (h : Splits line other tail)
    (hLonger : file.length < other.length) : ∃ between, rest = between ++ '(' :: tail.text := by
  have hBoth : file ++ '(' :: rest = other ++ '(' :: tail.text := hLine.symm.trans h.line_eq
  rcases List.append_eq_append_iff.mp hBoth with ⟨more, rfl, hRest⟩ | ⟨more, rfl, -⟩
  · cases more with
    | nil => simp at hLonger
    | cons c between =>
      obtain ⟨-, hRest⟩ := List.cons.inj hRest
      exact ⟨between, hRest⟩
  · rw [List.length_append] at hLonger
    omega

theorem split?_eq_some_iff {line file : List Char} {tail : Tail} :
    split? line = some (file, tail) ↔ LongestSplit line file tail := by
  constructor
  · intro h
    obtain ⟨hFile, rest, hLine, hTail, hLast⟩ := split?_eq_some h
    obtain ⟨rfl, hWellFormed⟩ := Tail.wellFormed_of_read? hTail
    refine ⟨⟨hFile, hWellFormed, hLine⟩, fun other otherTail hOther => ?_⟩
    by_contra hLonger
    obtain ⟨between, hRest⟩ := hOther.exists_between hLine (Nat.lt_of_not_le hLonger)
    have hNone := lastSplit?_eq_none_iff.mp hLast between _ hRest
    rw [Tail.read?_text hOther.wellFormed] at hNone
    cases hNone
  · rintro ⟨⟨hFile, hWellFormed, rfl⟩, hLongest⟩
    have hLast : lastSplit? tail.text = none := by
      apply lastSplit?_eq_none_iff.mpr
      intro before after hSplit
      rw [Tail.read?_eq_none_iff]
      rintro other hOther rfl
      have hShort := hLongest (file ++ '(' :: before) other
        ⟨by simp, hOther, by rw [hSplit]; simp⟩
      rw [List.length_append, List.length_cons] at hShort
      omega
    cases file with
    | nil => exact absurd rfl hFile
    | cons c file =>
      rw [List.cons_append, split?, lastSplit?_append (Tail.read?_text hWellFormed) hLast,
        Option.map_some]

/-! ## Positions -/

/-- ASCII digits, with any number of zeros before them, that denote a number from 1 to 2³² - 1. -/
def IsPosition (digits : List Char) (n : Nat) : Prop :=
  digits ≠ [] ∧ (∀ c ∈ digits, c.isDigit = true) ∧ digitsValue digits = n ∧ 1 ≤ n ∧ n ≤ 2 ^ 32 - 1

theorem position?_eq_some_iff {digits : List Char} {n : Nat} :
    position? digits = some n ↔ IsPosition digits n := by
  rw [position?, Option.filter_eq_some_iff, readNat?, Option.ite_none_right_eq_some,
    Option.some.injEq, List.all_eq_true, Bool.and_eq_true, decide_eq_true_eq, decide_eq_true_eq,
    Nat.pow_eq, IsPosition]
  constructor
  · rintro ⟨⟨⟨hSome, hDigits⟩, hValue⟩, hPos, hLess⟩
    exact ⟨hSome, hDigits, hValue, hPos, by omega⟩
  · rintro ⟨hSome, hDigits, hValue, hPos, hMost⟩
    exact ⟨⟨⟨hSome, hDigits⟩, hValue⟩, hPos, by omega⟩

/-! ## Lines -/

/-- The diagnostic is the one that a split of a line tells. -/
structure Tells (file : List Char) (tail : Tail) (d : Diagnostic) : Prop where
  file_eq : d.file = String.ofList (trim file)
  line_position : IsPosition tail.line d.line
  col_position : IsPosition tail.col d.col
  code_eq : d.code = String.ofList tail.code
  message_eq : d.message = String.ofList (trim tail.message)

theorem parseLine?_eq_some_iff {line : List Char} {d : Diagnostic} :
    parseLine? line = some d ↔ ∃ file tail, LongestSplit line file tail ∧ Tells file tail d := by
  simp only [parseLine?, Option.bind_eq_bind, Option.bind_eq_some_iff, Prod.exists,
    split?_eq_some_iff, position?_eq_some_iff, Option.some.injEq]
  constructor
  · rintro ⟨file, tail, hSplit, number, hNumber, col, hCol, rfl⟩
    exact ⟨file, tail, hSplit, rfl, hNumber, hCol, rfl, rfl⟩
  · rintro ⟨file, tail, hSplit, hFile, hNumber, hCol, hCode, hMessage⟩
    refine ⟨file, tail, hSplit, d.line, hNumber, d.col, hCol, ?_⟩
    rw [← hFile, ← hCode, ← hMessage]

/-- A line reports an error exactly if it splits and the longest split has a position; the error is
the one that this split tells, whose file determines all the rest. A line whose longest split has no
position is dropped, whatever its other splits have. -/
theorem parseLine?_accepts_grammar (line : List Char) :
    (∀ d, parseLine? line = some d ↔
      ∃ file tail, LongestSplit line file tail ∧ Tells file tail d) ∧
    (∀ file tail other, Splits line file tail → Splits line file other → other = tail) ∧
    ∀ file tail, LongestSplit line file tail →
      (¬∃ n, IsPosition tail.line n) ∨ (¬∃ n, IsPosition tail.col n) → parseLine? line = none := by
  refine ⟨fun d => parseLine?_eq_some_iff, fun file tail other h hOther => h.tail_unique hOther,
    fun file tail hSplit hBad => ?_⟩
  apply Option.eq_none_iff_forall_ne_some.mpr
  intro d hParsed
  obtain ⟨file', tail', hSplit', hTells⟩ := parseLine?_eq_some_iff.mp hParsed
  have hSame : some (file, tail) = some (file', tail') :=
    (split?_eq_some_iff.mpr hSplit).symm.trans (split?_eq_some_iff.mpr hSplit')
  cases hSame
  rcases hBad with hBad | hBad
  · exact hBad ⟨_, hTells.line_position⟩
  · exact hBad ⟨_, hTells.col_position⟩

-- The message quotes an error line of its own, on line 0, and takes the whole line down with it.
theorem quoted_position_drops_line :
    let line := "a.ts(1,1): error TS1: see b.ts(0,7): error TS2: no".toList
    let shorter : Tail := ⟨['1'], ['1'], "TS1".toList, "see b.ts(0,7): error TS2: no".toList⟩
    let longest : Tail := ⟨['0'], ['7'], "TS2".toList, "no".toList⟩
    Splits line "a.ts".toList shorter ∧ IsPosition shorter.line 1 ∧ IsPosition shorter.col 1 ∧
      LongestSplit line "a.ts(1,1): error TS1: see b.ts".toList longest ∧
      (¬∃ n, IsPosition longest.line n) ∧ parseLine? line = none := by
  intro line shorter longest
  have hRead : Tail.read? shorter.text = some shorter := by decide +kernel
  have hShorter : Splits line "a.ts".toList shorter :=
    ⟨by decide, (Tail.wellFormed_of_read? hRead).2, by decide⟩
  have hLongest : LongestSplit line "a.ts(1,1): error TS1: see b.ts".toList longest :=
    split?_eq_some_iff.mp (by decide +kernel)
  have hNone : ¬∃ n, IsPosition longest.line n := by
    rintro ⟨n, hPosition⟩
    have hRead : position? longest.line = none := by decide
    rw [position?_eq_some_iff.mpr hPosition] at hRead
    cases hRead
  refine ⟨hShorter, position?_eq_some_iff.mp (by decide), position?_eq_some_iff.mp (by decide),
    hLongest, hNone, ?_⟩
  exact (parseLine?_accepts_grammar line).2.2 _ _ hLongest (.inl hNone)

end TypeRepair.Diagnostic
