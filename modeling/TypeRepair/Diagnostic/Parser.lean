import TypeRepair.Diagnostic.Basic
import TypeRepair.Text.Blank
import TypeRepair.Text.Digit
import TypeRepair.Text.Lines

/-!
# Reading the checker's output

A line reports an error if it has the form `file(line,col): error code: message`. Of several ways
to split a line in this form the one with the longest file is taken, and only that one: if its
position is out of range, the line is dropped. All other lines are dropped too.
-/

namespace TypeRepair.Diagnostic

open Text

/-- What follows the file in an error line, unread. -/
structure Tail where
  line : List Char
  col : List Char
  code : List Char
  message : List Char
deriving DecidableEq, Repr

/-- The last character of a run, and what is before it. -/
def splitLast? (run : List Char) : Option (List Char × Char) :=
  run.getLast?.map fun last => (run.dropLast, last)

/-- Reads `(line,col): error code: message` after its opening parenthesis. The code reaches to the
first blank, which has to be a space after a colon. -/
def Tail.read? (cs : List Char) : Option Tail := do
  let line := cs.takeWhile isDecimalDigit
  let cs ← [','].isPrefixOf? (cs.dropWhile isDecimalDigit)
  let col := cs.takeWhile isDecimalDigit
  let cs ← "): error ".toList.isPrefixOf? (cs.dropWhile isDecimalDigit)
  let (code, colon) ← splitLast? (cs.takeWhile fun c => !isBlank c)
  let message ← [' '].isPrefixOf? (cs.dropWhile fun c => !isBlank c)
  if colon = ':' ∧ line ≠ [] ∧ col ≠ [] ∧ code ≠ [] ∧ message ≠ [] then
    some ⟨line, col, code, message⟩
  else none

/-- The last place where a tail follows an opening parenthesis: what is before the parenthesis, and
the tail. -/
def lastSplit? : List Char → Option (List Char × Tail)
  | [] => none
  | c :: cs =>
    match lastSplit? cs with
    | some (file, tail) => some (c :: file, tail)
    | none => if c = '(' then (Tail.read? cs).map ([], ·) else none

/-- Splits an error line into its file, which is not empty, and the tail. -/
def split? : List Char → Option (List Char × Tail)
  | [] => none
  | c :: cs => (lastSplit? cs).map fun (file, tail) => (c :: file, tail)

/-- A line or column number: ASCII digits for a number from 1 to 2³² - 1. -/
def position? (digits : List Char) : Option Nat :=
  (readNat? digits).filter fun n => 0 < n && n < Nat.pow 2 32

/-- The error that a line of output reports, if it reports one. -/
def parseLine? (line : List Char) : Option Diagnostic := do
  let (file, tail) ← split? line
  let lineNumber ← position? tail.line
  let col ← position? tail.col
  some
    { file := String.ofList (trim file)
      line := lineNumber
      col := col
      code := String.ofList tail.code
      message := String.ofList (trim tail.message) }

/-- The errors that the checker's output reports, in order. -/
def parse (output : String) : List Diagnostic :=
  (outputLines output.toList).filterMap parseLine?

end TypeRepair.Diagnostic
