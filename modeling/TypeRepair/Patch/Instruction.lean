import TypeRepair.Diagnostic.Basic
import TypeRepair.Text.Lines

/-!
# Instructions

The request for a new body: the file with numbered lines in a fenced block, and its errors.
-/

namespace TypeRepair.Patch

open Text

/-- A number, right-aligned in four columns; a longer one takes the columns it needs. -/
def lineNumber (n : Nat) : List Char :=
  let digits := Nat.toDigits 10 n
  List.replicate (4 - digits.length) ' ' ++ digits

/-- Writes its number before each line, where the first line has the number `first`. -/
def numberFrom (first : Nat) (pieces : List (List Char)) : List (List Char) :=
  (pieces.zipIdx first).map fun (line, n) => lineNumber n ++ " | ".toList ++ line

/-- A text with a number before each line. -/
def numberLines (text : String) : String :=
  String.ofList (joinLines (numberFrom 1 (lines text.toList)))

/-- One error in the list of errors. -/
def errorItem (d : Diagnostic) : List Char :=
  ("- Line " ++ toString d.line ++ ", Col " ++ toString d.col ++ ": " ++ d.code ++ " — " ++
    d.message).toList

/-- What comes before the path. -/
def opening : String :=
  "You are a TypeScript expert. Fix ONLY the type errors listed below. Do NOT refactor, rename " ++
  "variables, change logic, add features, or modify anything unrelated to the listed errors.\n\n" ++
  "## File: "

/-- What comes between the path and the numbered body. -/
def beforeBody : String := "\n\n\x60\x60\x60typescript\n"

/-- What comes between the numbered body and the errors. -/
def beforeErrors : String := "\n\x60\x60\x60\n\n## TypeScript Errors to Fix\n\n"

/-- What comes after the errors. -/
def closing : String :=
  "\n\n## Instructions\n\n" ++
  "1. Fix ONLY the listed type errors — nothing else.\n" ++
  "2. Keep all existing imports, exports, variable names, and logic exactly as they are.\n" ++
  "3. If a fix requires adding an import, add only what is strictly necessary.\n" ++
  "4. Return the COMPLETE corrected file inside a single fenced code block.\n" ++
  "5. Do NOT include line numbers in your output.\n" ++
  "6. Do NOT add comments explaining the changes."

/-- The request to repair the errors of a file. -/
def instruction (file body : String) (errors : List Diagnostic) : String :=
  opening ++ file ++ beforeBody ++ numberLines body ++ beforeErrors ++
    String.ofList (joinLines (errors.map errorItem)) ++ closing

end TypeRepair.Patch
