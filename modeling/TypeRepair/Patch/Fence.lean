import TypeRepair.Text.Blank
import TypeRepair.Text.Lines

/-!
# Fenced blocks

The first fenced block of an answer, found in one pass over its lines. A line opens a block if it
ends with three backticks and a tag without backticks, whatever stands before them, and is not the
last line. A line closes the block if it holds three backticks after at most three spaces, and
blanks only after them; the line right after the opening one always belongs to the body.
-/

namespace TypeRepair.Patch

open Text

/-- The mark that opens and closes a block. -/
def fence : List Char := ['\x60', '\x60', '\x60']

/-- Whether a line that is not the last one opens a block. -/
def opensBlock (line : List Char) : Bool :=
  fence.isPrefixOf (line.reverse.dropWhile (· ≠ '\x60'))

/-- Whether a line closes a block. A carriage return may end it unless it is the last line. -/
def closesBlock (isLast : Bool) (line : List Char) : Bool :=
  (line.takeWhile (· = ' ')).length ≤ 3 &&
    match fence.isPrefixOf? (line.dropWhile (· = ' ')) with
    | none => false
    | some rest =>
      match rest.dropWhile (fun c => c = ' ' || c = '\t') with
      | [] => true
      | ['\r'] => !isLast
      | _ => false

/-- The lines after the first one that opens a block. -/
def afterOpening : List (List Char) → Option (List (List Char))
  | [] => none
  | [_] => none
  | line :: rest => if opensBlock line then some rest else afterOpening rest

/-- The lines before the first one that closes a block, put after `body`, whose last line comes
first. -/
def beforeClosing (body : List (List Char)) : List (List Char) → Option (List (List Char))
  | [] => none
  | line :: rest =>
    if closesBlock rest.isEmpty line then some body.reverse
    else beforeClosing (line :: body) rest

/-- The lines of the first fenced block. -/
def blockLines? (pieces : List (List Char)) : Option (List (List Char)) :=
  match afterOpening pieces with
  | some (line :: rest) => beforeClosing [line] rest
  | _ => none

/-- The body of the first fenced block without blanks at its end. -/
def block? (answer : String) : Option String :=
  (blockLines? (lines answer.toList)).map fun body => String.ofList (trimEnd (joinLines body))

end TypeRepair.Patch
