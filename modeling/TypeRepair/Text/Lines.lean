/-!
# Lines

Two views of a text as lines. Between newlines lie the pieces of `lines`, one more than there are
newlines. A program's output has the lines of `outputLines`: each ends at a newline, which may be
preceded by a carriage return, and an unterminated rest counts as a line when it is not empty.

* `lines_ne_nil`: there is always a first line.
* `outputLines_append`: output whose first part ends at a newline splits there.
-/

namespace TypeRepair.Text

/-- Puts a character before pieces: a newline opens a new piece, any other character joins the
first one. -/
def addToPieces (c : Char) (pieces : List (List Char)) : List (List Char) :=
  if c = '\n' then [] :: pieces
  else
    match pieces with
    | [] => [[c]]
    | piece :: rest => (c :: piece) :: rest

/-- The pieces between the newlines of a text. -/
def lines (cs : List Char) : List (List Char) :=
  cs.foldr addToPieces [[]]

/-- Puts a newline between neighbours. -/
def joinLines (pieces : List (List Char)) : List Char :=
  ['\n'].intercalate pieces

/-- Drops one carriage return from the end. -/
def dropReturn (line : List Char) : List Char :=
  if line.getLast? = some '\r' then line.dropLast else line

/-- The lines of output: every piece but the last was ended by a newline and loses a carriage
return before it; the last piece counts only if it holds something. -/
def terminatedLines : List (List Char) → List (List Char)
  | [] => []
  | [rest] => if rest = [] then [] else [rest]
  | piece :: next :: pieces => dropReturn piece :: terminatedLines (next :: pieces)

/-- The lines of a program's output. -/
def outputLines (output : List Char) : List (List Char) :=
  terminatedLines (lines output)

@[simp] theorem lines_nil : lines [] = [[]] := rfl

theorem lines_cons (c : Char) (cs : List Char) : lines (c :: cs) = addToPieces c (lines cs) := rfl

@[simp] theorem lines_newline (cs : List Char) : lines ('\n' :: cs) = [] :: lines cs := rfl

theorem lines_ne_nil (cs : List Char) : lines cs ≠ [] := by
  cases cs with
  | nil => simp
  | cons c cs =>
    rw [lines_cons]
    unfold addToPieces
    split
    · simp
    · split <;> simp

theorem joinLines_addToPieces (c : Char) {pieces : List (List Char)} (h : pieces ≠ []) :
    joinLines (addToPieces c pieces) = c :: joinLines pieces := by
  cases pieces with
  | nil => exact absurd rfl h
  | cons piece rest =>
    by_cases hc : c = '\n'
    · subst hc
      simp [joinLines, addToPieces, List.intercalate]
    · cases rest <;> simp [joinLines, addToPieces, hc, List.intercalate]

theorem joinLines_lines (cs : List Char) : joinLines (lines cs) = cs := by
  induction cs with
  | nil => rfl
  | cons c cs ih => rw [lines_cons, joinLines_addToPieces c (lines_ne_nil cs), ih]

/-- Equal lines come from equal texts. -/
theorem lines_injective {cs ds : List Char} (h : lines cs = lines ds) : cs = ds := by
  rw [← joinLines_lines cs, ← joinLines_lines ds, h]

/-- A newline divides the lines before it from those after it. -/
theorem lines_append_newline (cs ds : List Char) :
    lines (cs ++ '\n' :: ds) = lines cs ++ lines ds := by
  induction cs with
  | nil => rfl
  | cons c cs ih =>
    rw [List.cons_append, lines_cons, ih, lines_cons]
    by_cases hc : c = '\n'
    · simp [addToPieces, hc]
    · cases h : lines cs with
      | nil => exact absurd h (lines_ne_nil cs)
      | cons piece pieces => simp [addToPieces, hc]

theorem terminatedLines_append {pieces : List (List Char)} (h : pieces ≠ [])
    (more : List (List Char)) (hMore : more ≠ []) :
    terminatedLines (pieces ++ more) = pieces.map dropReturn ++ terminatedLines more := by
  induction pieces with
  | nil => exact absurd rfl h
  | cons piece pieces ih =>
    cases pieces with
    | nil =>
      cases more with
      | nil => exact absurd rfl hMore
      | cons next rest => simp [terminatedLines]
    | cons next rest =>
      have := ih (by simp)
      simp only [List.cons_append, terminatedLines, List.map_cons]
      rw [← List.cons_append, this]
      simp

/-- Output that ends at a newline contributes its own lines, whatever follows. -/
theorem outputLines_append (cs ds : List Char) :
    outputLines (cs ++ '\n' :: ds) = (lines cs).map dropReturn ++ outputLines ds := by
  rw [outputLines, lines_append_newline,
    terminatedLines_append (lines_ne_nil cs) _ (lines_ne_nil ds)]
  rfl

end TypeRepair.Text
