/-!
# Paths

A path is a text; slashes divide it into names, and one at the start makes it absolute.
-/

namespace TypeRepair

/-- A path taken apart. -/
structure Path where
  absolute : Bool
  /-- The names between the slashes; empty ones are left out. -/
  names : List String
  /-- Whether a slash follows the last name. -/
  slashAtEnd : Bool
deriving DecidableEq, Repr

namespace Path

/-- The pieces between slashes. -/
def pieces (cs : List Char) : List (List Char) :=
  cs.foldr (fun c ps =>
    if c = '/' then [] :: ps
    else match ps with
      | [] => [[c]]
      | p :: rest => (c :: p) :: rest) [[]]

/-- Takes a path apart. -/
def ofString (text : String) : Path where
  absolute := text.toList.head? == some '/'
  names := ((pieces text.toList).filter (· ≠ [])).map String.ofList
  slashAtEnd := text.toList.getLast? == some '/'

/-- A path seen from a directory: an absolute path stands for itself, any other one is put after
the directory, with a slash between them unless the directory is empty or ends at one. -/
def join (directory path : String) : String :=
  if path.toList.head? = some '/' then path
  else if directory = "" ∨ directory.toList.getLast? = some '/' then directory ++ path
  else directory ++ "/" ++ path

end Path

end TypeRepair
