/-!
# TOML values

Values, and the rules by which keys and headers may add to tables: a table may be written in one
place only, but the tables on the way to a header, and those that a dotted key goes through, come
into being by being named and may be added to in the same way.
-/

namespace TypeRepair.Toml

/-- How a table came into being. -/
inductive Form
  /-- Between braces; `dotted` if only by a dotted key inside of braces. -/
  | inline (dotted : Bool)
  /-- Under a header; `implicit` if only named on the way, `dotted` if by a dotted key. -/
  | block (implicit dotted : Bool)
deriving DecidableEq, Repr

/-- A value. Numbers with fractions and dates keep their written form. -/
inductive Value
  | string (text : String)
  | integer (n : Int)
  | float (written : String)
  | boolean (value : Bool)
  | date (written : String)
  | array (items : List Value)
  | table (form : Form) (entries : List (String × Value))
  /-- The tables of all headers in double brackets with one name. -/
  | tables (elements : List (List (String × Value)))

/-- The keys of a table with their values. -/
abbrev Entries := List (String × Value)

namespace Entries

/-- Replaces the value of a key. -/
def replace (name : String) (value : Value) (entries : Entries) : Entries :=
  entries.map fun entry => if entry.1 = name then (name, value) else entry

/-- Adds a key that is not there yet. -/
def add (name : String) (value : Value) (entries : Entries) : Option Entries :=
  if (entries.lookup name).isSome then none else some (entries ++ [(name, value)])

/-- Whether a dotted key that is read in a place with tables of the form `fresh` may go through a
table, or end in it if `ends` holds. -/
def mayAdd (fresh form : Form) (ends : Bool) : Bool :=
  match fresh, form with
  | .inline _, .inline dotted => dotted
  | .block _ _, .block implicit dotted => implicit && (dotted || !ends)
  | _, _ => false

/-- Sets a key in the table that `path` leads to. Tables that are not there yet are made in the form
`fresh`. -/
def set (fresh : Form) (key : String) (value : Value) : List String → Entries → Option Entries
  | [], entries => entries.add key value
  | name :: path, entries =>
    match entries.lookup name with
    | none =>
      (set fresh key value path []).map fun inner => entries ++ [(name, .table fresh inner)]
    | some (.table form inner) =>
      if mayAdd fresh form path.isEmpty then
        (set fresh key value path inner).map fun inner => entries.replace name (.table form inner)
      else none
    | some (.tables elements) =>
      match elements.getLast? with
      | some last =>
        if path.isEmpty then none
        else (set fresh key value path last).map fun last =>
          entries.replace name (.tables (elements.dropLast ++ [last]))
      | none => none
    | some _ => none

/-- Changes the table that a header's path leads to; a name of tables means the last of them. -/
def atHeader (change : Entries → Option Entries) : List String → Entries → Option Entries
  | [], entries => change entries
  | name :: path, entries =>
    match entries.lookup name with
    | none =>
      (atHeader change path []).map fun inner =>
        entries ++ [(name, .table (.block true false) inner)]
    | some (.table (.block implicit dotted) inner) =>
      (atHeader change path inner).map fun inner =>
        entries.replace name (.table (.block implicit dotted) inner)
    | some (.tables elements) =>
      match elements.getLast? with
      | some last =>
        (atHeader change path last).map fun last =>
          entries.replace name (.tables (elements.dropLast ++ [last]))
      | none => none
    | some _ => none

/-- Opens the table of a header in single brackets: it must be new or have been named only on the
way to another header. -/
def openTable (name : String) (entries : Entries) : Option Entries :=
  match entries.lookup name with
  | none => some (entries ++ [(name, .table (.block false false) [])])
  | some (.table (.block true false) inner) =>
    some (entries.replace name (.table (.block false false) inner))
  | some _ => none

/-- Opens one more table of a header in double brackets. -/
def openElement (name : String) (entries : Entries) : Option Entries :=
  match entries.lookup name with
  | none => some (entries ++ [(name, .tables [[]])])
  | some (.tables elements) => some (entries.replace name (.tables (elements ++ [[]])))
  | some _ => none

end Entries

end TypeRepair.Toml
