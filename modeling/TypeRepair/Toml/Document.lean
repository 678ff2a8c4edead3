import TypeRepair.Toml.Lexeme
import TypeRepair.Toml.Value

/-!
# TOML documents

Keys, values and headers of TOML 1.0, read into one table. Arrays and braces may be nested less than
80 deep, and a dotted key has less than 80 parts.
-/

namespace TypeRepair.Toml

/-- The bound on nesting and on the parts of a key. -/
def nestingLimit : Nat := 80

/-- The further parts of a dotted key. -/
def keyRest : Nat → Reader (List String)
  | 0, _ => none
  | fuel + 1, cs =>
    match blanks cs with
    | '.' :: rest => do
      let (name, rest) ← simpleKey (blanks rest)
      let (names, rest) ← keyRest fuel rest
      some (name :: names, rest)
    | rest => some ([], rest)

/-- A key with its parts, and blanks around it. -/
def key : Reader (List String) := fun cs => do
  let (name, rest) ← simpleKey (blanks cs)
  let (names, rest) ← keyRest nestingLimit rest
  if names.length + 1 < nestingLimit then some (name :: names, rest) else none

/-- The written form of what a reader takes. -/
def written {α : Type} (reader : Reader α) : Reader String := fun cs => do
  let (_, rest) ← reader cs
  some (String.ofList (cs.take (cs.length - rest.length)), rest)

/-- A date, a number with a fraction or exponent, or a whole number. -/
def numeric : Reader Value := fun cs =>
  match written date cs with
  | some (text, rest) => some (.date text, rest)
  | none =>
    match written float cs with
    | some (text, rest) => some (.float text, rest)
    | none => (integer cs).map fun (n, rest) => (.integer n, rest)

/-- A value that holds no others. -/
def scalar : Reader Value := fun cs =>
  match cs with
  | 't' :: 'r' :: 'u' :: 'e' :: rest => some (.boolean true, rest)
  | 'f' :: 'a' :: 'l' :: 's' :: 'e' :: rest => some (.boolean false, rest)
  | '"' :: _ | '\'' :: _ => (stringValue cs).map fun (text, rest) => (.string text, rest)
  | cs => numeric cs

/-- Sets a key with its parts in a table. -/
def setKey (fresh : Form) (names : List String) (value : Value) (entries : Entries) :
    Option Entries :=
  match names.getLast? with
  | some name => entries.set fresh name value names.dropLast
  | none => none

mutual

/-- A value inside of `depth` brackets and braces. -/
def value (depth : Nat) : Nat → Reader Value
  | 0, _ => none
  | fuel + 1, cs =>
    match cs with
    | '[' :: rest =>
      if depth + 1 < nestingLimit then do
        let (items, rest) ← items (depth + 1) fuel rest
        some (.array items, rest)
      else none
    | '\x7b' :: rest =>
      if depth + 1 < nestingLimit then
        match blanks rest with
        | '\x7d' :: rest => some (.table (.inline false) [], rest)
        | _ => do
          let (entries, rest) ← pairs (depth + 1) [] fuel rest
          some (.table (.inline false) entries, rest)
      else none
    | cs => scalar cs

/-- The items of an array up to its closing bracket; a comma may follow the last one. -/
def items (depth : Nat) : Nat → Reader (List Value)
  | 0, _ => none
  | fuel + 1, cs => do
    let cs ← gap false cs
    match cs with
    | ']' :: rest => some ([], rest)
    | cs =>
      let (item, cs) ← value depth fuel cs
      let cs ← gap false cs
      match cs with
      | ',' :: rest =>
        let (more, rest) ← items depth fuel rest
        some (item :: more, rest)
      | ']' :: rest => some ([item], rest)
      | _ => none

/-- The pairs between braces, added to `entries`, from one of them to the closing brace. -/
def pairs (depth : Nat) (entries : Entries) : Nat → Reader Entries
  | 0, _ => none
  | fuel + 1, cs => do
    let (names, cs) ← key cs
    let (_, cs) ← char '=' cs
    let (item, cs) ← value depth fuel (blanks cs)
    let entries ← setKey (.inline true) names item entries
    match blanks cs with
    | ',' :: rest => pairs depth entries fuel rest
    | '\x7d' :: rest => some (entries, rest)
    | _ => none

end

/-- A document that is being read: its table, and the header that its keys belong to. -/
structure State where
  header : List String
  entries : Entries

/-- A header in single or double brackets, after its first bracket. -/
def readHeader (state : State) (cs : List Char) : Option (State × List Char) := do
  let (double, cs) := match cs with
    | '[' :: rest => (true, rest)
    | cs => (false, cs)
  let (names, cs) ← key cs
  let (_, cs) ← char ']' cs
  let (_, cs) ← if double then char ']' cs else some ((), cs)
  let cs ← lineEnd cs
  let name ← names.getLast?
  let change := if double then Entries.openElement name else Entries.openTable name
  let entries ← state.entries.atHeader change names.dropLast
  some (⟨names, entries⟩, cs)

/-- A key with its value. -/
def readPair (state : State) (cs : List Char) : Option (State × List Char) := do
  let (names, cs) ← key cs
  let (_, cs) ← char '=' cs
  let (item, cs) ← value 0 (cs.length + 1) (blanks cs)
  let cs ← lineEnd cs
  let entries ← state.entries.atHeader (setKey (.block true true) names item) state.header
  some (⟨state.header, entries⟩, cs)

/-- The lines of a document. Each takes a character at least. -/
def readLines : Nat → State → List Char → Option Entries
  | 0, _, _ => none
  | fuel + 1, state, cs =>
    match blanks cs with
    | [] => some state.entries
    | '\n' :: rest => readLines fuel state rest
    | '\r' :: '\n' :: rest => readLines fuel state rest
    | '#' :: rest => (lineEnd ('#' :: rest)).bind (readLines fuel state)
    | '[' :: rest => (readHeader state rest).bind fun (state, rest) => readLines fuel state rest
    | cs => (readPair state cs).bind fun (state, rest) => readLines fuel state rest

/-- The table that a document describes. One byte order mark at the start is skipped. -/
def read? (document : String) : Option Entries :=
  let cs := match document.toList with
    | '\uFEFF' :: rest => rest
    | cs => cs
  readLines (cs.length + 1) ⟨[], []⟩ cs

end TypeRepair.Toml
