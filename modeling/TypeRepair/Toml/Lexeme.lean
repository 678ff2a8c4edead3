import TypeRepair.Text.Digit

/-!
# TOML lexemes

Blanks, comments, strings and numbers of TOML 1.0. Each reader takes its lexeme from the front of
the text and returns what it stands for and the rest.
-/

namespace TypeRepair.Toml

open Text

/-- A reader of something at the front of a text. -/
abbrev Reader (α : Type) := List Char → Option (α × List Char)

/-- A space or a tab. -/
def isBlank (c : Char) : Bool := c == ' ' || c == '\t'

/-- A character that may stand in a comment. -/
def inComment (c : Char) : Bool :=
  c == '\t' || (0x20 ≤ c.toNat && c.toNat ≠ 0x7F)

/-- A character that stands for itself between quotation marks. -/
def inBasic (c : Char) : Bool :=
  inComment c && c ≠ '"' && c ≠ '\\'

/-- A character that may stand between apostrophes. -/
def inLiteral (c : Char) : Bool :=
  inComment c && c ≠ '\''

/-- A character that may stand in a bare key. -/
def inBareKey (c : Char) : Bool :=
  c.isAlphanum || c == '-' || c == '_'

/-- Skips spaces and tabs. -/
def blanks (cs : List Char) : List Char := cs.dropWhile isBlank

/-- Skips the end of a line, which may be preceded by blanks and a comment; the end of the text
counts. -/
def lineEnd (cs : List Char) : Option (List Char) :=
  let cs := blanks cs
  let cs := match cs with
    | '#' :: rest => rest.dropWhile inComment
    | cs => cs
  match cs with
  | [] => some []
  | '\n' :: rest => some rest
  | '\r' :: '\n' :: rest => some rest
  | _ => none

/-- Skips blanks, ends of lines and comments that end with their line. -/
def gap (comment : Bool) : List Char → Option (List Char)
  | [] => if comment then none else some []
  | '\n' :: rest => gap false rest
  | '\r' :: '\n' :: rest => gap false rest
  | c :: rest =>
    if comment then if inComment c then gap true rest else none
    else if isBlank c then gap false rest
    else if c = '#' then gap true rest
    else if c = '\r' then none
    else some (c :: rest)

/-- The value of a hexadecimal digit. -/
def hexValue? (c : Char) : Option Nat :=
  if c.isDigit then some (c.toNat - '0'.toNat)
  else if 'a' ≤ c ∧ c ≤ 'f' then some (c.toNat - 'a'.toNat + 10)
  else if 'A' ≤ c ∧ c ≤ 'F' then some (c.toNat - 'A'.toNat + 10)
  else none

/-- The character with a number in hexadecimal digits, which must not be a surrogate. -/
def hexChar? (digits : List Char) : Option Char := do
  let values ← digits.mapM hexValue?
  let n := values.foldl (fun n d => n * 16 + d) 0
  if n < 0xD800 ∨ (0xE000 ≤ n ∧ n < 0x110000) then some (Char.ofNat n) else none

/-- The character that an escape by a letter stands for. -/
def letterEscape? (c : Char) : Option Char :=
  match c with
  | 'b' => some '\x08'
  | 'f' => some '\x0c'
  | 'n' => some '\n'
  | 'r' => some '\r'
  | 't' => some '\t'
  | '\\' => some '\\'
  | '"' => some '"'
  | _ => none

/-- The rest of a string in quotation marks, put after `seen`, whose last character comes first. -/
def basicRest (seen : List Char) : Reader String
  | '"' :: rest => some (String.ofList seen.reverse, rest)
  | '\\' :: 'u' :: a :: b :: c :: d :: rest =>
    match hexChar? [a, b, c, d] with
    | some char => basicRest (char :: seen) rest
    | none => none
  | '\\' :: 'U' :: a :: b :: c :: d :: e :: f :: g :: h :: rest =>
    match hexChar? [a, b, c, d, e, f, g, h] with
    | some char => basicRest (char :: seen) rest
    | none => none
  | '\\' :: c :: rest =>
    match letterEscape? c with
    | some char => basicRest (char :: seen) rest
    | none => none
  | c :: rest => if inBasic c then basicRest (c :: seen) rest else none
  | [] => none

/-- The rest of a string in apostrophes. -/
def literalRest (cs : List Char) : Option (String × List Char) :=
  match cs.dropWhile inLiteral with
  | '\'' :: rest => some (String.ofList (cs.takeWhile inLiteral), rest)
  | _ => none

/-- After three closing marks, up to two more belong to the text. -/
def closeMultiline (mark : Char) (seen rest : List Char) : String × List Char :=
  let extra := (rest.take 2).takeWhile (· = mark)
  (String.ofList (seen.reverse ++ extra), rest.drop extra.length)

/-- Whether blanks and the end of a line are next. -/
def lineBreaks (cs : List Char) : Bool :=
  match blanks cs with
  | '\n' :: _ => true
  | '\r' :: '\n' :: _ => true
  | _ => false

/-- The rest of a string in three quotation marks. While `skipping`, blanks and ends of lines are
left out, as they are after a backslash at the end of a line. -/
def multilineRest (seen : List Char) (skipping : Bool) : Reader String
  | '"' :: '"' :: '"' :: rest => some (closeMultiline '"' seen rest)
  | '\r' :: '\n' :: rest =>
    multilineRest (if skipping then seen else '\n' :: seen) skipping rest
  | '\n' :: rest => multilineRest (if skipping then seen else '\n' :: seen) skipping rest
  | '\\' :: 'u' :: a :: b :: c :: d :: rest =>
    match hexChar? [a, b, c, d] with
    | some char => multilineRest (char :: seen) false rest
    | none => none
  | '\\' :: 'U' :: a :: b :: c :: d :: e :: f :: g :: h :: rest =>
    match hexChar? [a, b, c, d, e, f, g, h] with
    | some char => multilineRest (char :: seen) false rest
    | none => none
  | '\\' :: c :: rest =>
    match letterEscape? c with
    | some char => multilineRest (char :: seen) false rest
    | none => if lineBreaks (c :: rest) then multilineRest seen true (c :: rest) else none
  | c :: rest =>
    if skipping && isBlank c then multilineRest seen true rest
    else if inBasic c || c = '"' then multilineRest (c :: seen) false rest
    else none
  | [] => none

/-- The rest of a string in three apostrophes. -/
def multilineLiteralRest (seen : List Char) : Reader String
  | '\'' :: '\'' :: '\'' :: rest => some (closeMultiline '\'' seen rest)
  | '\r' :: '\n' :: rest => multilineLiteralRest ('\n' :: seen) rest
  | '\n' :: rest => multilineLiteralRest ('\n' :: seen) rest
  | c :: rest => if inComment c then multilineLiteralRest (c :: seen) rest else none
  | [] => none

/-- Skips one end of a line, if it is next. -/
def dropLineEnd : List Char → List Char
  | '\n' :: rest => rest
  | '\r' :: '\n' :: rest => rest
  | cs => cs

/-- A string value. -/
def stringValue : Reader String
  | '"' :: '"' :: '"' :: rest => multilineRest [] false (dropLineEnd rest)
  | '"' :: rest => basicRest [] rest
  | '\'' :: '\'' :: '\'' :: rest => multilineLiteralRest [] (dropLineEnd rest)
  | '\'' :: rest => literalRest rest
  | _ => none

/-- A part of a key. -/
def simpleKey : Reader String
  | '"' :: rest => basicRest [] rest
  | '\'' :: rest => literalRest rest
  | cs =>
    let name := cs.takeWhile inBareKey
    if name = [] then none else some (String.ofList name, cs.dropWhile inBareKey)

/-- A run of digits in which single underscores may stand between digits: its digits. -/
def digitRun (isDigit : Char → Bool) : Reader (List Char)
  | [] => none
  | d :: rest => if isDigit d then more [d] rest else none
where
  /-- The rest of the run after a digit. -/
  more (seen : List Char) : Reader (List Char)
    | '_' :: d :: rest => if isDigit d then more (d :: seen) rest else none
    | '_' :: [] => none
    | d :: rest => if isDigit d then more (d :: seen) rest else some (seen.reverse, d :: rest)
    | [] => some (seen.reverse, [])

/-- An optional sign. -/
def sign : Reader (List Char)
  | '+' :: rest => some (['+'], rest)
  | '-' :: rest => some (['-'], rest)
  | cs => some ([], cs)

/-- A decimal whole number: a sign and digits without a leading zero. -/
def decimal : Reader (List Char × List Char) := fun cs => do
  let (sign, cs) ← sign cs
  match cs with
  | '0' :: rest => some ((sign, ['0']), rest)
  | cs =>
    let (digits, rest) ← digitRun Char.isDigit cs
    some ((sign, digits), rest)

/-- The number of digits in a base. -/
def baseValue (base : Nat) (digits : List Char) : Nat :=
  digits.foldl (fun n d => n * base + (hexValue? d).getD 0) 0

/-- Whether a whole number has 64 bits with its sign. -/
def inRange (n : Int) : Bool := -Int.pow 2 63 ≤ n && n < Int.pow 2 63

/-- A whole number that is not in base ten. -/
def based (base : Nat) (isDigit : Char → Bool) : Reader Int := fun cs => do
  let (digits, rest) ← digitRun isDigit cs
  let n : Int := baseValue base digits
  if inRange n then some (n, rest) else none

/-- A whole number. -/
def integer : Reader Int
  | '0' :: 'x' :: rest => based 16 (fun c => (hexValue? c).isSome) rest
  | '0' :: 'o' :: rest => based 8 (fun c => '0' ≤ c && c ≤ '7') rest
  | '0' :: 'b' :: rest => based 2 (fun c => c = '0' || c = '1') rest
  | cs => do
    let ((sign, digits), rest) ← decimal cs
    let n : Int := digitsValue digits
    let n := if sign = ['-'] then -n else n
    if inRange n then some (n, rest) else none

/-- Whether the decimal number `digits * 10 ^ exponent` is too large for binary64: it lies at least
half a unit above the largest finite number. -/
def overflows (digits : List Char) (exponent : Int) : Bool :=
  let digits := digits.dropWhile (· = '0')
  if digits = [] then false
  else
    let size := exponent + digits.length
    if size < 300 then false
    else if 320 < size then true
    else
      let limit := Nat.pow 2 1024 - Nat.pow 2 970
      decide (limit * Nat.pow 10 (-exponent).toNat ≤
        digitsValue digits * Nat.pow 10 exponent.toNat)

/-- The exponent of a number, if there is one. -/
def exponent : Reader (Option Int)
  | c :: rest =>
    if c = 'e' ∨ c = 'E' then do
      let (sign, rest) ← sign rest
      let (digits, rest) ← digitRun Char.isDigit rest
      let n : Int := digitsValue digits
      some (some (if sign = ['-'] then -n else n), rest)
    else some (none, c :: rest)
  | [] => some (none, [])

/-- The fraction of a number, if there is one: its digits. -/
def fraction : Reader (Option (List Char))
  | '.' :: rest => (digitRun Char.isDigit rest).map fun (digits, rest) => (some digits, rest)
  | cs => some (none, cs)

/-- Infinity or no number, perhaps with a sign. -/
def specialFloat : Reader Unit := fun cs => do
  let (_, cs) ← sign cs
  match cs with
  | 'i' :: 'n' :: 'f' :: rest => some ((), rest)
  | 'n' :: 'a' :: 'n' :: rest => some ((), rest)
  | _ => none

/-- A number with a fraction or an exponent. Positive numbers that are too large are refused. -/
def float : Reader Unit := fun cs =>
  match specialFloat cs with
  | some result => some result
  | none => do
    let ((sign, whole), cs) ← decimal cs
    let (fraction?, cs) ← fraction cs
    let (exponent?, cs) ← exponent cs
    if fraction?.isNone ∧ exponent?.isNone then none
    else
      let fraction := fraction?.getD []
      let tooLarge := overflows (whole ++ fraction) (exponent?.getD 0 - fraction.length)
      if sign ≠ ['-'] ∧ tooLarge then none else some ((), cs)

/-- Exactly `count` digits for a number in a range. -/
def fixedDigits (count low high : Nat) : Reader Nat := fun cs =>
  let digits := cs.take count
  if digits.length = count ∧ digits.all Char.isDigit then
    let n := digitsValue digits
    if low ≤ n ∧ n ≤ high then some (n, cs.drop count) else none
  else none

/-- A character that has to be next. -/
def char (expected : Char) : Reader Unit
  | c :: rest => if c = expected then some ((), rest) else none
  | [] => none

/-- The number of days of a month. -/
def daysIn (year month : Nat) : Nat :=
  if month = 2 then
    if year % 4 = 0 ∧ (year % 100 ≠ 0 ∨ year % 400 = 0) then 29 else 28
  else if month = 4 ∨ month = 6 ∨ month = 9 ∨ month = 11 then 30
  else 31

/-- A day of the calendar. -/
def day : Reader Unit := fun cs => do
  let (year, cs) ← fixedDigits 4 0 9999 cs
  let (_, cs) ← char '-' cs
  let (month, cs) ← fixedDigits 2 1 12 cs
  let (_, cs) ← char '-' cs
  let (_, cs) ← fixedDigits 2 1 (daysIn year month) cs
  some ((), cs)

/-- A time of day, perhaps with a fraction of a second. -/
def timeOfDay : Reader Unit := fun cs => do
  let (_, cs) ← fixedDigits 2 0 23 cs
  let (_, cs) ← char ':' cs
  let (_, cs) ← fixedDigits 2 0 59 cs
  let (_, cs) ← char ':' cs
  let (_, cs) ← fixedDigits 2 0 60 cs
  match cs with
  | '.' :: d :: rest =>
    if d.isDigit then some ((), rest.dropWhile Char.isDigit) else some ((), cs)
  | cs => some ((), cs)

/-- The distance of a time zone. -/
def zone : Reader Unit
  | c :: rest =>
    if c = 'Z' ∨ c = 'z' then some ((), rest)
    else if c = '+' ∨ c = '-' then do
      let (_, rest) ← fixedDigits 2 0 23 rest
      let (_, rest) ← char ':' rest
      let (_, rest) ← fixedDigits 2 0 59 rest
      some ((), rest)
    else none
  | [] => none

/-- A date, a time, or both with or without a time zone. -/
def date : Reader Unit := fun cs =>
  match day cs with
  | none => timeOfDay cs
  | some (_, rest) =>
    match rest with
    | c :: time =>
      if c = 'T' ∨ c = 't' ∨ c = ' ' then
        match timeOfDay time with
        | none => some ((), rest)
        | some (_, afterTime) => (zone afterTime).orElse fun _ => some ((), afterTime)
      else some ((), rest)
    | [] => some ((), rest)

end TypeRepair.Toml
