import TypeRepair.Json.Basic

/-!
# Writing JSON

Values are laid out with one item or member on a line, two spaces deeper than the brackets around
them; empty brackets stay closed. In strings only quotation marks, backslashes and the control
characters below U+0020 are escaped.
-/

namespace TypeRepair.Json

/-- Two digits of lower case hexadecimal. -/
def hexByte (n : Nat) : List Char :=
  [Nat.digitChar (n / 16), Nat.digitChar (n % 16)]

/-- How a character is written in a string. -/
def escapeChar (c : Char) : List Char :=
  if c = '"' then ['\\', '"']
  else if c = '\\' then ['\\', '\\']
  else if c = '\x08' then ['\\', 'b']
  else if c = '\x0c' then ['\\', 'f']
  else if c = '\n' then ['\\', 'n']
  else if c = '\r' then ['\\', 'r']
  else if c = '\t' then ['\\', 't']
  else if c.toNat < 0x20 then ['\\', 'u', '0', '0'] ++ hexByte c.toNat
  else [c]

/-- A string between quotation marks. -/
def writeString (s : String) : List Char :=
  '"' :: s.toList.flatMap escapeChar ++ ['"']

/-- A new line at a depth. -/
def newLine (depth : Nat) : List Char :=
  '\n' :: List.replicate (2 * depth) ' '

/-- Entries between brackets, each on a line of its own. -/
def bracketed (left right : Char) (depth : Nat) (entries : List (List Char)) : List Char :=
  if entries.isEmpty then [left, right]
  else
    left :: (newLine (depth + 1) ++
      (',' :: newLine (depth + 1)).intercalate entries ++ newLine depth ++ [right])

mutual

/-- A value at a depth. -/
def write (depth : Nat) : Json String → List Char
  | null => "null".toList
  | bool true => "true".toList
  | bool false => "false".toList
  | number written => written.toList
  | string text => writeString text
  | array items => bracketed '[' ']' depth (writeItems (depth + 1) items)
  | object members => bracketed '\x7b' '\x7d' depth (writeMembers (depth + 1) members)

/-- The items of an array. -/
def writeItems (depth : Nat) : List (Json String) → List (List Char)
  | [] => []
  | item :: items => write depth item :: writeItems depth items

/-- The members of an object. -/
def writeMembers (depth : Nat) : List (String × Json String) → List (List Char)
  | [] => []
  | (key, value) :: members =>
    (writeString key ++ ':' :: ' ' :: write depth value) :: writeMembers depth members

end

/-- A value as a text. -/
def pretty (value : Json String) : String :=
  String.ofList (value.write 0)

end TypeRepair.Json
