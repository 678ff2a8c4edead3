import TypeRepair.Json.Basic
import TypeRepair.Text.Utf8

/-!
# Reading JSON

A strict reader of one JSON text in bytes. It checks the grammar only: strings stay as the bytes
between their quotes, so that text which nobody uses need not be decodable, and numbers keep their
written form, so that they may have any size. `stringText?` decodes the bytes of a string.
-/

namespace TypeRepair.Json

/-- The bytes between the quotes of a string. -/
abbrev Raw := Bytes

/-- A reader of a part at the front of the bytes. -/
abbrev Reader (α : Type) := StateT Bytes Option α

namespace Reader

/-- The byte of an ASCII character. -/
def byte (c : Char) : UInt8 := UInt8.ofNat c.toNat

/-- JSON white space. -/
def isSpace (b : UInt8) : Bool :=
  b == 0x20 || b == 0x09 || b == 0x0A || b == 0x0D

/-- An ASCII digit. -/
def isDigit (b : UInt8) : Bool := 0x30 ≤ b && b ≤ 0x39

/-- The value of a hexadecimal digit. -/
def hexValue? (b : UInt8) : Option Nat :=
  if isDigit b then some (b.toNat - 0x30)
  else if 0x41 ≤ b && b ≤ 0x46 then some (b.toNat - 0x41 + 10)
  else if 0x61 ≤ b && b ≤ 0x66 then some (b.toNat - 0x61 + 10)
  else none

/-- Skips white space. -/
def spaces : Reader Unit := fun bytes => some ((), bytes.dropWhile isSpace)

/-- The byte at the front, which stays there. -/
def peek : Reader (Option UInt8) := fun bytes => some (bytes.head?, bytes)

/-- Takes the byte at the front. -/
def next : Reader UInt8
  | [] => none
  | b :: bytes => some (b, bytes)

/-- Takes a word that has to stand at the front. -/
def word (text : String) : Reader Unit := fun bytes =>
  ((Text.encode text).isPrefixOf? bytes).map fun rest => ((), rest)

/-- Takes the bytes at the front that have a property. -/
def takeWhile (p : UInt8 → Bool) : Reader Bytes := fun bytes =>
  some (bytes.takeWhile p, bytes.dropWhile p)

/-- The rest of a string up to its closing quote, put after `seen`, whose last byte comes first.
Control bytes are refused, and an escape has to be one of the eight letters or `u` with four
hexadecimal digits. -/
def stringRest (seen : Bytes) : Reader Raw
  | [] => none
  | b :: bytes =>
    if b = 0x22 then some (seen.reverse, bytes)
    else if b < 0x20 then none
    else if b = 0x5C then
      match bytes with
      | [] => none
      | e :: bytes =>
        if e = byte 'u' then
          match bytes with
          | h₁ :: h₂ :: h₃ :: h₄ :: bytes =>
            if [h₁, h₂, h₃, h₄].all fun h => (hexValue? h).isSome then
              stringRest (h₄ :: h₃ :: h₂ :: h₁ :: e :: b :: seen) bytes
            else none
          | _ => none
        else if ("\"\\/bfnrt".toList.map byte).contains e then
          stringRest (e :: b :: seen) bytes
        else none
    else stringRest (b :: seen) bytes

/-- One digit or more. -/
def digits : Reader Bytes := do
  let ds ← takeWhile isDigit
  if ds = [] then failure else pure ds

/-- An optional byte of a set. -/
def option (allowed : List Char) : Reader Bytes := do
  match ← peek with
  | some b => if (allowed.map byte).contains b then do let b ← next; pure [b] else pure []
  | none => pure []

/-- A number in its written form. -/
def number : Reader String := do
  let sign ← option ['-']
  let whole ← do
    let ds ← digits
    if ds.length > 1 ∧ ds.head? = some (byte '0') then failure else pure ds
  let point ← option ['.']
  let fraction ← if point = [] then pure [] else digits
  let mark ← option ['e', 'E']
  let power ← if mark = [] then pure [] else do
    let sign ← option ['+', '-']
    let ds ← digits
    pure (sign ++ ds)
  pure (Text.decodeLossy (sign ++ whole ++ point ++ fraction ++ mark ++ power))

mutual

/-- A value, where each nested part takes one unit of fuel. -/
def value : Nat → Reader (Json Raw)
  | 0 => failure
  | fuel + 1 => do
    spaces
    match ← peek with
    | none => failure
    | some b =>
      if b = byte 'n' then do word "null"; pure .null
      else if b = byte 't' then do word "true"; pure (.bool true)
      else if b = byte 'f' then do word "false"; pure (.bool false)
      else if b = byte '"' then do let _ ← next; return .string (← stringRest [])
      else if b = byte '[' then do
        let _ ← next
        spaces
        if (← peek) = some (byte ']') then do let _ ← next; pure (.array [])
        else return .array (← items fuel)
      else if b = 0x7B then do
        let _ ← next
        spaces
        if (← peek) = some 0x7D then do let _ ← next; pure (.object [])
        else return .object (← members fuel)
      else return .number (← number)

/-- The items of an array from one of them to the closing bracket. -/
def items : Nat → Reader (List (Json Raw))
  | 0 => failure
  | fuel + 1 => do
    let item ← value fuel
    spaces
    let b ← next
    if b = byte ',' then return item :: (← items fuel)
    else if b = byte ']' then pure [item]
    else failure

/-- The members of an object from one of them to the closing brace. -/
def members : Nat → Reader (List (Raw × Json Raw))
  | 0 => failure
  | fuel + 1 => do
    spaces
    word "\""
    let key ← stringRest []
    spaces
    word ":"
    let item ← value fuel
    spaces
    let b ← next
    if b = byte ',' then return (key, item) :: (← members fuel)
    else if b = 0x7D then pure [(key, item)]
    else failure

end

end Reader

/-- Reads bytes that hold one JSON value and white space around it. Every nested part takes a byte
at least, so the fuel suffices. -/
def read? (bytes : Bytes) : Option (Json Raw) := do
  let (value, rest) ← Reader.value (bytes.length + 1) bytes
  if rest.all Reader.isSpace then some value else none

/-- The 16-bit unit of four hexadecimal digits. -/
def hexUnit? (h₁ h₂ h₃ h₄ : UInt8) : Option Nat := do
  let a ← Reader.hexValue? h₁
  let b ← Reader.hexValue? h₂
  let c ← Reader.hexValue? h₃
  let d ← Reader.hexValue? h₄
  some (((a * 16 + b) * 16 + c) * 16 + d)

/-- The byte that an escape by a letter stands for. -/
def letterEscape? (e : UInt8) : Option UInt8 :=
  if e = Reader.byte 'b' then some 0x08
  else if e = Reader.byte 'f' then some 0x0C
  else if e = Reader.byte 'n' then some 0x0A
  else if e = Reader.byte 'r' then some 0x0D
  else if e = Reader.byte 't' then some 0x09
  else if e = 0x22 ∨ e = 0x5C ∨ e = 0x2F then some e
  else none

/-- The bytes that a string stands for, put after `done`, whose last byte comes first. An escaped
surrogate has to be half of a pair. -/
def unescape? (done : Bytes) : Raw → Option Bytes
  | [] => some done.reverse
  | 0x5C :: 0x75 :: h₁ :: h₂ :: h₃ :: h₄ :: rest =>
    match hexUnit? h₁ h₂ h₃ h₄ with
    | none => none
    | some high =>
      if 0xDC00 ≤ high ∧ high < 0xE000 then none
      else if 0xD800 ≤ high ∧ high < 0xDC00 then
        match rest with
        | 0x5C :: 0x75 :: l₁ :: l₂ :: l₃ :: l₄ :: rest =>
          match hexUnit? l₁ l₂ l₃ l₄ with
          | none => none
          | some low =>
            if 0xDC00 ≤ low ∧ low < 0xE000 then
              let code := 0x10000 + (high - 0xD800) * 0x400 + (low - 0xDC00)
              unescape? ((String.utf8EncodeChar (Char.ofNat code)).reverse ++ done) rest
            else none
        | _ => none
      else unescape? ((String.utf8EncodeChar (Char.ofNat high)).reverse ++ done) rest
  | 0x5C :: e :: rest =>
    match letterEscape? e with
    | none => none
    | some b => unescape? (b :: done) rest
  | b :: rest => unescape? (b :: done) rest

/-- The text of a string, if it is one: its escapes are resolved and its bytes are UTF-8. -/
def stringText? (raw : Raw) : Option String :=
  (unescape? [] raw).bind Text.decode?

end TypeRepair.Json
