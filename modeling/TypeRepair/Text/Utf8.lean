/-!
# UTF-8

Encoding, and a decoder that goes through the bytes once. Each ill-formed stretch counts as one
unit: the longest start of a well-formed sequence that is there, or a single byte.

* `decode?_eq_some_iff`: strict decoding succeeds when no unit is ill-formed.
-/

namespace TypeRepair

/-- Raw bytes, as files and network bodies hold them. -/
abbrev Bytes := List UInt8

end TypeRepair

namespace TypeRepair.Text

/-- The UTF-8 bytes of a text. -/
def encode (s : String) : Bytes :=
  s.toList.flatMap String.utf8EncodeChar

/-- A sequence that has begun: the value of the bytes read, how many bytes are due, and the range
in which the next one must lie. -/
structure Begun where
  value : Nat
  due : Nat
  low : UInt8
  high : UInt8

/-- What one byte does where no sequence is open. -/
inductive Start
  /-- It is a character of its own. -/
  | whole (c : Char)
  /-- It begins a longer sequence. -/
  | opens (sequence : Begun)
  /-- No sequence begins with it. -/
  | stray

/-- The lead bytes of well-formed sequences, and the bytes that may come second. -/
def start (b : UInt8) : Start :=
  if b < 0x80 then .whole (Char.ofNat b.toNat)
  else if b < 0xC2 then .stray
  else if b < 0xE0 then .opens ⟨b.toNat - 0xC0, 1, 0x80, 0xBF⟩
  else if b = 0xE0 then .opens ⟨0, 2, 0xA0, 0xBF⟩
  else if b = 0xED then .opens ⟨0xD, 2, 0x80, 0x9F⟩
  else if b < 0xF0 then .opens ⟨b.toNat - 0xE0, 2, 0x80, 0xBF⟩
  else if b = 0xF0 then .opens ⟨0, 3, 0x90, 0xBF⟩
  else if b < 0xF4 then .opens ⟨b.toNat - 0xF0, 3, 0x80, 0xBF⟩
  else if b = 0xF4 then .opens ⟨4, 3, 0x80, 0x8F⟩
  else .stray

/-- The units of `bytes` after `units` have been read, newest first, with a sequence perhaps open;
`none` is an ill-formed unit. -/
def unitsFrom (units : List (Option Char)) : Option Begun → Bytes → List (Option Char)
  | none, [] => units.reverse
  | some _, [] => (none :: units).reverse
  | open?, b :: bs =>
    match open? with
    | some s =>
      if s.low ≤ b ∧ b ≤ s.high then
        let value := s.value * 64 + (b.toNat - 0x80)
        if s.due = 1 then unitsFrom (some (Char.ofNat value) :: units) none bs
        else unitsFrom units (some ⟨value, s.due - 1, 0x80, 0xBF⟩) bs
      else
        match start b with
        | .whole c => unitsFrom (some c :: none :: units) none bs
        | .opens s => unitsFrom (none :: units) (some s) bs
        | .stray => unitsFrom (none :: none :: units) none bs
    | none =>
      match start b with
      | .whole c => unitsFrom (some c :: units) none bs
      | .opens s => unitsFrom units (some s) bs
      | .stray => unitsFrom (none :: units) none bs

/-- The characters and ill-formed units of the bytes, in order. -/
def units (bytes : Bytes) : List (Option Char) :=
  unitsFrom [] none bytes

/-- Strict decoding: every unit is a character. -/
def decode? (bytes : Bytes) : Option String :=
  if (units bytes).all Option.isSome then some (String.ofList ((units bytes).filterMap id))
  else none

/-- Lenient decoding: an ill-formed unit becomes U+FFFD. -/
def decodeLossy (bytes : Bytes) : String :=
  String.ofList ((units bytes).map (·.getD '\uFFFD'))

theorem decode?_eq_some_iff {bytes : Bytes} {s : String} :
    decode? bytes = some s ↔ units bytes = s.toList.map some := by
  have key : ∀ us : List (Option Char), us.all Option.isSome = true →
      us = (us.filterMap id).map some := by
    intro us
    induction us with
    | nil => simp
    | cons u us ih =>
      cases u with
      | none => simp
      | some c => intro h; simpa using ih (by simpa using h)
  constructor
  · intro h
    simp only [decode?] at h
    split at h
    · rename_i hAll
      obtain rfl := Option.some.inj h
      rw [String.toList_ofList]
      exact key _ hAll
    · simp at h
  · intro h
    simp [decode?, h, List.filterMap_map, String.ofList_toList]

end TypeRepair.Text
