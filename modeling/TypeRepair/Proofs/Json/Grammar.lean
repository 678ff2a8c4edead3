import Mathlib.Data.List.TakeWhile
import TypeRepair.Json.Reader

/-!
# The grammar of JSON

Which bytes spell a value, said without the reader: a value with white space around it, a string as
a sequence of plain bytes and escapes, a number as sign, whole part, fraction and power. An object
may repeat its keys, and the parts may nest to any depth.

* `Spelled`, `IsText`: what spells a value, and a whole text.
* `Spelled.value_head`: a value starts with a byte that is no white space.
-/

namespace TypeRepair.Json

open Reader

/-! ## Words of the grammar -/

/-- White space. -/
def IsBlank (bytes : Bytes) : Prop := ∀ b ∈ bytes, isSpace b = true

/-- One digit or more. -/
def IsDigits (bytes : Bytes) : Prop := bytes ≠ [] ∧ ∀ b ∈ bytes, isDigit b = true

/-- One of these characters or nothing. -/
def IsOptional (allowed : List Char) (bytes : Bytes) : Prop :=
  bytes = [] ∨ ∃ c ∈ allowed, bytes = [byte c]

/-- Digits that do not start with a needless zero. -/
def IsWhole (bytes : Bytes) : Prop :=
  IsDigits bytes ∧ (bytes.head? = some (byte '0') → bytes.length ≤ 1)

def IsFraction (bytes : Bytes) : Prop :=
  bytes = [] ∨ ∃ ds, IsDigits ds ∧ bytes = byte '.' :: ds

def IsPower (bytes : Bytes) : Prop :=
  bytes = [] ∨ ∃ mark ∈ ['e', 'E'], ∃ sign ds, IsOptional ['+', '-'] sign ∧ IsDigits ds ∧
    bytes = byte mark :: (sign ++ ds)

def IsNumber (bytes : Bytes) : Prop :=
  ∃ sign whole fraction power, IsOptional ['-'] sign ∧ IsWhole whole ∧ IsFraction fraction ∧
    IsPower power ∧ bytes = sign ++ (whole ++ (fraction ++ power))

/-- What may stand between the quotes of a string. -/
inductive StringBody : Raw → Prop
  | nil : StringBody []
  | plain {b : UInt8} {rest : Raw} (hQuote : b ≠ 0x22) (hControl : ¬b < 0x20)
    (hBackslash : b ≠ 0x5C) (hRest : StringBody rest) : StringBody (b :: rest)
  | letter {e : UInt8} {rest : Raw} (hLetter : e ∈ "\"\\/bfnrt".toList.map byte)
    (hRest : StringBody rest) : StringBody (0x5C :: e :: rest)
  | code {h₁ h₂ h₃ h₄ : UInt8} {rest : Raw}
    (hDigits : ∀ h ∈ [h₁, h₂, h₃, h₄], (hexValue? h).isSome = true)
    (hRest : StringBody rest) : StringBody (0x5C :: byte 'u' :: h₁ :: h₂ :: h₃ :: h₄ :: rest)

/-- A string with its quotes. -/
def quote (raw : Raw) : Bytes := 0x22 :: (raw ++ [0x22])

theorem quote_append (raw rest : Bytes) : quote raw ++ rest = 0x22 :: (raw ++ 0x22 :: rest) := by
  simp [quote]

/-- The front of a member of an object: its key and the colon. -/
def IsKey (key : Raw) (bytes : Bytes) : Prop :=
  ∃ before after, IsBlank before ∧ StringBody key ∧ IsBlank after ∧
    bytes = before ++ (quote key ++ (after ++ [byte ':']))

/-! ## Sentences of the grammar -/

/-- What a stretch of a text may be. -/
inductive Part
  | value (value : Json Raw)
  /-- A value with the white space around it. -/
  | item (value : Json Raw)
  /-- What stands between the brackets of an array that is not empty. -/
  | items (values : List (Json Raw))
  /-- What stands between the braces of an object that is not empty. -/
  | members (members : List (Raw × Json Raw))

/-- The bytes spell the part. -/
inductive Spelled : Part → Bytes → Prop
  | nullWord : Spelled (.value .null) (Text.encode "null")
  | trueWord : Spelled (.value (.bool true)) (Text.encode "true")
  | falseWord : Spelled (.value (.bool false)) (Text.encode "false")
  | number {bytes : Bytes} (h : IsNumber bytes) :
    Spelled (.value (.number (Text.decodeLossy bytes))) bytes
  | string {raw : Raw} (h : StringBody raw) : Spelled (.value (.string raw)) (quote raw)
  | emptyArray {blank : Bytes} (hBlank : IsBlank blank) :
    Spelled (.value (.array [])) (byte '[' :: (blank ++ [byte ']']))
  | array {values : List (Json Raw)} {bytes : Bytes} (h : Spelled (.items values) bytes) :
    Spelled (.value (.array values)) (byte '[' :: (bytes ++ [byte ']']))
  | emptyObject {blank : Bytes} (hBlank : IsBlank blank) :
    Spelled (.value (.object [])) (0x7B :: (blank ++ [0x7D]))
  | object {members : List (Raw × Json Raw)} {bytes : Bytes}
    (h : Spelled (.members members) bytes) :
    Spelled (.value (.object members)) (0x7B :: (bytes ++ [0x7D]))
  | item {value : Json Raw} {before bytes after : Bytes} (hBefore : IsBlank before)
    (hAfter : IsBlank after) (h : Spelled (.value value) bytes) :
    Spelled (.item value) (before ++ (bytes ++ after))
  | lastItem {value : Json Raw} {bytes : Bytes} (h : Spelled (.item value) bytes) :
    Spelled (.items [value]) bytes
  | moreItems {value : Json Raw} {values : List (Json Raw)} {bytes rest : Bytes}
    (h : Spelled (.item value) bytes) (hRest : Spelled (.items values) rest) :
    Spelled (.items (value :: values)) (bytes ++ byte ',' :: rest)
  | lastMember {key : Raw} {value : Json Raw} {front bytes : Bytes} (hKey : IsKey key front)
    (h : Spelled (.item value) bytes) : Spelled (.members [(key, value)]) (front ++ bytes)
  | moreMembers {key : Raw} {value : Json Raw} {members : List (Raw × Json Raw)}
    {front bytes rest : Bytes} (hKey : IsKey key front) (h : Spelled (.item value) bytes)
    (hRest : Spelled (.members members) rest) :
    Spelled (.members ((key, value) :: members)) (front ++ (bytes ++ byte ',' :: rest))

/-- One JSON text: a value and white space around it. -/
abbrev IsText (value : Json Raw) (bytes : Bytes) : Prop := Spelled (.item value) bytes

/-! ## White space -/

theorem isBlank_nil : IsBlank [] := by simp [IsBlank]

theorem IsBlank.append {first second : Bytes} (hFirst : IsBlank first) (hSecond : IsBlank second) :
    IsBlank (first ++ second) := by
  intro b hb
  rcases List.mem_append.mp hb with h | h
  · exact hFirst b h
  · exact hSecond b h

theorem isBlank_takeWhile (bytes : Bytes) : IsBlank (bytes.takeWhile isSpace) :=
  fun _ hb => List.mem_takeWhile_imp hb

/-- The byte at the front, if there is one, does not have the property. -/
def Avoids (p : UInt8 → Bool) (bytes : Bytes) : Prop := ∀ b ∈ bytes.head?, p b = false

theorem avoids_cons {p : UInt8 → Bool} {b : UInt8} (h : p b = false) (bytes : Bytes) :
    Avoids p (b :: bytes) := by
  intro c hc
  obtain rfl : b = c := by simpa using hc
  exact h

theorem Avoids.mono {p q : UInt8 → Bool} {bytes : Bytes} (h : Avoids p bytes)
    (hLess : ∀ b, q b = true → p b = true) : Avoids q bytes := by
  intro b hb
  have hAvoided := h b hb
  cases hq : q b with
  | false => rfl
  | true => exact absurd (hLess b hq) (by simp [hAvoided])

theorem takeWhile_eq {p : UInt8 → Bool} {front rest : Bytes} (hFront : ∀ b ∈ front, p b = true)
    (hRest : Avoids p rest) : (front ++ rest).takeWhile p = front := by
  rw [List.takeWhile_append_of_pos hFront]
  cases rest with
  | nil => simp
  | cons b rest => simp [hRest b rfl]

theorem dropWhile_eq {p : UInt8 → Bool} {front rest : Bytes} (hFront : ∀ b ∈ front, p b = true)
    (hRest : Avoids p rest) : (front ++ rest).dropWhile p = rest := by
  rw [List.dropWhile_append_of_pos hFront]
  cases rest with
  | nil => rfl
  | cons b rest => simp [hRest b rfl]

/-! ## The front of a value -/

/-- A byte that can be the first of a number. -/
def startsNumber (b : UInt8) : Bool := isDigit b || b == byte '-'

theorem IsNumber.head {bytes : Bytes} (h : IsNumber bytes) :
    ∃ b rest, bytes = b :: rest ∧ startsNumber b = true := by
  obtain ⟨sign, whole, fraction, power, hSign, ⟨⟨hWhole, hDigits⟩, -⟩, -, -, rfl⟩ := h
  rcases hSign with rfl | ⟨c, hc, rfl⟩
  · obtain ⟨d, ds, rfl⟩ := List.exists_cons_of_ne_nil hWhole
    exact ⟨d, _, rfl, by simp [startsNumber, hDigits d (by simp)]⟩
  · rw [List.mem_singleton.mp hc]
    exact ⟨byte '-', _, rfl, by decide⟩

theorem not_isSpace_of_startsNumber {b : UInt8} (h : startsNumber b = true) :
    isSpace b = false := by
  apply Bool.eq_false_iff.mpr
  intro hSpace
  simp only [isSpace, Bool.or_eq_true, beq_iff_eq] at hSpace
  rcases hSpace with ((rfl | rfl) | rfl) | rfl <;> exact absurd h (by decide)

theorem ne_of_startsNumber {b c : UInt8} (h : startsNumber b = true)
    (hOther : startsNumber c = false) : b ≠ c := by
  rintro rfl
  rw [h] at hOther
  cases hOther

theorem Spelled.value_head {value : Json Raw} {bytes : Bytes} (h : Spelled (.value value) bytes) :
    ∃ b rest, bytes = b :: rest ∧ isSpace b = false ∧ b ≠ byte ']' := by
  cases h with
  | nullWord => exact ⟨byte 'n', _, rfl, by decide, by decide⟩
  | trueWord => exact ⟨byte 't', _, rfl, by decide, by decide⟩
  | falseWord => exact ⟨byte 'f', _, rfl, by decide, by decide⟩
  | number h =>
    obtain ⟨b, rest, rfl, hStart⟩ := h.head
    exact ⟨b, rest, rfl, not_isSpace_of_startsNumber hStart,
      ne_of_startsNumber hStart (by decide)⟩
  | string h => exact ⟨0x22, _, rfl, by decide, by decide⟩
  | emptyArray hBlank => exact ⟨byte '[', _, rfl, by decide, by decide⟩
  | array h => exact ⟨byte '[', _, rfl, by decide, by decide⟩
  | emptyObject hBlank => exact ⟨0x7B, _, rfl, by decide, by decide⟩
  | object h => exact ⟨0x7B, _, rfl, by decide, by decide⟩

theorem Spelled.avoids_space {value : Json Raw} {bytes : Bytes}
    (h : Spelled (.value value) bytes) (rest : Bytes) : Avoids isSpace (bytes ++ rest) := by
  obtain ⟨b, tail, rfl, hSpace, -⟩ := h.value_head
  exact avoids_cons hSpace _

theorem Spelled.item_front {value : Json Raw} {bytes : Bytes} (h : Spelled (.item value) bytes)
    (rest : Bytes) : ((bytes ++ rest).dropWhile isSpace).head? ≠ some (byte ']') := by
  cases h with
  | @item _ before bytes after hBefore hAfter h =>
    rw [List.append_assoc, List.append_assoc, dropWhile_eq hBefore (h.avoids_space _)]
    obtain ⟨b, tail, rfl, -, hOther⟩ := h.value_head
    simpa using hOther

theorem Spelled.items_front {values : List (Json Raw)} {bytes : Bytes}
    (h : Spelled (.items values) bytes) (rest : Bytes) :
    ((bytes ++ rest).dropWhile isSpace).head? ≠ some (byte ']') := by
  cases h with
  | lastItem h => exact h.item_front rest
  | moreItems h hRest =>
    rw [List.append_assoc]
    exact h.item_front _

theorem IsKey.front {key : Raw} {bytes : Bytes} (h : IsKey key bytes) (rest : Bytes) :
    ((bytes ++ rest).dropWhile isSpace).head? ≠ some 0x7D := by
  obtain ⟨before, after, hBefore, -, -, rfl⟩ := h
  have hQuote : Avoids isSpace (quote key ++ (after ++ [byte ':']) ++ rest) :=
    avoids_cons (by decide) _
  rw [List.append_assoc, dropWhile_eq hBefore hQuote]
  simp [quote]

theorem Spelled.members_front {members : List (Raw × Json Raw)} {bytes : Bytes}
    (h : Spelled (.members members) bytes) (rest : Bytes) :
    ((bytes ++ rest).dropWhile isSpace).head? ≠ some 0x7D := by
  cases h with
  | lastMember hKey h =>
    rw [List.append_assoc]
    exact hKey.front _
  | moreMembers hKey h hRest =>
    rw [List.append_assoc]
    exact hKey.front _

/-! ## White space in front -/

theorem Spelled.blank_item {value : Json Raw} {blank bytes : Bytes} (hBlank : IsBlank blank)
    (h : Spelled (.item value) bytes) : Spelled (.item value) (blank ++ bytes) := by
  cases h with
  | item hBefore hAfter h =>
    rw [← List.append_assoc]
    exact .item (hBlank.append hBefore) hAfter h

theorem Spelled.blank_items {values : List (Json Raw)} {blank bytes : Bytes}
    (hBlank : IsBlank blank) (h : Spelled (.items values) bytes) :
    Spelled (.items values) (blank ++ bytes) := by
  cases h with
  | lastItem h => exact .lastItem (h.blank_item hBlank)
  | moreItems h hRest =>
    rw [← List.append_assoc]
    exact .moreItems (h.blank_item hBlank) hRest

theorem IsKey.blank {key : Raw} {blank bytes : Bytes} (hBlank : IsBlank blank)
    (h : IsKey key bytes) : IsKey key (blank ++ bytes) := by
  obtain ⟨before, after, hBefore, hKey, hAfter, rfl⟩ := h
  exact ⟨blank ++ before, after, hBlank.append hBefore, hKey, hAfter, (List.append_assoc ..).symm⟩

theorem Spelled.blank_members {members : List (Raw × Json Raw)} {blank bytes : Bytes}
    (hBlank : IsBlank blank) (h : Spelled (.members members) bytes) :
    Spelled (.members members) (blank ++ bytes) := by
  cases h with
  | lastMember hKey h =>
    rw [← List.append_assoc]
    exact .lastMember (hKey.blank hBlank) h
  | moreMembers hKey h hRest =>
    rw [← List.append_assoc]
    exact .moreMembers (hKey.blank hBlank) h hRest

end TypeRepair.Json
