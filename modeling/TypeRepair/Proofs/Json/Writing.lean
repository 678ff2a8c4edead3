import TypeRepair.Json.Printer
import TypeRepair.Proofs.Json.Reading
import TypeRepair.Proofs.Text.Number
import TypeRepair.Proofs.Text.Utf8

/-!
# Writing JSON and reading it back

A value that is written is spelled by what was written, and its strings are the texts that they
were: what is escaped is found again.

* `Escapes`, `stringText?_escaped`: how a character stands in a string, and what is made of it.
* `Writable.reads`: what is written spells the value, at any depth.
* `parse?_pretty`, `pretty_injective`: a written value is read back, so that a text has one value.
-/

namespace TypeRepair.Json

open Reader Text
open String (utf8EncodeChar)

/-! ## Values with texts -/

mutual

/-- The value with the texts of its strings, keys included, if all of them are texts. -/
def texts? : Json Raw → Option (Json String)
  | null => some null
  | bool value => some (bool value)
  | number written => some (number written)
  | string raw => (stringText? raw).map string
  | array items => (itemTexts? items).map array
  | object members => (memberTexts? members).map object

def itemTexts? : List (Json Raw) → Option (List (Json String))
  | [] => some []
  | item :: items => do
    let item ← texts? item
    let items ← itemTexts? items
    some (item :: items)

def memberTexts? : List (Raw × Json Raw) → Option (List (String × Json String))
  | [] => some []
  | (key, value) :: members => do
    let key ← stringText? key
    let value ← texts? value
    let members ← memberTexts? members
    some ((key, value) :: members)

end

/-- Reads bytes that hold one JSON value whose strings are all texts. -/
def parse? (bytes : Bytes) : Option (Json String) :=
  (read? bytes).bind texts?

/-- The numbers in the value are written as numbers. -/
inductive Writable : Json String → Prop
  | null : Writable null
  | bool (value : Bool) : Writable (bool value)
  | number {written : String} (h : IsNumber (encode written)) : Writable (number written)
  | string (text : String) : Writable (string text)
  | array {items : List (Json String)} (h : ∀ item ∈ items, Writable item) :
    Writable (array items)
  | object {members : List (String × Json String)} (h : ∀ member ∈ members, Writable member.2) :
    Writable (object members)

/-! ## Strings -/

/-- How a character may stand in a string. -/
inductive Escapes (c : Char) : Bytes → Prop
  | letter {e b : UInt8} (hLetter : e ∈ "\"\\/bfnrt".toList.map byte)
    (hByte : letterEscape? e = some b) (hChar : utf8EncodeChar c = [b]) : Escapes c [0x5C, e]
  | code {h₁ h₂ h₃ h₄ : UInt8} (hUnit : hexUnit? h₁ h₂ h₃ h₄ = some c.toNat)
    (hSmall : c.toNat < 0xD800) : Escapes c [0x5C, byte 'u', h₁, h₂, h₃, h₄]
  | plain (h : ∀ b ∈ utf8EncodeChar c, b ≠ 0x22 ∧ ¬b < 0x20 ∧ b ≠ 0x5C) :
    Escapes c (utf8EncodeChar c)

theorem hexUnit?_hexByte : ∀ n < 0x20, ∃ h₃ h₄, bytesOf (hexByte n) = [h₃, h₄] ∧
    hexUnit? (byte '0') (byte '0') h₃ h₄ = some n := by
  intro n h
  interval_cases n <;> exact ⟨_, _, rfl, rfl⟩

theorem plain_byte {b : UInt8} (hQuote : b.toNat ≠ 0x22) (hControl : ¬b.toNat < 0x20)
    (hBackslash : b.toNat ≠ 0x5C) : b ≠ 0x22 ∧ ¬b < 0x20 ∧ b ≠ 0x5C := by
  refine ⟨?_, hControl, ?_⟩
  · rintro rfl
    exact hQuote rfl
  · rintro rfl
    exact hBackslash rfl

theorem escapes_plain {c : Char} (hQuote : c ≠ '"') (hBackslash : c ≠ '\\')
    (hControl : ¬c.toNat < 0x20) : Escapes c (utf8EncodeChar c) := by
  refine .plain fun b hb => ?_
  by_cases hAscii : c.toNat < 0x80
  · have hByte : b.toNat = c.toNat := by
      rw [utf8EncodeChar_ascii hAscii, List.mem_singleton] at hb
      rw [hb, toNat_byte (by omega)]
    rw [← hByte] at hControl
    refine plain_byte ?_ hControl ?_
    · rw [hByte]
      exact fun hEq => hQuote (Char.toNat_inj.mp hEq)
    · rw [hByte]
      exact fun hEq => hBackslash (Char.toNat_inj.mp hEq)
  · have hLarge := le_of_mem_utf8EncodeChar hAscii hb
    exact plain_byte (by omega) (by omega) (by omega)

theorem escapes_escapeChar (c : Char) : Escapes c (bytesOf (escapeChar c)) := by
  unfold escapeChar
  split_ifs with hQuote hBackslash hBackspace hFeed hNewline hReturn hTab hControl
  · subst hQuote
    exact .letter (b := 0x22) (by decide) (by decide) (by decide)
  · subst hBackslash
    exact .letter (b := 0x5C) (by decide) (by decide) (by decide)
  · subst hBackspace
    exact .letter (b := 0x08) (by decide) (by decide) (by decide)
  · subst hFeed
    exact .letter (b := 0x0C) (by decide) (by decide) (by decide)
  · subst hNewline
    exact .letter (b := 0x0A) (by decide) (by decide) (by decide)
  · subst hReturn
    exact .letter (b := 0x0D) (by decide) (by decide) (by decide)
  · subst hTab
    exact .letter (b := 0x09) (by decide) (by decide) (by decide)
  · obtain ⟨h₃, h₄, hBytes, hUnit⟩ := hexUnit?_hexByte c.toNat hControl
    rw [bytesOf_append, hBytes]
    exact .code hUnit (by omega)
  · rw [bytesOf_cons, bytesOf_nil, List.append_nil]
    exact escapes_plain hQuote hBackslash hControl

theorem StringBody.plain_append {front rest : Raw}
    (hFront : ∀ b ∈ front, b ≠ 0x22 ∧ ¬b < 0x20 ∧ b ≠ 0x5C) (hRest : StringBody rest) :
    StringBody (front ++ rest) := by
  induction front with
  | nil => exact hRest
  | cons b front ih =>
    obtain ⟨⟨hQuote, hControl, hBackslash⟩, hFront⟩ := List.forall_mem_cons.mp hFront
    exact .plain hQuote hControl hBackslash (ih hFront)

theorem isSome_of_hexUnit? {h₁ h₂ h₃ h₄ : UInt8} {n : Nat} (h : hexUnit? h₁ h₂ h₃ h₄ = some n) :
    ∀ digit ∈ [h₁, h₂, h₃, h₄], (hexValue? digit).isSome = true := by
  obtain ⟨_, hFirst, h⟩ := Option.bind_eq_some_iff.mp h
  obtain ⟨_, hSecond, h⟩ := Option.bind_eq_some_iff.mp h
  obtain ⟨_, hThird, h⟩ := Option.bind_eq_some_iff.mp h
  obtain ⟨_, hFourth, -⟩ := Option.bind_eq_some_iff.mp h
  simp [hFirst, hSecond, hThird, hFourth]

theorem Escapes.stringBody {c : Char} {bytes rest : Raw} (h : Escapes c bytes)
    (hRest : StringBody rest) : StringBody (bytes ++ rest) := by
  cases h with
  | letter hLetter hByte hChar => exact .letter hLetter hRest
  | code hUnit hSmall => exact .code (isSome_of_hexUnit? hUnit) hRest
  | plain h => exact hRest.plain_append h

theorem unescape?_plain (done : Bytes) {b : UInt8} (h : b ≠ 0x5C) (rest : Raw) :
    unescape? done (b :: rest) = unescape? (b :: done) rest := by
  rw [unescape?]
  · exact fun _ _ _ _ _ hEq _ => h hEq
  · exact fun _ _ hEq _ => h hEq

theorem unescape?_letter (done : Bytes) {e b : UInt8} (hCode : e ≠ byte 'u')
    (hByte : letterEscape? e = some b) (rest : Raw) :
    unescape? done (0x5C :: e :: rest) = unescape? (b :: done) rest := by
  have hOther : e ≠ 0x75 := hCode
  rw [unescape?, hByte]
  exact fun _ _ _ _ _ hEq _ => hOther hEq

theorem unescape?_code (done : Bytes) {h₁ h₂ h₃ h₄ : UInt8} {n : Nat}
    (hUnit : hexUnit? h₁ h₂ h₃ h₄ = some n) (hSmall : n < 0xD800) (rest : Raw) :
    unescape? done (0x5C :: byte 'u' :: h₁ :: h₂ :: h₃ :: h₄ :: rest) =
      unescape? ((utf8EncodeChar (Char.ofNat n)).reverse ++ done) rest := by
  show unescape? done (0x5C :: 0x75 :: h₁ :: h₂ :: h₃ :: h₄ :: rest) = _
  rw [unescape?, hUnit]
  dsimp only
  rw [if_neg (by omega), if_neg (by omega)]

theorem Escapes.unescape?_append {c : Char} {bytes : Raw} (h : Escapes c bytes) (done : Bytes)
    (rest : Raw) :
    unescape? done (bytes ++ rest) = unescape? ((utf8EncodeChar c).reverse ++ done) rest := by
  cases h with
  | letter hLetter hByte hChar =>
    rw [hChar]
    exact unescape?_letter done (letter_ne_code hLetter) hByte rest
  | code hUnit hSmall =>
    have hChar := unescape?_code done hUnit hSmall rest
    rwa [Char.ofNat_toNat] at hChar
  | plain h =>
    generalize utf8EncodeChar c = bytes at h
    induction bytes generalizing done with
    | nil => rfl
    | cons b bytes ih =>
      obtain ⟨⟨-, -, hBackslash⟩, hRest⟩ := List.forall_mem_cons.mp h
      rw [List.cons_append, unescape?_plain done hBackslash, ih _ hRest]
      simp

/-- The bytes between the quotes of a string. -/
def escaped (cs : List Char) : Raw := bytesOf (cs.flatMap escapeChar)

theorem stringBody_escaped (cs : List Char) : StringBody (escaped cs) := by
  induction cs with
  | nil => exact .nil
  | cons c cs ih =>
    rw [escaped, List.flatMap_cons, bytesOf_append]
    exact (escapes_escapeChar c).stringBody ih

theorem unescape?_escaped (done : Bytes) (cs : List Char) :
    unescape? done (escaped cs) = some (done.reverse ++ bytesOf cs) := by
  induction cs generalizing done with
  | nil => simp [escaped, unescape?]
  | cons c cs ih =>
    have hRest := ih ((utf8EncodeChar c).reverse ++ done)
    rw [escaped] at hRest
    rw [escaped, List.flatMap_cons, bytesOf_append, (escapes_escapeChar c).unescape?_append, hRest]
    simp

theorem stringText?_escaped (s : String) : stringText? (escaped s.toList) = some s := by
  rw [stringText?, unescape?_escaped]
  exact decode?_encode s

theorem bytesOf_writeString (s : String) : bytesOf (writeString s) = quote (escaped s.toList) := by
  have hQuote : utf8EncodeChar '"' = [0x22] := by decide
  simp [writeString, escaped, quote, hQuote]

/-! ## Lists -/

theorem isBlank_newLine (depth : Nat) : IsBlank (bytesOf (newLine depth)) := by
  intro b hb
  obtain ⟨c, hc, hb⟩ := List.mem_flatMap.mp hb
  have hChar : c = '\n' ∨ c = ' ' := by
    rcases List.mem_cons.mp hc with hc | hc
    · exact .inl hc
    · exact .inr (List.eq_of_mem_replicate hc)
  rcases hChar with rfl | rfl
  · rw [List.mem_singleton.mp hb]
    rfl
  · rw [List.mem_singleton.mp hb]
    rfl

/-- What was written at a depth spells a value whose texts are those of the value that was
written. -/
def Reads (depth : Nat) (value : Json String) : Prop :=
  ∃ raw, Spelled (.value raw) (bytesOf (value.write depth)) ∧ texts? raw = some value

/-- Entries with a comma and a new line between them. -/
def separated (depth : Nat) (entries : List (List Char)) : List Char :=
  newLine depth ++ (',' :: newLine depth).intercalate entries

theorem separated_singleton (depth : Nat) (entry : List Char) :
    separated depth [entry] = newLine depth ++ entry := by
  simp [separated]

theorem separated_cons (depth : Nat) (entry : List Char) {entries : List (List Char)}
    (hNe : entries ≠ []) :
    separated depth (entry :: entries) =
      newLine depth ++ (entry ++ ',' :: separated depth entries) := by
  obtain ⟨next, entries, rfl⟩ := List.exists_cons_of_ne_nil hNe
  simp [separated, List.intercalate_cons_cons]

theorem encode_brackets : utf8EncodeChar '[' = [byte '['] ∧ utf8EncodeChar ']' = [byte ']'] ∧
    utf8EncodeChar '\x7b' = [0x7B] ∧ utf8EncodeChar '\x7d' = [0x7D] :=
  ⟨rfl, rfl, rfl, rfl⟩

theorem bracketed_of_ne (left right : Char) (depth : Nat) {entries : List (List Char)}
    (hNe : entries ≠ []) :
    bracketed left right depth entries =
      left :: (separated (depth + 1) entries ++ newLine depth ++ [right]) := by
  obtain ⟨entry, entries, rfl⟩ := List.exists_cons_of_ne_nil hNe
  simp [bracketed, separated]

theorem writeItems_ne {depth : Nat} {items : List (Json String)} (hNe : items ≠ []) :
    writeItems depth items ≠ [] := by
  obtain ⟨item, items, rfl⟩ := List.exists_cons_of_ne_nil hNe
  simp [writeItems]

theorem writeMembers_ne {depth : Nat} {members : List (String × Json String)}
    (hNe : members ≠ []) : writeMembers depth members ≠ [] := by
  obtain ⟨member, members, rfl⟩ := List.exists_cons_of_ne_nil hNe
  simp [writeMembers]

/-- The characters between the entries and in front of a value. -/
theorem encode_marks : utf8EncodeChar ',' = [byte ','] ∧ utf8EncodeChar ':' = [byte ':'] ∧
    utf8EncodeChar ' ' = [byte ' '] :=
  ⟨rfl, rfl, rfl⟩

theorem exists_spelled_items {depth : Nat} {items : List (Json String)}
    (h : ∀ item ∈ items, Reads depth item) (hNe : items ≠ []) {after : Bytes}
    (hAfter : IsBlank after) :
    ∃ raws, Spelled (.items raws) (bytesOf (separated depth (writeItems depth items)) ++ after) ∧
      itemTexts? raws = some items := by
  induction items with
  | nil => exact absurd rfl hNe
  | cons item items ih =>
    obtain ⟨⟨raw, hSpelled, hTexts⟩, hItems⟩ := List.forall_mem_cons.mp h
    rw [writeItems]
    by_cases hLast : items = []
    · subst hLast
      refine ⟨[raw], ?_, by simp [itemTexts?, hTexts]⟩
      rw [writeItems, separated_singleton, bytesOf_append, List.append_assoc]
      exact .lastItem (.item (isBlank_newLine depth) hAfter hSpelled)
    · obtain ⟨raws, hRest, hTextsRest⟩ := ih hItems hLast
      refine ⟨raw :: raws, ?_, by simp [itemTexts?, hTexts, hTextsRest]⟩
      have hMore := (Spelled.item (isBlank_newLine depth) isBlank_nil hSpelled).moreItems hRest
      rw [separated_cons depth _ (writeItems_ne hLast)]
      simpa [encode_marks] using hMore

/-- The key of a member with the new line before it. -/
theorem isKey_written (depth : Nat) (key : String) :
    IsKey (escaped key.toList)
      (bytesOf (newLine depth) ++ (bytesOf (writeString key) ++ [byte ':'])) :=
  ⟨bytesOf (newLine depth), [], isBlank_newLine depth, stringBody_escaped _, isBlank_nil, by
    rw [bytesOf_writeString, List.nil_append]⟩

theorem exists_spelled_members {depth : Nat} {members : List (String × Json String)}
    (h : ∀ member ∈ members, Reads depth member.2) (hNe : members ≠ []) {after : Bytes}
    (hAfter : IsBlank after) :
    ∃ raws, Spelled (.members raws)
        (bytesOf (separated depth (writeMembers depth members)) ++ after) ∧
      memberTexts? raws = some members := by
  have hSpace : IsBlank [byte ' '] := List.forall_mem_singleton.mpr rfl
  induction members with
  | nil => exact absurd rfl hNe
  | cons member members ih =>
    obtain ⟨key, value⟩ := member
    obtain ⟨⟨raw, hSpelled, hTexts⟩, hMembers⟩ := List.forall_mem_cons.mp h
    have hKey := isKey_written depth key
    rw [writeMembers]
    by_cases hLast : members = []
    · subst hLast
      refine ⟨[(escaped key.toList, raw)], ?_, by simp [memberTexts?, stringText?_escaped, hTexts]⟩
      have hMember := Spelled.lastMember hKey (.item hSpace hAfter hSpelled)
      rw [writeMembers, separated_singleton]
      simpa [encode_marks] using hMember
    · obtain ⟨raws, hRest, hTextsRest⟩ := ih hMembers hLast
      refine ⟨(escaped key.toList, raw) :: raws, ?_, by
        simp [memberTexts?, stringText?_escaped, hTexts, hTextsRest]⟩
      have hMore := Spelled.moreMembers hKey (.item hSpace isBlank_nil hSpelled) hRest
      rw [separated_cons depth _ (writeMembers_ne hLast)]
      simpa [encode_marks] using hMore

/-! ## Numbers -/

theorem toNat_lt_of_isDigit {c : Char} (h : c.isDigit = true) : 48 ≤ c.toNat ∧ c.toNat ≤ 57 := by
  simpa [Char.isDigit, UInt32.le_iff_toNat_le] using h

theorem toNat_byte_of_isDigit {c : Char} (h : c.isDigit = true) : (byte c).toNat = c.toNat := by
  have hRange := toNat_lt_of_isDigit h
  exact toNat_byte (by omega)

theorem isDigit_byte {c : Char} (h : c.isDigit = true) : isDigit (byte c) = true := by
  have hRange := toNat_lt_of_isDigit h
  simp only [isDigit, Bool.and_eq_true, decide_eq_true_eq, UInt8.le_iff_toNat_le,
    toNat_byte_of_isDigit h]
  exact hRange

theorem encode_toString (n : Nat) : encode (toString n) = (Nat.toDigits 10 n).map byte := by
  have hAscii : ∀ c ∈ Nat.toDigits 10 n, utf8EncodeChar c = [byte c] := fun c hc => by
    have hRange := toNat_lt_of_isDigit (isDigit_of_mem_toDigits hc)
    exact utf8EncodeChar_ascii (by omega)
  rw [Nat.toString_eq_ofList_toDigits, encode_ofList, bytesOf, List.flatMap_congr hAscii,
    List.map_eq_flatMap]

/-- The digits of a number start with a zero only if they are those of zero. -/
theorem isWhole_digits (n : Nat) : IsWhole ((Nat.toDigits 10 n).map byte) := by
  have hDigit : ∀ c ∈ Nat.toDigits 10 n, c.isDigit = true := fun c hc => isDigit_of_mem_toDigits hc
  refine ⟨⟨by simp [Nat.toDigits_ne_nil], List.forall_mem_map.mpr fun c hc => ?_⟩, fun hHead => ?_⟩
  · exact isDigit_byte (hDigit c hc)
  · by_cases hZero : n = 0
    · rw [hZero]
      decide
    · rw [List.head?_map, Option.map_eq_some_iff] at hHead
      obtain ⟨c, hc, hByte⟩ := hHead
      have hNat := congrArg UInt8.toNat hByte
      rw [toNat_byte_of_isDigit (hDigit c (List.mem_of_mem_head? hc))] at hNat
      have hChar : c = '0' := Char.toNat_inj.mp hNat
      rw [hChar] at hc
      exact absurd hc (head?_toDigits_ne (Nat.pos_of_ne_zero hZero))

theorem isNumber_toString (n : Nat) : IsNumber (encode (toString n)) :=
  ⟨[], _, [], [], .inl rfl, isWhole_digits n, .inl rfl, .inl rfl, by
    rw [encode_toString]
    simp⟩

theorem writable_ofNat (n : Nat) : Writable (.ofNat n) :=
  .number (isNumber_toString n)

/-! ## Values -/

theorem Writable.reads {value : Json String} (h : Writable value) (depth : Nat) :
    Reads depth value := by
  induction h generalizing depth with
  | null => exact ⟨_, .nullWord, rfl⟩
  | bool value =>
    cases value with
    | true => exact ⟨_, .trueWord, rfl⟩
    | false => exact ⟨_, .falseWord, rfl⟩
  | @number written h =>
    refine ⟨.number (decodeLossy (encode written)), .number h, ?_⟩
    rw [texts?, decodeLossy_encode]
  | string text =>
    refine ⟨.string (escaped text.toList), ?_, ?_⟩
    · rw [write, bytesOf_writeString]
      exact .string (stringBody_escaped _)
    · rw [texts?, stringText?_escaped]
      rfl
  | @array items h ih =>
    rw [Reads, write]
    by_cases hNe : items = []
    · subst hNe
      exact ⟨.array [], .emptyArray isBlank_nil, rfl⟩
    · obtain ⟨raws, hSpelled, hTexts⟩ := exists_spelled_items
        (fun item hItem => ih item hItem (depth + 1)) hNe (isBlank_newLine depth)
      refine ⟨.array raws, ?_, by simp [texts?, hTexts]⟩
      rw [bracketed_of_ne _ _ _ (writeItems_ne hNe)]
      simpa [encode_brackets] using Spelled.array hSpelled
  | @object members h ih =>
    rw [Reads, write]
    by_cases hNe : members = []
    · subst hNe
      exact ⟨.object [], .emptyObject isBlank_nil, rfl⟩
    · obtain ⟨raws, hSpelled, hTexts⟩ := exists_spelled_members
        (fun member hMember => ih member hMember (depth + 1)) hNe (isBlank_newLine depth)
      refine ⟨.object raws, ?_, by simp [texts?, hTexts]⟩
      rw [bracketed_of_ne _ _ _ (writeMembers_ne hNe)]
      simpa [encode_brackets] using Spelled.object hSpelled

/-- A value that was written is read back. -/
theorem parse?_pretty {value : Json String} (h : Writable value) :
    parse? (encode value.pretty) = some value := by
  obtain ⟨raw, hSpelled, hTexts⟩ := h.reads 0
  have hText : IsText raw (encode value.pretty) := by
    rw [pretty, encode_ofList]
    simpa using Spelled.item isBlank_nil isBlank_nil hSpelled
  rw [parse?, read?_eq_some_iff.mpr hText]
  exact hTexts

theorem pretty_injective {value other : Json String} (hValue : Writable value)
    (hOther : Writable other) (h : encode value.pretty = encode other.pretty) : value = other := by
  apply Option.some.inj
  rw [← parse?_pretty hValue, h, parse?_pretty hOther]

end TypeRepair.Json
