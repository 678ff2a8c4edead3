import Mathlib.Tactic.IntervalCases
import TypeRepair.Text.Utf8

/-!
# Encoded texts

The bytes of a text are decoded to the text. A character takes one byte to four: the first of them
opens a sequence that the others continue.

* `unitsFrom_utf8EncodeChar`: a character is decoded wherever no sequence is open.
* `decode?_encode`, `decodeLossy_encode`: so is a text, strictly and leniently.
* `le_of_mem_utf8EncodeChar`: a character beyond ASCII has no byte of an ASCII character.
-/

namespace TypeRepair.Text

open String (utf8EncodeChar)

theorem toNat_byte {n : Nat} (h : n < 256) : (UInt8.ofNat n).toNat = n := by
  rw [UInt8.toNat_ofNat', Nat.mod_eq_of_lt h]

/-! ## Single bytes -/

theorem start_one {n : Nat} (h : n < 0x80) : start (UInt8.ofNat n) = .whole (Char.ofNat n) := by
  have hByte : (UInt8.ofNat n).toNat = n := toNat_byte (by omega)
  rw [start, if_pos (by simpa [UInt8.lt_iff_toNat_lt, hByte] using h), hByte]

theorem start_two {n : Nat} (hLow : 2 ≤ n) (hHigh : n < 32) :
    start (UInt8.ofNat (n + 192)) = .opens ⟨n, 1, 0x80, 0xBF⟩ := by
  interval_cases n <;> rfl

theorem start_three {n : Nat} (h : n < 16) :
    start (UInt8.ofNat (n + 224)) =
      .opens ⟨n, 2, if n = 0 then 0xA0 else 0x80, if n = 13 then 0x9F else 0xBF⟩ := by
  interval_cases n <;> rfl

theorem start_four {n : Nat} (h : n < 5) :
    start (UInt8.ofNat (n + 240)) =
      .opens ⟨n, 3, if n = 0 then 0x90 else 0x80, if n = 4 then 0x8F else 0xBF⟩ := by
  interval_cases n <;> rfl

section

variable (done : List (Option Char)) (rest : Bytes)

theorem unitsFrom_whole {b : UInt8} {c : Char} (h : start b = .whole c) :
    unitsFrom done none (b :: rest) = unitsFrom (some c :: done) none rest := by
  rw [unitsFrom, h]

theorem unitsFrom_opens {b : UInt8} {s : Begun} (h : start b = .opens s) :
    unitsFrom done none (b :: rest) = unitsFrom done (some s) rest := by
  rw [unitsFrom, h]

/-- A byte in the range of an open sequence continues it. -/
theorem unitsFrom_continues {value due n : Nat} {low high : UInt8} (h : n < 64)
    (hLow : low.toNat ≤ n + 128) (hHigh : n + 128 ≤ high.toNat) :
    unitsFrom done (some ⟨value, due + 2, low, high⟩) (UInt8.ofNat (n + 128) :: rest) =
      unitsFrom done (some ⟨value * 64 + n, due + 1, 0x80, 0xBF⟩) rest := by
  have hByte : (UInt8.ofNat (n + 128)).toNat = n + 128 := toNat_byte (by omega)
  have hRange : low ≤ UInt8.ofNat (n + 128) ∧ UInt8.ofNat (n + 128) ≤ high := by
    rw [UInt8.le_iff_toNat_le, UInt8.le_iff_toNat_le, hByte]
    exact ⟨hLow, hHigh⟩
  rw [unitsFrom, if_pos hRange, hByte, Nat.add_sub_cancel]
  rfl

/-- The last byte that is due ends a sequence. -/
theorem unitsFrom_ends {value n : Nat} (h : n < 64) :
    unitsFrom done (some ⟨value, 1, 0x80, 0xBF⟩) (UInt8.ofNat (n + 128) :: rest) =
      unitsFrom (some (Char.ofNat (value * 64 + n)) :: done) none rest := by
  have hByte : (UInt8.ofNat (n + 128)).toNat = n + 128 := toNat_byte (by omega)
  have hRange : 0x80 ≤ UInt8.ofNat (n + 128) ∧ UInt8.ofNat (n + 128) ≤ 0xBF := by
    rw [UInt8.le_iff_toNat_le, UInt8.le_iff_toNat_le, hByte]
    exact ⟨Nat.le_add_left 128 n, by change n + 128 ≤ 191; omega⟩
  rw [unitsFrom, if_pos hRange, hByte, Nat.add_sub_cancel]
  rfl

/-! ## Characters -/

/-- By the number of bytes of the character. Behind some first bytes the second one has a narrower
range: there the character is large enough for so many bytes, no surrogate and not too large. -/
theorem unitsFrom_utf8EncodeChar (c : Char) :
    unitsFrom done none (utf8EncodeChar c ++ rest) = unitsFrom (some c :: done) none rest := by
  have hValid : c.val.toNat < 0xD800 ∨ 0xDFFF < c.val.toNat ∧ c.val.toNat < 0x110000 := c.valid
  have hChar : ∀ n, n = c.val.toNat → Char.ofNat n = c := by
    rintro _ rfl
    exact Char.ofNat_toNat c
  unfold utf8EncodeChar
  dsimp only
  generalize c.val.toNat = v at hValid hChar
  split
  · rw [List.singleton_append, unitsFrom_whole done rest (start_one (by omega)), hChar v rfl]
  split
  · have hFirst : v / 64 % 32 = v / 64 := by omega
    have hStart := start_two (n := v / 64) (by omega) (by omega)
    simp only [List.cons_append, List.nil_append]
    rw [hFirst, unitsFrom_opens _ _ hStart, unitsFrom_ends _ _ (by omega), hChar _ (by omega)]
  split
  · have hFirst : v / 4096 % 16 = v / 4096 := by omega
    have hStart := start_three (n := v / 4096) (by omega)
    have hLow : (if v / 4096 = 0 then 0xA0 else 0x80 : UInt8).toNat ≤ v / 64 % 64 + 128 := by
      split
      · change 160 ≤ _; omega
      · change 128 ≤ _; omega
    have hHigh : v / 64 % 64 + 128 ≤ (if v / 4096 = 13 then 0x9F else 0xBF : UInt8).toNat := by
      split
      · change _ ≤ 159; omega
      · change _ ≤ 191; omega
    simp only [List.cons_append, List.nil_append]
    rw [hFirst, unitsFrom_opens _ _ hStart, unitsFrom_continues _ _ (by omega) hLow hHigh,
      unitsFrom_ends _ _ (by omega), hChar _ (by omega)]
  · have hFirst : v / 262144 % 8 = v / 262144 := by omega
    have hStart := start_four (n := v / 262144) (by omega)
    have hLow : (if v / 262144 = 0 then 0x90 else 0x80 : UInt8).toNat ≤ v / 4096 % 64 + 128 := by
      split
      · change 144 ≤ _; omega
      · change 128 ≤ _; omega
    have hHigh : v / 4096 % 64 + 128 ≤ (if v / 262144 = 4 then 0x8F else 0xBF : UInt8).toNat := by
      split
      · change _ ≤ 143; omega
      · change _ ≤ 191; omega
    have hThird : (0x80 : UInt8).toNat ≤ v / 64 % 64 + 128 := Nat.le_add_left 128 _
    have hThirdHigh : v / 64 % 64 + 128 ≤ (0xBF : UInt8).toNat := by change _ ≤ 191; omega
    simp only [List.cons_append, List.nil_append]
    rw [hFirst, unitsFrom_opens _ _ hStart, unitsFrom_continues _ _ (by omega) hLow hHigh,
      unitsFrom_continues _ _ (by omega) hThird hThirdHigh, unitsFrom_ends _ _ (by omega),
      hChar _ (by omega)]

end

/-! ## Texts -/

/-- The bytes of characters. -/
def bytesOf (cs : List Char) : Bytes := cs.flatMap utf8EncodeChar

theorem encode_ofList (cs : List Char) : encode (String.ofList cs) = bytesOf cs := by
  rw [encode, String.toList_ofList, bytesOf]

@[simp] theorem bytesOf_nil : bytesOf [] = [] := rfl

@[simp] theorem bytesOf_cons (c : Char) (cs : List Char) :
    bytesOf (c :: cs) = utf8EncodeChar c ++ bytesOf cs := rfl

@[simp] theorem bytesOf_append (cs ds : List Char) :
    bytesOf (cs ++ ds) = bytesOf cs ++ bytesOf ds :=
  List.flatMap_append

theorem unitsFrom_bytesOf (done : List (Option Char)) (cs : List Char) :
    unitsFrom done none (bytesOf cs) = done.reverse ++ cs.map some := by
  induction cs generalizing done with
  | nil => simp [unitsFrom]
  | cons c cs ih => simp [unitsFrom_utf8EncodeChar, ih]

theorem units_encode (s : String) : units (encode s) = s.toList.map some :=
  unitsFrom_bytesOf [] s.toList

theorem decode?_encode (s : String) : decode? (encode s) = some s :=
  decode?_eq_some_iff.mpr (units_encode s)

theorem decodeLossy_encode (s : String) : decodeLossy (encode s) = s := by
  rw [decodeLossy, units_encode, List.map_map]
  simp [Function.comp_def]

/-! ## Beyond ASCII -/

theorem utf8EncodeChar_ascii {c : Char} (h : c.toNat < 0x80) :
    utf8EncodeChar c = [UInt8.ofNat c.toNat] := by
  have hOne : c.val.toNat ≤ 127 := Nat.le_of_lt_succ h
  rw [utf8EncodeChar, if_pos hOne]
  rfl

/-- No byte of such a character is the code of an ASCII character. -/
theorem le_of_mem_utf8EncodeChar {c : Char} (h : ¬c.toNat < 0x80) {b : UInt8}
    (hb : b ∈ utf8EncodeChar c) : 0x80 ≤ b.toNat := by
  have hOne : ¬c.val.toNat ≤ 127 := fun hLe => h (Nat.lt_succ_of_le hLe)
  rw [utf8EncodeChar, if_neg hOne] at hb
  generalize c.val.toNat = v at hb
  have hByte : ∀ n, 128 ≤ n → n < 256 → 128 ≤ (UInt8.ofNat n).toNat := fun n hLow hHigh => by
    rwa [toNat_byte hHigh]
  split at hb
  · simp only [List.mem_cons, List.not_mem_nil, or_false] at hb
    rcases hb with rfl | rfl <;> exact hByte _ (by omega) (by omega)
  split at hb
  · simp only [List.mem_cons, List.not_mem_nil, or_false] at hb
    rcases hb with rfl | rfl | rfl <;> exact hByte _ (by omega) (by omega)
  · simp only [List.mem_cons, List.not_mem_nil, or_false] at hb
    rcases hb with rfl | rfl | rfl | rfl <;> exact hByte _ (by omega) (by omega)

end TypeRepair.Text
