import Mathlib.Tactic.SplitIfs
import TypeRepair.Proofs.Text.Utf8

/-!
# Decoded bytes

Strict decoding reads nothing but encoded texts, and lenient decoding keeps the ends of lines: no
sequence reaches over the byte of an ASCII character.

* `start_eq_opens`: the lead bytes and what has to follow them.
* `utf8EncodeChar_of_completes`: a sequence that is completed encodes its character.
* `decode?_eq_some_iff_encode`: a text is decoded from its own bytes and from no others.
* `decodeLossy_concat_newline`: a newline at the end of the bytes is one at the end of their text.
-/

namespace TypeRepair.Text

open String (utf8EncodeChar)

/-! ## Lead bytes -/

theorem start_ascii {b : UInt8} (h : b < 0x80) : start b = .whole (Char.ofNat b.toNat) :=
  if_pos h

theorem start_stray {n : Nat} (h : 128 ≤ n ∧ n < 194 ∨ 245 ≤ n ∧ n < 256) :
    start (UInt8.ofNat n) = .stray := by
  rcases h with ⟨hLow, hHigh⟩ | ⟨hLow, hHigh⟩ <;> interval_cases n <;> rfl

/-- A character of its own is one of ASCII. -/
theorem lt_of_start_whole {b : UInt8} {c : Char} (h : start b = .whole c) : b < 0x80 := by
  by_contra hAbove
  rw [start, if_neg hAbove] at h
  split_ifs at h

/-- A lead byte tells how many bytes the character has. -/
theorem start_eq_opens {b : UInt8} {s : Begun} (h : start b = .opens s) :
    (∃ n, 2 ≤ n ∧ n < 32 ∧ b = UInt8.ofNat (n + 192) ∧ s = ⟨n, 1, 0x80, 0xBF⟩) ∨
      (∃ n < 16, b = UInt8.ofNat (n + 224) ∧
        s = ⟨n, 2, if n = 0 then 0xA0 else 0x80, if n = 13 then 0x9F else 0xBF⟩) ∨
      ∃ n < 5, b = UInt8.ofNat (n + 240) ∧
        s = ⟨n, 3, if n = 0 then 0x90 else 0x80, if n = 4 then 0x8F else 0xBF⟩ := by
  obtain ⟨v, hv, rfl⟩ : ∃ v < 256, b = UInt8.ofNat v :=
    ⟨b.toNat, b.toNat_lt, UInt8.ofNat_toNat.symm⟩
  by_cases hOne : v < 128
  · rw [start_one hOne] at h
    cases h
  by_cases hStray : v < 194 ∨ 245 ≤ v
  · rw [start_stray (by omega)] at h
    cases h
  by_cases hTwo : v < 224
  · obtain ⟨n, rfl⟩ : ∃ n, v = n + 192 := ⟨v - 192, by omega⟩
    rw [start_two (by omega) (by omega)] at h
    exact .inl ⟨n, by omega, by omega, rfl, (Start.opens.inj h).symm⟩
  by_cases hThree : v < 240
  · obtain ⟨n, rfl⟩ : ∃ n, v = n + 224 := ⟨v - 224, by omega⟩
    rw [start_three (by omega)] at h
    exact .inr (.inl ⟨n, by omega, rfl, (Start.opens.inj h).symm⟩)
  · obtain ⟨n, rfl⟩ : ∃ n, v = n + 240 := ⟨v - 240, by omega⟩
    rw [start_four (by omega)] at h
    exact .inr (.inr ⟨n, by omega, rfl, (Start.opens.inj h).symm⟩)

/-- No sequence goes on with the byte of an ASCII character. -/
theorem le_low_of_start_opens {b : UInt8} {s : Begun} (h : start b = .opens s) :
    0x80 ≤ s.low := by
  rcases start_eq_opens h with ⟨n, -, -, -, rfl⟩ | ⟨n, -, -, rfl⟩ | ⟨n, -, -, rfl⟩
  · exact UInt8.le_refl _
  · dsimp only
    split <;> decide
  · dsimp only
    split <;> decide

/-! ## Completed sequences -/

/-- The bytes that are due complete a sequence to a character. -/
inductive Completes : Begun → Bytes → Char → Prop
  | last {s : Begun} {b : UInt8} (hRange : s.low ≤ b ∧ b ≤ s.high) (hDue : s.due = 1) :
    Completes s [b] (Char.ofNat (s.value * 64 + (b.toNat - 0x80)))
  | next {s : Begun} {b : UInt8} {tail : Bytes} {c : Char} (hRange : s.low ≤ b ∧ b ≤ s.high)
    (hDue : s.due ≠ 1)
    (h : Completes ⟨s.value * 64 + (b.toNat - 0x80), s.due - 1, 0x80, 0xBF⟩ tail c) :
    Completes s (b :: tail) c

section

variable {s : Begun} {bytes : Bytes} {c : Char}

theorem Completes.last_inv (h : Completes s bytes c) (hDue : s.due = 1) :
    ∃ b, bytes = [b] ∧ (s.low ≤ b ∧ b ≤ s.high) ∧
      Char.ofNat (s.value * 64 + (b.toNat - 0x80)) = c := by
  cases h with
  | last hRange _ => exact ⟨_, rfl, hRange, rfl⟩
  | next _ hMore _ => exact absurd hDue hMore

theorem Completes.next_inv (h : Completes s bytes c) (hDue : s.due ≠ 1) :
    ∃ b tail, bytes = b :: tail ∧ (s.low ≤ b ∧ b ≤ s.high) ∧
      Completes ⟨s.value * 64 + (b.toNat - 0x80), s.due - 1, 0x80, 0xBF⟩ tail c := by
  cases h with
  | last _ hLast => exact absurd hLast hDue
  | next hRange _ hTail => exact ⟨_, _, rfl, hRange, hTail⟩

end

/-- A byte that continues a sequence holds six bits of the character. -/
theorem exists_of_continues {low high b : UInt8} (hLow : 0x80 ≤ low) (hHigh : high ≤ 0xBF)
    (h : low ≤ b ∧ b ≤ high) :
    ∃ n < 64, b = UInt8.ofNat (n + 128) ∧ b.toNat - 0x80 = n ∧ low.toNat ≤ n + 128 ∧
      n + 128 ≤ high.toNat := by
  simp only [UInt8.le_iff_toNat_le] at hLow hHigh h
  have hFirst : (0x80 : UInt8).toNat = 128 := rfl
  have hLast : (0xBF : UInt8).toNat = 191 := rfl
  refine ⟨b.toNat - 128, by omega, ?_, rfl, by omega, by omega⟩
  rw [Nat.sub_add_cancel (by omega), UInt8.ofNat_toNat]

theorem exists_of_continues_any {b : UInt8} (h : 0x80 ≤ b ∧ b ≤ 0xBF) :
    ∃ n < 64, b = UInt8.ofNat (n + 128) ∧ b.toNat - 0x80 = n := by
  obtain ⟨n, hn, hByte, hValue, -⟩ := exists_of_continues (UInt8.le_refl _) (UInt8.le_refl _) h
  exact ⟨n, hn, hByte, hValue⟩

theorem toNat_val_ofNat {n : Nat} (h : n.isValidChar) : (Char.ofNat n).val.toNat = n := by
  rw [Char.ofNat, dif_pos h]
  rfl

theorem utf8EncodeChar_two {n k : Nat} (hLow : 2 ≤ n) (hHigh : n < 32) (hk : k < 64) :
    utf8EncodeChar (Char.ofNat (n * 64 + k)) = [UInt8.ofNat (n + 192), UInt8.ofNat (k + 128)] := by
  have hFirst : (n * 64 + k) / 64 % 32 = n := by omega
  have hLast : (n * 64 + k) % 64 = k := by omega
  rw [utf8EncodeChar, toNat_val_ofNat (.inl (by omega))]
  rw [if_neg (by omega), if_pos (by omega), hFirst, hLast]

/-- Neither a character of fewer bytes nor a surrogate. -/
theorem utf8EncodeChar_three {n m k : Nat} (hn : n < 16) (hm : m < 64) (hk : k < 64)
    (hLow : n = 0 → 32 ≤ m) (hHigh : n = 13 → m < 32) :
    utf8EncodeChar (Char.ofNat ((n * 64 + m) * 64 + k)) =
      [UInt8.ofNat (n + 224), UInt8.ofNat (m + 128), UInt8.ofNat (k + 128)] := by
  have hFirst : ((n * 64 + m) * 64 + k) / 4096 % 16 = n := by omega
  have hSecond : ((n * 64 + m) * 64 + k) / 64 % 64 = m := by omega
  have hLast : ((n * 64 + m) * 64 + k) % 64 = k := by omega
  have hValid : ((n * 64 + m) * 64 + k).isValidChar := by
    by_cases hBelow : n < 13 ∨ n = 13 ∧ m < 32
    · exact .inl (by omega)
    · exact .inr (by omega)
  rw [utf8EncodeChar, toNat_val_ofNat hValid]
  rw [if_neg (by omega), if_neg (by omega), if_pos (by omega), hFirst, hSecond, hLast]

/-- Neither a character of fewer bytes nor one beyond the last. -/
theorem utf8EncodeChar_four {n m l k : Nat} (hn : n < 5) (hm : m < 64) (hl : l < 64) (hk : k < 64)
    (hLow : n = 0 → 16 ≤ m) (hHigh : n = 4 → m < 16) :
    utf8EncodeChar (Char.ofNat (((n * 64 + m) * 64 + l) * 64 + k)) =
      [UInt8.ofNat (n + 240), UInt8.ofNat (m + 128), UInt8.ofNat (l + 128),
        UInt8.ofNat (k + 128)] := by
  have hFirst : (((n * 64 + m) * 64 + l) * 64 + k) / 262144 % 8 = n := by omega
  have hSecond : (((n * 64 + m) * 64 + l) * 64 + k) / 4096 % 64 = m := by omega
  have hThird : (((n * 64 + m) * 64 + l) * 64 + k) / 64 % 64 = l := by omega
  have hLast : (((n * 64 + m) * 64 + l) * 64 + k) % 64 = k := by omega
  rw [utf8EncodeChar, toNat_val_ofNat (.inr (by omega))]
  rw [if_neg (by omega), if_neg (by omega), if_neg (by omega), hFirst, hSecond, hThird, hLast]

/-- Only the byte behind the lead may have a narrower range. -/
theorem utf8EncodeChar_of_completes {b : UInt8} {s : Begun} {tail : Bytes} {c : Char}
    (hStart : start b = .opens s) (h : Completes s tail c) : utf8EncodeChar c = b :: tail := by
  rcases start_eq_opens hStart with ⟨n, hLow, hHigh, rfl, rfl⟩ | ⟨n, hn, rfl, rfl⟩ |
    ⟨n, hn, rfl, rfl⟩
  · obtain ⟨_, rfl, hLast, rfl⟩ := h.last_inv rfl
    obtain ⟨k, hk, rfl, hValue⟩ := exists_of_continues_any hLast
    rw [hValue]
    exact utf8EncodeChar_two hLow hHigh hk
  · obtain ⟨_, _, rfl, hSecond, h⟩ := h.next_inv (Nat.succ_ne_self 1)
    obtain ⟨_, rfl, hLast, rfl⟩ := h.last_inv rfl
    obtain ⟨m, hm, rfl, hMiddle, hMin, hMax⟩ := exists_of_continues
      (by dsimp only; split <;> decide) (by dsimp only; split <;> decide) hSecond
    obtain ⟨k, hk, rfl, hValue⟩ := exists_of_continues_any hLast
    rw [hMiddle, hValue]
    apply utf8EncodeChar_three hn hm hk
    · rintro rfl
      have hMiddleLow : 160 ≤ m + 128 := hMin
      omega
    · rintro rfl
      have hMiddleHigh : m + 128 ≤ 159 := hMax
      omega
  · obtain ⟨_, _, rfl, hSecond, h⟩ := h.next_inv (by simp)
    obtain ⟨_, _, rfl, hThird, h⟩ := h.next_inv (by simp)
    obtain ⟨_, rfl, hLast, rfl⟩ := h.last_inv rfl
    obtain ⟨m, hm, rfl, hMiddle, hMin, hMax⟩ := exists_of_continues
      (by dsimp only; split <;> decide) (by dsimp only; split <;> decide) hSecond
    obtain ⟨l, hl, rfl, hLater⟩ := exists_of_continues_any hThird
    obtain ⟨k, hk, rfl, hValue⟩ := exists_of_continues_any hLast
    rw [hMiddle, hLater, hValue]
    apply utf8EncodeChar_four hn hm hl hk
    · rintro rfl
      have hMiddleLow : 144 ≤ m + 128 := hMin
      omega
    · rintro rfl
      have hMiddleHigh : m + 128 ≤ 143 := hMax
      omega

/-! ## Strict decoding -/

/-- Units that were read before stay in front. -/
theorem unitsFrom_append (later done : List (Option Char)) (open? : Option Begun) (bytes : Bytes) :
    unitsFrom (later ++ done) open? bytes = done.reverse ++ unitsFrom later open? bytes := by
  induction bytes generalizing later open? with
  | nil => cases open? <;> simp [unitsFrom]
  | cons b bytes ih =>
    rw [unitsFrom.eq_def, unitsFrom.eq_def later]
    cases open? with
    | none =>
      dsimp only
      rcases start b with c | s | _
      · exact ih (some c :: later) none
      · exact ih later (some s)
      · exact ih (none :: later) none
    | some s =>
      dsimp only
      split
      · split
        · exact ih (_ :: later) none
        · exact ih later _
      · rcases start b with c | t | _
        · exact ih (some c :: none :: later) none
        · exact ih (none :: later) (some t)
        · exact ih (none :: none :: later) none

theorem unitsFrom_eq_append (done : List (Option Char)) (open? : Option Begun) (bytes : Bytes) :
    unitsFrom done open? bytes = done.reverse ++ unitsFrom [] open? bytes :=
  unitsFrom_append [] done open? bytes

/-- The bytes are those of the characters. If a sequence is open, they complete it to the first
one. -/
def Spells : Option Begun → Bytes → List Char → Prop
  | none, bytes, cs => bytes = bytesOf cs
  | some s, bytes, cs => ∃ tail c rest, Completes s tail c ∧ cs = c :: rest ∧
      bytes = tail ++ bytesOf rest

theorem Spells.whole {b : UInt8} {c : Char} {bytes : Bytes} {cs : List Char}
    (hStart : start b = .whole c) (h : Spells none bytes cs) :
    Spells none (b :: bytes) (c :: cs) := by
  have hAscii := lt_of_start_whole hStart
  obtain rfl : Char.ofNat b.toNat = c := Start.whole.inj ((start_ascii hAscii).symm.trans hStart)
  have hSmall : b.toNat < 128 := UInt8.lt_iff_toNat_lt.mp hAscii
  have hCode : (Char.ofNat b.toNat).toNat = b.toNat := toNat_val_ofNat (.inl (by omega))
  have hBytes : bytes = bytesOf cs := h
  rw [Spells, bytesOf_cons, utf8EncodeChar_ascii (by omega), hCode, UInt8.ofNat_toNat, hBytes,
    List.singleton_append]

theorem Spells.opens {b : UInt8} {s : Begun} {bytes : Bytes} {cs : List Char}
    (hStart : start b = .opens s) (h : Spells (some s) bytes cs) :
    Spells none (b :: bytes) cs := by
  obtain ⟨tail, c, rest, hTail, rfl, rfl⟩ := h
  rw [Spells, bytesOf_cons, utf8EncodeChar_of_completes hStart hTail, List.cons_append]

theorem cons_none_ne_map_some (units : List (Option Char)) (cs : List Char) :
    none :: units ≠ cs.map some := by
  cases cs <;> simp

/-- Bytes without an ill-formed unit are those of the characters. -/
theorem spells_of_unitsFrom {bytes : Bytes} {open? : Option Begun} {cs : List Char}
    (h : unitsFrom [] open? bytes = cs.map some) : Spells open? bytes cs := by
  induction bytes generalizing open? cs with
  | nil =>
    cases open? with
    | none =>
      obtain rfl := List.map_eq_nil_iff.mp h.symm
      rfl
    | some s => exact absurd h (cons_none_ne_map_some [] cs)
  | cons b bytes ih =>
    -- A unit that was read is the first character, and the other ones are spelled after it.
    have hRead : ∀ c, unitsFrom [some c] none bytes = cs.map some →
        ∃ rest, cs = c :: rest ∧ Spells none bytes rest := by
      intro c hUnits
      rw [unitsFrom_eq_append] at hUnits
      obtain ⟨first, rest, rfl, hFirst, hRest⟩ := List.map_eq_cons_iff.mp hUnits.symm
      obtain rfl := Option.some.inj hFirst
      exact ⟨rest, rfl, ih hRest.symm⟩
    have hIllFormed : ∀ later open?, unitsFrom (later ++ [none]) open? bytes ≠ cs.map some := by
      intro later open?
      rw [unitsFrom_append]
      exact cons_none_ne_map_some _ cs
    cases open? with
    | none =>
      rw [unitsFrom] at h
      rcases hStart : start b with c | s | _
      · rw [hStart] at h
        obtain ⟨rest, rfl, hRest⟩ := hRead c h
        exact hRest.whole hStart
      · rw [hStart] at h
        exact (ih h).opens hStart
      · rw [hStart] at h
        exact absurd h (hIllFormed [] none)
    | some s =>
      rw [unitsFrom] at h
      split at h
      · rename_i hRange
        dsimp only at h
        split at h
        · rename_i hDue
          obtain ⟨rest, rfl, hRest⟩ := hRead _ h
          exact ⟨[b], _, rest, .last hRange hDue, rfl, congrArg (b :: ·) hRest⟩
        · rename_i hDue
          obtain ⟨tail, c, rest, hTail, rfl, rfl⟩ := ih h
          exact ⟨b :: tail, c, rest, .next hRange hDue hTail, rfl, rfl⟩
      · rcases hStart : start b with c | t | _
        · rw [hStart] at h
          exact absurd h (hIllFormed [some c] none)
        · rw [hStart] at h
          exact absurd h (hIllFormed [] (some t))
        · rw [hStart] at h
          exact absurd h (hIllFormed [none] none)

/-- A text is decoded from its own bytes and from no others. -/
theorem decode?_eq_some_iff_encode {bytes : Bytes} {text : String} :
    decode? bytes = some text ↔ encode text = bytes := by
  constructor
  · intro h
    have hSpells : Spells none bytes text.toList := spells_of_unitsFrom (decode?_eq_some_iff.mp h)
    exact hSpells.symm
  · rintro rfl
    exact decode?_encode text

/-! ## Ends of lines -/

/-- The byte of an ASCII character at the end is a character of its own, whatever is open before
it. -/
theorem unitsFrom_concat_ascii {b : UInt8} (hb : b < 0x80) (done : List (Option Char))
    (open? : Option Begun) (hOpen : ∀ s ∈ open?, 0x80 ≤ s.low) (bytes : Bytes) :
    unitsFrom done open? (bytes ++ [b]) =
      unitsFrom done open? bytes ++ [some (Char.ofNat b.toNat)] := by
  induction bytes generalizing done open? with
  | nil =>
    cases open? with
    | none => simp [unitsFrom, start_ascii hb]
    | some s =>
      have hClosed : ¬(s.low ≤ b ∧ b ≤ s.high) := by
        rintro ⟨hLow, -⟩
        exact absurd (UInt8.le_trans (hOpen s rfl) hLow) (UInt8.not_le.mpr hb)
      simp [unitsFrom, hClosed, start_ascii hb]
  | cons first bytes ih =>
    have hOpens : ∀ s, start first = .opens s → ∀ t ∈ some s, 0x80 ≤ t.low := by
      rintro s hStart t ⟨⟩
      exact le_low_of_start_opens hStart
    have hNone : ∀ s ∈ (none : Option Begun), 0x80 ≤ s.low := by simp
    rw [List.cons_append]
    cases open? with
    | none =>
      rw [unitsFrom, unitsFrom]
      rcases hStart : start first with c | s | _
      · exact ih _ _ hNone
      · exact ih _ _ (hOpens s hStart)
      · exact ih _ _ hNone
    | some s =>
      rw [unitsFrom, unitsFrom]
      by_cases hContinues : s.low ≤ first ∧ first ≤ s.high
      · rw [if_pos hContinues, if_pos hContinues]
        dsimp only
        split
        · exact ih _ _ hNone
        · exact ih _ _ (by simp)
      · rw [if_neg hContinues, if_neg hContinues]
        rcases hStart : start first with c | s | _
        · exact ih _ _ hNone
        · exact ih _ _ (hOpens s hStart)
        · exact ih _ _ hNone

theorem decodeLossy_concat_newline (bytes : Bytes) :
    decodeLossy (bytes ++ [10]) = decodeLossy bytes ++ "\n" := by
  have hUnits : units (bytes ++ [10]) = units bytes ++ [some '\n'] :=
    unitsFrom_concat_ascii (by decide) [] none (by simp) bytes
  rw [decodeLossy, hUnits, List.map_append, String.ofList_append, decodeLossy]
  rfl

end TypeRepair.Text
