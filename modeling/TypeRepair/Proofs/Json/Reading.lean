import Mathlib.Data.List.DropRight
import TypeRepair.Proofs.Json.Words

/-!
# Reading by the grammar

The reader accepts the texts of the grammar and returns what they spell.

* `sound`: what the readers take from the front is spelled by the grammar.
* `Spelled.read`: what the grammar spells is taken from the front, given fuel for it.
* `read?_eq_some_iff`: reading succeeds exactly on the texts of the grammar.
-/

namespace TypeRepair.Json

open Reader

variable {fuel : Nat} {bytes rest : Bytes}

/-! ## Brackets -/

-- Arrays and objects differ in their brackets and in what stands inside: the readers share what
-- happens after an opening bracket, and after a value on the way to the closing one.

def opened (close : UInt8) (empty : Json Raw) (inside : Reader (Json Raw)) : Reader (Json Raw) := do
  spaces
  if (← peek) = some close then do let _ ← next; pure empty
  else inside

def follow {α : Type} (close : UInt8) (more : Reader (List α)) (entry : α) : Reader (List α) := do
  spaces
  let b ← next
  if b = byte ',' then return entry :: (← more)
  else if b = close then pure [entry]
  else failure

def arrayRest (fuel : Nat) : Reader (Json Raw) :=
  opened (byte ']') (.array []) do return .array (← items fuel)

def objectRest (fuel : Nat) : Reader (Json Raw) :=
  opened 0x7D (.object []) do return .object (← members fuel)

theorem items_succ (fuel : Nat) :
    items (fuel + 1) = value fuel >>= follow (byte ']') (items fuel) := rfl

theorem members_succ (fuel : Nat) : members (fuel + 1) = (do
    let name ← key
    let item ← value fuel
    follow 0x7D (members fuel) (name, item) : Reader (List (Raw × Json Raw))) := by
  rw [members]
  simp only [key, follow, bind_assoc, pure_bind]

/-- White space and what is read after it. -/
theorem eq_blank_append {used : Bytes} (h : bytes.dropWhile isSpace = used) :
    ∃ blank, IsBlank blank ∧ bytes = blank ++ used := by
  refine ⟨_, isBlank_takeWhile bytes, ?_⟩
  rw [← h, List.takeWhile_append_dropWhile]

theorem opened_taken {close : UInt8} {empty v : Json Raw} {inside : Reader (Json Raw)}
    (h : opened close empty inside bytes = some (v, rest)) :
    ∃ blank middle, IsBlank blank ∧ bytes = blank ++ middle ∧
      ((v = empty ∧ middle = close :: rest) ∨ inside middle = some (v, rest)) := by
  obtain ⟨_, _, hSpaces, h₁⟩ := bind_eq_some_iff.mp h
  obtain ⟨front, _, hPeek, h₂⟩ := bind_eq_some_iff.mp h₁
  obtain ⟨-, rfl⟩ := Prod.mk.inj (Option.some.inj hSpaces)
  obtain ⟨rfl, rfl⟩ := Prod.mk.inj (Option.some.inj hPeek)
  refine ⟨bytes.takeWhile isSpace, bytes.dropWhile isSpace, isBlank_takeWhile bytes,
    List.takeWhile_append_dropWhile.symm, ?_⟩
  split at h₂
  · rename_i hClosed
    obtain ⟨b, _, hNext, hEnd⟩ := bind_eq_some_iff.mp h₂
    obtain ⟨rfl, rfl⟩ := pure_eq_some_iff.mp hEnd
    rw [next_eq_some_iff.mp hNext] at hClosed ⊢
    rw [Option.some.inj hClosed]
    exact .inl ⟨rfl, rfl⟩
  · exact .inr h₂

theorem opened_empty {close : UInt8} {empty : Json Raw} {inside : Reader (Json Raw)}
    {blank : Bytes} (hBlank : IsBlank blank) (hClose : isSpace close = false) (rest : Bytes) :
    opened close empty inside (blank ++ close :: rest) = some (empty, rest) := by
  rw [opened, bind_of_eq (spaces_run hBlank (avoids_cons hClose _)), bind_of_eq (peek_eq _),
    if_pos List.head?_cons]
  rfl

theorem opened_run {close : UInt8} {empty : Json Raw} {inside : Reader (Json Raw)}
    (hFront : (bytes.dropWhile isSpace).head? ≠ some close) :
    opened close empty inside bytes = inside (bytes.dropWhile isSpace) := by
  rw [opened, bind_of_eq (spaces_eq _), bind_of_eq (peek_eq _), if_neg hFront]

section

variable {α : Type} {close : UInt8} {more : Reader (List α)} {entry : α} {entries : List α}

theorem follow_taken (h : follow close more entry bytes = some (entries, rest)) :
    (∃ later others, bytes.dropWhile isSpace = byte ',' :: later ∧
        more later = some (others, rest) ∧ entries = entry :: others) ∨
      (bytes.dropWhile isSpace = close :: rest ∧ entries = [entry]) := by
  obtain ⟨_, _, hSpaces, h₁⟩ := bind_eq_some_iff.mp h
  obtain ⟨b, _, hNext, h₂⟩ := bind_eq_some_iff.mp h₁
  obtain ⟨-, rfl⟩ := Prod.mk.inj (Option.some.inj hSpaces)
  rw [next_eq_some_iff.mp hNext]
  split_ifs at h₂ with hComma hClose
  · obtain ⟨others, _, hMore, hEnd⟩ := bind_eq_some_iff.mp h₂
    obtain ⟨rfl, rfl⟩ := pure_eq_some_iff.mp hEnd
    exact .inl ⟨_, others, by rw [hComma], hMore, rfl⟩
  · obtain ⟨rfl, rfl⟩ := pure_eq_some_iff.mp h₂
    exact .inr ⟨by rw [hClose], rfl⟩
  · exact absurd h₂ failure_ne_some

theorem follow_last (hClose : close ≠ byte ',') (h : bytes.dropWhile isSpace = close :: rest) :
    follow close more entry bytes = some ([entry], rest) := by
  rw [follow, bind_of_eq (spaces_eq _), h, bind_of_eq (next_eq_some_iff.mpr rfl), if_neg hClose,
    if_pos rfl]
  rfl

theorem follow_more {later : Bytes} (h : bytes.dropWhile isSpace = byte ',' :: later)
    (hMore : more later = some (entries, rest)) :
    follow close more entry bytes = some (entry :: entries, rest) := by
  rw [follow, bind_of_eq (spaces_eq _), h, bind_of_eq (next_eq_some_iff.mpr rfl), if_pos rfl,
    bind_of_eq hMore]
  rfl

end

/-! ## Soundness -/

/-- With this fuel, what the readers take from the front is spelled by the grammar. -/
structure Sound (fuel : Nat) : Prop where
  ofValue {bytes rest : Bytes} {v : Json Raw} (h : value fuel bytes = some (v, rest)) :
    ∃ used, Spelled (.value v) used ∧ bytes.dropWhile isSpace = used ++ rest
  ofItems {bytes rest : Bytes} {vs : List (Json Raw)} (h : items fuel bytes = some (vs, rest)) :
    ∃ used, Spelled (.items vs) used ∧ bytes = used ++ byte ']' :: rest
  ofMembers {bytes rest : Bytes} {ms : List (Raw × Json Raw)}
    (h : members fuel bytes = some (ms, rest)) :
    ∃ used, Spelled (.members ms) used ∧ bytes = used ++ 0x7D :: rest

theorem Sound.arrayRest (hSound : Sound fuel) {v : Json Raw}
    (h : arrayRest fuel bytes = some (v, rest)) :
    ∃ used, Spelled (.value v) (byte '[' :: used) ∧ bytes = used ++ rest := by
  obtain ⟨blank, middle, hBlank, rfl, ⟨rfl, rfl⟩ | hInside⟩ := opened_taken h
  · exact ⟨_, .emptyArray hBlank, by simp⟩
  · obtain ⟨vs, _, hItems, hEnd⟩ := bind_eq_some_iff.mp hInside
    obtain ⟨rfl, rfl⟩ := pure_eq_some_iff.mp hEnd
    obtain ⟨used, hUsed, rfl⟩ := hSound.ofItems hItems
    exact ⟨_, .array (hUsed.blank_items hBlank), by simp⟩

theorem Sound.objectRest (hSound : Sound fuel) {v : Json Raw}
    (h : objectRest fuel bytes = some (v, rest)) :
    ∃ used, Spelled (.value v) (0x7B :: used) ∧ bytes = used ++ rest := by
  obtain ⟨blank, middle, hBlank, rfl, ⟨rfl, rfl⟩ | hInside⟩ := opened_taken h
  · exact ⟨_, .emptyObject hBlank, by simp⟩
  · obtain ⟨ms, _, hMembers, hEnd⟩ := bind_eq_some_iff.mp hInside
    obtain ⟨rfl, rfl⟩ := pure_eq_some_iff.mp hEnd
    obtain ⟨used, hUsed, rfl⟩ := hSound.ofMembers hMembers
    exact ⟨_, .object (hUsed.blank_members hBlank), by simp⟩

theorem word_taken {text : String} {v w : Json Raw}
    (h : (word text >>= fun _ => pure v : Reader (Json Raw)) bytes = some (w, rest)) :
    v = w ∧ bytes = Text.encode text ++ rest := by
  obtain ⟨_, _, hWord, hEnd⟩ := bind_eq_some_iff.mp h
  obtain ⟨hValue, rfl⟩ := pure_eq_some_iff.mp hEnd
  exact ⟨hValue, word_eq_some_iff.mp hWord⟩

theorem Sound.value_succ (hSound : Sound fuel) {v : Json Raw}
    (h : value (fuel + 1) bytes = some (v, rest)) :
    ∃ used, Spelled (.value v) used ∧ bytes.dropWhile isSpace = used ++ rest := by
  rw [Reader.value] at h
  obtain ⟨_, _, hSpaces, h₁⟩ := bind_eq_some_iff.mp h
  obtain ⟨front, _, hPeek, h₂⟩ := bind_eq_some_iff.mp h₁
  obtain ⟨-, rfl⟩ := Prod.mk.inj (Option.some.inj hSpaces)
  obtain ⟨rfl, rfl⟩ := Prod.mk.inj (Option.some.inj hPeek)
  generalize bytes.dropWhile isSpace = bytes at h₂
  cases bytes with
  | nil => exact absurd h₂ failure_ne_some
  | cons b bytes =>
    dsimp only [List.head?_cons] at h₂
    split_ifs at h₂ with hNull hTrue hFalse hQuote hBracket hBrace
    · obtain ⟨rfl, hBytes⟩ := word_taken h₂
      exact ⟨_, .nullWord, hBytes⟩
    · obtain ⟨rfl, hBytes⟩ := word_taken h₂
      exact ⟨_, .trueWord, hBytes⟩
    · obtain ⟨rfl, hBytes⟩ := word_taken h₂
      exact ⟨_, .falseWord, hBytes⟩
    · obtain ⟨_, _, hNext, h₃⟩ := bind_eq_some_iff.mp h₂
      obtain ⟨raw, _, hText, hEnd⟩ := bind_eq_some_iff.mp h₃
      obtain ⟨rfl, rfl⟩ := pure_eq_some_iff.mp hEnd
      obtain ⟨rfl, rfl⟩ := List.cons.inj (next_eq_some_iff.mp hNext)
      obtain ⟨body, hBody, rfl, rfl⟩ := stringRest_taken hText
      rw [hQuote]
      exact ⟨_, .string hBody, (quote_append _ _).symm⟩
    · obtain ⟨_, _, hNext, hArray⟩ := bind_eq_some_iff.mp h₂
      obtain ⟨rfl, rfl⟩ := List.cons.inj (next_eq_some_iff.mp hNext)
      obtain ⟨used, hUsed, rfl⟩ := hSound.arrayRest hArray
      rw [hBracket]
      exact ⟨_, hUsed, rfl⟩
    · obtain ⟨_, _, hNext, hObject⟩ := bind_eq_some_iff.mp h₂
      obtain ⟨rfl, rfl⟩ := List.cons.inj (next_eq_some_iff.mp hNext)
      obtain ⟨used, hUsed, rfl⟩ := hSound.objectRest hObject
      rw [hBrace]
      exact ⟨_, hUsed, rfl⟩
    · obtain ⟨written, _, hNumber, hEnd⟩ := bind_eq_some_iff.mp h₂
      obtain ⟨rfl, rfl⟩ := pure_eq_some_iff.mp hEnd
      obtain ⟨used, hUsed, hBytes, rfl⟩ := number_taken hNumber
      exact ⟨used, .number hUsed, hBytes⟩

/-- A value and the white space on both its sides. -/
theorem Sound.item (hSound : Sound fuel) {v : Json Raw} {middle : Bytes}
    (h : value fuel bytes = some (v, middle)) (hMiddle : middle.dropWhile isSpace = rest) :
    ∃ used, Spelled (.item v) used ∧ bytes = used ++ rest := by
  obtain ⟨used, hUsed, hBytes⟩ := hSound.ofValue h
  obtain ⟨before, hBefore, rfl⟩ := eq_blank_append hBytes
  obtain ⟨after, hAfter, rfl⟩ := eq_blank_append hMiddle
  exact ⟨_, .item hBefore hAfter hUsed, by simp⟩

theorem Sound.items_succ (hSound : Sound fuel) {vs : List (Json Raw)}
    (h : items (fuel + 1) bytes = some (vs, rest)) :
    ∃ used, Spelled (.items vs) used ∧ bytes = used ++ byte ']' :: rest := by
  rw [Json.items_succ] at h
  obtain ⟨item, middle, hValue, hFollow⟩ := bind_eq_some_iff.mp h
  obtain ⟨later, others, hMiddle, hItems, rfl⟩ | ⟨hMiddle, rfl⟩ := follow_taken hFollow
  · obtain ⟨used, hUsed, rfl⟩ := hSound.item hValue hMiddle
    obtain ⟨next, hNext, rfl⟩ := hSound.ofItems hItems
    exact ⟨_, .moreItems hUsed hNext, by simp⟩
  · obtain ⟨used, hUsed, rfl⟩ := hSound.item hValue hMiddle
    exact ⟨used, .lastItem hUsed, rfl⟩

theorem Sound.members_succ (hSound : Sound fuel) {ms : List (Raw × Json Raw)}
    (h : members (fuel + 1) bytes = some (ms, rest)) :
    ∃ used, Spelled (.members ms) used ∧ bytes = used ++ 0x7D :: rest := by
  rw [Json.members_succ] at h
  obtain ⟨name, _, hKey, hItem⟩ := bind_eq_some_iff.mp h
  obtain ⟨item, middle, hValue, hFollow⟩ := bind_eq_some_iff.mp hItem
  obtain ⟨front, hFront, rfl⟩ := key_taken hKey
  obtain ⟨later, others, hMiddle, hMembers, rfl⟩ | ⟨hMiddle, rfl⟩ := follow_taken hFollow
  · obtain ⟨used, hUsed, rfl⟩ := hSound.item hValue hMiddle
    obtain ⟨next, hNext, rfl⟩ := hSound.ofMembers hMembers
    exact ⟨_, .moreMembers hFront hUsed hNext, by simp⟩
  · obtain ⟨used, hUsed, rfl⟩ := hSound.item hValue hMiddle
    exact ⟨_, .lastMember hFront hUsed, by simp⟩

theorem sound (fuel : Nat) : Sound fuel := by
  induction fuel with
  | zero =>
    refine ⟨fun h => ?_, fun h => ?_, fun h => ?_⟩
    · exact absurd h failure_ne_some
    · exact absurd h failure_ne_some
    · exact absurd h failure_ne_some
  | succ fuel ih => exact ⟨ih.value_succ, ih.items_succ, ih.members_succ⟩

/-! ## Completeness -/

-- White space in front makes no difference.

theorem value_dropWhile (fuel : Nat) (bytes : Bytes) :
    value fuel (bytes.dropWhile isSpace) = value fuel bytes := by
  cases fuel with
  | zero => rfl
  | succ fuel =>
    rw [value, bind_of_eq (spaces_eq _), bind_of_eq (spaces_eq _), List.dropWhile_idempotent]

theorem items_dropWhile (fuel : Nat) (bytes : Bytes) :
    items fuel (bytes.dropWhile isSpace) = items fuel bytes := by
  cases fuel with
  | zero => rfl
  | succ fuel =>
    show (value fuel _).bind _ = (value fuel _).bind _
    rw [value_dropWhile]

theorem members_dropWhile (fuel : Nat) (bytes : Bytes) :
    members fuel (bytes.dropWhile isSpace) = members fuel bytes := by
  cases fuel with
  | zero => rfl
  | succ fuel =>
    rw [members, bind_of_eq (spaces_eq _), bind_of_eq (spaces_eq _), List.dropWhile_idempotent]

theorem value_blank (fuel : Nat) {blank : Bytes} (hBlank : IsBlank blank)
    (hBytes : Avoids isSpace bytes) : value fuel (blank ++ bytes) = value fuel bytes := by
  rw [← value_dropWhile, dropWhile_eq hBlank hBytes]

-- What a value starts with decides how it is read.

theorem value_quote (fuel : Nat) {raw : Raw} (h : StringBody raw) (rest : Bytes) :
    value (fuel + 1) (quote raw ++ rest) = some (.string raw, rest) := by
  rw [quote_append]
  show (stringRest [] >>= fun raw => pure (.string raw) : Reader (Json Raw)) _ = _
  rw [bind_of_eq (stringRest_run h [] rest)]
  rfl

theorem value_bracket (fuel : Nat) (bytes : Bytes) :
    value (fuel + 1) (byte '[' :: bytes) = arrayRest fuel bytes := rfl

theorem value_brace (fuel : Nat) (bytes : Bytes) :
    value (fuel + 1) (0x7B :: bytes) = objectRest fuel bytes := rfl

theorem value_number (fuel : Nat) {used : Bytes} (h : IsNumber used)
    (hRest : Avoids goesOn rest) :
    value (fuel + 1) (used ++ rest) = some (.number (Text.decodeLossy used), rest) := by
  have hSpaces : spaces (used ++ rest) = some ((), used ++ rest) :=
    spaces_run isBlank_nil ((Spelled.number h).avoids_space rest)
  rw [value, bind_of_eq hSpaces, bind_of_eq (peek_eq _)]
  obtain ⟨b, tail, hUsed, hStart⟩ := h.head
  have hFront : (used ++ rest).head? = some b := by simp [hUsed]
  rw [hFront]
  dsimp only
  rw [if_neg (ne_of_startsNumber hStart (by decide)),
    if_neg (ne_of_startsNumber hStart (by decide)), if_neg (ne_of_startsNumber hStart (by decide)),
    if_neg (ne_of_startsNumber hStart (by decide)), if_neg (ne_of_startsNumber hStart (by decide)),
    if_neg (ne_of_startsNumber hStart (by decide)), bind_of_eq (number_run h hRest)]
  rfl

theorem arrayRest_items {vs : List (Json Raw)}
    (hFront : (bytes.dropWhile isSpace).head? ≠ some (byte ']'))
    (h : items fuel bytes = some (vs, rest)) :
    arrayRest fuel bytes = some (.array vs, rest) := by
  rw [← items_dropWhile] at h
  rw [arrayRest, opened_run hFront, bind_of_eq h]
  rfl

theorem objectRest_members {ms : List (Raw × Json Raw)}
    (hFront : (bytes.dropWhile isSpace).head? ≠ some 0x7D)
    (h : members fuel bytes = some (ms, rest)) :
    objectRest fuel bytes = some (.object ms, rest) := by
  rw [← members_dropWhile] at h
  rw [objectRest, opened_run hFront, bind_of_eq h]
  rfl

/-- What the readers do with the bytes of a part at the front, given fuel for them. Items and
members are read up to and with the bracket that closes them. -/
def Read : Part → Bytes → Prop
  | .value v, used => ∀ fuel rest, used.length < fuel → Avoids goesOn rest →
    value fuel (used ++ rest) = some (v, rest)
  | .item v, used => ∀ fuel rest, used.length < fuel → Avoids goesOn rest → Avoids isSpace rest →
    ∃ middle, value fuel (used ++ rest) = some (v, middle) ∧ middle.dropWhile isSpace = rest
  | .items vs, used => ∀ fuel rest, used.length + 1 < fuel →
    items fuel (used ++ byte ']' :: rest) = some (vs, rest)
  | .members ms, used => ∀ fuel rest, used.length + 1 < fuel →
    members fuel (used ++ 0x7D :: rest) = some (ms, rest)

theorem avoids_goesOn_blank {blank : Bytes} (hBlank : IsBlank blank) (hRest : Avoids goesOn rest) :
    Avoids goesOn (blank ++ rest) := by
  cases blank with
  | nil => exact hRest
  | cons b blank =>
    have hSpace : isSpace b = true := hBlank b (by simp)
    simp only [isSpace, Bool.or_eq_true, beq_iff_eq] at hSpace
    rcases hSpace with ((rfl | rfl) | rfl) | rfl <;> exact avoids_cons (by decide) _

theorem exists_succ {size fuel : Nat} (h : size < fuel) : ∃ less, fuel = less + 1 ∧ size ≤ less :=
  ⟨fuel - 1, by omega, by omega⟩

theorem Spelled.read {part : Part} {used : Bytes} (h : Spelled part used) : Read part used := by
  -- Every nested part is shorter than the part around it, so that less fuel is enough for it.
  induction h with
  | nullWord =>
    intro fuel rest hFuel hRest
    obtain ⟨fuel, rfl, -⟩ := exists_succ hFuel
    rfl
  | trueWord =>
    intro fuel rest hFuel hRest
    obtain ⟨fuel, rfl, -⟩ := exists_succ hFuel
    rfl
  | falseWord =>
    intro fuel rest hFuel hRest
    obtain ⟨fuel, rfl, -⟩ := exists_succ hFuel
    rfl
  | number h =>
    intro fuel rest hFuel hRest
    obtain ⟨fuel, rfl, -⟩ := exists_succ hFuel
    exact value_number fuel h hRest
  | string h =>
    intro fuel rest hFuel hRest
    obtain ⟨fuel, rfl, -⟩ := exists_succ hFuel
    exact value_quote fuel h rest
  | emptyArray hBlank =>
    intro fuel rest hFuel hRest
    obtain ⟨fuel, rfl, -⟩ := exists_succ hFuel
    rw [List.cons_append, value_bracket, List.append_assoc]
    exact opened_empty hBlank (by decide) rest
  | emptyObject hBlank =>
    intro fuel rest hFuel hRest
    obtain ⟨fuel, rfl, -⟩ := exists_succ hFuel
    rw [List.cons_append, value_brace, List.append_assoc]
    exact opened_empty hBlank (by decide) rest
  | array h ih =>
    intro fuel rest hFuel hRest
    obtain ⟨fuel, rfl, hLess⟩ := exists_succ hFuel
    simp only [List.length_cons, List.length_append, List.length_nil] at hLess
    rw [List.cons_append, value_bracket, List.append_assoc]
    exact arrayRest_items (h.items_front _) (ih fuel rest (by omega))
  | object h ih =>
    intro fuel rest hFuel hRest
    obtain ⟨fuel, rfl, hLess⟩ := exists_succ hFuel
    simp only [List.length_cons, List.length_append, List.length_nil] at hLess
    rw [List.cons_append, value_brace, List.append_assoc]
    exact objectRest_members (h.members_front _) (ih fuel rest (by omega))
  | item hBefore hAfter h ih =>
    intro fuel rest hFuel hRest hSpace
    simp only [List.length_append] at hFuel
    refine ⟨_, ?_, dropWhile_eq hAfter hSpace⟩
    rw [List.append_assoc, List.append_assoc, value_blank fuel hBefore (h.avoids_space _)]
    exact ih fuel _ (by omega) (avoids_goesOn_blank hAfter hRest)
  | lastItem h ih =>
    intro fuel rest hFuel
    obtain ⟨fuel, rfl, hLess⟩ := exists_succ hFuel
    obtain ⟨middle, hValue, hMiddle⟩ := ih fuel (byte ']' :: rest) (by omega)
      (avoids_cons (by decide) _) (avoids_cons (by decide) _)
    rw [items_succ, bind_of_eq hValue]
    exact follow_last (by decide) hMiddle
  | @moreItems _ _ bytes later h hRest ih ihRest =>
    intro fuel rest hFuel
    obtain ⟨fuel, rfl, hLess⟩ := exists_succ hFuel
    simp only [List.length_append, List.length_cons] at hLess
    obtain ⟨middle, hValue, hMiddle⟩ := ih fuel (byte ',' :: (later ++ byte ']' :: rest))
      (by omega) (avoids_cons (by decide) _) (avoids_cons (by decide) _)
    rw [List.append_assoc, List.cons_append, items_succ, bind_of_eq hValue]
    exact follow_more hMiddle (ihRest fuel rest (by omega))
  | @lastMember _ _ front bytes hKey h ih =>
    intro fuel rest hFuel
    obtain ⟨fuel, rfl, hLess⟩ := exists_succ hFuel
    simp only [List.length_append] at hLess
    obtain ⟨middle, hValue, hMiddle⟩ := ih fuel (0x7D :: rest) (by omega)
      (avoids_cons (by decide) _) (avoids_cons (by decide) _)
    rw [List.append_assoc, members_succ, bind_of_eq (key_run hKey _), bind_of_eq hValue]
    exact follow_last (by decide) hMiddle
  | @moreMembers _ _ _ front bytes later hKey h hRest ih ihRest =>
    intro fuel rest hFuel
    obtain ⟨fuel, rfl, hLess⟩ := exists_succ hFuel
    simp only [List.length_append, List.length_cons] at hLess
    obtain ⟨middle, hValue, hMiddle⟩ := ih fuel (byte ',' :: (later ++ 0x7D :: rest))
      (by omega) (avoids_cons (by decide) _) (avoids_cons (by decide) _)
    rw [List.append_assoc, List.append_assoc, List.cons_append, members_succ,
      bind_of_eq (key_run hKey _), bind_of_eq hValue]
    exact follow_more hMiddle (ihRest fuel rest (by omega))

/-! ## Texts -/

theorem read?_eq_some_iff {v : Json Raw} : read? bytes = some v ↔ IsText v bytes := by
  constructor
  · intro h
    obtain ⟨⟨w, rest⟩, hValue, hEnd⟩ := Option.bind_eq_some_iff.mp h
    dsimp only at hEnd
    split at hEnd
    · rename_i hBlank
      obtain rfl := Option.some.inj hEnd
      obtain ⟨used, hUsed, hBytes⟩ := (sound _).ofValue hValue
      obtain ⟨blank, hBefore, rfl⟩ := eq_blank_append hBytes
      exact .item hBefore (fun b hb => List.all_eq_true.mp hBlank b hb) hUsed
    · cases hEnd
  · intro h
    obtain ⟨rest, hValue, hRest⟩ := h.read (bytes.length + 1) [] (by omega) (by simp [Avoids])
      (by simp [Avoids])
    have hBlank : rest.all isSpace = true := by
      rw [List.dropWhile_eq_nil_iff] at hRest
      exact List.all_eq_true.mpr hRest
    rw [List.append_nil] at hValue
    show (value (bytes.length + 1) bytes).bind _ = _
    rw [hValue]
    show (if rest.all isSpace = true then some v else none) = _
    rw [if_pos hBlank]

end TypeRepair.Json
