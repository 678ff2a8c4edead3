import Mathlib.Data.List.Pairwise
import TypeRepair.Proofs.Json.Grammar

/-!
# Reading words of JSON

The readers of strings and numbers take exactly the words of the grammar from the front. For each of
them there is one lemma by which what was taken is such a word, and one by which such a word is
taken; a number has to end where it could not go on.
-/

namespace TypeRepair.Json.Reader

/-! ## Sequences -/

section

variable {α β : Type} {x : Reader α} {next : α → Reader β} {bytes middle : Bytes}

theorem bind_eq_some_iff {result : β × Bytes} :
    (x >>= next) bytes = some result ↔
      ∃ a middle, x bytes = some (a, middle) ∧ next a middle = some result := by
  show (x bytes).bind _ = some result ↔ _
  constructor
  · intro h
    obtain ⟨⟨a, middle⟩, hFirst, hNext⟩ := Option.bind_eq_some_iff.mp h
    exact ⟨a, middle, hFirst, hNext⟩
  · rintro ⟨a, middle, hFirst, hNext⟩
    exact Option.bind_eq_some_iff.mpr ⟨(a, middle), hFirst, hNext⟩

theorem bind_of_eq {a : α} (h : x bytes = some (a, middle)) :
    (x >>= next) bytes = next a middle := by
  show (x bytes).bind _ = _
  rw [h]
  rfl

theorem pure_eq_some_iff {a b : α} :
    (pure a : Reader α) bytes = some (b, middle) ↔ a = b ∧ bytes = middle := by
  show some (a, bytes) = some (b, middle) ↔ _
  rw [Option.some.injEq, Prod.mk.injEq]

theorem failure_ne_some {result : α × Bytes} : (failure : Reader α) bytes ≠ some result := by
  intro h
  cases h

end

/-! ## Bytes -/

variable {bytes rest : Bytes}

theorem spaces_eq (bytes : Bytes) : spaces bytes = some ((), bytes.dropWhile isSpace) := rfl

theorem spaces_run {blank : Bytes} (hBlank : IsBlank blank) (hRest : Avoids isSpace rest) :
    spaces (blank ++ rest) = some ((), rest) := by
  rw [spaces_eq, dropWhile_eq hBlank hRest]

theorem peek_eq (bytes : Bytes) : peek bytes = some (bytes.head?, bytes) := rfl

theorem next_eq_some_iff {b : UInt8} : next bytes = some (b, rest) ↔ bytes = b :: rest := by
  cases bytes with
  | nil => simp [next]
  | cons c bytes => simp [next]

theorem word_eq_some_iff {text : String} :
    word text bytes = some ((), rest) ↔ bytes = Text.encode text ++ rest := by
  have hPrefix : (Text.encode text).isPrefixOf? bytes = some rest ↔
      Text.encode text ++ rest = bytes := List.isPrefixOf?_eq_some_iff_append_eq
  rw [eq_comm (a := bytes), ← hPrefix, word, Option.map_eq_some_iff]
  simp

theorem option_taken {allowed : List Char} {taken : Bytes}
    (h : option allowed bytes = some (taken, rest)) :
    IsOptional allowed taken ∧ bytes = taken ++ rest := by
  obtain ⟨front, _, hPeek, h⟩ := bind_eq_some_iff.mp h
  obtain ⟨rfl, rfl⟩ := Prod.mk.inj (Option.some.inj hPeek)
  cases bytes with
  | nil =>
    obtain ⟨rfl, rfl⟩ := pure_eq_some_iff.mp h
    exact ⟨.inl rfl, rfl⟩
  | cons b bytes =>
    dsimp only [List.head?_cons] at h
    split at h
    · rename_i hAllowed
      obtain ⟨c, _, hNext, h⟩ := bind_eq_some_iff.mp h
      obtain ⟨rfl, rfl⟩ := List.cons.inj (next_eq_some_iff.mp hNext)
      obtain ⟨rfl, rfl⟩ := pure_eq_some_iff.mp h
      obtain ⟨c, hc, rfl⟩ := List.mem_map.mp (List.contains_iff_mem.mp hAllowed)
      exact ⟨.inr ⟨c, hc, rfl⟩, rfl⟩
    · obtain ⟨rfl, rfl⟩ := pure_eq_some_iff.mp h
      exact ⟨.inl rfl, rfl⟩

theorem option_run {allowed : List Char} {taken : Bytes} (h : IsOptional allowed taken)
    (hRest : taken = [] → Avoids (allowed.map byte).contains rest) :
    option allowed (taken ++ rest) = some (taken, rest) := by
  rw [option, bind_of_eq (peek_eq _)]
  rcases h with rfl | ⟨c, hc, rfl⟩
  · cases rest with
    | nil => rfl
    | cons b rest =>
      have hOther : (allowed.map byte).contains b = false := hRest rfl b rfl
      dsimp only [List.nil_append, List.head?_cons]
      rw [hOther]
      rfl
  · have hAllowed : (allowed.map byte).contains (byte c) = true :=
      List.contains_iff_mem.mpr (List.mem_map_of_mem hc)
    dsimp only [List.singleton_append, List.head?_cons]
    rw [if_pos hAllowed]
    rfl

/-! ## Strings -/

theorem letter_ne_code {e : UInt8} (h : e ∈ "\"\\/bfnrt".toList.map byte) : e ≠ byte 'u' := by
  rintro rfl
  exact absurd h (by decide)

theorem stringRest_taken {seen : Bytes} {raw : Raw} (h : stringRest seen bytes = some (raw, rest)) :
    ∃ body, StringBody body ∧ bytes = body ++ 0x22 :: rest ∧ raw = seen.reverse ++ body := by
  fun_induction stringRest seen bytes with
  | case2 seen bytes =>
    obtain ⟨rfl, rfl⟩ := Prod.mk.inj (Option.some.inj h)
    exact ⟨[], .nil, rfl, by simp⟩
  | case5 seen h₁ h₂ h₃ h₄ bytes hDigits hQuote hControl ih =>
    obtain ⟨body, hBody, rfl, rfl⟩ := ih h
    exact ⟨_, .code (List.all_eq_true.mp hDigits) hBody, rfl, by simp⟩
  | case8 seen e bytes hCode hLetter hQuote hControl ih =>
    obtain ⟨body, hBody, rfl, rfl⟩ := ih h
    exact ⟨_, .letter (List.contains_iff_mem.mp hLetter) hBody, rfl, by simp⟩
  | case10 seen b bytes hQuote hControl hBackslash ih =>
    obtain ⟨body, hBody, rfl, rfl⟩ := ih h
    exact ⟨_, .plain hQuote hControl hBackslash hBody, rfl, by simp⟩
  | _ => cases h

theorem stringRest_run {body : Raw} (h : StringBody body) (seen rest : Bytes) :
    stringRest seen (body ++ 0x22 :: rest) = some (seen.reverse ++ body, rest) := by
  induction h generalizing seen with
  | nil =>
    rw [stringRest.eq_def]
    simp
  | plain hQuote hControl hBackslash hRest ih =>
    rw [List.cons_append, stringRest.eq_def]
    dsimp only
    rw [if_neg hQuote, if_neg hControl, if_neg hBackslash, ih]
    simp
  | letter hLetter hRest ih =>
    rw [List.cons_append, List.cons_append, stringRest.eq_def]
    dsimp only
    rw [if_neg (by decide), if_neg (by decide), if_pos rfl, if_neg (letter_ne_code hLetter),
      if_pos (List.contains_iff_mem.mpr hLetter), ih]
    simp
  | code hDigits hRest ih =>
    simp only [List.cons_append]
    rw [stringRest.eq_def]
    dsimp only
    rw [if_neg (by decide), if_neg (by decide), if_pos rfl, if_pos rfl,
      if_pos (List.all_eq_true.mpr hDigits), ih]
    simp

/-! ## Numbers -/

theorem digits_taken {ds : Bytes} (h : digits bytes = some (ds, rest)) :
    IsDigits ds ∧ bytes = ds ++ rest := by
  obtain ⟨_, _, hTaken, h⟩ := bind_eq_some_iff.mp h
  obtain ⟨rfl, rfl⟩ := Prod.mk.inj (Option.some.inj hTaken)
  split at h
  · exact absurd h failure_ne_some
  · rename_i hSome
    obtain ⟨rfl, rfl⟩ := pure_eq_some_iff.mp h
    exact ⟨⟨hSome, fun b hb => List.mem_takeWhile_imp hb⟩, List.takeWhile_append_dropWhile.symm⟩

theorem digits_run {ds : Bytes} (h : IsDigits ds) (hRest : Avoids isDigit rest) :
    digits (ds ++ rest) = some (ds, rest) := by
  have hRead : takeWhile isDigit (ds ++ rest) = some (ds, rest) := by
    show some (_, _) = _
    rw [takeWhile_eq h.2 hRest, dropWhile_eq h.2 hRest]
  rw [digits, bind_of_eq hRead, if_neg h.1]
  rfl

-- The parts of a number, each as a reader of its own.

def whole : Reader Bytes := do
  let ds ← digits
  if ds.length > 1 ∧ ds.head? = some (byte '0') then failure else pure ds

def fraction (point : Bytes) : Reader Bytes :=
  if point = [] then pure [] else digits

def power (mark : Bytes) : Reader Bytes :=
  if mark = [] then pure [] else do
    let sign ← option ['+', '-']
    let ds ← digits
    pure (sign ++ ds)

theorem ite_bind {α β : Type} {p : Prop} [Decidable p] {x y : Reader α} {next : α → Reader β} :
    (if p then x else y) >>= next = if p then x >>= next else y >>= next := by
  split <;> rfl

theorem number_eq : number = (do
    let sign ← option ['-']
    let whole ← whole
    let point ← option ['.']
    let fraction ← fraction point
    let mark ← option ['e', 'E']
    let power ← power mark
    pure (Text.decodeLossy (sign ++ whole ++ point ++ fraction ++ mark ++ power)) :
      Reader String) := by
  simp only [number, whole, fraction, power, bind_assoc, ite_bind]

theorem whole_taken {ds : Bytes} (h : whole bytes = some (ds, rest)) :
    IsWhole ds ∧ bytes = ds ++ rest := by
  obtain ⟨read, middle, hRead, hEnd⟩ := bind_eq_some_iff.mp h
  split at hEnd
  · exact absurd hEnd failure_ne_some
  · rename_i hZero
    obtain ⟨rfl, rfl⟩ := pure_eq_some_iff.mp hEnd
    obtain ⟨hDigits, hBytes⟩ := digits_taken hRead
    exact ⟨⟨hDigits, fun hHead => Nat.not_lt.mp fun hLong => hZero ⟨hLong, hHead⟩⟩, hBytes⟩

theorem fraction_taken {point ds middle : Bytes}
    (hPoint : option ['.'] bytes = some (point, middle))
    (hDigits : fraction point middle = some (ds, rest)) :
    IsFraction (point ++ ds) ∧ bytes = point ++ (ds ++ rest) := by
  unfold fraction at hDigits
  obtain ⟨rfl | ⟨c, hc, rfl⟩, rfl⟩ := option_taken hPoint
  · obtain ⟨rfl, rfl⟩ := pure_eq_some_iff.mp hDigits
    exact ⟨.inl rfl, rfl⟩
  · obtain ⟨hDs, rfl⟩ := digits_taken hDigits
    rw [List.mem_singleton.mp hc]
    exact ⟨.inr ⟨ds, hDs, rfl⟩, rfl⟩

theorem power_taken {mark text middle : Bytes}
    (hMark : option ['e', 'E'] bytes = some (mark, middle))
    (hPower : power mark middle = some (text, rest)) :
    IsPower (mark ++ text) ∧ bytes = mark ++ (text ++ rest) := by
  unfold power at hPower
  obtain ⟨rfl | ⟨c, hc, rfl⟩, rfl⟩ := option_taken hMark
  · obtain ⟨rfl, rfl⟩ := pure_eq_some_iff.mp hPower
    exact ⟨.inl rfl, rfl⟩
  · rw [if_neg (List.cons_ne_nil _ _)] at hPower
    obtain ⟨sign, _, hSign, hRead⟩ := bind_eq_some_iff.mp hPower
    obtain ⟨ds, _, hDs, hEnd⟩ := bind_eq_some_iff.mp hRead
    obtain ⟨rfl, rfl⟩ := pure_eq_some_iff.mp hEnd
    obtain ⟨hOptional, rfl⟩ := option_taken hSign
    obtain ⟨hDigits, rfl⟩ := digits_taken hDs
    refine ⟨.inr ⟨c, hc, sign, ds, hOptional, hDigits, rfl⟩, ?_⟩
    simp only [List.append_assoc]

theorem number_taken {written : String} (h : number bytes = some (written, rest)) :
    ∃ used, IsNumber used ∧ bytes = used ++ rest ∧ written = Text.decodeLossy used := by
  rw [number_eq] at h
  obtain ⟨sign, _, hSign, h₁⟩ := bind_eq_some_iff.mp h
  obtain ⟨ds, _, hWhole, h₂⟩ := bind_eq_some_iff.mp h₁
  obtain ⟨point, _, hPoint, h₃⟩ := bind_eq_some_iff.mp h₂
  obtain ⟨afterPoint, _, hFraction, h₄⟩ := bind_eq_some_iff.mp h₃
  obtain ⟨mark, _, hMark, h₅⟩ := bind_eq_some_iff.mp h₄
  obtain ⟨afterMark, _, hPower, h₆⟩ := bind_eq_some_iff.mp h₅
  obtain ⟨rfl, rfl⟩ := pure_eq_some_iff.mp h₆
  obtain ⟨isSign, rfl⟩ := option_taken hSign
  obtain ⟨isWhole, rfl⟩ := whole_taken hWhole
  obtain ⟨isFraction, rfl⟩ := fraction_taken hPoint hFraction
  obtain ⟨isPower, rfl⟩ := power_taken hMark hPower
  refine ⟨_, ⟨sign, ds, point ++ afterPoint, mark ++ afterMark, isSign, isWhole, isFraction,
    isPower, rfl⟩, ?_, ?_⟩
  · simp only [List.append_assoc]
  · simp only [List.append_assoc]

theorem whole_run {ds : Bytes} (h : IsWhole ds) (hRest : Avoids isDigit rest) :
    whole (ds ++ rest) = some (ds, rest) := by
  have hZero : ¬(ds.length > 1 ∧ ds.head? = some (byte '0')) := by
    rintro ⟨hLong, hHead⟩
    have hShort := h.2 hHead
    omega
  rw [whole, bind_of_eq (digits_run h.1 hRest), if_neg hZero]
  rfl

theorem fraction_run {text : Bytes} (h : IsFraction text) (hDigit : Avoids isDigit rest)
    (hPoint : Avoids (['.'].map byte).contains rest) :
    ∃ point ds, text = point ++ ds ∧ option ['.'] (text ++ rest) = some (point, ds ++ rest) ∧
      fraction point (ds ++ rest) = some (ds, rest) := by
  rcases h with rfl | ⟨ds, hDs, rfl⟩
  · exact ⟨[], [], rfl, option_run (.inl rfl) fun _ => hPoint, rfl⟩
  · exact ⟨[byte '.'], ds, rfl, rfl, digits_run hDs hDigit⟩

theorem avoids_sign {ds : Bytes} (h : IsDigits ds) (rest : Bytes) :
    Avoids (['+', '-'].map byte).contains (ds ++ rest) := by
  obtain ⟨d, ds, rfl⟩ := List.exists_cons_of_ne_nil h.1
  have hDigit : isDigit d = true := h.2 d (by simp)
  apply avoids_cons
  apply Bool.eq_false_iff.mpr
  intro hSign
  simp only [List.contains_iff_mem, List.map_cons, List.map_nil, List.mem_cons, List.not_mem_nil,
    or_false] at hSign
  rcases hSign with rfl | rfl <;> exact absurd hDigit (by decide)

theorem power_run {text : Bytes} (h : IsPower text) (hDigit : Avoids isDigit rest)
    (hMark : Avoids (['e', 'E'].map byte).contains rest) :
    ∃ mark ds, text = mark ++ ds ∧ option ['e', 'E'] (text ++ rest) = some (mark, ds ++ rest) ∧
      power mark (ds ++ rest) = some (ds, rest) := by
  rcases h with rfl | ⟨mark, hChar, sign, ds, hSign, hDs, rfl⟩
  · exact ⟨[], [], rfl, option_run (.inl rfl) fun _ => hMark, rfl⟩
  · refine ⟨[byte mark], sign ++ ds, rfl, ?_, ?_⟩
    · exact option_run (.inr ⟨mark, hChar, rfl⟩) fun hNil => absurd hNil (List.cons_ne_nil _ _)
    · rw [power, if_neg (List.cons_ne_nil _ _), List.append_assoc,
        bind_of_eq (option_run hSign fun _ => avoids_sign hDs rest),
        bind_of_eq (digits_run hDs hDigit)]
      rfl

/-- A byte with which a number might go on. -/
def goesOn (b : UInt8) : Bool := isDigit b || (['.', 'e', 'E'].map byte).contains b

theorem avoids_digit (h : Avoids goesOn rest) : Avoids isDigit rest :=
  h.mono fun b hb => by simp [goesOn, hb]

theorem avoids_marks {marks : List Char} (hMarks : marks ⊆ ['.', 'e', 'E'])
    (h : Avoids goesOn rest) : Avoids (marks.map byte).contains rest := by
  apply h.mono
  intro b hb
  have hMark : b ∈ ['.', 'e', 'E'].map byte :=
    List.map_subset byte hMarks (List.contains_iff_mem.mp hb)
  rw [goesOn, List.contains_iff_mem.mpr hMark, Bool.or_true]

theorem avoids_of_power {text : Bytes} (h : IsPower text) (hRest : Avoids goesOn rest) :
    Avoids isDigit (text ++ rest) ∧ Avoids (['.'].map byte).contains (text ++ rest) := by
  rcases h with rfl | ⟨mark, hMark, sign, ds, -, -, rfl⟩
  · exact ⟨avoids_digit hRest, avoids_marks (by simp) hRest⟩
  · simp only [List.mem_cons, List.not_mem_nil, or_false] at hMark
    rcases hMark with rfl | rfl <;> exact ⟨avoids_cons (by decide) _, avoids_cons (by decide) _⟩

theorem avoids_of_fraction {text : Bytes} (h : IsFraction text) (hRest : Avoids isDigit rest) :
    Avoids isDigit (text ++ rest) := by
  rcases h with rfl | ⟨ds, -, rfl⟩
  · exact hRest
  · exact avoids_cons (by decide) _

theorem number_run {used : Bytes} (h : IsNumber used) (hRest : Avoids goesOn rest) :
    number (used ++ rest) = some (Text.decodeLossy used, rest) := by
  obtain ⟨sign, ds, afterWhole, afterFraction, hSign, hWhole, hFraction, hPower, rfl⟩ := h
  obtain ⟨hDigit, hPoint⟩ := avoids_of_power hPower hRest
  have hMinus : Avoids (['-'].map byte).contains (ds ++ (afterWhole ++ (afterFraction ++ rest))) :=
    (avoids_sign hWhole.1 _).mono fun b hb => by simp_all
  have hAfterWhole := avoids_of_fraction hFraction hDigit
  obtain ⟨point, decimals, rfl, hReadPoint, hReadFraction⟩ := fraction_run hFraction hDigit hPoint
  obtain ⟨mark, exponent, rfl, hReadMark, hReadPower⟩ :=
    power_run hPower (avoids_digit hRest) (avoids_marks (by simp) hRest)
  have hBytes : sign ++ (ds ++ (point ++ decimals ++ (mark ++ exponent))) ++ rest =
      sign ++ (ds ++ (point ++ decimals ++ (mark ++ exponent ++ rest))) := by
    simp only [List.append_assoc]
  rw [number_eq, hBytes, bind_of_eq (option_run hSign fun _ => hMinus),
    bind_of_eq (whole_run hWhole hAfterWhole), bind_of_eq hReadPoint, bind_of_eq hReadFraction,
    bind_of_eq hReadMark, bind_of_eq hReadPower]
  simp only [List.append_assoc]
  rfl

/-! ## Keys -/

/-- The key of a member and the colon after it. -/
def key : Reader Raw := do
  spaces
  word "\""
  let key ← stringRest []
  spaces
  word ":"
  pure key

theorem key_taken {name : Raw} (h : key bytes = some (name, rest)) :
    ∃ front, IsKey name front ∧ bytes = front ++ rest := by
  obtain ⟨_, _, hBefore, h₁⟩ := bind_eq_some_iff.mp h
  obtain ⟨_, _, hQuote, h₂⟩ := bind_eq_some_iff.mp h₁
  obtain ⟨text, middle, hText, h₃⟩ := bind_eq_some_iff.mp h₂
  obtain ⟨_, _, hAfter, h₄⟩ := bind_eq_some_iff.mp h₃
  obtain ⟨_, _, hColon, h₅⟩ := bind_eq_some_iff.mp h₄
  obtain ⟨rfl, rfl⟩ := pure_eq_some_iff.mp h₅
  obtain ⟨-, rfl⟩ := Prod.mk.inj (Option.some.inj hBefore)
  obtain ⟨-, rfl⟩ := Prod.mk.inj (Option.some.inj hAfter)
  obtain ⟨body, hBody, hString, rfl⟩ := stringRest_taken hText
  refine ⟨_, ⟨bytes.takeWhile isSpace, middle.takeWhile isSpace, isBlank_takeWhile _, hBody,
    isBlank_takeWhile _, rfl⟩, ?_⟩
  have hFirst := List.takeWhile_append_dropWhile (p := isSpace) (l := bytes)
  have hSecond := List.takeWhile_append_dropWhile (p := isSpace) (l := middle)
  rw [word_eq_some_iff.mp hQuote, hString] at hFirst
  rw [word_eq_some_iff.mp hColon] at hSecond
  generalize bytes.takeWhile isSpace = before at *
  generalize middle.takeWhile isSpace = after at *
  rw [← hFirst, ← hSecond, List.append_assoc, List.append_assoc, quote_append, List.append_assoc]
  rfl

theorem key_run {name : Raw} {front : Bytes} (h : IsKey name front) (rest : Bytes) :
    key (front ++ rest) = some (name, rest) := by
  obtain ⟨before, after, hBefore, hName, hAfter, rfl⟩ := h
  have hBytes : before ++ (quote name ++ (after ++ [byte ':'])) ++ rest =
      before ++ (0x22 :: (name ++ 0x22 :: (after ++ byte ':' :: rest))) := by
    rw [List.append_assoc, List.append_assoc, quote_append, List.append_assoc]
    rfl
  have hOpen : word "\"" (0x22 :: (name ++ 0x22 :: (after ++ byte ':' :: rest))) =
      some ((), name ++ 0x22 :: (after ++ byte ':' :: rest)) := word_eq_some_iff.mpr rfl
  have hColon : word ":" (byte ':' :: rest) = some ((), rest) := word_eq_some_iff.mpr rfl
  rw [key, hBytes, bind_of_eq (spaces_run hBefore (avoids_cons (by decide) _)), bind_of_eq hOpen,
    bind_of_eq (stringRest_run hName [] _),
    bind_of_eq (spaces_run hAfter (avoids_cons (by decide) _)), bind_of_eq hColon]
  rfl

end TypeRepair.Json.Reader
