import TypeRepair.Proofs.Text.Lines
import TypeRepair.Text.Digit

/-!
# Numbers in texts

* `readNat?_toDigits`, `toDigits_injective`: the decimal digits of a number tell the number.
* `head?_toDigits_ne`: they do not start with a zero, but for zero itself.
* `toDigits_append_inj`: a number ends where no digit follows.
* `append_toDigits_inj`: read from the right, it starts where no digit precedes.
* `toString_append_inj`, `framed_inj`: the same for printed numbers inside of texts.
-/

namespace TypeRepair.Text

theorem isDigit_of_mem_toDigits {n : Nat} {c : Char} (hc : c ∈ Nat.toDigits 10 n) :
    c.isDigit = true :=
  Nat.isDigit_of_mem_toDigits (by decide) (by decide) hc

/-- A number that was printed is read back. -/
theorem readNat?_toDigits (n : Nat) : readNat? (Nat.toDigits 10 n) = some n := by
  have hDigits : (Nat.toDigits 10 n).all Char.isDigit = true := by
    rw [List.all_eq_true]
    exact fun c hc => isDigit_of_mem_toDigits hc
  have hValue : digitsValue (Nat.toDigits 10 n) = n := by
    have hCore := Nat.ofDigitChars_ten_toDigits (n := n)
    rw [Nat.ofDigitChars_eq_foldl] at hCore
    simpa only [digitsValue, Nat.mul_comm] using hCore
  rw [readNat?, if_pos ⟨Nat.toDigits_ne_nil, hDigits⟩, hValue]

theorem toDigits_injective {m n : Nat} (h : Nat.toDigits 10 m = Nat.toDigits 10 n) : m = n := by
  apply Option.some.inj
  rw [← readNat?_toDigits m, h, readNat?_toDigits]

theorem toList_toString (n : Nat) : (toString n).toList = Nat.toDigits 10 n := by
  simp

theorem toString_injective {m n : Nat} (h : toString m = toString n) : m = n :=
  toDigits_injective (by simpa using congrArg String.toList h)

theorem newline_notMem_toString (n : Nat) : '\n' ∉ (toString n).toList := by
  rw [toList_toString]
  exact fun h => absurd (isDigit_of_mem_toDigits h) (by decide)

theorem head?_toDigits_ne {n : Nat} (h : 0 < n) : (Nat.toDigits 10 n).head? ≠ some '0' := by
  induction n using Nat.strongRecOn with
  | ind n ih =>
    by_cases hSmall : n < 10
    · rw [Nat.toDigits_of_lt_base hSmall]
      have hDigits : ∀ d < 10, 0 < d → [Nat.digitChar d].head? ≠ some '0' := by decide
      exact hDigits n hSmall h
    · rw [Nat.toDigits_of_base_le (by decide) (by omega),
        List.head?_append_of_ne_nil _ Nat.toDigits_ne_nil]
      exact ih (n / 10) (by omega) (by omega)

theorem toDigits_append_inj {m n : Nat} {word word' : List Char}
    (hWord : word.head?.map Char.isDigit = some false)
    (hWord' : word'.head?.map Char.isDigit = some false)
    (h : Nat.toDigits 10 m ++ word = Nat.toDigits 10 n ++ word') : m = n ∧ word = word' := by
  have hDigits : ∀ k, ∀ c ∈ Nat.toDigits 10 k, c.isDigit = true :=
    fun k c hc => isDigit_of_mem_toDigits hc
  have hLeft := span_word (hDigits m) hWord []
  have hRight := span_word (hDigits n) hWord' []
  rw [List.append_nil] at hLeft hRight
  rw [h] at hLeft
  exact ⟨toDigits_injective (hLeft.1.symm.trans hRight.1), hLeft.2.symm.trans hRight.2⟩

theorem append_toDigits_inj {m n : Nat} {front front' : List Char}
    (hFront : front.getLast?.map Char.isDigit = some false)
    (hFront' : front'.getLast?.map Char.isDigit = some false)
    (h : front ++ Nat.toDigits 10 m = front' ++ Nat.toDigits 10 n) : front = front' ∧ m = n := by
  have hDigits : ∀ k, ∀ c ∈ (Nat.toDigits 10 k).reverse, c.isDigit = true :=
    fun k c hc => isDigit_of_mem_toDigits (List.mem_reverse.mp hc)
  rw [← List.head?_reverse] at hFront hFront'
  have hLeft := span_word (hDigits m) hFront []
  have hRight := span_word (hDigits n) hFront' []
  rw [List.append_nil, ← List.reverse_append] at hLeft hRight
  rw [h] at hLeft
  exact ⟨List.reverse_injective (hLeft.2.symm.trans hRight.2),
    toDigits_injective (List.reverse_injective (hLeft.1.symm.trans hRight.1))⟩

/-! ## Printed numbers -/

/-- A printed number is told if a fixed text without a digit at the seam follows it. -/
theorem toString_append_inj {between rest rest' : String} {m n : Nat}
    (hBetween : between.toList.head?.map Char.isDigit = some false)
    (h : toString m ++ (between ++ rest) = toString n ++ (between ++ rest')) :
    m = n ∧ rest = rest' := by
  have hLater : ∀ later : String,
      (between ++ later).toList.head?.map Char.isDigit = some false := by
    intro later
    rw [String.toList_append, List.head?_append]
    cases hHead : between.toList.head? with
    | none => rw [hHead] at hBetween; cases hBetween
    | some c => rwa [hHead] at hBetween
  have hSplit : ∀ (k : Nat) (later : String),
      (toString k ++ later).toList = Nat.toDigits 10 k ++ later.toList := fun k later => by
    rw [String.toList_append, toList_toString]
  have hChars := congrArg String.toList h
  rw [hSplit, hSplit] at hChars
  obtain ⟨hNumber, hTexts⟩ := toDigits_append_inj (hLater _) (hLater _) hChars
  exact ⟨hNumber, (String.append_right_inj between).mp (String.toList_inj.mp hTexts)⟩

/-- A printed number is told from its right end, and so is the text that stands before it, if fixed
texts without a digit at the seam are around them. -/
theorem framed_inj {before between after text text' : String} {m n : Nat}
    (hBetween : between.toList.getLast?.map Char.isDigit = some false)
    (h : before ++ text ++ between ++ toString m ++ after =
      before ++ text' ++ between ++ toString n ++ after) : text = text' ∧ m = n := by
  have hFront : ∀ front : String,
      (front ++ between).toList.getLast?.map Char.isDigit = some false := by
    intro front
    rw [String.toList_append, List.getLast?_append]
    cases hLast : between.toList.getLast? with
    | none => rw [hLast] at hBetween; cases hBetween
    | some c => rwa [hLast] at hBetween
  have hSplit : ∀ (front : String) (k : Nat),
      (front ++ toString k).toList = front.toList ++ Nat.toDigits 10 k := fun front k => by
    rw [String.toList_append, toList_toString]
  have hChars := congrArg String.toList ((String.append_left_inj after).mp h)
  rw [hSplit, hSplit] at hChars
  obtain ⟨hTexts, hNumber⟩ := append_toDigits_inj (hFront _) (hFront _) hChars
  have hText := (String.append_left_inj between).mp (String.toList_inj.mp hTexts)
  exact ⟨(String.append_right_inj before).mp hText, hNumber⟩

end TypeRepair.Text
