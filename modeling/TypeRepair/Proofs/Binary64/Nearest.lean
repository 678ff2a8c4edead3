import Mathlib.Algebra.Order.Field.Rat
import Mathlib.Algebra.Order.Field.Power
import Mathlib.Data.Nat.Log
import Mathlib.Tactic.FieldSimp
import Mathlib.Tactic.Linarith
import Mathlib.Tactic.Positivity
import Mathlib.Tactic.Ring
import TypeRepair.Binary64

/-!
# Rounding to the nearest number

The value of a binary64 number is a fraction, and each operation returns the number whose value is
nearest to the exact result; of two numbers equally near it returns the one with an even mantissa.

* `nearestWhole_roundDiv`: the same for whole numbers.
* `isNearest_roundAt`: rounding at an exponent that leaves a mantissa of 53 bits.
* `isNearest_ofRatio`, `isNearest_ofNat`, `isNearest_div`, `isNearest_mul`: the operations.
* `IsNearest.le`, `IsNearest.lt`, `IsNearest.next_le`: on which side of a number a rounded one lies.
* `value_ofNat_mono`, `value_ofNat_two_mul`: rounded whole numbers keep their order, and a double
  stays one.
-/

namespace TypeRepair

/-! ## Whole numbers -/

/-- Rounding a quotient moves it by half a unit at most, and by so much only to an even number. -/
theorem roundDiv_bounds (num : ℕ) {den : ℕ} (h : 0 < den) :
    2 * num ≤ (2 * roundDiv num den + 1) * den ∧ 2 * roundDiv num den * den ≤ 2 * num + den ∧
      (2 * num = (2 * roundDiv num den + 1) * den ∨ 2 * roundDiv num den * den = 2 * num + den →
        Even (roundDiv num den)) := by
  have hDivMod := Nat.div_add_mod num den
  have hMod := Nat.mod_lt num h
  simp only [roundDiv]
  generalize num / den = quotient at hDivMod
  generalize num % den = rest at hDivMod hMod
  subst hDivMod
  split
  · refine ⟨by nlinarith, by nlinarith, ?_⟩
    rintro (hTie | hTie) <;> nlinarith
  · split
    · refine ⟨by nlinarith, by nlinarith, ?_⟩
      rintro (hTie | hTie) <;> nlinarith
    · have hHalf : 2 * rest = den := by omega
      rcases Nat.even_or_odd quotient with hEven | hOdd
      · rw [Nat.even_iff.mp hEven]
        exact ⟨by nlinarith, by nlinarith, fun _ => hEven⟩
      · rw [Nat.odd_iff.mp hOdd]
        exact ⟨by nlinarith, by nlinarith, fun _ => hOdd.add_one⟩

theorem roundDiv_mul_left {k : ℕ} (h : 0 < k) (num den : ℕ) :
    roundDiv (k * num) (k * den) = roundDiv num den := by
  have hTwice : 2 * (k * (num % den)) = k * (2 * (num % den)) := Nat.mul_left_comm 2 k _
  simp only [roundDiv, Nat.mul_mod_mul_left, Nat.mul_div_mul_left _ _ h, hTwice,
    Nat.mul_lt_mul_left h]

/-- The whole number is the nearest one, and even if there are two. -/
structure NearestWhole (t : ℚ) (m : ℕ) : Prop where
  half : |t - m| ≤ 1 / 2
  even : |t - m| = 1 / 2 → Even m

theorem nearestWhole_roundDiv (num : ℕ) {den : ℕ} (h : 0 < den) :
    NearestWhole (num / den) (roundDiv num den) := by
  obtain ⟨hAbove, hBelow, hEven⟩ := roundDiv_bounds num h
  have hDen : (0 : ℚ) < den := by exact_mod_cast h
  have hAbove' : (2 * num : ℚ) ≤ (2 * roundDiv num den + 1) * den := by exact_mod_cast hAbove
  have hBelow' : (2 * roundDiv num den * den : ℚ) ≤ 2 * num + den := by exact_mod_cast hBelow
  constructor
  · have hUpper : (num / den : ℚ) ≤ roundDiv num den + 1 / 2 := by
      rw [div_le_iff₀ hDen]
      linarith
    have hLower : (roundDiv num den - 1 / 2 : ℚ) ≤ num / den := by
      rw [le_div_iff₀ hDen]
      linarith
    rw [abs_le]
    constructor <;> linarith
  · intro hTie
    apply hEven
    rcases eq_or_eq_neg_of_abs_eq hTie with hTie | hTie
    · left
      have hQuotient : (num / den : ℚ) = roundDiv num den + 1 / 2 := by linarith
      rw [div_eq_iff hDen.ne'] at hQuotient
      have hTwice : (2 * num : ℚ) = (2 * roundDiv num den + 1) * den := by linarith
      exact_mod_cast hTwice
    · right
      have hQuotient : (num / den : ℚ) = roundDiv num den - 1 / 2 := by linarith
      rw [div_eq_iff hDen.ne'] at hQuotient
      have hTwice : (2 * roundDiv num den * den : ℚ) = 2 * num + den := by linarith
      exact_mod_cast hTwice

namespace NearestWhole

variable {t : ℚ} {m : ℕ}

/-- Other whole numbers lie half a unit away at least. -/
theorem half_le_dist (h : NearestWhole t m) {k : ℕ} (hOther : k ≠ m) : 1 / 2 ≤ |t - k| := by
  have hApart : (1 : ℚ) ≤ |(m : ℚ) - k| := by
    have hInt : (1 : ℤ) ≤ |(m : ℤ) - k| := Int.one_le_abs (by omega)
    exact_mod_cast hInt
  have hTriangle := abs_sub_le (m : ℚ) t k
  have hHalf := h.half
  rw [abs_sub_comm] at hHalf
  linarith

theorem le_dist (h : NearestWhole t m) (k : ℕ) : |t - m| ≤ |t - k| := by
  by_cases hSame : k = m
  · rw [hSame]
  · exact h.half.trans (h.half_le_dist hSame)

theorem even_of_tie (h : NearestWhole t m) {k : ℕ} (hOther : k ≠ m) (hTie : |t - m| = |t - k|) :
    Even m :=
  h.even (le_antisymm h.half (hTie ▸ h.half_le_dist hOther))

theorem le_of_le (h : NearestWhole t m) {k : ℕ} (hLess : (k : ℚ) ≤ t) : k ≤ m := by
  have hHalf := (abs_le.mp h.half).2
  have hNext : (k : ℚ) < (m + 1 : ℕ) := by
    push_cast
    linarith
  exact Nat.lt_succ_iff.mp (by exact_mod_cast hNext)

theorem ge_of_ge (h : NearestWhole t m) {k : ℕ} (hMore : t ≤ k) : m ≤ k := by
  have hHalf := (abs_le.mp h.half).1
  have hNext : (m : ℚ) < (k + 1 : ℕ) := by
    push_cast
    linarith
  exact Nat.lt_succ_iff.mp (by exact_mod_cast hNext)

end NearestWhole

namespace Binary64

/-! ## Values -/

/-- The value of a number. -/
def value (x : Binary64) : ℚ := x.mantissa * 2 ^ x.exponent

theorem two_zpow_pos (e : ℤ) : (0 : ℚ) < 2 ^ e := by positivity

/-- A power of two as the fraction of two whole powers. -/
theorem two_zpow_eq (e : ℤ) :
    (2 : ℚ) ^ e = (Nat.pow 2 e.toNat : ℕ) / (Nat.pow 2 (-e).toNat : ℕ) := by
  simp only [Nat.pow_eq, Nat.cast_pow, Nat.cast_ofNat]
  rw [← zpow_natCast, ← zpow_natCast, ← zpow_sub₀ two_ne_zero]
  congr 1
  omega

theorem num_div_den (x : Binary64) : (x.num / x.den : ℚ) = x.value := by
  rw [value, two_zpow_eq, num, den, Nat.cast_mul, mul_div_assoc]

theorem num_pos {x : Binary64} (h : 0 < x.value) : 0 < x.num := by
  rw [← num_div_den] at h
  by_contra hZero
  rw [Nat.eq_zero_of_not_pos hZero] at h
  simp at h

theorem blt_iff {x y : Binary64} : x.blt y = true ↔ x.value < y.value := by
  have hX : (0 : ℚ) < x.den := by exact_mod_cast x.den_pos
  have hY : (0 : ℚ) < y.den := by exact_mod_cast y.den_pos
  rw [blt, decide_eq_true_eq, ← num_div_den, ← num_div_den, div_lt_div_iff₀ hX hY]
  exact_mod_cast Iff.rfl

/-- A number with a mantissa of 53 bits at most is small, or a whole multiple of the power of two at
hand. -/
theorem value_lt_or_multiple {x : Binary64} (h : x.mantissa < 2 ^ 53) (e : ℤ) :
    x.value < 2 ^ 52 * 2 ^ e ∨ ∃ k : ℕ, x.value = k * 2 ^ e := by
  rcases lt_or_ge x.exponent e with hLess | hMore
  · left
    have hMantissa : (x.mantissa : ℚ) < 2 ^ 53 := by exact_mod_cast h
    have hPower : (2 : ℚ) ^ x.exponent ≤ 2 ^ (e - 1) :=
      zpow_le_zpow_right₀ one_le_two (by omega)
    have hHalf : (2 : ℚ) ^ (e - 1) * 2 = 2 ^ e := by
      rw [← zpow_add_one₀ two_ne_zero, sub_add_cancel]
    calc x.value
      _ < 2 ^ 53 * 2 ^ x.exponent := by
        rw [value]
        exact mul_lt_mul_of_pos_right hMantissa (two_zpow_pos _)
      _ ≤ 2 ^ 53 * 2 ^ (e - 1) := by gcongr
      _ = 2 ^ 52 * 2 ^ e := by rw [← hHalf]; ring
  · right
    refine ⟨x.mantissa * 2 ^ (x.exponent - e).toNat, ?_⟩
    have hPower : (2 : ℚ) ^ x.exponent = 2 ^ (x.exponent - e).toNat * 2 ^ e := by
      rw [← zpow_natCast, ← zpow_add₀ two_ne_zero]
      congr 1
      omega
    rw [value, hPower]
    push_cast
    ring

/-! ## The nearest number -/

/-- The number is rounded from an exact result: its mantissa has 53 bits, or it is zero; no number
with a mantissa of 53 bits at most is nearer; and if another one is equally near, this one has the
even mantissa. -/
structure IsNearest (exact : ℚ) (x : Binary64) : Prop where
  normal : x.mantissa = 0 ∨ (2 ^ 52 ≤ x.mantissa ∧ x.mantissa < 2 ^ 53)
  nearest : ∀ y : Binary64, y.mantissa < 2 ^ 53 → |exact - x.value| ≤ |exact - y.value|
  even : ∀ y : Binary64, y.mantissa < 2 ^ 53 → y.value ≠ x.value →
    |exact - x.value| = |exact - y.value| → Even x.mantissa

theorem roundAt_value (num den : ℕ) (e : ℤ) :
    (roundAt num den e).value =
      roundDiv (num * Nat.pow 2 (-e).toNat) (den * Nat.pow 2 e.toNat) * 2 ^ e := by
  rw [roundAt]
  split
  · rename_i hCarry
    rw [hCarry, value, zpow_add_one₀ two_ne_zero, Nat.pow_eq, Nat.pow_eq]
    push_cast
    ring
  · rfl

/-- The quotient that is rounded at an exponent. -/
theorem scaled_eq (num den : ℕ) (e : ℤ) :
    ((num * Nat.pow 2 (-e).toNat : ℕ) / (den * Nat.pow 2 e.toNat : ℕ) : ℚ) =
      num / den / 2 ^ e := by
  rw [two_zpow_eq, Nat.cast_mul, Nat.cast_mul, mul_div_mul_comm, div_div_eq_mul_div, mul_div_assoc]

/-- Rounding at an exponent that leaves a mantissa of 53 bits gives the nearest number: the others
are whole multiples of the same power of two or lie below all numbers of 53 bits. -/
theorem isNearest_roundAt {num den : ℕ} {e : ℤ} (hDen : 0 < den)
    (hLow : (2 : ℚ) ^ 52 ≤ num / den / 2 ^ e) (hHigh : (num / den / 2 ^ e : ℚ) ≤ 2 ^ 53) :
    IsNearest (num / den) (roundAt num den e) := by
  have hPower := two_zpow_pos e
  have hWhole := nearestWhole_roundDiv (num * Nat.pow 2 (-e).toNat)
    (Nat.mul_pos hDen (Nat.two_pow_pos e.toNat))
  have hValue := roundAt_value num den e
  have hMantissa : (roundAt num den e).mantissa =
      if roundDiv (num * Nat.pow 2 (-e).toNat) (den * Nat.pow 2 e.toNat) = 2 ^ 53 then 2 ^ 52
      else roundDiv (num * Nat.pow 2 (-e).toNat) (den * Nat.pow 2 e.toNat) := by
    unfold roundAt
    dsimp only [Nat.pow_eq]
    split <;> rfl
  change NearestWhole (_ / (den * Nat.pow 2 e.toNat : ℕ)) _ at hWhole
  rw [scaled_eq] at hWhole
  generalize roundDiv (num * Nat.pow 2 (-e).toNat) (den * Nat.pow 2 e.toNat) = m at *
  have hExact : (num / den : ℚ) = num / den / 2 ^ e * 2 ^ e := (div_mul_cancel₀ _ hPower.ne').symm
  generalize (num / den / 2 ^ e : ℚ) = t at *
  have hDist : ∀ k : ℚ, |t * 2 ^ e - k * 2 ^ e| = |t - k| * 2 ^ e := by
    intro k
    rw [← sub_mul, abs_mul, abs_of_pos hPower]
  have hFar : ∀ y : Binary64, y.value < 2 ^ 52 * 2 ^ e →
      |t - m| * 2 ^ e < |t * 2 ^ e - y.value| := by
    intro y hSmall
    have hLeast := hWhole.le_dist (2 ^ 52)
    rw [Nat.cast_pow, Nat.cast_ofNat, abs_of_nonneg (sub_nonneg.mpr hLow)] at hLeast
    calc |t - m| * 2 ^ e
      _ ≤ (t - 2 ^ 52) * 2 ^ e := mul_le_mul_of_nonneg_right hLeast hPower.le
      _ < t * 2 ^ e - y.value := by linarith
      _ ≤ |t * 2 ^ e - y.value| := le_abs_self _
  rw [hExact]
  refine ⟨?_, fun y hY => ?_, fun y hY hOther hTie => ?_⟩
  · have hFromBelow : 2 ^ 52 ≤ m := hWhole.le_of_le (by exact_mod_cast hLow)
    have hFromAbove : m ≤ 2 ^ 53 := hWhole.ge_of_ge (by exact_mod_cast hHigh)
    right
    rw [hMantissa]
    split <;> omega
  · rw [hValue, hDist]
    rcases value_lt_or_multiple hY e with hSmall | ⟨k, hMultiple⟩
    · exact (hFar y hSmall).le
    · rw [hMultiple, hDist]
      exact mul_le_mul_of_nonneg_right (hWhole.le_dist k) hPower.le
  · rw [hValue, hDist] at hTie
    rcases value_lt_or_multiple hY e with hSmall | ⟨k, hMultiple⟩
    · exact absurd hTie (hFar y hSmall).ne
    · rw [hMultiple, hDist] at hTie
      have hNe : k ≠ m := by
        rintro rfl
        exact hOther (hMultiple.trans hValue.symm)
      rw [hMantissa]
      split
      · decide
      · exact hWhole.even_of_tie hNe (mul_right_cancel₀ hPower.ne' hTie)

/-- A quotient of whole numbers between the powers of two that their lengths tell. -/
theorem ratio_bounds {num den : ℕ} (hNum : num ≠ 0) (hDen : den ≠ 0) :
    (2 : ℚ) ^ ((Nat.log2 num : ℤ) - Nat.log2 den - 1) < num / den ∧
      (num / den : ℚ) < 2 ^ ((Nat.log2 num : ℤ) - Nat.log2 den + 1) := by
  have hPos : (0 : ℚ) < den := by exact_mod_cast Nat.pos_of_ne_zero hDen
  have hNumLow : (2 : ℚ) ^ (Nat.log2 num : ℤ) ≤ num := by
    exact_mod_cast Nat.log2_self_le hNum
  have hNumHigh : (num : ℚ) < 2 ^ ((Nat.log2 num : ℤ) + 1) := by
    exact_mod_cast Nat.lt_log2_self
  have hDenLow : (2 : ℚ) ^ (Nat.log2 den : ℤ) ≤ den := by
    exact_mod_cast Nat.log2_self_le hDen
  have hDenHigh : (den : ℚ) < 2 ^ ((Nat.log2 den : ℤ) + 1) := by
    exact_mod_cast Nat.lt_log2_self
  constructor
  · rw [lt_div_iff₀ hPos]
    calc (2 : ℚ) ^ ((Nat.log2 num : ℤ) - Nat.log2 den - 1) * den
      _ < 2 ^ ((Nat.log2 num : ℤ) - Nat.log2 den - 1) * 2 ^ ((Nat.log2 den : ℤ) + 1) :=
        mul_lt_mul_of_pos_left hDenHigh (two_zpow_pos _)
      _ = 2 ^ (Nat.log2 num : ℤ) := by
        rw [← zpow_add₀ two_ne_zero]
        congr 1
        omega
      _ ≤ num := hNumLow
  · rw [div_lt_iff₀ hPos]
    calc (num : ℚ)
      _ < 2 ^ ((Nat.log2 num : ℤ) + 1) := hNumHigh
      _ = 2 ^ ((Nat.log2 num : ℤ) - Nat.log2 den + 1) * 2 ^ (Nat.log2 den : ℤ) := by
        rw [← zpow_add₀ two_ne_zero]
        congr 1
        omega
      _ ≤ 2 ^ ((Nat.log2 num : ℤ) - Nat.log2 den + 1) * den :=
        mul_le_mul_of_nonneg_left hDenLow (two_zpow_pos _).le

/-- A quotient of whole numbers, scaled, reaches a whole number if the rest of the division is left
out. -/
theorem le_scaled_iff (k num : ℕ) {den : ℕ} (hDen : 0 < den) (e : ℤ) :
    k ≤ num * Nat.pow 2 (-e).toNat / (den * Nat.pow 2 e.toNat) ↔ (k : ℚ) ≤ num / den / 2 ^ e := by
  have hScaledDen : 0 < den * Nat.pow 2 e.toNat := Nat.mul_pos hDen (Nat.two_pow_pos _)
  have hPos : (0 : ℚ) < (den * Nat.pow 2 e.toNat : ℕ) := by exact_mod_cast hScaledDen
  rw [Nat.le_div_iff_mul_le hScaledDen, ← scaled_eq, le_div_iff₀ hPos]
  exact_mod_cast Iff.rfl

theorem isNearest_zero : IsNearest 0 Binary64.zero := by
  have hValue : Binary64.zero.value = 0 := by simp [value, Binary64.zero]
  refine ⟨.inl rfl, fun y _ => ?_, fun y _ _ _ => Even.zero⟩
  rw [hValue, sub_zero, abs_zero]
  exact abs_nonneg _

theorem isNearest_ofRatio (num : ℕ) {den : ℕ} (hDen : 0 < den) :
    IsNearest (num / den) (ofRatio num den) := by
  unfold ofRatio
  split
  · rename_i hZero
    obtain rfl : num = 0 := by omega
    rw [Nat.cast_zero, zero_div]
    exact isNearest_zero
  · rename_i hSome
    have hNum : num ≠ 0 := by omega
    obtain ⟨hLow, hHigh⟩ := ratio_bounds hNum hDen.ne'
    dsimp only
    generalize hExponent : (Nat.log2 num : ℤ) - Nat.log2 den - 52 = e
    have hBounds : (2 : ℚ) ^ 51 < num / den / 2 ^ e ∧ (num / den / 2 ^ e : ℚ) < 2 ^ 53 := by
      rw [lt_div_iff₀ (two_zpow_pos e), div_lt_iff₀ (two_zpow_pos e), ← zpow_natCast,
        ← zpow_natCast, ← zpow_add₀ two_ne_zero, ← zpow_add₀ two_ne_zero]
      have hFirst : ((51 : ℕ) : ℤ) + e = Nat.log2 num - Nat.log2 den - 1 := by omega
      have hSecond : ((53 : ℕ) : ℤ) + e = Nat.log2 num - Nat.log2 den + 1 := by omega
      rw [hFirst, hSecond]
      exact ⟨hLow, hHigh⟩
    split
    · rename_i hLong
      rw [le_scaled_iff _ _ hDen] at hLong
      exact isNearest_roundAt hDen (by exact_mod_cast hLong) hBounds.2.le
    · -- The mantissa would have 52 bits, so that it takes half the power of two.
      rename_i hShort
      rw [le_scaled_iff _ _ hDen, not_le] at hShort
      have hShort' : (num / den / 2 ^ e : ℚ) < 2 ^ 52 := by exact_mod_cast hShort
      have hTwice : (num / den / 2 ^ (e - 1) : ℚ) = 2 * (num / den / 2 ^ e) := by
        rw [zpow_sub_one₀ two_ne_zero]
        field_simp
      apply isNearest_roundAt hDen
      · rw [hTwice]
        linarith
      · rw [hTwice]
        linarith

theorem isNearest_ofNat (n : ℕ) : IsNearest n (ofNat n) := by
  have h := isNearest_ofRatio n one_pos
  rwa [Nat.cast_one, div_one] at h

theorem isNearest_div (x : Binary64) {y : Binary64} (hY : 0 < y.value) :
    IsNearest (x.value / y.value) (x.div y) := by
  have h := isNearest_ofRatio (x.num * y.den) (Nat.mul_pos x.den_pos (num_pos hY))
  rw [Nat.cast_mul, Nat.cast_mul, mul_div_mul_comm, num_div_den, ← inv_div (y.num : ℚ),
    num_div_den, ← div_eq_mul_inv] at h
  exact h

theorem isNearest_mul (x y : Binary64) : IsNearest (x.value * y.value) (x.mul y) := by
  have h := isNearest_ofRatio (x.num * y.num) (Nat.mul_pos x.den_pos y.den_pos)
  rw [Nat.cast_mul, Nat.cast_mul, mul_div_mul_comm, num_div_den, num_div_den] at h
  exact h

/-! ## Where a rounded number lies -/

namespace IsNearest

variable {exact : ℚ} {x y : Binary64}

/-- A result that is a number itself is kept. -/
theorem value_eq (h : IsNearest y.value x) (hY : y.mantissa < 2 ^ 53) : x.value = y.value := by
  have hDist := h.nearest y hY
  rw [sub_self, abs_zero, abs_nonpos_iff, sub_eq_zero] at hDist
  exact hDist.symm

/-- Rounding does not pass a number. -/
theorem le (h : IsNearest exact x) (hY : y.mantissa < 2 ^ 53) (hLess : exact ≤ y.value) :
    x.value ≤ y.value := by
  have hDist := h.nearest y hY
  rw [abs_of_nonpos (sub_nonpos.mpr hLess)] at hDist
  have hBelow := neg_le_abs (exact - x.value)
  linarith

/-- A result above the middle between a number and a later one is rounded to one above the first. -/
theorem lt {z : Binary64} (h : IsNearest exact x) (hZ : z.mantissa < 2 ^ 53)
    (hLess : y.value < z.value) (hMiddle : y.value + z.value < 2 * exact) :
    y.value < x.value := by
  by_contra hNot
  have hDist := h.nearest z hZ
  have hAbove := le_abs_self (exact - x.value)
  rcases abs_cases (exact - z.value) with ⟨hEq, -⟩ | ⟨hEq, -⟩ <;> linarith

/-- The next number after one with a mantissa of 53 bits is one unit of its last place away. -/
theorem next_le (h : IsNearest exact x) {m : ℕ} {e : ℤ} (hm : 2 ^ 52 ≤ m)
    (hLess : (m * 2 ^ e : ℚ) < x.value) : ((m + 1 : ℕ) * 2 ^ e : ℚ) ≤ x.value := by
  have hPower := two_zpow_pos e
  have hMantissa : x.mantissa < 2 ^ 53 := by
    have := h.normal
    omega
  rcases value_lt_or_multiple hMantissa e with hSmall | ⟨k, hMultiple⟩
  · have hLeast : (2 ^ 52 : ℚ) ≤ m := by exact_mod_cast hm
    have hLeast' : (2 ^ 52 * 2 ^ e : ℚ) ≤ m * 2 ^ e := mul_le_mul_of_nonneg_right hLeast hPower.le
    linarith
  · rw [hMultiple] at hLess ⊢
    have hk : m < k := by exact_mod_cast lt_of_mul_lt_mul_right hLess hPower.le
    exact mul_le_mul_of_nonneg_right (by exact_mod_cast hk) hPower.le

/-- Of two results the smaller one is rounded to the smaller number. -/
theorem value_le {other : ℚ} (hX : IsNearest exact x) (hY : IsNearest other y)
    (hLess : exact < other) : x.value ≤ y.value := by
  by_contra hNot
  have hX' := hX.normal
  have hY' := hY.normal
  -- Exchanging the two numbers would bring both nearer to the results on the whole.
  have hFirst := sq_le_sq.mpr (hX.nearest y (by omega))
  have hSecond := sq_le_sq.mpr (hY.nearest x (by omega))
  have hApart : 0 < (other - exact) * (x.value - y.value) :=
    mul_pos (sub_pos.mpr hLess) (sub_pos.mpr (not_le.mp hNot))
  linarith

end IsNearest

/-! ## Rounded whole numbers -/

theorem value_ofNat_mono {a b : ℕ} (h : a ≤ b) : (ofNat a).value ≤ (ofNat b).value := by
  rcases Nat.lt_or_eq_of_le h with hLess | rfl
  · exact (isNearest_ofNat a).value_le (isNearest_ofNat b) (by exact_mod_cast hLess)
  · exact le_rfl

/-- Twice a number. -/
def double (x : Binary64) : Binary64 := ⟨x.mantissa, x.exponent + 1⟩

theorem value_double (x : Binary64) : x.double.value = 2 * x.value := by
  rw [value, value, double, zpow_add_one₀ two_ne_zero]
  ring

/-- Scaled by twice the power of two, twice a quotient is the same fraction, or extended by two. -/
theorem exists_scaled_two_mul (num den : ℕ) (e : ℤ) : ∃ k, 0 < k ∧
    2 * num * Nat.pow 2 (-(e + 1)).toNat = k * (num * Nat.pow 2 (-e).toNat) ∧
    den * Nat.pow 2 (e + 1).toNat = k * (den * Nat.pow 2 e.toNat) := by
  simp only [Nat.pow_eq]
  rcases lt_or_ge e 0 with hNegative | hPositive
  · have hNum : (-e).toNat = (-(e + 1)).toNat + 1 := by omega
    have hDen : e.toNat = 0 ∧ (e + 1).toNat = 0 := by omega
    refine ⟨1, one_pos, ?_, ?_⟩
    · rw [hNum]
      ring
    · rw [hDen.1, hDen.2, one_mul]
  · have hNum : (-e).toNat = 0 ∧ (-(e + 1)).toNat = 0 := by omega
    have hDen : (e + 1).toNat = e.toNat + 1 := by omega
    refine ⟨2, two_pos, ?_, ?_⟩
    · rw [hNum.1, hNum.2]
      ring
    · rw [hDen]
      ring

theorem roundAt_two_mul (num den : ℕ) (e : ℤ) :
    roundAt (2 * num) den (e + 1) = (roundAt num den e).double := by
  obtain ⟨k, hk, hNum, hDen⟩ := exists_scaled_two_mul num den e
  simp only [roundAt, hNum, hDen, roundDiv_mul_left hk]
  split <;> rfl

theorem ofRatio_two_mul {num den : ℕ} (hNum : num ≠ 0) (hDen : den ≠ 0) :
    ofRatio (2 * num) den = (ofRatio num den).double := by
  have hLog : ((2 * num).log2 : ℤ) - den.log2 - 52 = (num.log2 : ℤ) - den.log2 - 52 + 1 := by
    rw [Nat.log2_two_mul hNum]
    push_cast
    ring
  have hZero : ¬(2 * num = 0 ∨ den = 0) ∧ ¬(num = 0 ∨ den = 0) := by omega
  simp only [ofRatio, if_neg hZero.1, if_neg hZero.2, hLog]
  generalize (num.log2 : ℤ) - den.log2 - 52 = e
  obtain ⟨k, hk, hScaledNum, hScaledDen⟩ := exists_scaled_two_mul num den e
  have hBefore : e + 1 - 1 = e - 1 + 1 := by ring
  rw [hScaledNum, hScaledDen, Nat.mul_div_mul_left _ _ hk, hBefore, roundAt_two_mul,
    roundAt_two_mul]
  split <;> rfl

theorem value_ofNat_two_mul (n : ℕ) : (ofNat (2 * n)).value = 2 * (ofNat n).value := by
  by_cases hZero : n = 0
  · subst hZero
    simp [ofNat, ofRatio, Binary64.zero, value]
  · rw [ofNat, ofRatio_two_mul hZero one_ne_zero, value_double]
    rfl

end Binary64

end TypeRepair
