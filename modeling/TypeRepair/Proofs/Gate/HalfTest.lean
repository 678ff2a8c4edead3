import TypeRepair.Proofs.Binary64.Nearest
import TypeRepair.Proofs.Gate.Positions

/-!
# The gate is a test of halves

The gate compares a rounded percentage with 50, and so decides whether a body changes more than
half as many lines as the previous one has: a share of one half is a number that rounding keeps, and
the next share that line counts below 2⁵³ can give is so much larger that rounding does not lose it.

* `isNearest_changedShare`: the percentage is the exact one, rounded as a quotient and as a product.
* `fifty_lt_iff`: both roundings keep the side of one half.
* `judge_tests_half`: the gate's decisions in whole numbers.
-/

namespace TypeRepair.Gate

open Binary64 Finset

/-! ## The percentage -/

theorem value_ofNat {n : ℕ} (h : n < 2 ^ 53) : (ofNat n).value = n := by
  have hExact : (⟨n, 0⟩ : Binary64).value = n := by simp [value]
  have hNearest := isNearest_ofNat n
  rw [← hExact] at hNearest ⊢
  exact hNearest.value_eq h

theorem one_le_lineCount (text : String) : 0 < lineCount text :=
  List.length_pos_of_ne_nil (Text.lines_ne_nil _)

theorem isNearest_changedShare {previous proposed : String} (hLines : lineCount previous < 2 ^ 53)
    (hChanged : changedLines previous proposed < 2 ^ 53) :
    ∃ quotient, IsNearest (changedLines previous proposed / lineCount previous) quotient ∧
      IsNearest (quotient.value * 100) (changedShare previous proposed) := by
  have hPositive : 0 < (ofNat (lineCount previous)).value := by
    rw [value_ofNat hLines]
    exact_mod_cast one_le_lineCount previous
  have hQuotient := isNearest_div (ofNat (changedLines previous proposed)) hPositive
  have hProduct := isNearest_mul
    ((ofNat (changedLines previous proposed)).div (ofNat (lineCount previous))) (ofNat 100)
  rw [value_ofNat hLines, value_ofNat hChanged] at hQuotient
  rw [value_ofNat (by decide : 100 < 2 ^ 53)] at hProduct
  exact ⟨_, hQuotient, hProduct⟩

/-- A share of one half at most is rounded to 50 percent at most. -/
theorem value_le_fifty {exact : ℚ} {quotient share : Binary64} (hHalf : exact ≤ 1 / 2)
    (hQuotient : IsNearest exact quotient) (hShare : IsNearest (quotient.value * 100) share) :
    share.value ≤ 50 := by
  have hOneHalf : (⟨1, -1⟩ : Binary64).value = 1 / 2 := by norm_num [value]
  have hFifty : (⟨50, 0⟩ : Binary64).value = 50 := by norm_num [value]
  have hQuotientAtMost := hQuotient.le (by decide) (hHalf.trans_eq hOneHalf.symm)
  rw [← hFifty]
  apply hShare.le (by decide)
  linarith

/-- A share of one half at most is rounded to 50 percent at most, and one that is greater to a
percentage above 50. -/
theorem fifty_lt_iff {lines changed : ℕ} {quotient share : Binary64} (hPositive : 0 < lines)
    (hLines : lines < 2 ^ 53) (hQuotient : IsNearest (changed / lines) quotient)
    (hShare : IsNearest (quotient.value * 100) share) : 50 < share.value ↔ lines < 2 * changed := by
  have hPos : (0 : ℚ) < lines := by exact_mod_cast hPositive
  have hFifty : (⟨50, 0⟩ : Binary64).value = 50 := by norm_num [value]
  constructor
  · intro hAbove
    by_contra hNot
    have hAtMost : (changed / lines : ℚ) ≤ 1 / 2 := by
      have hCounts : (2 * changed : ℚ) ≤ lines := by exact_mod_cast Nat.not_lt.mp hNot
      rw [div_le_iff₀ hPos]
      linarith
    exact absurd hAbove (value_le_fifty hAtMost hQuotient hShare).not_gt
  · intro hMore
    -- The quotient exceeds one half by more than half a unit of its last place.
    have hHalf : (⟨2 ^ 52, -53⟩ : Binary64).value = 1 / 2 := by norm_num [value]
    have hNext : (⟨2 ^ 52 + 1, -53⟩ : Binary64).value = 1 / 2 + 1 / 2 ^ 53 := by norm_num [value]
    have hGap : (1 + 1 / 2 ^ 53 : ℚ) < 2 * (changed / lines) := by
      have hCounts : (lines + 1 : ℚ) ≤ 2 * changed := by exact_mod_cast hMore
      have hBound : (lines : ℚ) < 2 ^ 53 := by exact_mod_cast hLines
      rw [← mul_div_assoc, lt_div_iff₀ hPos]
      linarith
    have hAbove : (⟨2 ^ 52, -53⟩ : Binary64).value < quotient.value := by
      apply hQuotient.lt (by decide : (⟨2 ^ 52 + 1, -53⟩ : Binary64).mantissa < 2 ^ 53)
      · rw [hHalf, hNext]
        norm_num
      · rw [hHalf, hNext]
        linarith
    have hQuotientMore : 1 / 2 + 1 / 2 ^ 53 ≤ quotient.value :=
      hNext.symm.le.trans (hQuotient.next_le le_rfl hAbove)
    -- A hundred times this gap is more than half a unit of the last place of 50.
    have hAfter : (⟨50 * 2 ^ 47 + 1, -47⟩ : Binary64).value = 50 + 1 / 2 ^ 47 := by
      norm_num [value]
    rw [← hFifty]
    apply hShare.lt (by decide : (⟨50 * 2 ^ 47 + 1, -47⟩ : Binary64).mantissa < 2 ^ 53)
    · rw [hFifty, hAfter]
      norm_num
    · rw [hFifty, hAfter]
      linarith

/-! ## Decisions -/

theorem largestShare_blt_iff {previous proposed : String} (hLines : lineCount previous < 2 ^ 53)
    (hChanged : changedLines previous proposed < 2 ^ 53) :
    largestShare.blt (changedShare previous proposed) = true ↔
      lineCount previous < 2 * changedLines previous proposed := by
  obtain ⟨quotient, hQuotient, hShare⟩ := isNearest_changedShare hLines hChanged
  rw [blt_iff, largestShare, value_ofNat (by decide)]
  exact fifty_lt_iff (one_le_lineCount previous) hLines hQuotient hShare

theorem judge_of_ne {previous proposed : String} (h : previous ≠ proposed)
    (hLines : lineCount previous < 2 ^ 53) (hChanged : changedLines previous proposed < 2 ^ 53) :
    judge previous proposed =
      if lineCount previous < 2 * changedLines previous proposed then
        .refused (.tooLarge (changedShare previous proposed))
      else .admitted (changedShare previous proposed) := by
  simp only [judge, if_neg h, largestShare_blt_iff hLines hChanged]

/-- However many lines there are, half of them at most may change: rounding keeps the order of the
two counts, and a double stays one. -/
theorem judge_of_half {previous proposed : String} (h : previous ≠ proposed)
    (hHalf : 2 * changedLines previous proposed ≤ lineCount previous) :
    judge previous proposed = .admitted (changedShare previous proposed) := by
  have hPositive : 0 < (ofNat (lineCount previous)).value :=
    calc (0 : ℚ)
      _ < 1 := one_pos
      _ = (ofNat 1).value := by rw [value_ofNat (by decide), Nat.cast_one]
      _ ≤ (ofNat (lineCount previous)).value := value_ofNat_mono (one_le_lineCount previous)
  have hRatio : (ofNat (changedLines previous proposed)).value /
      (ofNat (lineCount previous)).value ≤ 1 / 2 := by
    have hDouble := value_ofNat_mono hHalf
    rw [value_ofNat_two_mul] at hDouble
    rw [div_le_iff₀ hPositive]
    linarith
  have hProduct := isNearest_mul
    ((ofNat (changedLines previous proposed)).div (ofNat (lineCount previous))) (ofNat 100)
  rw [value_ofNat (by decide : 100 < 2 ^ 53)] at hProduct
  have hShare : (changedShare previous proposed).value ≤ 50 :=
    value_le_fifty hRatio (isNearest_div _ hPositive) hProduct
  have hKept : largestShare.blt (changedShare previous proposed) = false := by
    rw [Bool.eq_false_iff, Ne, blt_iff, largestShare, value_ofNat (by decide)]
    exact hShare.not_gt
  simp [judge, h, hKept]

theorem judge_eq_noChange_iff {previous proposed : String} :
    judge previous proposed = .refused .noChange ↔ previous = proposed := by
  unfold judge
  split
  · simp_all
  · dsimp only
    split <;> simp_all

/-- Bodies of fewer than 2⁵³ lines: a body is admitted if it changes lines, and not more than half
as many as the previous one has. What is admitted keeps at least half of these lines where they
were, and adds or drops half as many at most. -/
theorem judge_tests_half (previous proposed : String) (hLines : lineCount previous < 2 ^ 53)
    (hChanged : changedLines previous proposed < 2 ^ 53) :
    let n := lineCount previous
    let before := Text.lines previous.toList
    let after := Text.lines proposed.toList
    let c := changedLines previous proposed
    c = #{i ∈ range (max n (lineCount proposed)) | before[i]? ≠ after[i]?} ∧
      (judge previous proposed = .refused .noChange ↔ previous = proposed) ∧
      (previous ≠ proposed →
        ((∃ share, judge previous proposed = .admitted share) ↔ 2 * c ≤ n) ∧
        ((∃ share, judge previous proposed = .refused (.tooLarge share)) ↔ 2 * c > n)) ∧
      ∀ share, judge previous proposed = .admitted share →
        n ≤ 2 * #{i ∈ range n | before[i]? = after[i]?} ∧
          2 * (n - lineCount proposed : ℤ).natAbs ≤ n := by
  intro n before after c
  have hDecision : previous ≠ proposed →
      ((∃ share, judge previous proposed = .admitted share) ↔ 2 * c ≤ n) ∧
        ((∃ share, judge previous proposed = .refused (.tooLarge share)) ↔ 2 * c > n) := by
    intro hOther
    rw [judge_of_ne hOther hLines hChanged]
    by_cases hMore : n < 2 * c
    · rw [if_pos hMore]
      simp [hMore]
    · rw [if_neg hMore]
      simpa using Nat.not_lt.mp hMore
  refine ⟨changedPositions_eq_card before after, judge_eq_noChange_iff, hDecision, ?_⟩
  intro share hJudged
  have hOther : previous ≠ proposed := by
    intro hSame
    rw [judge_eq_noChange_iff.mpr hSame] at hJudged
    cases hJudged
  have hHalf : 2 * c ≤ n := (hDecision hOther).1.mp ⟨share, hJudged⟩
  have hKept : n ≤ #{i ∈ range n | before[i]? = after[i]?} + c :=
    length_le_kept_add_changed before after
  have hLength : n - lineCount proposed ≤ c ∧ lineCount proposed - n ≤ c :=
    length_sub_le_changed before after
  constructor <;> omega

-- Two of four lines are exactly one half, which is still admitted; a third one is too many.
theorem two_of_four_admitted :
    let previous := "a\nb\nc\nd"
    let two := "a\nB\nC\nd"
    let three := "a\nB\nC\nd\n"
    lineCount previous < 2 ^ 53 ∧ changedLines previous two < 2 ^ 53 ∧
      changedLines previous three < 2 ^ 53 ∧ (∃ share, judge previous two = .admitted share) ∧
      ∃ share, judge previous three = .refused (.tooLarge share) := by
  intro previous two three
  have hLines : lineCount previous = 4 := by decide +kernel
  have hTwo : changedLines previous two = 2 := by decide +kernel
  have hThree : changedLines previous three = 3 := by decide +kernel
  have hFewLines : lineCount previous < 2 ^ 53 := by omega
  have hFewTwo : changedLines previous two < 2 ^ 53 := by omega
  have hFewThree : changedLines previous three < 2 ^ 53 := by omega
  obtain ⟨-, -, hDecideTwo, -⟩ := judge_tests_half previous two hFewLines hFewTwo
  obtain ⟨-, -, hDecideThree, -⟩ := judge_tests_half previous three hFewLines hFewThree
  refine ⟨hFewLines, hFewTwo, hFewThree, (hDecideTwo (by decide)).1.mpr ?_,
    (hDecideThree (by decide)).2.mpr ?_⟩
  · omega
  · omega

end TypeRepair.Gate
