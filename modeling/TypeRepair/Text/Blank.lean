/-!
# Blank characters

The Unicode property White_Space and trimming by it. The byte order mark U+FEFF and the zero width
space U+200B do not have the property.

* `trimEnd_trimEnd`, `trimStart_trimEnd_of_trimStart`: what is trimmed stays trimmed.
-/

namespace TypeRepair.Text

/-- The Unicode property White_Space, which 25 characters have. -/
def isBlank (c : Char) : Bool :=
  let n := c.toNat
  (9 ≤ n && n ≤ 13) || n == 0x20 || n == 0x85 || n == 0xA0 || n == 0x1680 ||
    (0x2000 ≤ n && n ≤ 0x200A) || n == 0x2028 || n == 0x2029 || n == 0x202F ||
    n == 0x205F || n == 0x3000

/-- Drops the blanks at the start. -/
def trimStart (cs : List Char) : List Char :=
  cs.dropWhile isBlank

/-- Drops the blanks at the end. -/
def trimEnd (cs : List Char) : List Char :=
  (cs.reverse.dropWhile isBlank).reverse

/-- Drops the blanks at both ends. -/
def trim (cs : List Char) : List Char :=
  trimEnd (trimStart cs)

/-- Drops the blanks at both ends of a string. -/
def trimmed (s : String) : String :=
  String.ofList (trim s.toList)

theorem dropWhile_dropWhile (p : Char → Bool) (cs : List Char) :
    (cs.dropWhile p).dropWhile p = cs.dropWhile p := by
  induction cs with
  | nil => rfl
  | cons c cs ih =>
    by_cases h : p c = true
    · simpa [h] using ih
    · simp [h]

theorem trimEnd_trimEnd (cs : List Char) : trimEnd (trimEnd cs) = trimEnd cs := by
  simp [trimEnd, dropWhile_dropWhile]

/-- A text without blanks at its start has none there after its end is trimmed. -/
theorem trimStart_trimEnd_of_trimStart {cs : List Char} (h : trimStart cs = cs) :
    trimStart (trimEnd cs) = trimEnd cs := by
  cases cs with
  | nil => rfl
  | cons c cs =>
    have hc : isBlank c = false := by
      rcases hb : isBlank c with _ | _
      · rfl
      · have hlen := (List.dropWhile_sublist isBlank (l := cs)).length_le
        have hcs : (cs.dropWhile isBlank).length = cs.length + 1 := by
          have := congrArg List.length h
          simpa [trimStart, List.dropWhile_cons, hb] using this
        omega
    have hEnd : ∃ ds, trimEnd (c :: cs) = c :: ds := by
      simp only [trimEnd, List.reverse_cons, List.dropWhile_append]
      split
      · exact ⟨[], by simp [hc]⟩
      · exact ⟨(cs.reverse.dropWhile isBlank).reverse, by simp⟩
    obtain ⟨ds, hds⟩ := hEnd
    rw [hds]
    simp [trimStart, hc]

end TypeRepair.Text
