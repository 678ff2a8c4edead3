import TypeRepair.Binary64
import TypeRepair.Text.Lines

/-!
# The gate for proposed bodies

A proposed body is compared with the previous one line by line at the same positions, so an
inserted line counts every later line as changed. A body that changes nothing, or more than half as
many lines as the previous one has, is refused.

* `changedLines_eq_zero_iff`: bodies without a changed line are the same.
-/

namespace TypeRepair.Gate

/-- The number of positions at which two lists differ; a position that only one of them has
counts. -/
def changedPositions {α : Type} [DecidableEq α] : List α → List α → Nat
  | [], bs => bs.length
  | _ :: as, [] => as.length + 1
  | a :: as, b :: bs =>
    if a = b then changedPositions as bs else changedPositions as bs + 1

/-- The number of lines of a text. -/
def lineCount (text : String) : Nat :=
  (Text.lines text.toList).length

/-- The number of line positions at which two texts differ. -/
def changedLines (previous proposed : String) : Nat :=
  changedPositions (Text.lines previous.toList) (Text.lines proposed.toList)

theorem changedPositions_eq_zero_iff {α : Type} [DecidableEq α] {as bs : List α} :
    changedPositions as bs = 0 ↔ as = bs := by
  induction as generalizing bs with
  | nil => rw [changedPositions, List.length_eq_zero_iff, eq_comm]
  | cons a as ih =>
    cases bs with
    | nil => simp [changedPositions]
    | cons b bs =>
      rw [changedPositions, List.cons.injEq]
      split
      · rename_i hSame
        rw [ih]
        simp [hSame]
      · rename_i hOther
        simp [hOther]

theorem changedLines_eq_zero_iff {previous proposed : String} :
    changedLines previous proposed = 0 ↔ previous = proposed := by
  rw [changedLines, changedPositions_eq_zero_iff]
  constructor
  · intro hLines
    exact String.toList_inj.mp (Text.lines_injective hLines)
  · rintro rfl
    rfl

/-- The changed lines as a percentage of the previous body's lines: a quotient, rounded, times a
hundred, rounded. -/
def changedShare (previous proposed : String) : Binary64 :=
  ((Binary64.ofNat (changedLines previous proposed)).div
    (Binary64.ofNat (lineCount previous))).mul (Binary64.ofNat 100)

/-- The largest percentage that is let through. -/
def largestShare : Binary64 := Binary64.ofNat 50

/-- Why a proposed body is refused. -/
inductive Rejection
  /-- It is the previous body. -/
  | noChange
  /-- It changes this percentage of the previous body. -/
  | tooLarge (share : Binary64)
deriving DecidableEq, Repr

/-- The refusal in words. -/
def Rejection.message : Rejection → String
  | noChange => "no changes proposed"
  | tooLarge share =>
    "diff is " ++ share.oneDecimal ++ "% (>50%), likely a hallucinated rewrite"

/-- What the gate decides; an admitted body comes with its percentage of changed lines. -/
inductive Decision
  | admitted (share : Binary64)
  | refused (reason : Rejection)
deriving DecidableEq, Repr

/-- Whether a proposed body may replace the previous one. -/
def judge (previous proposed : String) : Decision :=
  if previous = proposed then .refused .noChange
  else
    let share := changedShare previous proposed
    if largestShare.blt share then .refused (.tooLarge share) else .admitted share

end TypeRepair.Gate
