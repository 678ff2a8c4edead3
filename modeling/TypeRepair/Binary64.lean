/-!
# Non-negative binary64 numbers

Numbers `mantissa * 2 ^ exponent` with a mantissa of 53 bits, each operation rounded to the nearest
such number, a tie going to the even mantissa. The exponent is not bounded: a number below
`2 ^ 1000` and above `2 ^ (-1000)`, as every ratio of two line counts is, is a normal number of the
interchange format, and `toBits` is its encoding.
-/

namespace TypeRepair

/-- The nearest whole number to `num / den`, a tie going to the even one. -/
def roundDiv (num den : Nat) : Nat :=
  let quotient := num / den
  let twice := 2 * (num % den)
  if twice < den then quotient
  else if den < twice then quotient + 1
  else quotient + quotient % 2

/-- The value `mantissa * 2 ^ exponent`. Rounding makes the mantissa zero or a number of exactly
53 bits. -/
structure Binary64 where
  mantissa : Nat
  exponent : Int
deriving DecidableEq, Repr

namespace Binary64

/-- Zero. -/
protected def zero : Binary64 := ⟨0, 0⟩

/-- The numerator of the value as a fraction of whole numbers. -/
def num (x : Binary64) : Nat :=
  x.mantissa * Nat.pow 2 x.exponent.toNat

/-- The denominator of the value as a fraction of whole numbers. -/
def den (x : Binary64) : Nat :=
  Nat.pow 2 (-x.exponent).toNat

/-- Rounds `num / den` to a multiple of `2 ^ exponent`; a mantissa of 54 bits is halved. -/
def roundAt (num den : Nat) (exponent : Int) : Binary64 :=
  let mantissa := roundDiv (num * Nat.pow 2 (-exponent).toNat) (den * Nat.pow 2 exponent.toNat)
  if mantissa = Nat.pow 2 53 then ⟨Nat.pow 2 52, exponent + 1⟩ else ⟨mantissa, exponent⟩

/-- The number nearest to `num / den`, where a division by zero gives zero. -/
def ofRatio (num den : Nat) : Binary64 :=
  if num = 0 ∨ den = 0 then Binary64.zero
  else
    let exponent : Int := (Nat.log2 num : Int) - Nat.log2 den - 52
    let scaled := num * Nat.pow 2 (-exponent).toNat / (den * Nat.pow 2 exponent.toNat)
    if Nat.pow 2 52 ≤ scaled then roundAt num den exponent else roundAt num den (exponent - 1)

/-- The number nearest to a whole number. -/
def ofNat (n : Nat) : Binary64 :=
  ofRatio n 1

/-- Rounded division. -/
def div (x y : Binary64) : Binary64 :=
  ofRatio (x.num * y.den) (x.den * y.num)

/-- Rounded multiplication. -/
def mul (x y : Binary64) : Binary64 :=
  ofRatio (x.num * y.num) (x.den * y.den)

/-- Comparison of the values. -/
def blt (x y : Binary64) : Bool :=
  decide (x.num * y.den < y.num * x.den)

/-- The interchange encoding of a number in the range of normal numbers. -/
def toBits (x : Binary64) : UInt64 :=
  if x.mantissa = 0 then 0
  else UInt64.ofNat ((x.exponent + 1075).toNat * Nat.pow 2 52 + (x.mantissa - Nat.pow 2 52))

/-- The value with one decimal place, a tie going to the even digit. -/
def oneDecimal (x : Binary64) : String :=
  let tenths := roundDiv (x.num * 10) x.den
  toString (tenths / 10) ++ "." ++ toString (tenths % 10)

end Binary64

theorem Binary64.den_pos (x : Binary64) : 0 < x.den :=
  Nat.two_pow_pos _

end TypeRepair
