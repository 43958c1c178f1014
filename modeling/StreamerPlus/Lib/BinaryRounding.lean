import Mathlib.Data.Rat.Floor
import Mathlib.Tactic.Common

/-!
# Rounding to binary floating-point numbers

The double nearest to a rational number, with ties to the even one, for numbers that are neither too
large nor too small for a significand of 53 bits. Everything is computed with exact rationals.
-/

namespace BinaryRounding

/-- The exponent of the leading binary digit. -/
def exponent (q : ℚ) : ℤ :=
  let e : ℤ := Nat.log2 q.num.natAbs - Nat.log2 q.den
  if (2 : ℚ) ^ e ≤ |q| then e else e - 1

/-- The nearest integer, and the even one of two. -/
def roundHalfEven (q : ℚ) : ℤ :=
  let n := ⌊q⌋
  if q - n < 1 / 2 then n else if 1 / 2 < q - n then n + 1 else if n % 2 = 0 then n else n + 1

/-- The nearest number with a significand of 53 bits. -/
def roundDouble (q : ℚ) : ℚ :=
  let ulp : ℚ := 2 ^ (exponent q - 52)
  if q = 0 then 0 else roundHalfEven (q / ulp) * ulp

/-- A conversion to an integer cuts off the fraction. -/
def truncate (q : ℚ) : ℤ := if 0 ≤ q then ⌊q⌋ else ⌈q⌉

end BinaryRounding
