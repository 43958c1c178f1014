import Mathlib.Tactic

/-!
# `int` arithmetic

The conversion of sizes to `int`, which keeps their value only below `2 ^ 31`, and the
rounding division of `util/integer_division.h`, which computes in `unsigned int`.
-/

namespace StreamerPlus

/-- `static_cast<int>`. -/
def toInt32 (n : ℤ) : ℤ := n.bmod (0x100000000)

/-- `DividePositivesRoundingUp<int>`, which computes in `unsigned int`. -/
def dividePositivesRoundingUp (num denom : ℤ) : ℤ :=
  let num := num % 0x100000000
  let denom := denom % 0x100000000
  toInt32 ((num + denom - 1) % 0x100000000 / denom)

theorem toInt32_of_lt {n : ℤ} (h₀ : 0 ≤ n) (h : n < 0x80000000) : toInt32 n = n := by
  unfold toInt32
  rw [Int.bmod_def]
  omega

theorem toInt32_lt (n : ℤ) : toInt32 n < 0x80000000 := by
  unfold toInt32
  rw [Int.bmod_def]
  omega

theorem toInt32_le {n : ℤ} (h : 0 ≤ n) : toInt32 n ≤ n := by
  unfold toInt32
  rw [Int.bmod_def]
  omega

/-- A rounded-up quotient of positive `int`s does not overflow. -/
theorem dividePositivesRoundingUp_eq {num denom : ℤ} (hn : 0 ≤ num) (hn' : num < 0x80000000)
    (hd : 0 < denom) (hd' : denom < 0x80000000) :
    dividePositivesRoundingUp num denom = (num + denom - 1) / denom := by
  have h₁ : num % 0x100000000 = num := Int.emod_eq_of_lt hn (by omega)
  have h₂ : denom % 0x100000000 = denom := Int.emod_eq_of_lt hd.le (by omega)
  have h₃ : (num + denom - 1) % 0x100000000 = num + denom - 1 :=
    Int.emod_eq_of_lt (by omega) (by omega)
  have hle : (num + denom - 1) / denom ≤ num := by
    rcases hn.eq_or_lt with rfl | hpos
    · have : (0 + denom - 1) / denom = 0 := Int.ediv_eq_zero_of_lt (by omega) (by omega)
      omega
    · apply Int.ediv_le_of_le_mul hd
      nlinarith
  simp only [dividePositivesRoundingUp, h₁, h₂, h₃]
  exact toInt32_of_lt (Int.ediv_nonneg (by omega) hd.le) (by omega)

end StreamerPlus
