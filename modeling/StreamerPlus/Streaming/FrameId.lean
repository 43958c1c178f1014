import Mathlib.Tactic
import StreamerPlus.Lib.SlotRing

/-!
# Truncated sequence values and frame ids

`ExpandedValueBase` (`expanded_value_base.h`) is the common base of frame ids, RTP timestamps
and packet sequence numbers: 64-bit values that travel as their low 8, 16 or 32 bits and are
expanded again relative to a reference value. Values are unbounded integers here, as the class
comment assumes that they never overflow.

A frame id that may be null is an `Option ℤ`, a `Clock::time_point` or `Clock::duration` is an
integer number of microseconds, and `std::chrono::milliseconds` one of milliseconds.

The three expansions pick the value of a window of length `2 ^ b`: the one that ends at the
reference, the one that starts after it, and the one around it.
-/

namespace StreamerPlus

/-- `FrameId::first()`. -/
def FrameId.first : ℤ := 0

/-- `FrameId::leader()`, the virtual frame before the first. -/
def FrameId.leader : ℤ := -1

/-- `Clock::to_duration` of a number of milliseconds. -/
def toDuration (milliseconds : ℤ) : ℤ := 1000 * milliseconds

namespace ExpandedValue

variable (b : ℕ)

/-- `lower_8_bits()`, `lower_16_bits()` and `lower_32_bits()`: the low `b` bits. -/
def lowerBits (value : ℤ) : ℕ := (value % 2 ^ b).toNat

/-- `ExpandLessThanOrEqual(x)` for a `b`-bit `x`: the upper bits of `value` with the lower
bits `x`, and one period less where that is too large. -/
def expandLessThanOrEqual (value : ℤ) (x : ℕ) : ℤ :=
  let result := value / 2 ^ b * 2 ^ b + x
  if result > value then result - 2 ^ b else result

/-- `ExpandGreaterThan(x)`. -/
def expandGreaterThan (value : ℤ) (x : ℕ) : ℤ :=
  expandLessThanOrEqual b (value + (2 ^ b - 1) + 1) x

/-- `max_distance_for_expansion()`. -/
def maxDistanceForExpansion : ℤ := (2 ^ b - 1) / 2

/-- `Expand(x)`. -/
def expand (value : ℤ) (x : ℕ) : ℤ :=
  expandLessThanOrEqual b (value + maxDistanceForExpansion b) x

variable {b : ℕ} {value w : ℤ}

theorem lowerBits_lt (b : ℕ) (value : ℤ) : lowerBits b value < 2 ^ b := by
  have hpos : (0 : ℤ) < 2 ^ b := by positivity
  have hlt := Int.emod_lt_of_pos value hpos
  have hnn := Int.emod_nonneg value hpos.ne'
  unfold lowerBits
  zify
  rw [Int.toNat_of_nonneg hnn]
  exact hlt

/-- The low bits as an integer. -/
theorem cast_lowerBits (b : ℕ) (value : ℤ) : (lowerBits b value : ℤ) = value % 2 ^ b :=
  Int.toNat_of_nonneg (Int.emod_nonneg value (by positivity))

/-- The result of `ExpandLessThanOrEqual` lies in the window that ends at the reference and
has the given low bits. -/
theorem expandLessThanOrEqual_window {x : ℕ} (hx : x < 2 ^ b) :
    value - 2 ^ b < expandLessThanOrEqual b value x ∧ expandLessThanOrEqual b value x ≤ value ∧
      expandLessThanOrEqual b value x % 2 ^ b = x := by
  have hpos : (0 : ℤ) < 2 ^ b := by positivity
  have hx' : (x : ℤ) < 2 ^ b := by exact_mod_cast hx
  have hx0 : (0 : ℤ) ≤ x := Int.natCast_nonneg x
  have hdiv := Int.mul_ediv_add_emod value (2 ^ b)
  have hmod := Int.emod_lt_of_pos value hpos
  have hmod0 := Int.emod_nonneg value hpos.ne'
  rw [mul_comm] at hdiv
  have hxmod : (x : ℤ) % 2 ^ b = x := Int.emod_eq_of_lt hx0 hx'
  simp only [expandLessThanOrEqual]
  split_ifs with h
  · refine ⟨by omega, by omega, ?_⟩
    rw [Int.sub_emod_right, Int.add_emod, Int.mul_emod_left, Int.zero_add, hxmod, hxmod]
  · refine ⟨by omega, by omega, ?_⟩
    rw [Int.add_emod, Int.mul_emod_left, Int.zero_add, hxmod, hxmod]

/-- `ExpandLessThanOrEqual` inverts the truncation of every value of its window. -/
theorem expandLessThanOrEqual_lowerBits (hlo : value - 2 ^ b < w) (hhi : w ≤ value) :
    expandLessThanOrEqual b value (lowerBits b w) = w := by
  obtain ⟨h₁, h₂, h₃⟩ := @expandLessThanOrEqual_window b value _ (lowerBits_lt b w)
  rw [cast_lowerBits] at h₃
  exact SlotRing.eq_of_emod_eq h₁ (by omega) hlo (by omega) h₃

/-- `Expand` inverts the truncation of every value within the expansion distance. -/
theorem expand_lowerBits (h : |w - value| ≤ maxDistanceForExpansion b) :
    expand b value (lowerBits b w) = w := by
  have hd : 2 * maxDistanceForExpansion b ≤ 2 ^ b - 1 := by
    unfold maxDistanceForExpansion
    omega
  obtain ⟨h₁, h₂⟩ := abs_le.mp h
  exact expandLessThanOrEqual_lowerBits (by omega) (by omega)

example : expandLessThanOrEqual 8 514 0xfe = 510 := by decide

end ExpandedValue

end StreamerPlus
