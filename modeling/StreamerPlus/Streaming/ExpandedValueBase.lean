import StreamerPlus.Streaming.FrameId

/-!
# Expansion in 64-bit words

The expansions of `ExpandedValueBase` as `expanded_value_base.h` computes them: on an `int64_t`,
with masks, for the three unsigned types that values are truncated to. Where nothing overflows they
are those of `ExpandedValue`, on integers.

## Main results

* `toInt_expandLessThanOrEqual`: the word that is computed is the integer of `ExpandedValue`.
* `expand_eq_iff`: a truncated value is expanded to itself exactly if it is in the window of the
  expansion.
-/

namespace StreamerPlus

/-- The types that values are truncated to. -/
inductive ShortUnsigned
  | uint8 | uint16 | uint32
  deriving DecidableEq, Repr

/-- The width of a type. -/
def ShortUnsigned.bits : ShortUnsigned → ℕ
  | .uint8 => 8
  | .uint16 => 16
  | .uint32 => 32

namespace ExpandedValueBase

variable (b : ShortUnsigned)

/-- `std::numeric_limits<ShortUnsigned>::max()`. -/
def shortMax : BitVec 64 := BitVec.ofNat 64 (2 ^ b.bits - 1)

variable (value : BitVec 64)

/-- `ExpandLessThanOrEqual(x)`. -/
def expandLessThanOrEqual (x : BitVec b.bits) : BitVec 64 :=
  let result := (value &&& ~~~shortMax b) ||| x.setWidth 64
  if value.slt result then result - (shortMax b + 1#64) else result

/-- `ExpandGreaterThan(x)`. -/
def expandGreaterThan (x : BitVec b.bits) : BitVec 64 :=
  expandLessThanOrEqual b (value + shortMax b + 1#64) x

/-- `max_distance_for_expansion()`. -/
def maxDistanceForExpansion : BitVec 64 := shortMax b / 2#64

/-- `Expand(x)`. -/
def expand (x : BitVec b.bits) : BitVec 64 :=
  expandLessThanOrEqual b (value + maxDistanceForExpansion b) x

/-- A number that an `int64_t` can hold. -/
def Fits (n : ℤ) : Prop := -2 ^ 63 ≤ n ∧ n < 2 ^ 63

instance (n : ℤ) : Decidable (Fits n) := inferInstanceAs (Decidable (_ ∧ _))

/-! ### The words that are computed -/

variable {b} {value v w : BitVec 64} {x : BitVec b.bits}

theorem fits_toInt (v : BitVec 64) : Fits v.toInt := ⟨v.le_toInt, v.toInt_lt⟩

theorem toInt_of_fits {n : ℤ} (h : Fits n) : n.bmod (2 ^ 64) = n :=
  Int.bmod_eq_of_le (by have := h.1; omega) (by have := h.2; omega)

theorem bits_le (b : ShortUnsigned) : b.bits ≤ 32 := by cases b <;> decide

theorem toNat_shortMax : (shortMax b).toNat = 2 ^ b.bits - 1 := by cases b <;> rfl

theorem toInt_shortMax : (shortMax b).toInt = 2 ^ b.bits - 1 := by cases b <;> rfl

theorem toInt_maxDistanceForExpansion :
    (maxDistanceForExpansion b).toInt = ExpandedValue.maxDistanceForExpansion b.bits := by
  cases b <;> rfl

theorem toInt_setWidth : (x.setWidth 64).toInt = x.toNat := by
  have hx := x.isLt
  have hpow : 2 ^ b.bits ≤ 2 ^ 32 := Nat.pow_le_pow_right (by decide) (bits_le b)
  rw [BitVec.toInt_eq_toNat_of_lt, BitVec.toNat_setWidth, Nat.mod_eq_of_lt]
  · omega
  · rw [BitVec.toNat_setWidth]
    omega

/-- The low bits of a word, as the integer that they are of its value. -/
theorem toInt_and_shortMax (value : BitVec 64) :
    (value &&& shortMax b).toInt = value.toInt % 2 ^ b.bits := by
  have hand : (value &&& shortMax b).toNat = value.toNat % 2 ^ b.bits := by
    rw [BitVec.toNat_and, toNat_shortMax, Nat.and_two_pow_sub_one_eq_mod]
  have hmod : value.toInt % 2 ^ b.bits = (value.toNat : ℤ) % 2 ^ b.bits := by
    rw [BitVec.toInt_eq_toNat_cond]
    cases b <;> simp only [ShortUnsigned.bits] <;> split_ifs <;> push_cast <;> omega
  have hlt : value.toNat % 2 ^ b.bits < 2 ^ 32 :=
    (Nat.mod_lt _ (by positivity)).trans_le (Nat.pow_le_pow_right (by decide) (bits_le b))
  rw [hmod, BitVec.toInt_eq_toNat_of_lt (by omega), hand]
  push_cast
  rfl

/-- The two parts of a word add up to it. -/
theorem and_not_add_and (value : BitVec 64) :
    (value &&& ~~~shortMax b) + (value &&& shortMax b) = value := by
  rw [BitVec.add_eq_or_of_and_eq_zero]
  · ext i hi
    simp only [BitVec.getElem_or, BitVec.getElem_and, BitVec.getElem_not]
    cases value[i] <;> cases (shortMax b)[i] <;> rfl
  · ext i hi
    simp only [BitVec.getElem_and, BitVec.getElem_not, BitVec.getElem_zero]
    cases value[i] <;> cases (shortMax b)[i] <;> rfl

/-- No bit of the truncated value is among the upper ones. -/
theorem or_setWidth (value : BitVec 64) :
    value &&& ~~~shortMax b ||| x.setWidth 64 = (value &&& ~~~shortMax b) + x.setWidth 64 := by
  refine (BitVec.add_eq_or_of_and_eq_zero _ _ ?_).symm
  have hmask : ∀ i (hi : i < 64), (shortMax b)[i] = decide (i < b.bits) := by
    intro i hi
    rw [← BitVec.getLsbD_eq_getElem, shortMax, BitVec.getLsbD_ofNat, Nat.testBit_two_pow_sub_one]
    simp [hi]
  ext i hi
  simp only [BitVec.getElem_and, BitVec.getElem_not, BitVec.getElem_setWidth, BitVec.getElem_zero,
    hmask]
  by_cases hlow : i < b.bits
  · simp [hlow]
  · simp [BitVec.getLsbD_of_ge x i (by omega)]

/-- The upper bits of a value with the lower bits `x`. -/
theorem toInt_concat (value : BitVec 64) (x : BitVec b.bits) :
    (value &&& ~~~shortMax b ||| x.setWidth 64).toInt =
      value.toInt / 2 ^ b.bits * 2 ^ b.bits + x.toNat := by
  have hupper : value &&& ~~~shortMax b = value - (value &&& shortMax b) :=
    BitVec.eq_sub_iff_add_eq.mpr (and_not_add_and value)
  have hfits := fits_toInt value
  have hx := x.isLt
  have hdiv := Int.mul_ediv_add_emod value.toInt (2 ^ b.bits)
  have hquot : value.toInt - value.toInt % 2 ^ b.bits = value.toInt / 2 ^ b.bits * 2 ^ b.bits := by
    rw [mul_comm]
    omega
  -- the multiples of the period next to a value are in range, as the limits are multiples too
  have hrange : Fits (value.toInt / 2 ^ b.bits * 2 ^ b.bits) ∧
      Fits (value.toInt / 2 ^ b.bits * 2 ^ b.bits + x.toNat) := by
    unfold Fits at *
    cases b <;> simp only [ShortUnsigned.bits] at hx ⊢ <;> omega
  rw [or_setWidth, hupper, BitVec.toInt_add, BitVec.toInt_sub, toInt_and_shortMax, toInt_setWidth,
    hquot, toInt_of_fits hrange.1, toInt_of_fits hrange.2]

/-- **The expansion of a word is that of its value**, if it does not overflow. -/
theorem toInt_expandLessThanOrEqual
    (h : Fits (ExpandedValue.expandLessThanOrEqual b.bits value.toInt x.toNat)) :
    (expandLessThanOrEqual b value x).toInt =
      ExpandedValue.expandLessThanOrEqual b.bits value.toInt x.toNat := by
  have hconcat := toInt_concat value x
  have hperiod : (shortMax b + 1#64).toInt = 2 ^ b.bits := by cases b <;> rfl
  unfold expandLessThanOrEqual
  unfold ExpandedValue.expandLessThanOrEqual at h ⊢
  dsimp only at h ⊢
  by_cases hlt : value.toInt < value.toInt / 2 ^ b.bits * 2 ^ b.bits + x.toNat
  · rw [if_pos hlt] at h
    rw [if_pos (BitVec.slt_iff_toInt_lt.mpr (by rwa [hconcat])), if_pos hlt, BitVec.toInt_sub,
      hconcat, hperiod, toInt_of_fits h]
  · rw [if_neg (fun hslt => hlt (by rw [← hconcat]; exact BitVec.slt_iff_toInt_lt.mp hslt)),
      if_neg hlt, hconcat]

/-! ### The windows -/

theorem toNat_truncate (w : BitVec 64) :
    (w.setWidth b.bits).toNat = ExpandedValue.lowerBits b.bits w.toInt := by
  have hmod := toInt_and_shortMax (b := b) w
  rw [ExpandedValue.lowerBits, ← hmod, BitVec.toInt_eq_toNat_of_lt] <;>
    rw [BitVec.toNat_and, toNat_shortMax, Nat.and_two_pow_sub_one_eq_mod]
  · rw [BitVec.toNat_setWidth]
    rfl
  · have hlt : w.toNat % 2 ^ b.bits < 2 ^ 32 :=
      (Nat.mod_lt _ (by positivity)).trans_le (Nat.pow_le_pow_right (by decide) (bits_le b))
    omega

/-- The window of `ExpandLessThanOrEqual`. -/
theorem expandLessThanOrEqual_eq_iff
    (h : Fits (ExpandedValue.expandLessThanOrEqual b.bits value.toInt
      (ExpandedValue.lowerBits b.bits w.toInt))) :
    expandLessThanOrEqual b value (w.setWidth b.bits) = w ↔
      value.toInt - 2 ^ b.bits < w.toInt ∧ w.toInt ≤ value.toInt := by
  rw [← toNat_truncate] at h
  rw [← BitVec.toInt_inj, toInt_expandLessThanOrEqual h, toNat_truncate]
  constructor
  · intro heq
    obtain ⟨hlow, hhigh, -⟩ := @ExpandedValue.expandLessThanOrEqual_window b.bits value.toInt _
      (ExpandedValue.lowerBits_lt b.bits w.toInt)
    rw [heq] at hlow hhigh
    exact ⟨hlow, hhigh⟩
  · rintro ⟨hlow, hhigh⟩
    exact ExpandedValue.expandLessThanOrEqual_lowerBits hlow hhigh

/-- **Truncated values are expanded to themselves exactly in the window of the expansion**, where
nothing overflows: the period that ends at the reference, the one after it, or the one around it. -/
theorem expand_eq_iff (b : ShortUnsigned) (v w : BitVec 64) :
    (Fits (ExpandedValue.expandLessThanOrEqual b.bits v.toInt
        (ExpandedValue.lowerBits b.bits w.toInt)) →
      (expandLessThanOrEqual b v (w.setWidth b.bits) = w ↔
        v.toInt - 2 ^ b.bits < w.toInt ∧ w.toInt ≤ v.toInt)) ∧
    (Fits (v.toInt + 2 ^ b.bits) →
      (expandGreaterThan b v (w.setWidth b.bits) = w ↔
        v.toInt < w.toInt ∧ w.toInt ≤ v.toInt + 2 ^ b.bits)) ∧
    (Fits (v.toInt + 2 ^ (b.bits - 1) - 1) →
      Fits (ExpandedValue.expand b.bits v.toInt (ExpandedValue.lowerBits b.bits w.toInt)) →
      (expand b v (w.setWidth b.bits) = w ↔
        v.toInt - 2 ^ (b.bits - 1) ≤ w.toInt ∧ w.toInt ≤ v.toInt + 2 ^ (b.bits - 1) - 1)) := by
  have hv := fits_toInt v
  have hpos : (0 : ℤ) < 2 ^ b.bits := by positivity
  refine ⟨expandLessThanOrEqual_eq_iff, fun hsum => ?_, fun hsum hresult => ?_⟩
  · have hvalue : (v + shortMax b + 1#64).toInt = v.toInt + 2 ^ b.bits := by
      have hone : (1#64).toInt = 1 := rfl
      have hstep : Fits (v.toInt + (2 ^ b.bits - 1)) := by
        unfold Fits at *
        omega
      rw [BitVec.toInt_add, BitVec.toInt_add, toInt_shortMax, toInt_of_fits hstep, hone,
        show v.toInt + (2 ^ b.bits - 1) + 1 = v.toInt + 2 ^ b.bits by ring, toInt_of_fits hsum]
    have hwindow := @ExpandedValue.expandLessThanOrEqual_window b.bits (v.toInt + 2 ^ b.bits) _
      (ExpandedValue.lowerBits_lt b.bits w.toInt)
    rw [expandGreaterThan, expandLessThanOrEqual_eq_iff, hvalue, add_sub_cancel_right]
    rw [hvalue]
    unfold Fits at *
    omega
  · have hdistance : ExpandedValue.maxDistanceForExpansion b.bits = 2 ^ (b.bits - 1) - 1 := by
      cases b <;> rfl
    have hperiod : (2 : ℤ) ^ b.bits = 2 * 2 ^ (b.bits - 1) := by cases b <;> rfl
    have hvalue : (v + maxDistanceForExpansion b).toInt = v.toInt + 2 ^ (b.bits - 1) - 1 := by
      rw [BitVec.toInt_add, toInt_maxDistanceForExpansion, hdistance, ← add_sub_assoc,
        toInt_of_fits hsum]
    rw [ExpandedValue.expand, hdistance, ← add_sub_assoc, ← hvalue] at hresult
    rw [expand, expandLessThanOrEqual_eq_iff hresult, hvalue, hperiod]
    omega

/-- A frame id from before the reference, one from after it, and one at the end of the window. -/
theorem expand_eq_iff_uint8 :
    expandLessThanOrEqual .uint8 514#64 ((510#64).setWidth 8) = 510#64 ∧
      expandGreaterThan .uint8 510#64 ((514#64).setWidth 8) = 514#64 ∧
      expand .uint8 (-1#64) ((126#64).setWidth 8) = 126#64 ∧
      expand .uint8 (-1#64) ((127#64).setWidth 8) ≠ 127#64 := by
  refine ⟨((expand_eq_iff .uint8 514#64 510#64).1 ?_).mpr ?_,
    ((expand_eq_iff .uint8 510#64 514#64).2.1 ?_).mpr ?_,
    ((expand_eq_iff .uint8 (-1#64) 126#64).2.2 ?_ ?_).mpr ?_,
    fun h => absurd (((expand_eq_iff .uint8 (-1#64) 127#64).2.2 ?_ ?_).mp h) ?_⟩
  all_goals decide

end ExpandedValueBase

end StreamerPlus
