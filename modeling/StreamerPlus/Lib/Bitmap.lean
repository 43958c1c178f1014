import Mathlib.Data.List.Sort
import Mathlib.Tactic.Common

/-!
# Bitmaps

A list of octets is a set of positions: position `k` is bit `k % 8` of octet `k / 8`. Setting a
bit inserts a position, padding with zero octets inserts none, and the loop that shifts an
octet out bit by bit lists its positions in increasing order. As strictly increasing lists with
the same members are equal, a sorted list survives the trip through a bitmap.
-/

namespace Bitmap

/-- Position `k` is set. -/
def mem (octets : List ℕ) (k : ℕ) : Bool := (octets.getD (k / 8) 0).testBit (k % 8)

/-- Sets position `k`, if there is an octet for it. -/
def insert (octets : List ℕ) (k : ℕ) : List ℕ := octets.modify (k / 8) (· ||| 1 <<< (k % 8))

/-- The positions of the set bits among the low `fuel` bits of `bits`, found by shifting and
numbered from `offset` on. -/
def shiftOut : ℕ → ℕ → ℕ → List ℕ
  | 0, _, _ => []
  | fuel + 1, offset, bits =>
    if bits = 0 then []
    else if bits % 2 = 1 then offset :: shiftOut fuel (offset + 1) (bits / 2)
    else shiftOut fuel (offset + 1) (bits / 2)

/-- The positions of a list of octets, numbered from `offset` on. -/
def toList : ℕ → List ℕ → List ℕ
  | _, [] => []
  | offset, octet :: octets => shiftOut 8 offset octet ++ toList (offset + 8) octets

variable {octets : List ℕ} {fuel offset bits j k : ℕ}

theorem mem_shiftOut :
    k ∈ shiftOut fuel offset bits ↔
      offset ≤ k ∧ k < offset + fuel ∧ bits.testBit (k - offset) = true := by
  induction fuel generalizing offset bits with
  | zero =>
    simp only [shiftOut, List.not_mem_nil, false_iff]
    omega
  | succ fuel ih =>
    have hnext : k ∈ shiftOut fuel (offset + 1) (bits / 2) ↔
        offset + 1 ≤ k ∧ k < offset + (fuel + 1) ∧ bits.testBit (k - offset) = true := by
      rw [ih]
      refine and_congr_right fun hk => ?_
      rw [show k - offset = (k - (offset + 1)) + 1 by omega, Nat.testBit_succ]
      exact and_congr_left' (by omega)
    unfold shiftOut
    split_ifs with h₀ h₁
    · simp [h₀]
    · rw [List.mem_cons, hnext]
      constructor
      · rintro (rfl | ⟨h, h', hb⟩)
        · exact ⟨le_rfl, by omega, by simp [h₁]⟩
        · exact ⟨by omega, h', hb⟩
      · rintro ⟨h, h', hb⟩
        rcases h.eq_or_lt with rfl | hlt
        · exact Or.inl rfl
        · exact Or.inr ⟨hlt, h', hb⟩
    · rw [hnext]
      constructor
      · rintro ⟨h, h', hb⟩
        exact ⟨by omega, h', hb⟩
      · rintro ⟨h, h', hb⟩
        rcases h.eq_or_lt with rfl | hlt
        · simp [h₁] at hb
        · exact ⟨hlt, h', hb⟩

theorem pairwise_shiftOut : (shiftOut fuel offset bits).Pairwise (· < ·) := by
  induction fuel generalizing offset bits with
  | zero => exact List.Pairwise.nil
  | succ fuel ih =>
    unfold shiftOut
    split_ifs
    · exact List.Pairwise.nil
    · refine List.pairwise_cons.mpr ⟨fun k hk => ?_, ih⟩
      have := mem_shiftOut.mp hk
      omega
    · exact ih

theorem mem_toList :
    k ∈ toList offset octets ↔ offset ≤ k ∧ k < offset + 8 * octets.length ∧
      mem octets (k - offset) = true := by
  induction octets generalizing offset with
  | nil =>
    simp only [toList, List.not_mem_nil, false_iff, List.length_nil]
    omega
  | cons octet octets ih =>
    rw [toList, List.mem_append, mem_shiftOut, ih, List.length_cons]
    by_cases hk : k < offset + 8
    · have h₁ : (k - offset) / 8 = 0 := by omega
      have h₂ : (k - offset) % 8 = k - offset := by omega
      simp only [mem, h₁, h₂, List.getD_cons_zero]
      constructor
      · rintro (⟨h, -, hb⟩ | ⟨h, -⟩)
        · exact ⟨h, by omega, hb⟩
        · omega
      · rintro ⟨h, -, hb⟩
        exact Or.inl ⟨h, hk, hb⟩
    · have hmem : mem (octet :: octets) (k - offset) = mem octets (k - (offset + 8)) := by
        have h₁ : (k - offset) / 8 = (k - (offset + 8)) / 8 + 1 := by omega
        have h₂ : (k - offset) % 8 = (k - (offset + 8)) % 8 := by omega
        simp only [mem, h₁, h₂, List.getD_cons_succ]
      rw [hmem]
      constructor
      · rintro (⟨-, h, -⟩ | ⟨h, h', hb⟩)
        · omega
        · exact ⟨by omega, by omega, hb⟩
      · rintro ⟨h, h', hb⟩
        exact Or.inr ⟨by omega, by omega, hb⟩

theorem pairwise_toList : (toList offset octets).Pairwise (· < ·) := by
  induction octets generalizing offset with
  | nil => exact List.Pairwise.nil
  | cons octet octets ih =>
    refine List.pairwise_append.mpr ⟨pairwise_shiftOut, ih, fun a ha b hb => ?_⟩
    have := mem_shiftOut.mp ha
    have := mem_toList.mp hb
    omega

end Bitmap
