import Mathlib.Data.Fintype.Card
import Mathlib.Data.Int.Interval
import Mathlib.Data.Int.ModEq
import Mathlib.Tactic.Common

/-!
# Windows of integers in a ring of slots

Sequence numbers that live in a window of at most `m` consecutive integers are told apart by
their residues modulo `m`. This one fact is behind both the expansion of a truncated number
from a reference value and the reuse of the slots of a circular buffer. The second half counts
the slots of a finite table that are in use.
-/

namespace SlotRing

/-- Two integers of one window of length `m` that agree modulo `m` are equal. -/
theorem eq_of_emod_eq {m lo a b : ℤ} (ha : lo < a) (ha' : a ≤ lo + m) (hb : lo < b)
    (hb' : b ≤ lo + m) (h : a % m = b % m) : a = b := by
  have hdvd : m ∣ a - b := Int.ModEq.dvd (a := b) (b := a) h.symm
  have hlt : |a - b| < m := abs_lt.mpr ⟨by omega, by omega⟩
  have hzero : a - b = 0 := Int.eq_zero_of_abs_lt_dvd hdvd hlt
  omega

section Slots

variable {ι β : Type*} [Fintype ι] {f : ι → Option β} {i : ι}

/-- The slots in use. -/
def occupied (f : ι → Option β) : Finset ι := Finset.univ.filter fun i => (f i).isSome

@[simp]
theorem mem_occupied : i ∈ occupied f ↔ (f i).isSome := by simp [occupied]

variable [DecidableEq ι]

theorem occupied_update_some (b : β) :
    occupied (Function.update f i (some b)) = insert i (occupied f) := by
  ext j
  by_cases hj : j = i <;> simp [hj]

theorem occupied_update_none : occupied (Function.update f i none) = (occupied f).erase i := by
  ext j
  by_cases hj : j = i <;> simp [hj]

/-- Filling a free slot uses one more. -/
theorem card_occupied_update_some (hi : f i = none) (b : β) :
    (occupied (Function.update f i (some b))).card = (occupied f).card + 1 := by
  rw [occupied_update_some, Finset.card_insert_of_notMem (by simp [hi])]

/-- Freeing a used slot uses one less. -/
theorem card_occupied_update_none (hi : (f i).isSome) :
    (occupied (Function.update f i none)).card + 1 = (occupied f).card := by
  rw [occupied_update_none, Finset.card_erase_add_one (by simpa using hi)]

/-- Slots that are found from integer keys of one window are no more than the window is long. -/
theorem card_occupied_le {key : β → ℤ} {index : ℤ → ι} {lo hi : ℤ}
    (h : ∀ i b, f i = some b → lo < key b ∧ key b ≤ hi ∧ i = index (key b)) :
    ((occupied f).card : ℤ) ≤ max (hi - lo) 0 := by
  have hsub : occupied f ⊆ (Finset.Ioc lo hi).image index := by
    intro i hi'
    obtain ⟨b, hb⟩ := Option.isSome_iff_exists.mp (mem_occupied.mp hi')
    obtain ⟨h₁, h₂, h₃⟩ := h i b hb
    exact Finset.mem_image.mpr ⟨key b, Finset.mem_Ioc.mpr ⟨h₁, h₂⟩, h₃.symm⟩
  have hcard := (Finset.card_le_card hsub).trans Finset.card_image_le
  rw [Int.card_Ioc] at hcard
  omega

end Slots

end SlotRing
