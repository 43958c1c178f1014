import Mathlib.Tactic
import StreamerPlus.Lib.SlotRing

/-!
# The frame rings

Both ends of a stream keep their frames in a ring of `kMaxUnackedFrames` slots, and find the slot
of a frame by its id.
-/

namespace StreamerPlus

/-- The index of `get_slot_for(frame_id)` of the sender and of `GetQueueEntry(frame_id)` of the
receiver: the difference is converted to `size_t` before the remainder is taken. -/
def slotIndex (frameId : ℤ) : Fin 120 :=
  ⟨((if frameId < 0 then frameId + 0x10000000000000000 else frameId) % 120).toNat, by omega⟩

theorem cast_slotIndex {id : ℤ} (h : 0 ≤ id) : ((slotIndex id : ℕ) : ℤ) = id % 120 := by
  simp only [slotIndex, if_neg (not_lt.mpr h)]
  omega

/-- Slots of frames of one window of 120 ids are told apart. -/
theorem slotIndex_inj {lo a b : ℤ} (hlo : -1 ≤ lo) (ha : lo < a) (ha' : a ≤ lo + 120) (hb : lo < b)
    (hb' : b ≤ lo + 120) (h : slotIndex a = slotIndex b) : a = b := by
  refine SlotRing.eq_of_emod_eq ha ha' hb hb' ?_
  rw [← cast_slotIndex (by omega), ← cast_slotIndex (by omega), h]

/-- The slots are reused after 120 frames. -/
theorem slotIndex_add {id : ℤ} (h : 0 ≤ id) : slotIndex (id + 120) = slotIndex id := by
  refine Fin.ext (Int.ofNat_inj.mp ?_)
  rw [cast_slotIndex h, cast_slotIndex (by omega)]
  omega

end StreamerPlus
