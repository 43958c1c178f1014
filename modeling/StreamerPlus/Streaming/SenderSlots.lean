import StreamerPlus.Lib.Run
import StreamerPlus.Streaming.SenderHistory

/-!
# The slots of the sender

What each operation of the sender does to the frames in flight, stated once: a frame is
enqueued, frames are removed, packets are flagged, a packet is sent. `FrameWindow.Accounted` is
the invariant that ties the slots to the three frame counters, and every operation keeps it.
-/

namespace StreamerPlus

open Checked

namespace FrameWindow

variable {s t u w : FrameWindow} {lo : ℤ} {gone gone' : ℤ → Prop}

/-- The frames that the slots hold. -/
def frames (w : FrameWindow) (i : Fin 120) : Option EncryptedFrame := (w.pendingFrames i).frame

variable {id : ℤ}

theorem isInFlight_iff :
    w.isInFlight id ↔ ∃ frame, w.frames (slotIndex id) = some frame ∧ frame.frameId = id := by
  simp [isInFlight, PendingFrameSlot.isActiveForFrame, frames, getSlotFor]

theorem frames_update (w : FrameWindow) (i : Fin 120) (slot : PendingFrameSlot) (n : ℕ)
    (last checkpoint latest : ℤ) :
    frames ⟨Function.update w.pendingFrames i slot, n, last, checkpoint, latest⟩ =
      Function.update w.frames i slot.frame := by
  funext j
  by_cases hj : j = i
  · subst hj; simp [frames]
  · simp [frames, hj]

/-- **Slot accounting**, with the frames in flight above `lo`: the count is the number of slots
in use, and each slot in use is the one that its frame's id selects, among at most 120 ids. -/
structure AccountedAbove (lo : ℤ) (w : FrameWindow) : Prop where
  count : w.numFramesInFlight = (SlotRing.occupied w.frames).card
  held : ∀ i frame, w.frames i = some frame →
    lo < frame.frameId ∧ frame.frameId ≤ w.lastEnqueuedFrameId ∧ i = slotIndex frame.frameId
  packets : ∀ i frame, w.frames i = some frame → 0 < (w.pendingFrames i).sendFlags.size
  leader_le : FrameId.leader ≤ lo
  le_last : lo ≤ w.lastEnqueuedFrameId
  span : w.lastEnqueuedFrameId - lo ≤ 120

/-- Slot accounting, with the frames in flight above the checkpoint. -/
def Accounted (w : FrameWindow) : Prop := w.AccountedAbove w.checkpointFrameId

/-- The latest expected frame is not part of the accounting. -/
theorem Accounted.expect (h : w.Accounted) (latestExpectedFrameId : ℤ) :
    Accounted { w with latestExpectedFrameId } :=
  ⟨h.1, h.2, h.3, h.4, h.5, h.6⟩

/-- The id after the last one, while the ids span no more than the ring. -/
structure IsNext (w : FrameWindow) (id : ℤ) : Prop where
  eq : id = w.lastEnqueuedFrameId + 1
  span : id - w.checkpointFrameId ≤ 120

theorem AccountedAbove.bounds (h : w.AccountedAbove lo) (hid : w.isInFlight id) :
    lo < id ∧ id ≤ w.lastEnqueuedFrameId := by
  obtain ⟨frame, hframe, rfl⟩ := isInFlight_iff.mp hid
  exact ⟨(h.held _ _ hframe).1, (h.held _ _ hframe).2.1⟩

/-- There are never more frames in flight than ids for them. -/
theorem AccountedAbove.count_le (h : w.AccountedAbove lo) :
    (w.numFramesInFlight : ℤ) ≤ w.lastEnqueuedFrameId - lo := by
  have hcard := SlotRing.card_occupied_le h.held
  have := h.le_last
  rw [h.count]
  omega

theorem AccountedAbove.count_pos (h : w.AccountedAbove lo) (hid : w.isInFlight id) :
    0 < w.numFramesInFlight := by
  obtain ⟨frame, hframe, -⟩ := isInFlight_iff.mp hid
  rw [h.count, Finset.card_pos]
  exact ⟨slotIndex id, by simp [hframe]⟩

/-- The count is zero exactly when no frame is in flight. -/
theorem AccountedAbove.count_eq_zero (h : w.AccountedAbove lo) :
    w.numFramesInFlight = 0 ↔ ∀ id, ¬ w.isInFlight id := by
  constructor
  · intro hzero id hid
    exact absurd (h.count_pos hid) (by omega)
  · intro hnone
    rw [h.count, Finset.card_eq_zero, Finset.eq_empty_iff_forall_notMem]
    intro i hi
    obtain ⟨frame, hframe⟩ := Option.isSome_iff_exists.mp (SlotRing.mem_occupied.mp hi)
    refine hnone frame.frameId (isInFlight_iff.mpr ⟨frame, ?_, rfl⟩)
    rw [← (h.held i frame hframe).2.2]
    exact hframe

/-- The lowest frame is not in flight, so the window starts after it. -/
theorem AccountedAbove.succ (h : w.AccountedAbove lo) (hlt : lo < w.lastEnqueuedFrameId)
    (hfree : ¬ w.isInFlight (lo + 1)) : w.AccountedAbove (lo + 1) where
  count := h.count
  held := by
    intro i frame hframe
    obtain ⟨h₁, h₂, h₃⟩ := h.held i frame hframe
    refine ⟨lt_of_le_of_ne h₁ fun he => hfree ?_, h₂, h₃⟩
    rw [he]
    exact isInFlight_iff.mpr ⟨frame, h₃ ▸ hframe, rfl⟩
  packets := h.packets
  leader_le := by have := h.leader_le; omega
  le_last := hlt
  span := by have := h.span; omega

/-! ### Removing frames -/

/-- The frames with `gone` are removed, and nothing else happens to the slots. -/
structure Shrinks (gone : ℤ → Prop) (s t : FrameWindow) : Prop where
  last : t.lastEnqueuedFrameId = s.lastEnqueuedFrameId
  latest : t.latestExpectedFrameId = s.latestExpectedFrameId
  inFlight : ∀ id, t.isInFlight id ↔ s.isInFlight id ∧ ¬ gone id
  slot : ∀ i, t.pendingFrames i = s.pendingFrames i ∨ (t.pendingFrames i).frame = none

theorem Shrinks.getSlotFor (h : Shrinks gone s t) (hid : t.isInFlight id) :
    t.getSlotFor id = s.getSlotFor id := by
  rcases h.slot (slotIndex id) with heq | hnone
  · exact heq
  · obtain ⟨frame, hframe, -⟩ := isInFlight_iff.mp hid
    simp [frames, hnone] at hframe

theorem Shrinks.trans (h : Shrinks gone s t) (h' : Shrinks gone' t u) :
    Shrinks (fun id => gone id ∨ gone' id) s u where
  last := h'.last.trans h.last
  latest := h'.latest.trans h.latest
  inFlight id := by rw [h'.inFlight, h.inFlight]; tauto
  slot i := by
    rcases h'.slot i with heq | hnone
    · rw [heq]
      exact h.slot i
    · exact Or.inr hnone

theorem Shrinks.congr (h : Shrinks gone s t) (hg : ∀ id, s.isInFlight id → (gone id ↔ gone' id)) :
    Shrinks gone' s t where
  last := h.last
  latest := h.latest
  inFlight id := by
    rw [h.inFlight]
    exact and_congr_right fun hid => not_congr (hg id hid)
  slot := h.slot

end FrameWindow

namespace Sender

variable {c : SessionConfig} {s t : Sender} {lo : ℤ}

open FrameWindow

/-- What `CancelPendingFrame` comes to: nothing for a frame that is not in flight. -/
theorem cancelPendingFrame_eq (s : Sender) (id : ℤ) (wasAcked : Bool) :
    ¬ s.isInFlight id ∧ s.cancelPendingFrame id wasAcked = .ok s ∨
      ∃ frame, s.frames (slotIndex id) = some frame ∧ frame.frameId = id ∧
        s.cancelPendingFrame id wasAcked =
          require (0 < s.numFramesInFlight) .noFramesInFlight >>= fun _ =>
            .ok (s.release frame wasAcked) := by
  unfold cancelPendingFrame
  cases hframe : (s.getSlotFor id).frame with
  | none =>
    have hnone : s.frames (slotIndex id) = none := hframe
    exact Or.inl ⟨by simp [isInFlight_iff, hnone], rfl⟩
  | some frame =>
    dsimp only
    split_ifs with hid
    · exact Or.inr ⟨frame, hframe, hid, rfl⟩
    · refine Or.inl ⟨?_, rfl⟩
      rw [isInFlight_iff]
      rintro ⟨frame', hframe', hid'⟩
      rw [frames, ← getSlotFor, hframe, Option.some.injEq] at hframe'
      exact hid (hframe' ▸ hid')

theorem frames_release (s : Sender) (frame : EncryptedFrame) (wasAcked : Bool) :
    (s.release frame wasAcked).frames =
      Function.update s.frames (slotIndex frame.frameId) none :=
  s.frames_update _ _ _ _ _ _

/-- Removing a frame in flight. -/
theorem accountedAbove_release (h : s.AccountedAbove lo) {frame : EncryptedFrame}
    (hframe : s.frames (slotIndex frame.frameId) = some frame) (wasAcked : Bool) :
    (s.release frame wasAcked).AccountedAbove lo ∧
      Shrinks (· = frame.frameId) s.toFrameWindow (s.release frame wasAcked).toFrameWindow := by
  have hframes := frames_release s frame wasAcked
  have hheld : ∀ i f, (s.release frame wasAcked).frames i = some f →
      i ≠ slotIndex frame.frameId ∧ s.frames i = some f := by
    intro i f hf
    rw [hframes, Function.update_apply] at hf
    split_ifs at hf with hi
    exact ⟨hi, hf⟩
  refine ⟨⟨?_, fun i f hf => h.held i f (hheld i f hf).2, fun i f hf => ?_, h.leader_le, h.le_last,
    h.span⟩, rfl, rfl, fun id => ?_, fun i => ?_⟩
  · have hcard := SlotRing.card_occupied_update_none (f := s.frames)
      (i := slotIndex frame.frameId) (by simp [hframe])
    rw [hframes]
    show s.numFramesInFlight - 1 = _
    rw [h.count]
    omega
  · obtain ⟨hi, hf'⟩ := hheld i f hf
    have hslot : (s.release frame wasAcked).pendingFrames i = s.pendingFrames i :=
      Function.update_of_ne hi _ _
    rw [hslot]
    exact h.packets i f hf'
  · rw [isInFlight_iff, isInFlight_iff]
    constructor
    · rintro ⟨f, hf, rfl⟩
      obtain ⟨hi, hf'⟩ := hheld _ f hf
      exact ⟨⟨f, hf', rfl⟩, fun he => hi (by rw [he])⟩
    · rintro ⟨⟨f, hf, rfl⟩, hne⟩
      refine ⟨f, ?_, rfl⟩
      rw [hframes, Function.update_of_ne _ _ _]
      · exact hf
      · intro hi
        rw [hi, hframe, Option.some.injEq] at hf
        exact hne (by rw [hf])
  · by_cases hi : i = slotIndex frame.frameId
    · refine Or.inr ?_
      show (Function.update s.pendingFrames _ _ i).frame = none
      rw [hi, Function.update_self]
      rfl
    · exact Or.inl (Function.update_of_ne hi _ _)

/-- Frames with `gone` are released one after the other, and the checkpoint may move on. -/
inductive Releases (wasAcked : Bool) (gone : ℤ → Prop) (s : Sender) : Sender → Prop
  | refl : Releases wasAcked gone s s
  | release {t : Sender} {lo : ℤ} {frame : EncryptedFrame} : Releases wasAcked gone s t →
      t.AccountedAbove lo → t.frames (slotIndex frame.frameId) = some frame →
      gone frame.frameId → Releases wasAcked gone s (t.release frame wasAcked)
  | checkpoint {t : Sender} : Releases wasAcked gone s t →
      Releases wasAcked gone s { t with checkpointFrameId := t.checkpointFrameId + 1 }

variable {wasAcked : Bool}

theorem Releases.mono {gone gone' : ℤ → Prop} (h : Releases wasAcked gone s t)
    (hg : ∀ id, gone id → gone' id) : Releases wasAcked gone' s t := by
  induction h with
  | refl => exact .refl
  | release _ hacc hframe hgone ih => exact ih.release hacc hframe (hg _ hgone)
  | checkpoint _ ih => exact ih.checkpoint

variable {gone : ℤ → Prop}

theorem Releases.reactions (h : Releases wasAcked gone s t) : t.reactions = s.reactions := by
  induction h with
  | refl => rfl
  | release _ _ _ _ ih => exact ih
  | checkpoint _ ih => exact ih

theorem Releases.rtcpPacketArrivalTime
    (h : Releases wasAcked gone s t) : t.rtcpPacketArrivalTime = s.rtcpPacketArrivalTime := by
  induction h with
  | refl => rfl
  | release _ _ _ _ ih => exact ih
  | checkpoint _ ih => exact ih

theorem Releases.trans {u : Sender}
    (h : Releases wasAcked gone s t) (h' : Releases wasAcked gone t u) :
    Releases wasAcked gone s u := by
  induction h' with
  | refl => exact h
  | release _ hacc hframe hgone ih => exact ih.release hacc hframe hgone
  | checkpoint _ ih => exact ih.checkpoint

/-- `CancelPendingFrame` never fails. -/
theorem exists_cancelPendingFrame (h : s.AccountedAbove lo) (id : ℤ) (wasAcked : Bool) :
    ∃ t, s.cancelPendingFrame id wasAcked = .ok t ∧ t.AccountedAbove lo ∧
      t.checkpointFrameId = s.checkpointFrameId ∧
      Shrinks (· = id) s.toFrameWindow t.toFrameWindow ∧ Releases wasAcked (· = id) s t := by
  rcases cancelPendingFrame_eq s id wasAcked with ⟨hfree, heq⟩ | ⟨frame, hframe, rfl, heq⟩
  · refine ⟨s, heq, h, rfl, ⟨rfl, rfl, fun id' => ?_, fun _ => Or.inl rfl⟩, .refl⟩
    exact ⟨fun h' => ⟨h', fun he => hfree (he ▸ h')⟩, And.left⟩
  · have hpos := h.count_pos (isInFlight_iff.mpr ⟨frame, hframe, rfl⟩)
    obtain ⟨hacc, hshrinks⟩ := accountedAbove_release h hframe wasAcked
    exact ⟨s.release frame wasAcked, by rw [heq, require_of hpos, ok_bind], hacc, rfl, hshrinks,
      Releases.refl.release h hframe rfl⟩

/-- The frames with `gone` are removed, and the checkpoint is then at `checkpoint`. -/
structure Removes (wasAcked : Bool) (gone : ℤ → Prop) (checkpoint : ℤ) (s t : Sender) : Prop where
  accounted : t.Accounted
  checkpoint : t.checkpointFrameId = checkpoint
  shrinks : Shrinks gone s.toFrameWindow t.toFrameWindow
  releases : Releases wasAcked gone s t

/-- The loop that moves the checkpoint never fails: it removes the frames that it passes. -/
theorem exists_advanceCheckpoint (wasAcked : Bool) {n : ℕ} (h : s.Accounted)
    (hn : (n : ℤ) ≤ s.lastEnqueuedFrameId - s.checkpointFrameId) :
    ∃ t, advanceCheckpoint wasAcked n s = .ok t ∧
      Removes wasAcked (· ≤ s.checkpointFrameId + n) (s.checkpointFrameId + n) s t := by
  induction n generalizing s with
  | zero =>
    refine ⟨s, rfl, h, by simp, ⟨rfl, rfl, fun id => ?_, fun _ => Or.inl rfl⟩, .refl⟩
    simp only [Nat.cast_zero, add_zero, not_le]
    exact ⟨fun hid => ⟨hid, (h.bounds hid).1⟩, And.left⟩
  | succ n ih =>
    -- the checkpoint moves first, so the frame it reaches is one above the old window
    set s' : Sender := { s with checkpointFrameId := s.checkpointFrameId + 1 } with hs'
    have h' : s'.AccountedAbove s.checkpointFrameId := ⟨h.1, h.2, h.3, h.4, h.5, h.6⟩
    obtain ⟨u, hu, hacc, hcp, hshrinks, hrel⟩ :=
      exists_cancelPendingFrame h' (s.checkpointFrameId + 1) wasAcked
    have hcp' : u.checkpointFrameId = s.checkpointFrameId + 1 := hcp
    have hlast : u.lastEnqueuedFrameId = s.lastEnqueuedFrameId := hshrinks.last
    have hfree : ¬ u.isInFlight (s.checkpointFrameId + 1) := fun hid =>
      ((hshrinks.inFlight _).mp hid).2 rfl
    have hu' : u.Accounted := by
      rw [FrameWindow.Accounted, hcp']
      exact hacc.succ (by push_cast at hn; omega) hfree
    obtain ⟨t, ht, hacc', hcp'', hshrinks', hrel'⟩ := ih hu' (by push_cast at hn; omega)
    rw [hcp'] at hcp'' hshrinks' hrel'
    refine ⟨t, ?_, hacc', by push_cast; omega, ?_, ?_⟩
    · rw [advanceCheckpoint]
      exact bind_eq_ok.mpr ⟨u, hu, ht⟩
    · have hwin : Shrinks (· = s.checkpointFrameId + 1) s.toFrameWindow u.toFrameWindow :=
        { hshrinks with }
      refine (hwin.trans hshrinks').congr fun id hid => ?_
      have := h.bounds hid
      push_cast
      omega
    · have hfirst : Releases wasAcked (· ≤ s.checkpointFrameId + (n + 1 : ℕ)) s u :=
        Releases.refl.checkpoint.trans (hrel.mono (by rintro _ rfl; push_cast; omega))
      exact hfirst.trans (hrel'.mono fun id hid => by push_cast; omega)

/-- The loop over the acknowledged frames never fails either. -/
theorem exists_ackFrames (h : s.Accounted) (acks : List ℤ) :
    ∃ t, acks.foldlM (fun s id => s.cancelPendingFrame id true) s = .ok t ∧
      Removes true (· ∈ acks) s.checkpointFrameId s t := by
  induction acks generalizing s with
  | nil => exact ⟨s, rfl, h, rfl, ⟨rfl, rfl, by simp, fun _ => Or.inl rfl⟩, .refl⟩
  | cons id acks ih =>
    obtain ⟨u, hu, hacc, hcp, hshrinks, hrel⟩ := exists_cancelPendingFrame h id true
    obtain ⟨t, ht, hacc', hcp', hshrinks', hrel'⟩ := @ih u (by rwa [FrameWindow.Accounted, hcp])
    refine ⟨t, ?_, hacc', hcp'.trans hcp, ?_, ?_⟩
    · rw [List.foldlM_cons]
      exact bind_eq_ok.mpr ⟨u, hu, ht⟩
    · exact (hshrinks.trans hshrinks').congr fun _ _ => by simp
    · exact (hrel.mono (by simp)).trans (hrel'.mono fun _ => List.mem_cons_of_mem _)

/-! ### Enqueuing a frame -/

/-- The slot of the next frame is free while the ids span no more than the ring. -/
theorem frames_next_eq_none (h : s.Accounted) {id : ℤ} (hnext : s.IsNext id) :
    s.frames (slotIndex id) = none := by
  cases hframe : s.frames (slotIndex id) with
  | none => rfl
  | some frame =>
    obtain ⟨hid, hspan⟩ := hnext
    obtain ⟨h₁, h₂, h₃⟩ := h.held _ _ hframe
    have := slotIndex_inj h.leader_le (a := id) (by omega) (by omega) h₁ (by omega) h₃
    omega

theorem frames_recordEnqueue (s : Sender) (frame : EncryptedFrame) (n : ℕ) :
    (s.recordEnqueue frame n).frames =
      Function.update s.frames (slotIndex frame.frameId) (some frame) :=
  s.frames_update _ _ _ _ _ _

variable {frame : EncryptedFrame} {n : ℕ}

theorem accounted_recordEnqueue (h : s.Accounted) (hn : 0 < n) (hnext : s.IsNext frame.frameId) :
    (s.recordEnqueue frame n).Accounted := by
  have hframes := frames_recordEnqueue s frame n
  have hlast : (s.recordEnqueue frame n).lastEnqueuedFrameId = frame.frameId := rfl
  have hle := h.le_last
  have hid := hnext.eq
  refine ⟨?_, fun i f hf => ?_, fun i f hf => ?_, h.leader_le, ?_, hnext.span⟩
  · rw [hframes, SlotRing.card_occupied_update_some (frames_next_eq_none h hnext), ← h.count]
    rfl
  · rw [hframes, Function.update_apply] at hf
    show s.checkpointFrameId < _ ∧ _
    rw [hlast]
    split_ifs at hf with hi
    · cases hf
      exact ⟨by omega, le_refl _, hi⟩
    · obtain ⟨h₁, h₂, h₃⟩ := h.held i f hf
      exact ⟨h₁, by omega, h₃⟩
  · rw [hframes, Function.update_apply] at hf
    show 0 < (Function.update s.pendingFrames _ _ i).sendFlags.size
    split_ifs at hf with hi
    · rw [hi, Function.update_self]
      simpa [PendingFrameSlot.unsent] using hn
    · rw [Function.update_of_ne hi]
      exact h.packets i f hf
  · show s.checkpointFrameId ≤ frame.frameId
    omega

/-- Enqueuing adds one frame to those in flight. -/
theorem isInFlight_recordEnqueue (h : s.Accounted) (hnext : s.IsNext frame.frameId) (id : ℤ) :
    (s.recordEnqueue frame n).isInFlight id ↔ s.isInFlight id ∨ id = frame.frameId := by
  rw [isInFlight_iff, isInFlight_iff, frames_recordEnqueue, Function.update_apply]
  split_ifs with hi
  · have hfree := frames_next_eq_none h hnext
    rw [hi, hfree]
    simp [eq_comm]
  · have hne : id ≠ frame.frameId := fun he => hi (by rw [he])
    simp [hne]

/-- The assertions that `EnqueueFrame` may fail under slot accounting. -/
def EnqueueFault (s : Sender) (f : SenderFault) : Prop :=
  f = .frameIdNotNext ∨ f = .referencedFrameIdInvalid ∨ f = .rtpTimestampNotIncreasing ∨
    f = .oldestSlotInactive ∧ s.numFramesInFlight ≠ 0 ∧ ¬ s.isInFlight (s.checkpointFrameId + 1)

/-- What `EnqueueFrame` comes to under slot accounting. It never finds its slot in use, nor too
many frames in flight; a frame that is turned away changes nothing. -/
theorem outcome_enqueueFrame (h : s.Accounted) (frame : EncodedFrame) :
    Outcome
      (fun r => r.1 ≠ .ok ∧ r.2 = s ∨ r.1 = .ok ∧ s.IsNext (c.encrypt frame).frameId ∧
        ∃ n : ℕ, 0 < n ∧ r.2 = s.recordEnqueue (c.encrypt frame) n)
      s.EnqueueFault (s.enqueueFrame c frame) := by
  unfold enqueueFrame EnqueueFault
  refine Outcome.require_bind (fun _ => by simp) fun hid => ?_
  refine Outcome.require_bind (fun _ => by simp) fun _ => ?_
  refine Outcome.require_bind (fun _ => by simp) fun _ => ?_
  split_ifs with hspan
  · simp
  have hnext : s.IsNext (c.encrypt frame).frameId := ⟨hid, by simpa using hspan⟩
  refine Outcome.bind (Q := fun _ => True) ?_ fun duration _ => ?_
  · unfold getInFlightMediaDuration
    split_ifs with hzero
    · trivial
    · have hoff : ∀ f, (s.getSlotFor (s.checkpointFrameId + 1)).frame = some f →
          f.frameId ≠ s.checkpointFrameId + 1 → ¬ s.isInFlight (s.checkpointFrameId + 1) := by
        rintro f hf hne ⟨g, hg, hg'⟩
        rw [hf, Option.mem_def, Option.some.injEq] at hg
        exact hne (hg ▸ hg')
      cases hf : (s.getSlotFor (s.checkpointFrameId + 1)).frame with
      | none => simpa [FrameWindow.isInFlight, PendingFrameSlot.isActiveForFrame, hf] using hzero
      | some f =>
        dsimp only
        split_ifs with he
        · trivial
        · simpa [hzero] using hoff f hf he
  · dsimp only
    by_cases hdur : duration > s.getMaxInFlightMediaDuration
    · rw [if_pos hdur]
      simp
    rw [if_neg hdur]
    refine Outcome.require_bind (fun hused => ?_) fun hfree => ?_
    · exact absurd (frames_next_eq_none h hnext) hused
    have hback := setSlot_reset_assign hfree (c.encrypt frame)
    dsimp only at hback ⊢
    rw [hback, recordEnqueue_setSlot, rtpPacketizer_setSlot]
    generalize s.rtpPacketizer.computeNumberOfPackets (c.encrypt frame) = packetCount
    by_cases hcount : packetCount ≤ 0
    · rw [if_pos hcount]
      simp
    rw [if_neg hcount]
    have hpos : 0 < packetCount.toNat := by omega
    have hacc := accounted_recordEnqueue h hpos hnext
    refine Outcome.require_bind (fun hmany => ?_) fun _ => ?_
    · exact absurd hacc.count_le hmany
    · exact Or.inr ⟨rfl, hnext, _, hpos, rfl⟩

variable {P : Sender → Prop} {E : SenderFault → Prop}

/-! ### Dispatching cancellations

The observer may enqueue frames while it is told of cancellations. -/

/-- A property that `EnqueueFrame` keeps, stopping at assertions in `E` only, and that does not
depend on the history or on what the observer is yet to do. -/
structure Kept (P : Sender → Prop) (E : SenderFault → Prop) : Prop where
  accounted : ∀ s, P s → s.Accounted
  record : ∀ s frame n, P s → 0 < n → s.IsNext frame.frameId → P (s.recordEnqueue frame n)
  fault : ∀ s f, P s → s.EnqueueFault f → E f
  note : ∀ (s : Sender) reactions pendingCancellations, P s →
    P { s with reactions, pendingCancellations }
  emit : ∀ (s : Sender) event, removedIds [event] = [] → enqueuedIds [event] = [] → P s →
    P (s.emit event)

theorem Kept.enqueueFrame (k : Kept P E) (h : P s) (frame : EncodedFrame) :
    Outcome (fun r => P r.2) E (s.enqueueFrame c frame) := by
  refine (outcome_enqueueFrame (k.accounted s h) frame).mono ?_ fun f => k.fault s f h
  rintro ⟨r, t⟩ (⟨-, rfl⟩ | ⟨-, hnext, n, hn, rfl⟩)
  · exact h
  · exact k.record s _ n h hn hnext

theorem Kept.react (k : Kept P E) (h : P s) : Outcome P E (s.react c) := by
  unfold Sender.react
  split
  · exact h
  · exact Outcome.foldlM (k.note s _ _ h) fun s frame _ hs => (k.enqueueFrame hs frame).map

theorem Kept.dispatchCancellations (k : Kept P E) (h : P s) :
    Outcome P E (s.dispatchCancellations c) := by
  unfold Sender.dispatchCancellations
  refine Outcome.bind (Q := P) ?_ fun s hs =>
    outcome_pure.mpr (k.note _ _ _ (k.emit s .dispatched rfl rfl hs))
  split_ifs
  · exact Outcome.foldlM h fun s id _ hs => k.react (k.emit s _ rfl rfl hs)
  · exact h

end Sender

end StreamerPlus
