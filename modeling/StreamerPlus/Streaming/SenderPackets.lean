import Mathlib.Data.List.TakeWhile
import StreamerPlus.Streaming.SenderSlots

/-!
# The packets of the sender

What happens to the flags and the sent times of the packets in flight: NACKs flag packets that
they cover, and a packet that is sent is one that was flagged, or the Kickstart packet.
`outcome_getRtpPacketForImmediateSend` says which packet a call can choose, and
`accounted_recordSend` that the frames in flight stay accounted for when it is sent.
-/

namespace StreamerPlus

open Checked

/-! ### Flags and sent times -/

namespace PendingFrameSlot

variable {slot slot' slot'' : PendingFrameSlot} {why why' : ℕ → Prop}

/-- Only flags are set, each of them for the reason `why`. -/
structure FlaggedBy (why : ℕ → Prop) (slot slot' : PendingFrameSlot) : Prop where
  frame : slot'.frame = slot.frame
  times : slot'.packetSentTimes = slot.packetSentTimes
  keeps : ∀ p, slot.sendFlags.isSet p = true → slot'.sendFlags.isSet p = true
  reason : ∀ p, slot'.sendFlags.isSet p = true → slot.sendFlags.isSet p = true ∨ why p

theorem FlaggedBy.refl (slot : PendingFrameSlot) : FlaggedBy why slot slot :=
  ⟨rfl, rfl, fun _ => id, fun _ => Or.inl⟩

theorem FlaggedBy.trans (h : FlaggedBy why slot slot') (h' : FlaggedBy why slot' slot'') :
    FlaggedBy why slot slot'' where
  frame := h'.frame.trans h.frame
  times := h'.times.trans h.times
  keeps p hp := h'.keeps p (h.keeps p hp)
  reason p hp := (h'.reason p hp).elim (h.reason p) Or.inr

theorem FlaggedBy.mono (h : FlaggedBy why slot slot') (hw : ∀ p, why p → why' p) :
    FlaggedBy why' slot slot' :=
  ⟨h.frame, h.times, h.keeps, fun p hp => (h.reason p hp).imp_right (hw p)⟩

theorem FlaggedBy.size_eq (h : FlaggedBy why slot slot') :
    slot'.sendFlags.size = slot.sendFlags.size := by
  rw [slot'.size_eq, h.times, slot.size_eq]

theorem flaggedBy_flag (slot : PendingFrameSlot) (packetId : ℕ) :
    FlaggedBy (· = packetId) slot (slot.flag packetId) := by
  unfold flag
  split
  · rename_i flags hset
    have hbit := BitVector.Backed.isSet_set hset
    refine ⟨rfl, rfl, fun p hp => ?_, fun p hp => ?_⟩
    · show flags.isSet p = true
      simp [hbit, hp]
    · have hp' : flags.isSet p = true := hp
      simpa [hbit] using hp'
  · exact FlaggedBy.refl slot

/-- A packet is flagged only when it was sent early enough. -/
theorem flaggedBy_handleIndividualNack (threshold : ℤ) (s : PendingFrameSlot × Bool) (p : ℕ) :
    FlaggedBy (fun q => q = p ∧ s.1.packetSentTimes.getD q kNever ≤ threshold) s.1
      (handleIndividualNack threshold s p).1 := by
  unfold handleIndividualNack
  split_ifs with h
  · refine (flaggedBy_flag s.1 p).mono ?_
    rintro q rfl
    exact ⟨rfl, h⟩
  · exact FlaggedBy.refl s.1

theorem flaggedBy_foldl (threshold : ℤ) (packetIds : List ℕ) (s : PendingFrameSlot × Bool) :
    FlaggedBy (fun q => q ∈ packetIds ∧ s.1.packetSentTimes.getD q kNever ≤ threshold) s.1
      (packetIds.foldl (handleIndividualNack threshold) s).1 := by
  induction packetIds generalizing s with
  | nil => exact FlaggedBy.refl s.1
  | cons p packetIds ih =>
    have hfirst := flaggedBy_handleIndividualNack threshold s p
    have hrest := ih (handleIndividualNack threshold s p)
    rw [hfirst.times] at hrest
    refine (hfirst.mono ?_).trans (hrest.mono ?_)
    · rintro q ⟨rfl, hq⟩
      exact ⟨List.mem_cons_self, hq⟩
    · rintro q ⟨hq, hq'⟩
      exact ⟨List.mem_cons_of_mem _ hq, hq'⟩

/-- What sending a packet of the frame does to its slot. -/
theorem markSent_spec {packetId : ℕ} (h : packetId < slot.sendFlags.size) (sendTime : ℤ) :
    (slot.markSent packetId sendTime).frame = slot.frame ∧
      (slot.markSent packetId sendTime).packetSentTimes =
        slot.packetSentTimes.set packetId sendTime ∧
      (slot.markSent packetId sendTime).sendFlags.size = slot.sendFlags.size ∧
      ∀ q, (slot.markSent packetId sendTime).sendFlags.isSet q =
        (slot.sendFlags.isSet q && !decide (q = packetId)) := by
  obtain ⟨flags, hclear⟩ := BitVector.Backed.exists_clear h
  unfold markSent
  split
  · rename_i flags' hclear'
    exact ⟨rfl, rfl, BitVector.Backed.size_clear hclear', BitVector.Backed.isSet_clear hclear'⟩
  · rename_i hnone
    rw [hclear] at hnone
    cases hnone

end PendingFrameSlot

namespace FrameWindow

variable {s t u : FrameWindow} {threshold : ℤ} {nacks nacks' : List PacketNack}

/-- The NACKs cover a packet of a frame. -/
def Covers (nacks : List PacketNack) (frameId : ℤ) (packetId : ℕ) : Prop :=
  ∃ nack ∈ nacks, nack.frameId = frameId ∧
    (nack.packetId = packetId ∨ nack.packetId = kAllPacketsLost)

/-- Packets that NACKs cover and that were sent up to `threshold` are flagged, and nothing else
happens to the slots. -/
structure Nacked (nacks : List PacketNack) (threshold : ℤ) (s t : FrameWindow) : Prop where
  num : t.numFramesInFlight = s.numFramesInFlight
  last : t.lastEnqueuedFrameId = s.lastEnqueuedFrameId
  checkpoint : t.checkpointFrameId = s.checkpointFrameId
  latest : s.latestExpectedFrameId ≤ t.latestExpectedFrameId
  slot : ∀ i, PendingFrameSlot.FlaggedBy
    (fun p => (∃ frame, s.frames i = some frame ∧ Covers nacks frame.frameId p) ∧
      (s.pendingFrames i).packetSentTimes.getD p kNever ≤ threshold)
    (s.pendingFrames i) (t.pendingFrames i)

theorem Nacked.frames (h : Nacked nacks threshold s t) : t.frames = s.frames :=
  funext fun i => (h.slot i).frame

theorem Nacked.isInFlight (h : Nacked nacks threshold s t) (id : ℤ) :
    t.isInFlight id ↔ s.isInFlight id := by
  rw [isInFlight_iff, isInFlight_iff, h.frames]

theorem Nacked.refl (s : FrameWindow) : Nacked nacks threshold s s :=
  ⟨rfl, rfl, rfl, le_refl _, fun _ => PendingFrameSlot.FlaggedBy.refl _⟩

theorem Nacked.trans (h : Nacked nacks threshold s t) (h' : Nacked nacks threshold t u) :
    Nacked nacks threshold s u where
  num := h'.num.trans h.num
  last := h'.last.trans h.last
  checkpoint := h'.checkpoint.trans h.checkpoint
  latest := h.latest.trans h'.latest
  slot i := by
    have hslot := h'.slot i
    rw [(h.slot i).times, h.frames] at hslot
    exact (h.slot i).trans hslot

theorem Nacked.mono (h : Nacked nacks threshold s t) (hsub : nacks ⊆ nacks') :
    Nacked nacks' threshold s t where
  num := h.num
  last := h.last
  checkpoint := h.checkpoint
  latest := h.latest
  slot i := (h.slot i).mono <| by
    rintro p ⟨⟨frame, hframe, nack, hmem, hcov⟩, htime⟩
    exact ⟨⟨frame, hframe, nack, hsub hmem, hcov⟩, htime⟩

theorem Accounted.nacked (h : s.Accounted) (hn : Nacked nacks threshold s t) : t.Accounted := by
  unfold Accounted
  rw [hn.checkpoint]
  refine ⟨?_, ?_, ?_, h.leader_le, hn.last ▸ h.le_last, hn.last ▸ h.span⟩
  · rw [hn.num, hn.frames]
    exact h.count
  · rw [hn.frames, hn.last]
    exact h.held
  · intro i frame hframe
    rw [hn.frames] at hframe
    rw [(hn.slot i).size_eq]
    exact h.packets i frame hframe

end FrameWindow

namespace Sender

variable {c : SessionConfig} {s t : Sender} {threshold : ℤ} {nacks : List PacketNack}

open FrameWindow

/-- One group of NACKs, for a frame in flight. -/
theorem nacked_group (threshold : ℤ) {nack : PacketNack} (hid : s.isInFlight nack.frameId)
    (packetIds : List ℕ) (hcov : ∀ p ∈ packetIds, Covers nacks nack.frameId p) (need : Bool) :
    Nacked nacks threshold s.toFrameWindow
      { s.toFrameWindow with
        pendingFrames := Function.update s.pendingFrames (slotIndex nack.frameId)
          (handleNacks threshold (s.getSlotFor nack.frameId, need) packetIds).1
        latestExpectedFrameId := max s.latestExpectedFrameId nack.frameId } := by
  refine ⟨rfl, rfl, rfl, le_max_left _ _, fun i => ?_⟩
  show PendingFrameSlot.FlaggedBy _ _ (Function.update s.pendingFrames _ _ i)
  by_cases hi : i = slotIndex nack.frameId
  · obtain ⟨frame, hframe, hframeId⟩ := isInFlight_iff.mp hid
    rw [hi, Function.update_self]
    refine (PendingFrameSlot.flaggedBy_foldl threshold _ (s.getSlotFor nack.frameId, need)).mono ?_
    rintro p ⟨hp, htime⟩
    exact ⟨⟨frame, hframe, hframeId ▸ hcov p (List.mem_of_mem_filter hp)⟩, htime⟩
  · rw [Function.update_of_ne hi]
    exact PendingFrameSlot.FlaggedBy.refl _

/-- The packets that a group names are covered by the list that the group starts. -/
theorem covers_group (nack : PacketNack) (nacks : List PacketNack) {p : ℕ}
    (hp : p ∈ nack.packetId ::
      (nacks.takeWhile (·.frameId = nack.frameId)).map PacketNack.packetId) :
    Covers (nack :: nacks) nack.frameId p := by
  rcases List.mem_cons.mp hp with rfl | hp
  · exact ⟨nack, List.mem_cons_self, rfl, Or.inl rfl⟩
  · obtain ⟨n, hn, rfl⟩ := List.mem_map.mp hp
    have hmem : n ∈ nacks := (List.takeWhile_sublist _).subset hn
    have hframe : n.frameId = nack.frameId := by
      simpa using List.mem_takeWhile_imp hn
    exact ⟨n, List.mem_cons_of_mem _ hmem, hframe, Or.inl rfl⟩

/-- The NACK loop changes the slots only, as the NACKs say. -/
theorem nacked_handleMissingPackets (fuel : ℕ) (need : Bool) :
    ∃ w, (handleMissingPackets threshold fuel nacks (s, need)).1 = { s with toFrameWindow := w } ∧
      Nacked nacks threshold s.toFrameWindow w := by
  induction fuel generalizing nacks s need with
  | zero => exact ⟨s.toFrameWindow, rfl, Nacked.refl _⟩
  | succ fuel ih =>
    cases nacks with
    | nil => exact ⟨s.toFrameWindow, rfl, Nacked.refl _⟩
    | cons nack nacks =>
      rw [handleMissingPackets]
      have hdrop : nacks.dropWhile (·.frameId = nack.frameId) ⊆ nack :: nacks :=
        fun _ h => List.mem_cons_of_mem _ ((List.dropWhile_sublist _).subset h)
      split_ifs with hactive hall
      · -- all packets of the frame
        have hgroup := nacked_group threshold hactive.2
          (List.range (s.getSlotFor nack.frameId).packetSentTimes.length)
          (fun p _ => ⟨nack, List.mem_cons_self (l := nacks), rfl, Or.inr hall⟩) need
        obtain ⟨w, hw, hrest⟩ := @ih { s with toFrameWindow := _ } nacks
          (handleNacks threshold (s.getSlotFor nack.frameId, need)
            (List.range (s.getSlotFor nack.frameId).packetSentTimes.length)).2
        exact ⟨w, hw, hgroup.trans (hrest.mono (List.subset_cons_self _ _))⟩
      · -- each packet that the group names
        have hgroup := nacked_group threshold hactive.2 (nack.packetId ::
            (nacks.takeWhile (·.frameId = nack.frameId)).map PacketNack.packetId)
          (fun p hp => covers_group nack nacks hp) need
        obtain ⟨w, hw, hrest⟩ := @ih { s with toFrameWindow := _ }
          (nacks.dropWhile (·.frameId = nack.frameId))
          (handleNacks threshold (s.getSlotFor nack.frameId, need) (nack.packetId ::
            (nacks.takeWhile (·.frameId = nack.frameId)).map PacketNack.packetId)).2
        exact ⟨w, hw, hgroup.trans (hrest.mono hdrop)⟩
      · obtain ⟨w, hw, hrest⟩ := @ih s (nacks.dropWhile (·.frameId = nack.frameId)) need
        exact ⟨w, hw, hrest.mono hdrop⟩

/-- What `OnReceiverIsMissingPackets` comes to. -/
theorem outcome_onReceiverIsMissingPackets (s : Sender) (nacks : List PacketNack) :
    Outcome
      (fun t => ∃ w events, t = { s with toFrameWindow := w, events := s.events ++ events } ∧
        (events = [] ∨ events = [.requestRtpSend]) ∧
        Nacked nacks (s.rtcpPacketArrivalTime - s.roundTripTime) s.toFrameWindow w)
      (· = .arrivalTimeNever) (s.onReceiverIsMissingPackets nacks) := by
  unfold onReceiverIsMissingPackets
  refine Outcome.require_bind (fun _ => rfl) fun _ => ?_
  obtain ⟨w, hw, hnacked⟩ := @nacked_handleMissingPackets s
    (s.rtcpPacketArrivalTime - s.roundTripTime) nacks nacks.length false
  dsimp only
  generalize handleMissingPackets (s.rtcpPacketArrivalTime - s.roundTripTime) nacks.length nacks
    (s, false) = r at hw ⊢
  obtain ⟨s', need⟩ := r
  dsimp only at hw
  subst hw
  cases need with
  | true => exact ⟨w, [.requestRtpSend], rfl, Or.inr rfl, hnacked⟩
  | false => exact ⟨w, [], by simp, Or.inl rfl, hnacked⟩

/-! ### Sending a packet -/

/-- The chosen packet belongs to a frame in flight. -/
structure IsPacket (s : Sender) (chosen : ChosenPacket) (frame : EncryptedFrame) : Prop where
  held : s.frames chosen.slot = some frame
  index : chosen.slot = slotIndex frame.frameId
  packet : chosen.packetId < (s.pendingFrames chosen.slot).sendFlags.size

theorem chooseFrom_eq_none {n : ℕ} {frameId : ℤ} (h : s.chooseFrom n frameId = none) {id : ℤ}
    (hlo : frameId ≤ id) (hhi : id < frameId + n) (hid : s.isInFlight id) (p : ℕ)
    (hp : p < (s.getSlotFor id).sendFlags.size) : (s.getSlotFor id).sendFlags.isSet p = false := by
  induction n generalizing frameId with
  | zero => simp at hhi; omega
  | succ n ih =>
    rw [chooseFrom] at h
    split_ifs at h with hfirst
    by_cases heq : id = frameId
    · subst heq
      refine BitVector.Backed.isSet_of_lt_findFirstSet (lt_of_lt_of_le hp ?_)
      exact not_lt.mp fun hlt => hfirst ⟨hid, hlt⟩
    · exact ih h (by omega) (by push_cast at hhi; omega)

variable {chosen : ChosenPacket}

/-- The chosen packet is the first flagged one of the first frame that has one. -/
theorem chooseFrom_eq_some {n : ℕ} {frameId : ℤ} (h : s.chooseFrom n frameId = some chosen) :
    ∃ id frame, frameId ≤ id ∧ id < frameId + n ∧ frame.frameId = id ∧ s.IsPacket chosen frame ∧
      chosen.packetId = (s.getSlotFor id).sendFlags.findFirstSet ∧
      ∀ id', frameId ≤ id' → id' < id → s.isInFlight id' →
        ∀ p < (s.getSlotFor id').sendFlags.size, (s.getSlotFor id').sendFlags.isSet p = false := by
  induction n generalizing frameId with
  | zero => cases h
  | succ n ih =>
    rw [chooseFrom] at h
    split_ifs at h with hfirst
    · cases h
      obtain ⟨frame, hframe, hid⟩ := isInFlight_iff.mp hfirst.1
      exact ⟨frameId, frame, le_refl _, by push_cast; omega, hid, ⟨hframe, by rw [hid], hfirst.2⟩,
        rfl, fun id' h₁ h₂ => by omega⟩
    · obtain ⟨id, frame, hlo, hhi, hid, hpacket, hfind, hbefore⟩ := ih h
      refine ⟨id, frame, by omega, by push_cast; omega, hid, hpacket, hfind,
        fun id' h₁ h₂ hfl p hp => ?_⟩
      by_cases heq : id' = frameId
      · subst heq
        refine BitVector.Backed.isSet_of_lt_findFirstSet (lt_of_lt_of_le hp ?_)
        exact not_lt.mp fun hlt => hfirst ⟨hfl, hlt⟩
      · exact hbefore id' (by omega) h₂ hfl p hp

/-- The packet that `ChooseKickstartPacket` considers. -/
def kickstartPacket (s : Sender) : ChosenPacket :=
  ⟨slotIndex s.lastEnqueuedFrameId, (s.getSlotFor s.lastEnqueuedFrameId).sendFlags.size - 1⟩

/-- When the Kickstart packet was last sent. -/
def kickstartLastSent (s : Sender) : ℤ :=
  (s.getSlotFor s.lastEnqueuedFrameId).packetSentTimes.getD s.kickstartPacket.packetId kNever

/-- Why `ChooseKickstartPacket` stops. -/
def KickstartFault (s : Sender) (f : SenderFault) : Prop :=
  s.latestExpectedFrameId < s.lastEnqueuedFrameId ∧
    (f = .kickstartSlotInactive ∧ ¬ s.isInFlight s.lastEnqueuedFrameId ∨
      f = .kickstartNeverSent ∧ s.isInFlight s.lastEnqueuedFrameId ∧ s.kickstartLastSent = kNever)

/-- A Kickstart packet is the last packet of the last enqueued frame. -/
theorem outcome_chooseKickstartPacket (h : s.Accounted) :
    Outcome
      (fun r => r = (none, kNever) ∧ s.lastEnqueuedFrameId ≤ s.latestExpectedFrameId ∨
        r = (some s.kickstartPacket, s.kickstartLastSent + s.kickstartInterval) ∧
          s.latestExpectedFrameId < s.lastEnqueuedFrameId ∧
          ∃ frame, frame.frameId = s.lastEnqueuedFrameId ∧ s.IsPacket s.kickstartPacket frame)
      s.KickstartFault s.chooseKickstartPacket := by
  unfold chooseKickstartPacket
  split_ifs with hlatest
  · exact Or.inl ⟨rfl, hlatest⟩
  · have hlt : s.latestExpectedFrameId < s.lastEnqueuedFrameId := not_le.mp hlatest
    refine Outcome.require_bind (fun hoff => ⟨hlt, Or.inl ⟨rfl, hoff⟩⟩) fun hon => ?_
    refine Outcome.require_bind (fun hnever => ⟨hlt, Or.inr ⟨rfl, hon, not_not.mp hnever⟩⟩)
      fun _ => ?_
    obtain ⟨frame, hframe, hid⟩ := isInFlight_iff.mp hon
    have hpos := h.packets _ _ hframe
    refine Or.inr ⟨rfl, hlt, frame, hid, hframe, ?_, Nat.sub_lt hpos Nat.one_pos⟩
    rw [hid]
    rfl

/-- Why a packet is chosen: it is the next one that needs sending, or there is none and it is
the Kickstart packet, which is due. -/
structure Chooses (s : Sender) (sendTime : ℤ) (chosen : ChosenPacket) (frame : EncryptedFrame) :
    Prop where
  isPacket : s.IsPacket chosen frame
  reason : s.chooseNextRtpPacketNeedingSend = some chosen ∨
    s.chooseNextRtpPacketNeedingSend = none ∧ chosen = s.kickstartPacket ∧
      frame.frameId = s.lastEnqueuedFrameId ∧
      s.latestExpectedFrameId < s.lastEnqueuedFrameId ∧
      s.kickstartLastSent + s.kickstartInterval ≤ sendTime

theorem outcome_choosePacket (h : s.Accounted) (sendTime : ℤ) :
    Outcome
      (fun r => ∀ chosen, r = some chosen → ∃ frame, s.Chooses sendTime chosen frame)
      (fun f => f = .nothingChosen ∨
        s.chooseNextRtpPacketNeedingSend = none ∧ s.KickstartFault f)
      (s.choosePacket sendTime) := by
  unfold choosePacket
  cases hnext : s.chooseNextRtpPacketNeedingSend with
  | some chosen =>
    rintro _ ⟨⟩
    obtain ⟨id, frame, -, -, -, hpacket, -⟩ := chooseFrom_eq_some hnext
    exact ⟨frame, hpacket, Or.inl hnext⟩
  | none =>
    refine Outcome.bind ((outcome_chooseKickstartPacket h).mono (fun _ => id)
      fun f hf => Or.inr ⟨rfl, hf⟩) ?_
    rintro ⟨kickstart, due⟩ hkick
    dsimp only
    split_ifs with hdue
    · rintro chosen ⟨⟩
    · refine Outcome.require_bind (fun _ => Or.inl rfl) fun hsome => ?_
      rcases hkick with ⟨heq, -⟩ | ⟨heq, hlt, frame, hid, hpacket⟩
      · cases heq
        cases hsome
      · cases heq
        rintro _ ⟨⟩
        exact ⟨frame, hpacket, Or.inr ⟨hnext, rfl, hid, hlt, not_lt.mp hdue⟩⟩

/-- What `GetRtpPacketForImmediateSend` comes to. -/
theorem outcome_getRtpPacketForImmediateSend (h : s.Accounted) (sendTime : ℤ) (bufferSize : ℕ) :
    Outcome
      (fun r => r = (none, s) ∨ ∃ chosen frame bytes packetizer, s.Chooses sendTime chosen frame ∧
        s.rtpPacketizer.generatePacket frame chosen.packetId bufferSize = .ok (bytes, packetizer) ∧
        r = (some ⟨frame.frameId, chosen.packetId, bytes⟩,
          s.recordSend chosen sendTime packetizer bytes.length))
      (fun f => f = .nothingChosen ∨ f = .octetCountNegative ∨ (∃ g, f = .packetizer g) ∨
        s.chooseNextRtpPacketNeedingSend = none ∧ s.KickstartFault f)
      (s.getRtpPacketForImmediateSend sendTime bufferSize) := by
  unfold getRtpPacketForImmediateSend
  refine Outcome.bind ((outcome_choosePacket h sendTime).mono (fun _ => id) fun f hf => by
    tauto) ?_
  intro choice hchoice
  cases choice with
  | none => exact Or.inl rfl
  | some chosen =>
    obtain ⟨frame, hchooses⟩ := hchoice chosen rfl
    have hframe : (s.pendingFrames chosen.slot).frame = some frame := hchooses.isPacket.held
    simp only [hframe]
    cases hgen : s.rtpPacketizer.generatePacket frame chosen.packetId bufferSize with
    | error g => exact Or.inr (Or.inr (Or.inl ⟨g, rfl⟩))
    | ok r =>
      obtain ⟨bytes, packetizer⟩ := r
      refine Outcome.require_bind (fun _ => Or.inr (Or.inl rfl)) fun _ => ?_
      exact Or.inr ⟨chosen, frame, bytes, packetizer, hchooses, hgen, rfl⟩

/-- Sending a packet moves no frame. -/
theorem frames_recordSend {frame : EncryptedFrame}
    (h : s.IsPacket chosen frame) (sendTime : ℤ) (packetizer : RtpPacketizer) (size : ℕ) :
    (s.recordSend chosen sendTime packetizer size).frames = s.frames := by
  have hupdate : (s.recordSend chosen sendTime packetizer size).frames =
      Function.update s.frames chosen.slot
        ((s.pendingFrames chosen.slot).markSent chosen.packetId sendTime).frame :=
    s.frames_update _ _ _ _ _ _
  rw [hupdate, (PendingFrameSlot.markSent_spec h.packet sendTime).1]
  exact Function.update_eq_self _ _

theorem accounted_recordSend (h : s.Accounted) {frame : EncryptedFrame}
    (hpacket : s.IsPacket chosen frame) (sendTime : ℤ) (packetizer : RtpPacketizer) (size : ℕ) :
    (s.recordSend chosen sendTime packetizer size).Accounted := by
  have hframes := frames_recordSend hpacket sendTime packetizer size
  refine ⟨hframes ▸ h.count, hframes ▸ h.held, fun i f hf => ?_, h.leader_le, h.le_last, h.span⟩
  rw [hframes] at hf
  show 0 < (Function.update s.pendingFrames _ _ i).sendFlags.size
  by_cases hi : i = chosen.slot
  · subst hi
    rw [Function.update_self, (PendingFrameSlot.markSent_spec hpacket.packet sendTime).2.2.1]
    exact h.packets _ f hf
  · rw [Function.update_of_ne hi]
    exact h.packets i f hf

end Sender

end StreamerPlus
