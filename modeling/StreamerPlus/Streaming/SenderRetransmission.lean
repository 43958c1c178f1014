import StreamerPlus.Streaming.SenderAccounting

/-!
# Which packets are sent, and when again

A packet is sent because its flag is set, and then it is the first such packet, or it is sent as
a Kickstart packet. Once it is sent its flag is clear, and only a NACK that arrives late enough
for the packet to have been lost sets it again.

## Main results

* `retransmission_policy`: which packets a run emits, and when it emits one again.
-/

namespace StreamerPlus

open Checked FrameWindow TransitionSystem

namespace Sender

variable {c : SessionConfig} {s t : Sender} {frameId : ℤ} {packetId : ℕ} {time : ℤ}

/-! ### The choice of a packet -/

/-- The packet belongs to a frame in flight and needs sending. -/
def Flagged (w : FrameWindow) (frameId : ℤ) (packetId : ℕ) : Prop :=
  w.isInFlight frameId ∧ packetId < (w.getSlotFor frameId).sendFlags.size ∧
    (w.getSlotFor frameId).sendFlags.isSet packetId = true

theorem not_flagged_of_none (h : s.Accounted) (hnext : s.chooseNextRtpPacketNeedingSend = none)
    (frameId : ℤ) (packetId : ℕ) : ¬ Flagged s.toFrameWindow frameId packetId := by
  rintro ⟨hfl, hsize, hset⟩
  have := h.bounds hfl
  rw [chooseFrom_eq_none hnext (by omega) (by omega) hfl packetId hsize] at hset
  cases hset

variable {frame : EncryptedFrame} {chosen : ChosenPacket}

/-- `ChooseNextRtpPacketNeedingSend` finds the first flagged packet of the first frame that has
one. -/
theorem first_of_some (h : s.Accounted)
    (hnext : s.chooseNextRtpPacketNeedingSend = some chosen) (hpacket : s.IsPacket chosen frame) :
    Flagged s.toFrameWindow frame.frameId chosen.packetId ∧
      ∀ id p, Flagged s.toFrameWindow id p →
        frame.frameId < id ∨ frame.frameId = id ∧ chosen.packetId ≤ p := by
  obtain ⟨_, frame', -, -, rfl, hpacket', hfirst, hbefore⟩ := chooseFrom_eq_some hnext
  cases hpacket.held.symm.trans hpacket'.held
  have hslot : s.getSlotFor frame.frameId = s.pendingFrames chosen.slot := by
    rw [hpacket.index]
    rfl
  have hlt : (s.getSlotFor frame.frameId).sendFlags.findFirstSet <
      (s.getSlotFor frame.frameId).sendFlags.size := by
    rw [← hfirst, hslot]
    exact hpacket.packet
  refine ⟨⟨isInFlight_iff.mpr ⟨frame, hpacket.index ▸ hpacket.held, rfl⟩, hfirst ▸ hlt, ?_⟩,
    fun id p ⟨hfl, hsize, hset⟩ => ?_⟩
  · rw [hfirst]
    exact BitVector.Backed.isSet_findFirstSet hlt
  · rcases lt_trichotomy frame.frameId id with hgt | rfl | hlt'
    · exact Or.inl hgt
    · refine Or.inr ⟨rfl, le_of_not_gt fun hp => ?_⟩
      rw [hfirst] at hp
      rw [BitVector.Backed.isSet_of_lt_findFirstSet hp] at hset
      cases hset
    · have := h.bounds hfl
      rw [hbefore id (by omega) hlt' hfl p hsize] at hset
      cases hset

/-! ### A packet that has been sent -/

/-- The packet was last sent at `time`, if its frame is still in flight, and it is not flagged. -/
structure SentAt (frameId : ℤ) (packetId : ℕ) (time : ℤ) (w : FrameWindow) : Prop where
  accounted : w.Accounted
  enqueued : frameId ≤ w.lastEnqueuedFrameId
  sent : w.isInFlight frameId → (w.getSlotFor frameId).packetSentTimes.getD packetId kNever = time
  clear : w.isInFlight frameId → (w.getSlotFor frameId).sendFlags.isSet packetId = false

theorem SentAt.shrinks {gone : ℤ → Prop} {w w' : FrameWindow} (h : SentAt frameId packetId time w)
    (hacc : w'.Accounted) (hs : Shrinks gone w w') : SentAt frameId packetId time w' := by
  refine ⟨hacc, hs.last ▸ h.enqueued, fun hfl => ?_, fun hfl => ?_⟩
  · rw [hs.getSlotFor hfl]
    exact h.sent ((hs.inFlight _).mp hfl).1
  · rw [hs.getSlotFor hfl]
    exact h.clear ((hs.inFlight _).mp hfl).1

theorem SentAt.recordEnqueue (h : SentAt frameId packetId time s.toFrameWindow)
    {n : ℕ} (hn : 0 < n) (hnext : s.IsNext frame.frameId) :
    SentAt frameId packetId time (s.recordEnqueue frame n).toFrameWindow := by
  have henq := h.enqueued
  have hid := hnext.eq
  have hold : (s.recordEnqueue frame n).isInFlight frameId → s.isInFlight frameId := fun hfl =>
    ((isInFlight_recordEnqueue h.accounted hnext _).mp hfl).resolve_right (by omega)
  -- the new frame takes an empty slot
  have hslot : s.isInFlight frameId →
      (s.recordEnqueue frame n).getSlotFor frameId = s.getSlotFor frameId := by
    intro hfl
    obtain ⟨f, hf, -⟩ := isInFlight_iff.mp hfl
    have hnone := frames_next_eq_none h.accounted hnext
    have hne : slotIndex frameId ≠ slotIndex frame.frameId := fun heq => by
      rw [heq, hnone] at hf
      cases hf
    exact Function.update_of_ne hne _ _
  refine ⟨accounted_recordEnqueue h.accounted hn hnext, ?_, fun hfl => ?_, fun hfl => ?_⟩
  · change frameId ≤ frame.frameId
    omega
  · rw [hslot (hold hfl)]
    exact h.sent (hold hfl)
  · rw [hslot (hold hfl)]
    exact h.clear (hold hfl)

/-- NACKs flag the packet only if they cover it and it was sent early enough. -/
theorem SentAt.nacked {nacks : List PacketNack} {threshold : ℤ} {w w' : FrameWindow}
    (h : SentAt frameId packetId time w) (hn : Nacked nacks threshold w w') :
    SentAt frameId packetId time w' ∨ Covers nacks frameId packetId ∧ time ≤ threshold := by
  have hacc := FrameWindow.Accounted.nacked h.accounted hn
  have hslot := hn.slot (slotIndex frameId)
  by_cases hfl : w.isInFlight frameId
  · cases hflag : (w'.getSlotFor frameId).sendFlags.isSet packetId with
    | false =>
      refine Or.inl ⟨hacc, hn.last ▸ h.enqueued, fun _ => ?_, fun _ => hflag⟩
      rw [FrameWindow.getSlotFor, hslot.times]
      exact h.sent hfl
    | true =>
      right
      rcases hslot.reason packetId hflag with hset | ⟨⟨frame, hframe, hcovers⟩, hle⟩
      · exact absurd (hset.symm.trans (h.clear hfl)) (by simp)
      · obtain ⟨frame', hframe', rfl⟩ := isInFlight_iff.mp hfl
        cases hframe.symm.trans hframe'
        exact ⟨hcovers, (h.sent hfl).symm.le.trans hle⟩
  · have hfl' : ¬ w'.isInFlight frameId := by rwa [hn.isInFlight]
    exact Or.inl ⟨hacc, hn.last ▸ h.enqueued, fun h' => absurd h' hfl', fun h' => absurd h' hfl'⟩

/-- What sending leaves in the slot of a frame in flight. -/
theorem getSlotFor_recordSend
    (hpacket : s.IsPacket chosen frame) (hfl : s.isInFlight frameId) (sendTime : ℤ)
    (packetizer : RtpPacketizer) (size : ℕ) :
    (s.recordSend chosen sendTime packetizer size).getSlotFor frameId =
      if frameId = frame.frameId then (s.getSlotFor frameId).markSent chosen.packetId sendTime
      else s.getSlotFor frameId := by
  show Function.update s.pendingFrames _ _ _ = _
  split_ifs with heq
  · rw [heq, ← hpacket.index, Function.update_self, FrameWindow.getSlotFor, ← hpacket.index]
  · refine Function.update_of_ne (fun hslot => heq ?_) _ _
    obtain ⟨f, hf, rfl⟩ := isInFlight_iff.mp hfl
    rw [hslot, hpacket.held] at hf
    cases hf
    rfl

theorem sentAt_recordSend (h : s.Accounted)
    (hpacket : s.IsPacket chosen frame) (sendTime : ℤ) (packetizer : RtpPacketizer) (size : ℕ) :
    SentAt frame.frameId chosen.packetId sendTime
      (s.recordSend chosen sendTime packetizer size).toFrameWindow := by
  have hfl : s.isInFlight frame.frameId :=
    isInFlight_iff.mpr ⟨frame, hpacket.index ▸ hpacket.held, rfl⟩
  have hslot := getSlotFor_recordSend hpacket hfl sendTime packetizer size
  rw [if_pos rfl] at hslot
  have hsize : chosen.packetId < (s.getSlotFor frame.frameId).sendFlags.size := by
    rw [FrameWindow.getSlotFor, ← hpacket.index]
    exact hpacket.packet
  obtain ⟨-, htimes, -, hflags⟩ := PendingFrameSlot.markSent_spec hsize sendTime
  have hlen := (s.getSlotFor frame.frameId).size_eq
  refine ⟨accounted_recordSend h hpacket _ _ _, (h.bounds hfl).2, fun _ => ?_, fun _ => ?_⟩
  · rw [hslot, htimes, List.getD_eq_getElem?_getD, List.getElem?_set_self (by omega)]
    rfl
  · simp [hslot, hflags]

/-- Another packet is sent. -/
theorem SentAt.recordSend (h : SentAt frameId packetId time s.toFrameWindow)
    (hpacket : s.IsPacket chosen frame)
    (hne : ¬ (frame.frameId = frameId ∧ chosen.packetId = packetId)) (sendTime : ℤ)
    (packetizer : RtpPacketizer) (size : ℕ) :
    SentAt frameId packetId time (s.recordSend chosen sendTime packetizer size).toFrameWindow := by
  have hold : (s.recordSend chosen sendTime packetizer size).isInFlight frameId ↔
      s.isInFlight frameId := by
    rw [isInFlight_iff, frames_recordSend hpacket, ← isInFlight_iff]
  have hslot : s.isInFlight frameId →
      ((s.recordSend chosen sendTime packetizer size).getSlotFor frameId).packetSentTimes.getD
        packetId kNever = (s.getSlotFor frameId).packetSentTimes.getD packetId kNever ∧
      ((s.recordSend chosen sendTime packetizer size).getSlotFor frameId).sendFlags.isSet packetId =
        (s.getSlotFor frameId).sendFlags.isSet packetId := by
    intro hfl
    rw [getSlotFor_recordSend hpacket hfl]
    split_ifs with heq
    · have hpid : packetId ≠ chosen.packetId := fun h' => hne ⟨heq.symm, h'.symm⟩
      have hsize : chosen.packetId < (s.getSlotFor frameId).sendFlags.size := by
        rw [FrameWindow.getSlotFor, heq, ← hpacket.index]
        exact hpacket.packet
      obtain ⟨-, htimes, -, hflags⟩ := PendingFrameSlot.markSent_spec hsize sendTime
      rw [htimes, hflags, List.getD_eq_getElem?_getD, List.getElem?_set_ne hpid.symm,
        ← List.getD_eq_getElem?_getD]
      simp [hpid]
    · exact ⟨rfl, rfl⟩
  refine ⟨accounted_recordSend h.accounted hpacket _ _ _, h.enqueued, fun hfl => ?_, fun hfl => ?_⟩
  · exact (hslot (hold.mp hfl)).1.trans (h.sent (hold.mp hfl))
  · exact (hslot (hold.mp hfl)).2.trans (h.clear (hold.mp hfl))

/-! ### Steps -/

/-- The packet is last sent at `time`, or something else is known of the round trip time. The
arrival time of the RTCP packet stays. -/
def SentOr (frameId : ℤ) (packetId : ℕ) (time arrivalTime : ℤ) (R : ℤ → Prop) (s : Sender) : Prop :=
  s.rtcpPacketArrivalTime = arrivalTime ∧
    (SentAt frameId packetId time s.toFrameWindow ∨ s.Accounted ∧ R s.roundTripTime)

theorem kept_sentOr {arrivalTime : ℤ} {R : ℤ → Prop} :
    Kept (SentOr frameId packetId time arrivalTime R) (fun _ => True) where
  accounted _ h := h.2.elim (·.accounted) And.left
  record _ _ _ h hn hnext := ⟨h.1, h.2.imp (·.recordEnqueue hn hnext)
    fun h' => ⟨accounted_recordEnqueue h'.1 hn hnext, h'.2⟩⟩
  fault _ _ _ _ := trivial
  note _ _ _ h := h
  emit _ _ _ _ h := h

/-- The call processes an RTCP packet that has a NACK for the packet and that arrived a round
trip time after `time` or later. -/
def Renews (c : SessionConfig) (frameId : ℤ) (packetId : ℕ) (time : ℤ) (s : Sender)
    (a : SenderOp × SenderOutput) (t : Sender) : Prop :=
  ∃ arrivalTime packet reactions r rtcpParser,
    a.1 = .onReceivedRtcpPacket arrivalTime packet reactions ∧
    s.rtcpParser.parse c.session packet s.lastEnqueuedFrameId = .ok (.dispatched r, rtcpParser) ∧
    Covers r.packetNacks frameId packetId ∧ time ≤ arrivalTime - t.roundTripTime

/-- The call emits the packet, and when. -/
def Emits (a : SenderOp × SenderOutput) (frameId : ℤ) (packetId : ℕ) (time : ℤ) : Prop :=
  ∃ bufferSize bytes,
    a = (.getRtpPacketForImmediateSend time bufferSize,
      .rtpPacket (some ⟨frameId, packetId, bytes⟩))

theorem outcome_onParsed_sentAt (h : SentAt frameId packetId time s.toFrameWindow)
    (r : RtcpParseResults) :
    Outcome (SentOr frameId packetId time s.rtcpPacketArrivalTime fun roundTripTime =>
        Covers r.packetNacks frameId packetId ∧ time ≤ s.rtcpPacketArrivalTime - roundTripTime)
      (fun _ => True) (s.onParsed c r) := by
  have hout : ∀ t : Sender,
      SentOr frameId packetId time s.rtcpPacketArrivalTime (fun _ => False) t →
      SentAt frameId packetId time t.toFrameWindow := fun t ht => ht.2.resolve_right And.right
  have hremoved : ∀ (u v : Sender) (id : ℤ) (gone : ℤ → Prop) (checkpoint : ℤ),
      SentOr frameId packetId time s.rtcpPacketArrivalTime (fun _ => False) u →
      Removes true gone checkpoint u v →
      SentOr frameId packetId time s.rtcpPacketArrivalTime (fun _ => False) (v.expect id) := by
    intro u v id gone checkpoint hu hr
    have hv := (hout u hu).shrinks hr.accounted hr.shrinks
    exact ⟨hr.releases.rtcpPacketArrivalTime.trans hu.1,
      Or.inl ⟨hr.accounted.expect _, hv.2, hv.3, hv.4⟩⟩
  refine outcome_onParsed
    (A := SentOr frameId packetId time s.rtcpPacketArrivalTime fun _ => False)
    (B := SentOr frameId packetId time s.rtcpPacketArrivalTime fun _ => False)
    (D := SentOr frameId packetId time s.rtcpPacketArrivalTime fun _ => False)
    ⟨rfl, Or.inl h⟩ (fun report _ => ?_) ⟨fun _ _ => id, fun id _ u hu => ?_, fun _ _ => id,
      fun last _ u hu => ?_, fun _ u hu => ⟨hu.1, Or.inl (hout u hu)⟩⟩ (fun u hu => ?_)
    (fun u hu => ?_)
  · exact outcome_onReceiverReport report (fun _ => ⟨rfl, Or.inl h⟩) trivial
  · exact outcome_onReceiverCheckpoint (hout u hu).accounted (fun _ => hu)
      (fun v _ hr => hremoved u v id _ _ hu hr) (fun v => kept_sentOr.dispatchCancellations) trivial
  · exact outcome_onReceiverHasFrames (hout u hu).accounted (fun _ => hu)
      (fun v _ hr => hremoved u v last _ _ hu hr) (fun v => kept_sentOr.dispatchCancellations)
  · refine (outcome_onReceiverIsMissingPackets u r.packetNacks).mono ?_ fun _ _ => trivial
    rintro v ⟨w, events, rfl, -, hn⟩
    refine ⟨hu.1, ((hout u hu).nacked hn).imp id fun ⟨hcovers, hle⟩ =>
      ⟨FrameWindow.Accounted.nacked (hout u hu).accounted hn, hcovers, ?_⟩⟩
    rw [← hu.1]
    exact hle
  · exact outcome_onReceiverIndicatesPictureLoss hu hu fun v hv => kept_sentOr.react hv

theorem kept_sentAt :
    Kept (fun s => SentAt frameId packetId time s.toFrameWindow) (fun _ => True) where
  accounted _ h := h.accounted
  record _ _ _ h := h.recordEnqueue
  fault _ _ _ _ := trivial
  note _ _ _ h := h
  emit _ _ _ _ h := h

theorem callRules_sentAt :
    CallRules c (fun s => SentAt frameId packetId time s.toFrameWindow)
      (fun s => SentAt frameId packetId time s.toFrameWindow) (fun _ => True) :=
  kept_sentAt.callRules (fun _ _ _ _ _ _ => id) fun _ _ => trivial

theorem SentAt.onReceivedRtcpPacket (h : SentAt frameId packetId time s.toFrameWindow)
    (arrivalTime : ℤ) (packet : ByteView) (reactions : List (List EncodedFrame))
    (out : SenderOutput) :
    Outcome (fun t => SentAt frameId packetId time t.toFrameWindow ∨ Renews c frameId packetId time
        s (.onReceivedRtcpPacket arrivalTime packet reactions, out) t)
      (fun _ => True) (onReceivedRtcpPacket c { s with reactions } arrivalTime packet) := by
  refine outcome_onReceivedRtcpPacket (Q := fun t => SentAt frameId packetId time t.toFrameWindow ∨
      Renews c frameId packetId time s (.onReceivedRtcpPacket arrivalTime packet reactions, out) t)
    (fun _ => trivial) (fun _ _ => Or.inl h) (fun _ _ _ => id) (fun _ _ => Or.inl h)
    fun r rtcpParser hparse => ?_
  refine (outcome_onParsed_sentAt (s := { s with
    reactions, rtcpPacketArrivalTime := arrivalTime, rtcpParser }) h r).mono
    (fun t ht => ?_) fun _ _ => trivial
  refine ht.2.imp id fun ⟨_, hcovers, hle⟩ => ?_
  exact ⟨arrivalTime, packet, reactions, r, rtcpParser, rfl, hparse, hcovers, hle⟩

/-- A call that emits a packet chose it. -/
theorem chooses_of_emits {a : SenderOp × SenderOutput} (h : s.Accounted) (hstep : Step c s a t)
    (hemits : Emits a frameId packetId time) :
    ∃ chosen frame packetizer size, s.Chooses time chosen frame ∧ frame.frameId = frameId ∧
      chosen.packetId = packetId ∧ t = s.recordSend chosen time packetizer size := by
  obtain ⟨bufferSize, bytes, rfl⟩ := hemits
  obtain ⟨⟨packet, u⟩, hr, heq⟩ := bind_eq_ok.mp hstep.2
  cases heq
  rcases (outcome_getRtpPacketForImmediateSend h time bufferSize).of_ok hr with
    hnone | ⟨chosen, frame, bytes', packetizer, hchooses, -, hsome⟩
  · cases hnone
  · cases hsome
    exact ⟨chosen, frame, packetizer, _, hchooses, rfl, rfl, rfl⟩

/-- A packet that has been sent stays so until it is sent again or a NACK renews it. -/
theorem SentAt.step (h : SentAt frameId packetId time s.toFrameWindow)
    {a : SenderOp × SenderOutput} (hstep : Step c s a t)
    (hnot : ∀ time', ¬ Emits a frameId packetId time') :
    SentAt frameId packetId time t.toFrameWindow ∨ Renews c frameId packetId time s a t := by
  obtain ⟨op, out⟩ := a
  have hother : (∀ arrivalTime packet reactions,
        op ≠ .onReceivedRtcpPacket arrivalTime packet reactions) →
      (∀ sendTime bufferSize, op ≠ .getRtpPacketForImmediateSend sendTime bufferSize) →
      SentAt frameId packetId time t.toFrameWindow := fun hrtcp hrtp =>
    (callRules_sentAt.step h (fun _ _ u hr => h.shrinks hr.accounted hr.shrinks)
      (fun _ _ _ hop => absurd hop (hrtcp _ _ _)) (fun _ _ hop => absurd hop (hrtp _ _))
      (fun _ _ => h) fun _ _ _ => trivial).of_ok hstep.2
  cases op with
  | onReceivedRtcpPacket arrivalTime packet reactions =>
    obtain ⟨u, hu, heq⟩ := bind_eq_ok.mp hstep.2
    cases heq
    exact (h.onReceivedRtcpPacket arrivalTime packet reactions _).of_ok hu
  | getRtpPacketForImmediateSend sendTime bufferSize =>
    obtain ⟨r, hr, heq⟩ := bind_eq_ok.mp hstep.2
    cases heq
    rcases (outcome_getRtpPacketForImmediateSend h.accounted sendTime bufferSize).of_ok hr with
      rfl | ⟨chosen, frame, bytes, packetizer, hchooses, -, rfl⟩
    · exact Or.inl h
    · refine Or.inl (h.recordSend hchooses.isPacket ?_ _ _ _)
      rintro ⟨rfl, rfl⟩
      exact hnot sendTime ⟨bufferSize, bytes, rfl⟩
  | _ => exact Or.inl (hother (by simp) (by simp))

/-! ### Runs -/

/-- **The retransmission policy.** Of every packet that a run emits: its frame has been enqueued
and not removed; it is the first flagged packet if there is one; and if it was emitted before, a
NACK since then has renewed it, or it is a Kickstart packet that is due. -/
theorem retransmission_policy {s₀ : Sender} {labels : List (SenderOp × SenderOutput)}
    {a : SenderOp × SenderOutput} (h₀ : IsNew c s₀) (hrun : Run (Step c) s₀ labels s)
    (hstep : Step c s a t) (hemits : Emits a frameId packetId time) :
    (s.isInFlight frameId ∧ frameId ∈ enqueuedIds s.events ∧ frameId ∉ removedIds s.events) ∧
    ((∃ id p, Flagged s.toFrameWindow id p) →
      Flagged s.toFrameWindow frameId packetId ∧
      ∀ id p, Flagged s.toFrameWindow id p → frameId < id ∨ frameId = id ∧ packetId ≤ p) ∧
    ∀ pre a₁ post time₁, labels = pre ++ a₁ :: post → Emits a₁ frameId packetId time₁ →
      (∀ b ∈ post, ∀ time', ¬ Emits b frameId packetId time') →
      (∃ pre' b post' u v, post = pre' ++ b :: post' ∧ Run (Step c) s₀ (pre ++ a₁ :: pre') u ∧
        Step c u b v ∧ Renews c frameId packetId time₁ u b v) ∨
      (∀ id p, ¬ Flagged s.toFrameWindow id p) ∧ frameId = s.lastEnqueuedFrameId ∧
        packetId + 1 = (s.getSlotFor frameId).sendFlags.size ∧
        s.latestExpectedFrameId < s.lastEnqueuedFrameId ∧
        time₁ + max ((toDuration s.targetPlayoutDelay).tdiv 20) (s.roundTripTime * 2) ≤ time := by
  have hacc := accounted_run h₀ hrun
  have hrec := recorded_run h₀ hrun
  obtain ⟨chosen, frame, packetizer, size, hchooses, rfl, rfl, rfl⟩ :=
    chooses_of_emits hacc hstep hemits
  have hpacket := hchooses.isPacket
  have hfl : s.isInFlight frame.frameId :=
    isInFlight_iff.mpr ⟨frame, hpacket.index ▸ hpacket.held, rfl⟩
  have hleader := hacc.leader_le
  have hbounds := hacc.bounds hfl
  refine ⟨⟨hfl, (hrec.enqueued _).mpr ⟨?_, hbounds.2⟩, ?_⟩, fun ⟨id, p, hflag⟩ => ?_,
    fun pre a₁ post time₁ hlabels hemits₁ hpost => ?_⟩
  · simp only [FrameId.first, FrameId.leader] at hleader ⊢
    omega
  · exact List.count_eq_zero.mp (hrec.never _ fun hl => hl.2.2 hfl)
  · rcases hchooses.reason with hsome | ⟨hnone, -⟩
    · exact first_of_some hacc hsome hpacket
    · exact absurd hflag (not_flagged_of_none hacc hnone id p)
  · subst hlabels
    obtain ⟨u₁, hpre, hrest⟩ := hrun.split
    obtain ⟨v₁, hstep₁, hrest⟩ := hrest.uncons
    have hacc₁ := accounted_run h₀ hpre
    obtain ⟨chosen₁, frame₁, packetizer₁, size₁, hchooses₁, hid₁, hpid₁, rfl⟩ :=
      chooses_of_emits hacc₁ hstep₁ hemits₁
    have hsent := sentAt_recordSend hacc₁ hchooses₁.isPacket time₁ packetizer₁ size₁
    rw [hid₁, hpid₁] at hsent
    rcases hrest.invariant_or
      (P := fun s => SentAt frame.frameId chosen.packetId time₁ s.toFrameWindow)
      (A := fun b => ∀ time', ¬ Emits b frame.frameId chosen.packetId time')
      (B := Renews c frame.frameId chosen.packetId time₁)
      (fun _ _ _ hb hs hst => hs.step hst hb) hpost hsent with
      hsent | ⟨pre', b, post', u, v, rfl, hrun', hstep', hrenews⟩
    · -- the packet is not flagged, so it is sent as a Kickstart packet
      right
      rcases hchooses.reason with hsome | ⟨hnone, hkick, hlast, hlatest, hdue⟩
      · have hset := (first_of_some hacc hsome hpacket).1.2.2
        rw [hsent.clear hfl] at hset
        cases hset
      · refine ⟨not_flagged_of_none hacc hnone, hlast, ?_, hlatest, ?_⟩
        · have hpos := hacc.packets _ _ hpacket.held
          rw [hpacket.index] at hpos
          rw [hkick, kickstartPacket, ← hlast]
          exact Nat.sub_add_cancel hpos
        · have htime := hsent.sent hfl
          rw [kickstartLastSent, ← hlast, ← hkick, htime] at hdue
          exact hdue
    · refine Or.inl ⟨pre', b, post', u, v, rfl, ?_, hstep', hrenews⟩
      exact hpre.append ((Run.single hstep₁).append hrun')

/-- The packet of the first frame of the example stream. -/
def examplePacket (sequenceNumber : UInt8) : SentPacket :=
  ⟨0, 0, [128, 228, 0, sequenceNumber, 0, 0, 0, 0, 0, 0, 0, 1, 192, 0, 0, 0, 0, 0, 0]⟩

/-- A frame is sent, and again 20 ms later: that is a twentieth of the playout delay. -/
theorem outcome_sendTwice :
    Outcome
      (fun r => r.1 = [(.enqueueFrame (exampleFrame 0), .enqueueResult .ok),
          (.getRtpPacketForImmediateSend 5 1472, .rtpPacket (some (examplePacket 0)))] ∧
        Outcome (fun r' => r'.1 = .rtpPacket (some (examplePacket 1))) (fun _ => False)
          (r.2.step exampleConfig (.getRtpPacketForImmediateSend 20005 1472)))
      (fun _ => False)
      (runOps exampleConfig (Sender.new exampleConfig examplePacketizer)
        [.enqueueFrame (exampleFrame 0), .getRtpPacketForImmediateSend 5 1472]) := by
  decide +kernel

theorem retransmission_policy_kickstart :
    ∃ s t labels a, Run (Step exampleConfig) (Sender.new exampleConfig examplePacketizer) labels s ∧
      Step exampleConfig s a t ∧ Emits a 0 0 20005 ∧ (∃ b ∈ labels, Emits b 0 0 5) ∧
      s.latestExpectedFrameId < s.lastEnqueuedFrameId := by
  obtain ⟨⟨labels, s⟩, hrun, hlabels, hsend⟩ := outcome_sendTwice.exists_ok
  obtain ⟨⟨out, t⟩, hstep, hout⟩ := hsend.exists_ok
  dsimp only at hlabels hout
  subst hlabels hout
  have hrun' := run_of_runOps hrun (by decide)
  have hstep' : Step exampleConfig s
      (.getRtpPacketForImmediateSend 20005 1472, .rtpPacket (some (examplePacket 1))) t :=
    ⟨by decide, hstep⟩
  have hagain := (retransmission_policy ⟨examplePacketizer, rfl⟩ hrun' hstep'
    ⟨1472, _, rfl⟩).2.2 [_] _ [] 5 rfl ⟨1472, _, rfl⟩ (by simp)
  rcases hagain with ⟨pre, b, post, _, _, hnil, -⟩ | ⟨-, -, -, hlatest, -⟩
  · simp at hnil
  · exact ⟨s, t, _, _, hrun', hstep', ⟨1472, _, rfl⟩,
      ⟨_, List.mem_cons_of_mem _ List.mem_cons_self, 1472, _, rfl⟩,
      hlatest⟩

end Sender

end StreamerPlus
