import StreamerPlus.Streaming.CompoundRtcpParser
import StreamerPlus.Streaming.FrameRing
import StreamerPlus.Streaming.RtpPacketizer
import StreamerPlus.Streaming.SenderReport
import StreamerPlus.Streaming.SessionConfig
import StreamerPlus.Util.BitVector

/-!
# `SenderImpl`

The sending end of a stream (`sender_impl.cc`): a ring of 120 slots for the frames in flight,
the checkpoint that the receiver has acknowledged, and the choice of the next packet to send.

The state also holds the history of the sender, `events`: the calls it made to its packet
router and its observer, in order, with the enqueuing and the removal of each frame. The
observer may call `EnqueueFrame` again from inside `OnFrameCanceled` or `OnPictureLost`;
`reactions` says which frames it enqueues at each of its next callbacks, so that an operation
together with its reactions is one step.

Statistics and traces are left out, and with them `OSP_DCHECK`s and warnings.
-/

namespace StreamerPlus

open Checked

/-- `kMinSenderInFlight`, in microseconds. -/
@[simp] def kMinSenderInFlight : ℤ := toDuration 66

/-- `kNearZeroRoundTripTime`, in microseconds. -/
@[simp] def kNearZeroRoundTripTime : ℤ := 75

/-- The checks of `SenderImpl` and of what it calls. The first three are what `EnqueueFrame`
asks of its caller. -/
inductive SenderFault
  | frameIdNotNext | referencedFrameIdInvalid | rtpTimestampNotIncreasing
  | oldestSlotInactive | slotInUse | tooManyFramesInFlight | noFramesInFlight
  | kickstartSlotInactive | kickstartNeverSent | nothingChosen | octetCountNegative
  | arrivalTimeNever | playoutDelayNegative | sameObserver
  | packetizer (f : RtpPacketizer.Fault) | rtcp (f : RtcpFault) | span (f : SpanFault)
  deriving DecidableEq, Repr

/-- What the sender did, in the order in which it did it. -/
inductive SenderEvent
  | enqueued (frameId : ℤ)
  | removed (frameId : ℤ) (wasAcked : Bool)
  | onFrameCanceled (frameId : ℤ)
  | dispatched
  | onPictureLost
  | requestRtcpSend
  | requestRtpSend
  | onPayloadReceived (size : ℕ) (arrivalTime roundTripTime : ℤ)
  | onRtcpReceived (arrivalTime roundTripTime : ℤ)
  deriving DecidableEq, Repr

/-- `EnqueueFrameResult`. -/
inductive EnqueueFrameResult
  | ok | payloadTooLarge | reachedIdSpanLimit | maxDurationInFlight
  deriving DecidableEq, Repr

/-! ### Slots -/

/-- `PendingFrameSlot`. The flags and the sent times have one entry for each packet. -/
structure PendingFrameSlot where
  frame : Option EncryptedFrame := none
  sendFlags : BitVector.Backed := .empty
  packetSentTimes : List ℤ := []
  size_eq : sendFlags.size = packetSentTimes.length := by rfl

namespace PendingFrameSlot

variable (slot : PendingFrameSlot)

/-- `is_active_for_frame(frame_id)`. -/
def isActiveForFrame (frameId : ℤ) : Prop :=
  ∃ frame ∈ slot.frame, frame.frameId = frameId

instance (frameId : ℤ) : Decidable (slot.isActiveForFrame frameId) :=
  match h : slot.frame with
  | none => .isFalse (by simp [isActiveForFrame, h])
  | some frame => decidable_of_iff (frame.frameId = frameId) (by simp [isActiveForFrame, h])

/-- The slot of a frame of which no packet has been sent. There are fewer than 2¹⁶ packets, so that
the flags have enough words. -/
def unsent (frame : EncryptedFrame) (packetCount : ℕ) : PendingFrameSlot where
  frame := some frame
  sendFlags := .resize packetCount true
  packetSentTimes := List.replicate packetCount kNever
  size_eq := List.length_replicate.symm

/-- `slot.frame = frame`. -/
def assign (frame : EncryptedFrame) : PendingFrameSlot :=
  { slot with frame := some frame }

/-- `frame.reset()`. -/
def reset : PendingFrameSlot := { slot with frame := none }

/-- `send_flags.Set(packet_id)`, of a packet of the frame. -/
def flag (packetId : ℕ) : PendingFrameSlot :=
  match h : slot.sendFlags.set packetId with
  | some flags => { slot with
      sendFlags := flags
      size_eq := (BitVector.Backed.size_set h).trans slot.size_eq }
  | none => slot

/-- `send_flags.Clear(packet_id)` and the new sent time, of a packet of the frame. -/
def markSent (packetId : ℕ) (sendTime : ℤ) : PendingFrameSlot :=
  match h : slot.sendFlags.clear packetId with
  | some flags => { slot with
      sendFlags := flags
      packetSentTimes := slot.packetSentTimes.set packetId sendTime
      size_eq := by rw [BitVector.Backed.size_clear h, slot.size_eq, List.length_set] }
  | none => slot

/-- `HandleIndividualNack(packet_id)` on a slot and `need_to_send`. -/
def handleIndividualNack (tooRecentASendTime : ℤ) (s : PendingFrameSlot × Bool) (packetId : ℕ) :
    PendingFrameSlot × Bool :=
  if s.1.packetSentTimes.getD packetId kNever ≤ tooRecentASendTime then (s.1.flag packetId, true)
  else s

end PendingFrameSlot

/-- The part of `SenderImpl` that tracks the frames in flight. -/
structure FrameWindow where
  pendingFrames : Fin 120 → PendingFrameSlot := fun _ => {}
  numFramesInFlight : ℕ := 0
  lastEnqueuedFrameId : ℤ := FrameId.leader
  checkpointFrameId : ℤ := FrameId.leader
  latestExpectedFrameId : ℤ := FrameId.leader

namespace FrameWindow

/-- `get_slot_for(frame_id)`. -/
def getSlotFor (w : FrameWindow) (frameId : ℤ) : PendingFrameSlot :=
  w.pendingFrames (slotIndex frameId)

/-- The slot of the frame is active for the frame. -/
def isInFlight (w : FrameWindow) (frameId : ℤ) : Prop :=
  (w.getSlotFor frameId).isActiveForFrame frameId

instance (w : FrameWindow) (frameId : ℤ) : Decidable (w.isInFlight frameId) :=
  inferInstanceAs (Decidable (PendingFrameSlot.isActiveForFrame _ _))

end FrameWindow

/-- `SenderImpl`. `observer` is the identity of the observer, when one is set. -/
structure Sender extends FrameWindow where
  rtpPacketizer : RtpPacketizer
  targetPlayoutDelay : ℤ
  rtcpParser : CompoundRtcpParser := {}
  rtcpPacketArrivalTime : ℤ := kNever
  roundTripTime : ℤ := 0
  pendingSenderReport : RtcpSenderReport := { referenceTime := kNever }
  pictureLostAtFrameId : ℤ := FrameId.leader
  lastEnqueuedKeyFrameId : ℤ := FrameId.leader
  observer : Option ℕ := none
  pendingCancellations : List ℤ := []
  reactions : List (List EncodedFrame) := []
  events : List SenderEvent := []

namespace Sender

variable (s : Sender)

/-- Replace one slot. -/
def setSlot (i : Fin 120) (slot : PendingFrameSlot) : Sender :=
  { s with pendingFrames := Function.update s.pendingFrames i slot }

theorem rtpPacketizer_setSlot (i : Fin 120) (slot : PendingFrameSlot) :
    (s.setSlot i slot).rtpPacketizer = s.rtpPacketizer := rfl

/-- Add to the history. -/
def emit (event : SenderEvent) : Sender := { s with events := s.events ++ [event] }

/-- `NeedsKeyFrame()`. -/
def needsKeyFrame : Bool :=
  decide (s.lastEnqueuedKeyFrameId ≤ s.pictureLostAtFrameId)

/-- `GetNextFrameId()`. -/
def getNextFrameId : ℤ := s.lastEnqueuedFrameId + 1

variable (c : SessionConfig)

/-! ### Enqueuing a frame -/

variable (s : Sender)

/-- `GetInFlightMediaDuration(next_frame_rtp_timestamp)`. -/
def getInFlightMediaDuration (nextFrameRtpTimestamp : ℤ) : Except SenderFault ℤ :=
  if s.numFramesInFlight = 0 then .ok 0
  else
    match (s.getSlotFor (s.checkpointFrameId + 1)).frame with
    | some frame =>
      if frame.frameId = s.checkpointFrameId + 1 then
        .ok (c.rtpTimebase.toDuration (nextFrameRtpTimestamp - frame.rtpTimestamp))
      else .error .oldestSlotInactive
    | none => .error .oldestSlotInactive

/-- `GetMaxInFlightMediaDuration()`. -/
def getMaxInFlightMediaDuration : ℤ :=
  let maxInFlight := max kMinSenderInFlight ((toDuration s.targetPlayoutDelay).tdiv 3)
  min (max (s.roundTripTime * 2) kMinSenderInFlight) maxInFlight

/-- What `EnqueueFrame` records of a frame that it accepts. -/
def recordEnqueue (frame : EncryptedFrame) (packetCount : ℕ) : Sender :=
  { s with
    pendingFrames :=
      Function.update s.pendingFrames (slotIndex frame.frameId) (.unsent frame packetCount)
    numFramesInFlight := s.numFramesInFlight + 1
    lastEnqueuedFrameId := frame.frameId
    lastEnqueuedKeyFrameId :=
      if frame.dependency = .keyFrame then frame.frameId else s.lastEnqueuedKeyFrameId
    targetPlayoutDelay :=
      if 0 < frame.newPlayoutDelay then frame.newPlayoutDelay else s.targetPlayoutDelay
    pendingSenderReport := { s.pendingSenderReport with
      referenceTime :=
        if frame.frameId = FrameId.first then frame.referenceTime
        else max frame.referenceTime s.pendingSenderReport.referenceTime
      rtpTimestamp := frame.rtpTimestamp }
    events := s.events ++ [.enqueued frame.frameId] ++
      (if s.roundTripTime = 0 then [.requestRtcpSend] else []) ++ [.requestRtpSend] }

/-- `EnqueueFrame(frame)`. The slot is filled before the packets are counted, next to the flags and
the sent times of the frame that had it before. -/
def enqueueFrame (frame : EncodedFrame) :
    Except SenderFault (EnqueueFrameResult × Sender) := do
  require (frame.frameId = s.getNextFrameId) .frameIdNotNext
  require (FrameId.first ≤ frame.referencedFrameId) .referencedFrameIdInvalid
  require (frame.frameId ≠ FrameId.first →
    s.pendingSenderReport.rtpTimestamp < frame.rtpTimestamp) .rtpTimestampNotIncreasing
  if frame.frameId - s.checkpointFrameId > kMaxUnackedFrames then
    return (.reachedIdSpanLimit, s)
  let duration ← s.getInFlightMediaDuration c frame.rtpTimestamp
  if duration > s.getMaxInFlightMediaDuration then return (.maxDurationInFlight, s)
  require ((s.getSlotFor frame.frameId).frame = none) .slotInUse
  let encrypted := c.encrypt frame
  let filled := s.setSlot (slotIndex frame.frameId) ((s.getSlotFor frame.frameId).assign encrypted)
  let packetCount := filled.rtpPacketizer.computeNumberOfPackets encrypted
  if packetCount ≤ 0 then
    return (.payloadTooLarge,
      filled.setSlot (slotIndex frame.frameId) (filled.getSlotFor frame.frameId).reset)
  let t := filled.recordEnqueue encrypted packetCount.toNat
  require (t.numFramesInFlight ≤ t.lastEnqueuedFrameId - t.checkpointFrameId)
    .tooManyFramesInFlight
  return (.ok, t)

/-- A frame that is taken back from a free slot leaves no trace: the flags and the sent times of an
earlier frame outlast it. -/
theorem setSlot_reset_assign {s : Sender} {frameId : ℤ} (h : (s.getSlotFor frameId).frame = none)
    (encrypted : EncryptedFrame) :
    let filled := s.setSlot (slotIndex frameId) ((s.getSlotFor frameId).assign encrypted)
    filled.setSlot (slotIndex frameId) (filled.getSlotFor frameId).reset = s := by
  have hreset : ((s.getSlotFor frameId).assign encrypted).reset = s.getSlotFor frameId := by
    rw [PendingFrameSlot.reset, PendingFrameSlot.assign, ← h]
  simp only [setSlot, FrameWindow.getSlotFor, Function.update_self, Function.update_idem]
    at hreset ⊢
  rw [hreset, Function.update_eq_self]

theorem recordEnqueue_setSlot (frame : EncodedFrame) (packetCount : ℕ)
    (slot : PendingFrameSlot) :
    (s.setSlot (slotIndex frame.frameId) slot).recordEnqueue (c.encrypt frame) packetCount =
      s.recordEnqueue (c.encrypt frame) packetCount := by
  simp only [setSlot, recordEnqueue, SessionConfig.frameId_encrypt, Function.update_idem]
  rfl

/-! ### Cancelling frames -/

/-- What `CancelPendingFrame` does to a frame in flight. -/
def release (frame : EncryptedFrame) (wasAcked : Bool) : Sender :=
  { s with
    pendingFrames := Function.update s.pendingFrames (slotIndex frame.frameId)
      (s.getSlotFor frame.frameId).reset
    numFramesInFlight := s.numFramesInFlight - 1
    pendingCancellations :=
      if s.observer.isSome then s.pendingCancellations ++ [frame.frameId]
      else s.pendingCancellations
    events := s.events ++
      (if wasAcked then
        [.onPayloadReceived frame.data.length s.rtcpPacketArrivalTime s.roundTripTime] else []) ++
      [.removed frame.frameId wasAcked] }

/-- `CancelPendingFrame(frame_id, was_acked)`. -/
def cancelPendingFrame (frameId : ℤ) (wasAcked : Bool) : Except SenderFault Sender :=
  match (s.getSlotFor frameId).frame with
  | none => .ok s
  | some frame =>
    if frame.frameId = frameId then do
      require (0 < s.numFramesInFlight) .noFramesInFlight
      return s.release frame wasAcked
    else .ok s

/-- The frames that the observer enqueues from inside one callback. -/
def react : Except SenderFault Sender :=
  match s.reactions with
  | [] => .ok s
  | frames :: reactions =>
    frames.foldlM (fun s frame => Prod.snd <$> s.enqueueFrame c frame) { s with reactions }

/-- The calls `observer_->OnFrameCanceled(id)`. -/
def notifyCanceled (ids : List ℤ) : Except SenderFault Sender :=
  ids.foldlM (fun s id => (s.emit (.onFrameCanceled id)).react c) s

/-- `DispatchCancellations()`. -/
def dispatchCancellations : Except SenderFault Sender := do
  let s ← (if s.observer.isSome then s.notifyCanceled c s.pendingCancellations else .ok s)
  return { s with pendingCancellations := [], events := s.events ++ [.dispatched] }

/-- The loop that moves the checkpoint on by `n` frames and cancels each. `OnReceiverCheckpoint`
asks first whether the frame is in flight, which `CancelPendingFrame` asks again. -/
def advanceCheckpoint (wasAcked : Bool) : ℕ → Sender → Except SenderFault Sender
  | 0, s => .ok s
  | n + 1, s => do
    let s := { s with checkpointFrameId := s.checkpointFrameId + 1 }
    let s ← s.cancelPendingFrame s.checkpointFrameId wasAcked
    advanceCheckpoint wasAcked n s

/-- `CancelInFlightData()`. -/
def cancelInFlightData : Except SenderFault Sender := do
  let s ← advanceCheckpoint false (s.lastEnqueuedFrameId - s.checkpointFrameId).toNat s
  s.dispatchCancellations c

/-! ### Feedback from the receiver -/

/-- `SmoothRoundTripTime(estimate, measurement)`. -/
def smoothRoundTripTime (estimate measurement : ℤ) : ℤ :=
  if estimate = 0 then measurement
  else if measurement > estimate then (estimate + measurement).tdiv 2
  else (7 * estimate + measurement).tdiv 8

/-- `OnReceiverReport(receiver_report)`. -/
def onReceiverReport (report : RtcpReportBlock) : Except SenderFault Sender := do
  require (s.rtcpPacketArrivalTime ≠ kNever) .arrivalTimeNever
  let totalDelay := s.rtcpPacketArrivalTime - SenderReportBuilder.getRecentReportTime c.session
    report.lastStatusReportId.toNat s.rtcpPacketArrivalTime
  let nonNetworkDelay := (report.delaySinceLastReport * 1000000).tdiv 65536
  let measurement := max (totalDelay - nonNetworkDelay) kNearZeroRoundTripTime
  let clampedMeasurement := min measurement (toDuration s.targetPlayoutDelay)
  return { s with roundTripTime := smoothRoundTripTime s.roundTripTime clampedMeasurement }

/-- `OnReceiverIndicatesPictureLoss()`. -/
def onReceiverIndicatesPictureLoss : Except SenderFault Sender :=
  if s.checkpointFrameId < s.lastEnqueuedKeyFrameId then .ok s
  else
    let s := { s with pictureLostAtFrameId := s.checkpointFrameId }
    if s.observer.isSome then (s.emit .onPictureLost).react c else .ok s

/-- `OnReceiverCheckpoint(frame_id, playout_delay)`. -/
def onReceiverCheckpoint (frameId playoutDelay : ℤ) : Except SenderFault Sender := do
  if frameId > s.lastEnqueuedFrameId then return s
  require (0 ≤ playoutDelay) .playoutDelayNegative
  let s ← advanceCheckpoint true (frameId - s.checkpointFrameId).toNat s
  dispatchCancellations c
    { s with latestExpectedFrameId := max s.latestExpectedFrameId frameId }

/-- `OnReceiverHasFrames(acks)`, for a list that ends with `last`. -/
def onReceiverHasFrames (acks : List ℤ) (last : ℤ) : Except SenderFault Sender := do
  if last > s.lastEnqueuedFrameId then return s
  let s ← acks.foldlM (fun s id => s.cancelPendingFrame id true) s
  dispatchCancellations c
    { s with latestExpectedFrameId := max s.latestExpectedFrameId last }

/-- The NACKs of one frame in flight, after the first of which `OnReceiverIsMissingPackets` has
found the slot: all packets, or each one that the frame has. -/
def handleNacks (tooRecentASendTime : ℤ) (s : PendingFrameSlot × Bool) (packetIds : List ℕ) :
    PendingFrameSlot × Bool :=
  (packetIds.filter (· < s.1.packetSentTimes.length)).foldl
    (PendingFrameSlot.handleIndividualNack tooRecentASendTime) s

/-- The loop of `OnReceiverIsMissingPackets` over at most `fuel` groups, with `need_to_send`.
An entry `kAllPacketsLost` at the start of a group stands alone; later in a group it is a packet
that does not exist. -/
def handleMissingPackets (tooRecentASendTime : ℤ) :
    ℕ → List PacketNack → Sender × Bool → Sender × Bool
  | fuel + 1, nack :: nacks, (s, needToSend) =>
    if nack.frameId ≤ s.lastEnqueuedFrameId ∧ s.isInFlight nack.frameId then
      let slot := s.getSlotFor nack.frameId
      let (packetIds, rest) :=
        if nack.packetId = kAllPacketsLost then (List.range slot.packetSentTimes.length, nacks)
        else (nack.packetId ::
            (nacks.takeWhile (·.frameId = nack.frameId)).map PacketNack.packetId,
          nacks.dropWhile (·.frameId = nack.frameId))
      let (slot, needToSend) := handleNacks tooRecentASendTime (slot, needToSend) packetIds
      let s := s.setSlot (slotIndex nack.frameId) slot
      handleMissingPackets tooRecentASendTime fuel rest
        ({ s with latestExpectedFrameId := max s.latestExpectedFrameId nack.frameId }, needToSend)
    else
      handleMissingPackets tooRecentASendTime fuel
        (nacks.dropWhile (·.frameId = nack.frameId)) (s, needToSend)
  | _, _, r => r

/-- `OnReceiverIsMissingPackets(nacks)`. -/
def onReceiverIsMissingPackets (nacks : List PacketNack) :
    Except SenderFault Sender := do
  require (s.rtcpPacketArrivalTime ≠ kNever) .arrivalTimeNever
  let tooRecentASendTime := s.rtcpPacketArrivalTime - s.roundTripTime
  let (s, needToSend) := handleMissingPackets tooRecentASendTime nacks.length nacks (s, false)
  return if needToSend then s.emit .requestRtpSend else s

/-- The calls that `CompoundRtcpParser::Parse` makes for a packet that it accepts. -/
def onParsed (r : RtcpParseResults) : Except SenderFault Sender := do
  let s ← (match r.receiverReport with
    | some report => s.onReceiverReport c report
    | none => .ok s)
  let s ← (match r.checkpointFrameId with
    | some frameId => s.onReceiverCheckpoint c frameId r.targetPlayoutDelay
    | none => .ok s)
  let s ← (match r.receivedFrames.getLast? with
    | some last => s.onReceiverHasFrames c r.receivedFrames last
    | none => .ok s)
  let s ← (if r.packetNacks.isEmpty then .ok s else s.onReceiverIsMissingPackets r.packetNacks)
  if r.pictureLossIndicator then s.onReceiverIndicatesPictureLoss c else .ok s

/-- `OnReceivedRtcpPacket(arrival_time, packet)`. -/
def onReceivedRtcpPacket (arrivalTime : ℤ) (packet : ByteView) :
    Except SenderFault Sender := do
  let (outcome, rtcpParser) ←
    (s.rtcpParser.parse c.session packet s.lastEnqueuedFrameId).mapError .span
  let s := { s with rtcpPacketArrivalTime := arrivalTime, rtcpParser }
  match outcome with
  | .rejected => return s
  | .outdated => return s.emit (.onRtcpReceived arrivalTime s.roundTripTime)
  | .dispatched r =>
    let s ← s.onParsed c r
    return s.emit (.onRtcpReceived arrivalTime s.roundTripTime)

/-! ### Sending packets -/

/-- `ChosenPacket`: a slot and a packet of its frame. -/
structure ChosenPacket where
  slot : Fin 120
  packetId : ℕ
  deriving DecidableEq, Repr

/-- The loop of `ChooseNextRtpPacketNeedingSend` over the `n` frames from `frameId` on. -/
def chooseFrom (s : Sender) : ℕ → ℤ → Option ChosenPacket
  | 0, _ => none
  | n + 1, frameId =>
    let flags := (s.getSlotFor frameId).sendFlags
    if s.isInFlight frameId ∧ flags.findFirstSet < flags.size then
      some ⟨slotIndex frameId, flags.findFirstSet⟩
    else chooseFrom s n (frameId + 1)

/-- `ChooseNextRtpPacketNeedingSend()`. -/
def chooseNextRtpPacketNeedingSend : Option ChosenPacket :=
  s.chooseFrom (s.lastEnqueuedFrameId - s.checkpointFrameId).toNat (s.checkpointFrameId + 1)

/-- The wait before a Kickstart packet is sent again. -/
def kickstartInterval : ℤ :=
  max ((toDuration s.targetPlayoutDelay).tdiv 20) (s.roundTripTime * 2)

/-- `ChooseKickstartPacket()`: the packet, if one is needed, and when it is due. -/
def chooseKickstartPacket : Except SenderFault (Option ChosenPacket × ℤ) := do
  if s.latestExpectedFrameId ≥ s.lastEnqueuedFrameId then return (none, kNever)
  let slot := s.getSlotFor s.lastEnqueuedFrameId
  require (slot.isActiveForFrame s.lastEnqueuedFrameId) .kickstartSlotInactive
  let packetId := slot.sendFlags.size - 1
  let timeLastSent := slot.packetSentTimes.getD packetId kNever
  require (timeLastSent ≠ kNever) .kickstartNeverSent
  return (some ⟨slotIndex s.lastEnqueuedFrameId, packetId⟩, timeLastSent + s.kickstartInterval)

/-- The packet to send at `sendTime`, if any. -/
def choosePacket (sendTime : ℤ) : Except SenderFault (Option ChosenPacket) := do
  match s.chooseNextRtpPacketNeedingSend with
  | some chosen => return some chosen
  | none =>
    let (kickstart, due) ← s.chooseKickstartPacket
    if due > sendTime then return none
    require kickstart.isSome .nothingChosen
    return kickstart

/-- A packet that was sent. -/
structure SentPacket where
  frameId : ℤ
  packetId : ℕ
  bytes : ByteView
  deriving DecidableEq, Repr

/-- What `GetRtpPacketForImmediateSend` records of the packet that it has generated. -/
def recordSend (chosen : ChosenPacket) (sendTime : ℤ) (rtpPacketizer : RtpPacketizer)
    (size : ℕ) : Sender :=
  { s with
    rtpPacketizer
    pendingFrames := Function.update s.pendingFrames chosen.slot
      ((s.pendingFrames chosen.slot).markSent chosen.packetId sendTime)
    pendingSenderReport := { s.pendingSenderReport with
      sendPacketCount := (s.pendingSenderReport.sendPacketCount + 1) % 0x100000000
      sendOctetCount :=
        (s.pendingSenderReport.sendOctetCount + (size - kBaseRtpHeaderSize)) % 0x100000000 } }

/-- `GetRtpPacketForImmediateSend(send_time, buffer)` for a buffer of `bufferSize` bytes; `none`
is the empty span. -/
def getRtpPacketForImmediateSend (sendTime : ℤ) (bufferSize : ℕ) :
    Except SenderFault (Option SentPacket × Sender) := do
  match ← s.choosePacket sendTime with
  | none => return (none, s)
  | some chosen =>
    match (s.pendingFrames chosen.slot).frame with
    | none => .error .nothingChosen
    | some frame =>
      let (bytes, rtpPacketizer) ←
        (s.rtpPacketizer.generatePacket frame chosen.packetId bufferSize).mapError .packetizer
      require (kBaseRtpHeaderSize ≤ bytes.length) .octetCountNegative
      return (some ⟨frame.frameId, chosen.packetId, bytes⟩,
        s.recordSend chosen sendTime rtpPacketizer bytes.length)

/-- `GetRtpResumeTime()`. -/
def getRtpResumeTime : Except SenderFault ℤ :=
  if s.chooseNextRtpPacketNeedingSend.isSome then .ok kImmediately
  else Prod.snd <$> s.chooseKickstartPacket

/-- `GetRtcpPacketForImmediateSend(send_time, buffer)`. -/
def getRtcpPacketForImmediateSend (sendTime : ℤ) (bufferSize : ℕ) :
    Except SenderFault ByteView := do
  if s.pendingSenderReport.referenceTime = kNever then return []
  let report := { s.pendingSenderReport with
    referenceTime := sendTime
    rtpTimestamp := s.pendingSenderReport.rtpTimestamp +
      c.rtpTimebase.fromDuration (sendTime - s.pendingSenderReport.referenceTime) }
  let (packet, _) ←
    (SenderReportBuilder.buildPacket c.session report bufferSize).mapError .rtcp
  return packet

/-- `SetObserver(observer)`. -/
def setObserver (observer : Option ℕ) : Except SenderFault Sender := do
  require (s.observer ≠ observer) .sameObserver
  return { s with observer }

end Sender

/-! ### The sender as a transition system -/

/-- The calls that a sender receives. Those that may call the observer come with what the
observer then does. -/
inductive SenderOp
  | setObserver (observer : Option ℕ)
  | enqueueFrame (frame : EncodedFrame)
  | cancelInFlightData (reactions : List (List EncodedFrame))
  | onReceivedRtcpPacket (arrivalTime : ℤ) (packet : ByteView)
      (reactions : List (List EncodedFrame))
  | getRtcpPacketForImmediateSend (sendTime : ℤ) (bufferSize : ℕ)
  | getRtpPacketForImmediateSend (sendTime : ℤ) (bufferSize : ℕ)
  | getRtpResumeTime
  deriving DecidableEq, Repr

/-- What a call returns. -/
inductive SenderOutput
  | none
  | enqueueResult (result : EnqueueFrameResult)
  | rtcpPacket (packet : ByteView)
  | rtpPacket (packet : Option Sender.SentPacket)
  | resumeTime (time : ℤ)
  deriving DecidableEq, Repr

namespace Sender

variable (c : SessionConfig)

/-- One call. -/
def step (s : Sender) : SenderOp → Except SenderFault (SenderOutput × Sender)
  | .setObserver observer => do return (.none, ← s.setObserver observer)
  | .enqueueFrame frame => do
    let (result, s) ← s.enqueueFrame c frame
    return (.enqueueResult result, s)
  | .cancelInFlightData reactions => do
    return (.none, ← cancelInFlightData c { s with reactions })
  | .onReceivedRtcpPacket arrivalTime packet reactions => do
    return (.none, ← onReceivedRtcpPacket c { s with reactions } arrivalTime packet)
  | .getRtcpPacketForImmediateSend sendTime bufferSize => do
    return (.rtcpPacket (← s.getRtcpPacketForImmediateSend c sendTime bufferSize), s)
  | .getRtpPacketForImmediateSend sendTime bufferSize => do
    let (packet, s) ← s.getRtpPacketForImmediateSend sendTime bufferSize
    return (.rtpPacket packet, s)
  | .getRtpResumeTime => do return (.resumeTime (← s.getRtpResumeTime), s)

/-- The sender that the constructor builds. -/
def new (c : SessionConfig) (rtpPacketizer : RtpPacketizer) : Sender :=
  { rtpPacketizer, targetPlayoutDelay := c.targetPlayoutDelay }

end Sender

end StreamerPlus
