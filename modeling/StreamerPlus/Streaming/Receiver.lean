import Mathlib.Data.Int.Range
import StreamerPlus.Lib.ChangeLog
import StreamerPlus.Streaming.CompoundRtcpBuilder
import StreamerPlus.Streaming.FrameRing
import StreamerPlus.Streaming.PacketReceiveStats
import StreamerPlus.Streaming.SenderReport

/-!
# `ReceiverImpl`

The receiving end of a stream (`receiver_impl.cc`): a ring of 120 slots in which frames are
collected, the checkpoint up to which all frames are complete or skipped, and the feedback that it
sends to the sender.

Every call is given the time `now` at which it is made; the clock does not move within a call. An
alarm is the time that it is scheduled for. `OnFramesReady` is the last thing that its alarm does,
so that what the consumer calls from inside it is the next call here.

The state also holds the history of the receiver, `events`: the packets that it collected, the
feedback that it sent, the playout delays that it resolved and the frames that it passed over or
handed out. The loop of `ResolveTargetPlayoutDelay` that only builds with `OSP_DCHECK_IS_ON()`
run is part of that history: such a build stops where it fails, and another one goes on.

Traces, log messages and the other `OSP_DCHECK`s are left out.
-/

namespace StreamerPlus

open Checked

/-- `kNackFeedbackInterval`, in microseconds. -/
def kNackFeedbackInterval : ℤ := 30000

/-- The checks of `ReceiverImpl` and of what it calls. -/
inductive ReceiverFault
  | nothingToConsume | incompleteFrame | captureTimeUnknown | bufferSize | nullFrameId
  | noSenderReport | delayChangeTooOld | frameTooOld | delayUnknown
  | checkpointNotNew | checkpointNotExpected | nothingToDrop | keptFrameAcked | keptFrameUnknown
  | updateTimeNull | updateTimeMovedBack
  | collector (f : FrameCollector.Fault) | rtcp (f : RtcpFault) | span (f : SpanFault)
  deriving DecidableEq, Repr

/-- What a receiver is constructed with: the session, the size of its RTCP buffer, and the
estimate of `ClockDriftSmoother` after its updates, which it computes in `double`. -/
structure ReceiverConfig extends SessionConfig where
  maxPacketSize : ℕ
  estimatedOffset : List (ℤ × ℤ) → ℤ
  maxPacketSize_pos : 0 < maxPacketSize

/-! ### The clock offset -/

/-- `ClockDriftSmoother`: the times and the measured offsets of its updates. -/
structure ClockDriftSmoother where
  updates : List (ℤ × ℤ) := []
  deriving DecidableEq, Repr

namespace ClockDriftSmoother

/-- `Current()`. -/
def current (c : ReceiverConfig) (s : ClockDriftSmoother) : Option ℤ :=
  if s.updates.isEmpty then none else some (c.estimatedOffset s.updates)

/-- `Update(now, measured_offset)`. -/
def update (s : ClockDriftSmoother) (now measuredOffset : ℤ) :
    Except ReceiverFault ClockDriftSmoother := do
  require (now ≠ kImmediately) .updateTimeNull
  require (∀ last ∈ s.updates.getLast?, last.1 ≤ now) .updateTimeMovedBack
  return ⟨s.updates ++ [(now, measuredOffset)]⟩

end ClockDriftSmoother

/-! ### The state -/

/-- `PendingFrame`. -/
structure PendingFrame where
  collector : FrameCollector := .new
  estimatedCaptureTime : Option ℤ := none
  rtpTimestamp : Option ℤ := none

/-- What one call of `SendRtcp` does: the lists that it passes to the builder, the checkpoint and
the latest expected frame that they are about, and what is left in `pending_frame_acks_`. -/
structure SentRtcp where
  sendTime : ℤ
  checkpointFrame : ℤ
  latestFrameExpected : ℤ
  packetNacks : List PacketNack
  frameAcks : List ℤ
  pendingFrameAcks : List ℤ
  packet : ByteView
  deriving DecidableEq, Repr

/-- What one call of `ResolveTargetPlayoutDelay(frame_id)` does: the delay, and whether the
capture times are known that a build with `OSP_DCHECK_IS_ON()` checks. -/
structure ResolvedDelay where
  lastFrameConsumed : ℤ
  latestFrameExpected : ℤ
  frameId : ℤ
  delay : ℤ
  allKnown : Bool
  deriving DecidableEq, Repr

/-- What the receiver did, in the order in which it did it. -/
inductive ReceiverEvent
  | collected (frameId : ℤ) (packetId maxPacketId : ℕ)
  | firstPacket (frameId newPlayoutDelay captureTime : ℤ)
  | completed (frameId checkpointFrame : ℤ)
  | sentRtcp (sent : SentRtcp)
  | resolved (resolved : ResolvedDelay)
  | passedOver (frameId captureTime delay playerProcessingTime now : ℤ)
  | skippedTo (frameId : ℤ)
  | consumed (frameId : ℤ) (dependency : Dependency)
  | onFramesReady (size : ℕ)
  deriving DecidableEq, Repr

/-- The part of `ReceiverImpl` that tracks the frames. -/
structure FrameQueue where
  latestFrameExpected : ℤ := FrameId.leader
  lastFrameConsumed : ℤ := FrameId.leader
  pendingFrames : Fin 120 → PendingFrame := fun _ => {}

namespace FrameQueue

/-- `GetQueueEntry(frame_id)`. -/
def getQueueEntry (q : FrameQueue) (frameId : ℤ) : PendingFrame :=
  q.pendingFrames (slotIndex frameId)

/-- The collector of the frame is complete. -/
def isComplete (q : FrameQueue) (frameId : ℤ) : Bool :=
  (q.getQueueEntry frameId).collector.isComplete

/-- The capture time of the frame is known. -/
def isCaptured (q : FrameQueue) (frameId : ℤ) : Bool :=
  (q.getQueueEntry frameId).estimatedCaptureTime.isSome

/-- The first frame for which `ResolveTargetPlayoutDelay` may be called. -/
def firstPossible (lastFrameConsumed : ℤ) : ℤ :=
  if lastFrameConsumed > FrameId.first + kMaxUnackedFrames then
    lastFrameConsumed - kMaxUnackedFrames
  else FrameId.first

end FrameQueue

/-- `ReceiverImpl`. -/
structure Receiver extends FrameQueue where
  rtcpBuilder : CompoundRtcpBuilder
  rtpParser : RtpPacketParser
  playoutDelayChanges : List (ℤ × ℤ)
  rtcpParser : SenderReportParser := {}
  statsTracker : PacketReceiveStatsTracker := {}
  rtcpAlarm : Option ℤ := none
  lastRtcpSendTime : ℤ := kImmediately
  lastSenderReport : Option SenderReportParser.SenderReportWithId := none
  lastSenderReportArrivalTime : ℤ := 0
  smoothedClockOffset : ClockDriftSmoother := {}
  lastKeyFrameReceived : Option ℤ := none
  pendingFrameAcks : List ℤ := []
  hasConsumer : Bool := false
  playerProcessingTime : ℤ := toDuration 50
  consumptionAlarm : Option ℤ := none
  pendingLogs : List RtcpReceiverFrameLogMessage := []
  events : List ReceiverEvent := []

namespace Receiver

variable (s : Receiver)

/-- `checkpoint_frame()`. -/
def checkpointFrame : ℤ := s.rtcpBuilder.checkpointFrameId

/-- Replace the entry of a frame. -/
def setQueueEntry (frameId : ℤ) (entry : PendingFrame) : Receiver :=
  { s with pendingFrames := Function.update s.pendingFrames (slotIndex frameId) entry }

/-- Add to the history. -/
def emit (event : ReceiverEvent) : Receiver :=
  { s with events := s.events ++ [event] }

/-- `ScheduleFrameReadyCheck(when)`. -/
def scheduleFrameReadyCheck (now time : ℤ) : Receiver :=
  { s with consumptionAlarm := some (max now time) }

/-- `AddEventToPendingLogs(rtp_timestamp, event_log)` on `pending_logs_`. -/
def addEventToPendingLogs (rtpTimestamp : ℤ) (eventLog : RtcpReceiverEventLogMessage) :
    List RtcpReceiverFrameLogMessage → List RtcpReceiverFrameLogMessage
  | [] => [⟨rtpTimestamp, [eventLog]⟩]
  | log :: logs =>
    if log.rtpTimestamp = rtpTimestamp then
      { log with messages := log.messages ++ [eventLog] } :: logs
    else log :: addEventToPendingLogs rtpTimestamp eventLog logs

variable (c : ReceiverConfig) (now : ℤ)

/-! ### Sending feedback -/

/-- What the loop of `SendRtcp` collects: the ACKs, the NACKs and `pending_frame_acks_`. -/
structure Feedback where
  frameAcks : List ℤ := []
  packetNacks : List PacketNack := []
  pendingFrameAcks : List ℤ

/-- The loop body of `SendRtcp`. -/
def examineFrame (q : FrameQueue) (feedback : Feedback) (frameId : ℤ) :
    Except ReceiverFault Feedback :=
  let entry := q.getQueueEntry frameId
  if entry.collector.isComplete then
    .ok { feedback with
      frameAcks := feedback.frameAcks ++ [frameId]
      pendingFrameAcks := feedback.pendingFrameAcks ++
        if c.areReceiverEventLogsEnabled then entry.rtpTimestamp.toList else [] }
  else do
    let missing ← entry.collector.getMissingPackets.mapError .collector
    return { feedback with packetNacks := feedback.packetNacks ++ missing }

variable (s : Receiver)

/-- The feedback about all frames after the checkpoint. -/
def collectFeedback : Except ReceiverFault Feedback :=
  (Int.range (s.checkpointFrame + 1) (s.latestFrameExpected + 1)).foldlM
    (examineFrame c s.toFrameQueue) { pendingFrameAcks := s.pendingFrameAcks }

/-- The events for the frames that are ACKed go into the logs, if there are any. -/
def drainFrameAcks (pendingFrameAcks : List ℤ) : Receiver :=
  if c.areReceiverEventLogsEnabled then
    let logs := pendingFrameAcks.foldl (fun logs rtpTimestamp =>
      addEventToPendingLogs rtpTimestamp { type := .frameAckSent, timestamp := now } logs)
      s.pendingLogs
    { s with
      pendingFrameAcks := []
      rtcpBuilder := s.rtcpBuilder.includeReceiverLogsInNextPacket logs
      pendingLogs := [] }
  else { s with pendingFrameAcks }

/-- `SendRtcp()`. -/
def sendRtcp : Except ReceiverFault Receiver := do
  let feedback ← s.collectFeedback c
  let s := s.drainFrameAcks c now feedback.pendingFrameAcks
  let builder := s.rtcpBuilder.includeFeedbackInNextPacket feedback.packetNacks feedback.frameAcks
  let (packet, rtcpBuilder) ← (builder.buildPacket c.session now c.maxPacketSize).mapError .rtcp
  -- the vector has been moved into a parameter of the builder, which leaves it empty
  let packetNacks : List PacketNack := []
  let interval := if packetNacks.isEmpty then kRtcpReportInterval else kNackFeedbackInterval
  return { s with
    rtcpBuilder
    lastRtcpSendTime := now
    rtcpAlarm := some (max now (now + interval))
    events := s.events ++ [.sentRtcp
      { sendTime := now
        checkpointFrame := s.checkpointFrame
        latestFrameExpected := s.latestFrameExpected
        packetNacks := feedback.packetNacks
        frameAcks := feedback.frameAcks
        pendingFrameAcks := s.pendingFrameAcks
        packet }] }

/-! ### The target playout delay -/

/-- `RecordNewTargetPlayoutDelay(as_of_frame, delay)`. -/
def recordNewTargetPlayoutDelay (asOfFrame delay : ℤ) :
    Except ReceiverFault Receiver := do
  require (s.checkpointFrame < asOfFrame) .delayChangeTooOld
  let nextFrame := s.lastFrameConsumed - kMaxUnackedFrames + 1
  return { s with
    playoutDelayChanges :=
      ChangeLog.insert asOfFrame delay (ChangeLog.prune nextFrame s.playoutDelayChanges) }

/-- `ResolveTargetPlayoutDelay(frame_id)`. -/
def resolveTargetPlayoutDelay (frameId : ℤ) :
    Except ReceiverFault (ℤ × Receiver) := do
  let first := FrameQueue.firstPossible s.lastFrameConsumed
  require (first ≤ frameId) .frameTooOld
  match ChangeLog.inForce s.playoutDelayChanges frameId with
  | none => .error .delayUnknown
  | some (_, delay) =>
    return (delay, s.emit (.resolved
      { lastFrameConsumed := s.lastFrameConsumed
        latestFrameExpected := s.latestFrameExpected
        frameId
        delay
        allKnown := (Int.range first (frameId + 1)).all s.isCaptured }))

/-! ### The checkpoint -/

/-- The loop of `AdvanceCheckpoint`, of at most `n` rounds. -/
def lastCompleteFrom (q : FrameQueue) : ℕ → ℤ → ℤ
  | 0, newCheckpoint => newCheckpoint
  | n + 1, newCheckpoint =>
    if q.isComplete (newCheckpoint + 1) then lastCompleteFrom q n (newCheckpoint + 1)
    else newCheckpoint

/-- `AdvanceCheckpoint(new_checkpoint)`. -/
def advanceCheckpoint (newCheckpoint : ℤ) : Except ReceiverFault Receiver := do
  require (s.checkpointFrame < newCheckpoint) .checkpointNotNew
  require (newCheckpoint ≤ s.latestFrameExpected) .checkpointNotExpected
  let newCheckpoint := lastCompleteFrom s.toFrameQueue
    (s.latestFrameExpected - newCheckpoint).toNat newCheckpoint
  let rtcpBuilder ← (s.rtcpBuilder.setCheckpointFrame newCheckpoint).mapError .rtcp
  let (delay, s) ← { s with rtcpBuilder }.resolveTargetPlayoutDelay newCheckpoint
  sendRtcp c now { s with rtcpBuilder := s.rtcpBuilder.setPlayoutDelay delay }

/-- `collector.Reset()` on the entry of a frame. -/
def resetCollector (frameId : ℤ) : Receiver :=
  s.setQueueEntry frameId { s.getQueueEntry frameId with collector := .new }

/-- The loop of `DropAllFramesBefore` over the next `n` frames. -/
def dropFrames : ℕ → ℤ → Receiver → Except ReceiverFault Receiver
  | 0, _, s => .ok s
  | n + 1, frameId, s => do
    require (s.isCaptured frameId) .captureTimeUnknown
    dropFrames n (frameId + 1) (s.resetCollector frameId)

/-- `DropAllFramesBefore(first_kept_frame)`. -/
def dropAllFramesBefore (firstKeptFrame : ℤ) : Except ReceiverFault Receiver := do
  let firstToDrop := s.lastFrameConsumed + 1
  require (firstToDrop < firstKeptFrame) .nothingToDrop
  require (s.checkpointFrame < firstKeptFrame) .keptFrameAcked
  require (firstKeptFrame ≤ s.latestFrameExpected) .keptFrameUnknown
  let s ← dropFrames (firstKeptFrame - firstToDrop).toNat firstToDrop s
  let s := { s with lastFrameConsumed := firstKeptFrame - 1 }.emit (.skippedTo firstKeptFrame)
  s.advanceCheckpoint c now firstKeptFrame

/-! ### Consuming frames -/

/-- The loop of `AdvanceToNextFrame` over the next `n` frames. -/
def advanceFrom (immediateNextFrame : ℤ) :
    ℕ → ℤ → Receiver → Except ReceiverFault (Option ℕ × Receiver)
  | 0, _, s => .ok (none, s)
  | n + 1, frameId, s => do
    let entry := s.getQueueEntry frameId
    if entry.collector.isComplete ∧
        (frameId = immediateNextFrame ∨ entry.collector.frame.dependency ≠ .dependent) then
      let s ← (if frameId ≠ immediateNextFrame then s.dropAllFramesBefore c now frameId else .ok s)
      let size ← (s.getQueueEntry frameId).collector.getFramePayloadSize.mapError .collector
      return (some size, s)
    else
      match entry.estimatedCaptureTime with
      | none => return (none, s)
      | some captureTime =>
        let (delay, s) ← s.resolveTargetPlayoutDelay frameId
        let processTime := captureTime + toDuration delay - s.playerProcessingTime
        if processTime > now then return (none, s.scheduleFrameReadyCheck now processTime)
        else
          advanceFrom immediateNextFrame n (frameId + 1)
            (s.emit (.passedOver frameId captureTime delay s.playerProcessingTime now))

/-- `AdvanceToNextFrame()`. -/
def advanceToNextFrame : Except ReceiverFault (Option ℕ × Receiver) :=
  advanceFrom c now (s.lastFrameConsumed + 1)
    (s.latestFrameExpected - s.lastFrameConsumed).toNat (s.lastFrameConsumed + 1) s

/-- The frame that `ConsumeNextFrame` returns. -/
structure ConsumedFrame extends FrameMetadata where
  referenceTime : ℤ
  data : List UInt8
  deriving DecidableEq, Repr

/-- `ConsumeNextFrame(buffer)` for a buffer of `bufferSize` bytes, which the decryption fills
exactly. -/
def consumeNextFrame (bufferSize : ℕ) :
    Except ReceiverFault (ConsumedFrame × Receiver) := do
  let frameId := s.lastFrameConsumed + 1
  require (frameId ≤ s.checkpointFrame) .nothingToConsume
  let entry := s.getQueueEntry frameId
  require entry.collector.isComplete .incompleteFrame
  match entry.estimatedCaptureTime with
  | none => .error .captureTimeUnknown
  | some captureTime =>
    let metadata ← entry.collector.peekFrameMetadata.mapError .collector
    let chunks ← entry.collector.getPayloadChunks.mapError .collector
    match metadata.frameId with
    | none => .error .nullFrameId
    | some id =>
      require ((chunks.map List.length).sum = bufferSize) .bufferSize
      let (delay, s) ← s.resolveTargetPlayoutDelay frameId
      let frame : ConsumedFrame :=
        { metadata with
          referenceTime := captureTime + toDuration delay - s.playerProcessingTime
          data := c.crypt id chunks.flatten }
      let s := { s.resetCollector frameId with lastFrameConsumed := frameId }.emit
        (.consumed frameId metadata.dependency)
      return (frame, s.scheduleFrameReadyCheck now kImmediately)

/-! ### Receiving packets -/

/-- The loop body that extends the range of known frames: the collector is already reset. -/
def expectNextFrame : Receiver :=
  let frameId := s.latestFrameExpected + 1
  let entry := s.getQueueEntry frameId
  { s.setQueueEntry frameId { entry with
      estimatedCaptureTime := none
      collector := entry.collector.setFrameId frameId } with
    latestFrameExpected := frameId }

/-- The loop, of `n` rounds. -/
def expectFrames : ℕ → Receiver → Receiver
  | 0, s => s
  | n + 1, s => expectFrames n s.expectNextFrame

/-- The event for a collected packet goes into the logs, if there are any. -/
def logPacketReceived (arrivalTime : ℤ) (part : ParseResult) : Receiver :=
  if c.areReceiverEventLogsEnabled then
    { s with
      pendingLogs := addEventToPendingLogs part.rtpTimestamp
        { type := .packetReceived, timestamp := arrivalTime, packetId := part.packetId.toNat }
        s.pendingLogs }
  else s

/-- A frame is complete; a key frame also ends a picture loss. -/
def completeFrame (frameId : ℤ) (dependency : Dependency) : Receiver :=
  let s := s.emit (.completed frameId s.checkpointFrame)
  if dependency = .keyFrame then
    { s with
      rtcpBuilder := s.rtcpBuilder.setPictureLossIndicator false
      lastKeyFrameReceived := some frameId }
  else s

/-- What follows once a packet has been collected and its timing processed: the frame may have
become complete. -/
def finishPacket (arrivalTime : ℤ) (part : ParseResult) :
    Except ReceiverFault Receiver := do
  let s := s.logPacketReceived c arrivalTime part
  let collector := (s.getQueueEntry part.frameId).collector
  if !collector.isComplete then return s
  let metadata ← collector.peekFrameMetadata.mapError .collector
  let s := s.completeFrame part.frameId metadata.dependency
  let s ← (if part.frameId = s.checkpointFrame + 1 then
      advanceCheckpoint c now { s with
        pendingFrameAcks := s.pendingFrameAcks ++ [part.rtpTimestamp] } part.frameId
    else .ok s)
  return s.scheduleFrameReadyCheck now kImmediately

/-- The timing information of packet 0, given the offset between the clocks. -/
def processFirstPacket (part : ParseResult)
    (report : SenderReportParser.SenderReportWithId) (smoothedOffset : ℤ) :
    Except ReceiverFault Receiver := do
  let captureTime := report.referenceTime + smoothedOffset +
    c.rtpTimebase.toDuration (part.rtpTimestamp - report.rtpTimestamp)
  let s := s.setQueueEntry part.frameId
    { s.getQueueEntry part.frameId with estimatedCaptureTime := some captureTime }
  let s := s.emit (.firstPacket part.frameId part.newPlayoutDelay captureTime)
  let s ← (if 0 < part.newPlayoutDelay then
      s.recordNewTargetPlayoutDelay part.frameId part.newPlayoutDelay
    else .ok s)
  return s.scheduleFrameReadyCheck now kImmediately

/-- What follows once a packet has been collected. -/
def onCollected (arrivalTime : ℤ) (part : ParseResult) : Except ReceiverFault Receiver :=
  let entry := s.getQueueEntry part.frameId
  if part.packetId = 0 ∧ entry.estimatedCaptureTime = none then
    let s := s.setQueueEntry part.frameId { entry with rtpTimestamp := some part.rtpTimestamp }
    match s.smoothedClockOffset.current c, s.lastSenderReport with
    | none, _ => .ok s
    | some _, none => .error .noSenderReport
    | some smoothedOffset, some report => do
      let s ← s.processFirstPacket c now part report smoothedOffset
      s.finishPacket c now arrivalTime part
  else s.finishPacket c now arrivalTime part

/-- What `OnReceivedRtpPacket` does with a packet of a known frame after the checkpoint. -/
def collectPart (arrivalTime : ℤ) (part : ParseResult) :
    Except ReceiverFault Receiver := do
  if s.lastSenderReport = none ∧ part.packetId = 0 then return s
  let entry := s.getQueueEntry part.frameId
  if entry.collector.isComplete then return s
  let (accepted, collector) ← (entry.collector.collectRtpPacket part).mapError .collector
  let s := s.setQueueEntry part.frameId { entry with collector }
  if !accepted then return s
  let s := s.emit (.collected part.frameId part.packetId.toNat part.maxPacketId.toNat)
  s.onCollected c now arrivalTime part

/-- `OnReceivedRtpPacket(arrival_time, packet)`. -/
def onReceivedRtpPacket (arrivalTime : ℤ) (packet : ByteView) :
    Except ReceiverFault Receiver := do
  let (part, rtpParser) ← (s.rtpParser.parse packet).mapError .span
  let s := { s with rtpParser }
  match part with
  | none => return s
  | some part =>
    let s := { s with
      statsTracker := s.statsTracker.onReceivedValidRtpPacket c.rtpTimebase part.sequenceNumber
        part.rtpTimestamp arrivalTime }
    if part.frameId ≤ s.checkpointFrame then return s
    if s.latestFrameExpected < part.frameId ∧
        s.lastFrameConsumed + kMaxUnackedFrames < part.frameId then return s
    let s := expectFrames (part.frameId - s.latestFrameExpected).toNat s
    s.collectPart c now arrivalTime part

/-- `OnReceivedRtcpPacket(arrival_time, packet)`. -/
def onReceivedRtcpPacket (arrivalTime : ℤ) (packet : ByteView) :
    Except ReceiverFault Receiver := do
  let (parsedReport, rtcpParser) ← (s.rtcpParser.parse c.session packet).mapError .span
  let s := { s with rtcpParser }
  match parsedReport with
  | none => return s
  | some report =>
    let smoothedClockOffset ←
      s.smoothedClockOffset.update arrivalTime (arrivalTime - report.referenceTime)
    let (block, statsTracker) := s.statsTracker.populateNextReport c.rtpTimebase
      { ssrc := c.session.senderSsrc
        packetFractionLostNumerator := 0
        cumulativePacketsLost := 0
        extendedHighSequenceNumber := 0
        jitter := 0
        lastStatusReportId := 0
        delaySinceLastReport := 0 }
    let block := { block with lastStatusReportId := UInt32.ofNat report.reportId }
    let block := block.setDelaySinceLastReport (now - arrivalTime)
    sendRtcp c now { s with
      lastSenderReport := some report
      lastSenderReportArrivalTime := arrivalTime
      smoothedClockOffset
      statsTracker
      rtcpBuilder := s.rtcpBuilder.includeReceiverReportInNextPacket block }

/-! ### The other calls -/

/-- `SetConsumer(consumer)`. -/
def setConsumer (hasConsumer : Bool) : Receiver :=
  { s with hasConsumer }.scheduleFrameReadyCheck now kImmediately

/-- `SetPlayerProcessingTime(needed_time)`. -/
def setPlayerProcessingTime (neededTime : ℤ) : Receiver :=
  { s with playerProcessingTime := max 0 neededTime }

/-- The error codes of `ReportPlayoutEvent`. -/
inductive PlayoutEventError
  | none | operationInvalid | parameterOutOfRange
  deriving DecidableEq, Repr

/-- The playout of a frame is logged. The delay is truncated to milliseconds. -/
def logPlayedOut (rtpTimestamp playoutTime captureTime : ℤ) : Receiver :=
  { s with
    pendingLogs := addEventToPendingLogs rtpTimestamp
      { type := .framePlayedOut
        timestamp := playoutTime
        delay := toDuration ((max 0 (playoutTime - captureTime)).tdiv 1000) }
      s.pendingLogs }

/-- `ReportPlayoutEvent(frame_id, rtp_timestamp, playout_time)`. -/
def reportPlayoutEvent (frameId rtpTimestamp playoutTime : ℤ) :
    Except ReceiverFault (PlayoutEventError × Receiver) :=
  if !c.areReceiverEventLogsEnabled then .ok (.operationInvalid, s)
  else if frameId ≤ s.latestFrameExpected - kMaxUnackedFrames then .ok (.parameterOutOfRange, s)
  else
    match (s.getQueueEntry frameId).estimatedCaptureTime with
    | none => .error .captureTimeUnknown
    | some captureTime => .ok (.none, s.logPlayedOut rtpTimestamp playoutTime captureTime)

/-- `RequestKeyFrame()`. -/
def requestKeyFrame : Except ReceiverFault Receiver :=
  if c.isPliEnabled ∧ (∃ id ∈ s.lastKeyFrameReceived, id ≤ s.lastFrameConsumed) ∧
      !s.rtcpBuilder.pictureLossIndicator then
    sendRtcp c now { s with rtcpBuilder := s.rtcpBuilder.setPictureLossIndicator true }
  else .ok s

/-- The task of `rtcp_alarm_`, when it is due. -/
def onRtcpAlarm : Except ReceiverFault Receiver :=
  if ∃ time ∈ s.rtcpAlarm, time ≤ now then sendRtcp c now { s with rtcpAlarm := none } else .ok s

/-- The task of `consumption_alarm_`, when it is due. -/
def onConsumptionAlarm : Except ReceiverFault Receiver :=
  if ∃ time ∈ s.consumptionAlarm, time ≤ now then
    let s := { s with consumptionAlarm := none }
    if s.hasConsumer then do
      let (nextSize, s) ← s.advanceToNextFrame c now
      return match nextSize with
        | some size => s.emit (.onFramesReady size)
        | none => s
    else .ok s
  else .ok s

end Receiver

/-! ### The receiver as a transition system -/

/-- The calls that a receiver receives. -/
inductive ReceiverOp
  | setConsumer (hasConsumer : Bool)
  | setPlayerProcessingTime (neededTime : ℤ)
  | reportPlayoutEvent (frameId rtpTimestamp playoutTime : ℤ)
  | requestKeyFrame
  | advanceToNextFrame
  | consumeNextFrame (bufferSize : ℕ)
  | onReceivedRtpPacket (arrivalTime : ℤ) (packet : ByteView)
  | onReceivedRtcpPacket (arrivalTime : ℤ) (packet : ByteView)
  | onRtcpAlarm
  | onConsumptionAlarm
  deriving DecidableEq, Repr

/-- What a call returns. -/
inductive ReceiverOutput
  | none
  | playoutEventError (error : Receiver.PlayoutEventError)
  | nextFrameSize (size : Option ℕ)
  | consumedFrame (frame : Receiver.ConsumedFrame)
  deriving DecidableEq, Repr

namespace Receiver

/-- One call at the time `now`. -/
def step (c : ReceiverConfig) (s : Receiver) (now : ℤ) :
    ReceiverOp → Except ReceiverFault (ReceiverOutput × Receiver)
  | .setConsumer hasConsumer => .ok (.none, s.setConsumer now hasConsumer)
  | .setPlayerProcessingTime neededTime => .ok (.none, s.setPlayerProcessingTime neededTime)
  | .reportPlayoutEvent frameId rtpTimestamp playoutTime => do
    let (error, s) ← s.reportPlayoutEvent c frameId rtpTimestamp playoutTime
    return (.playoutEventError error, s)
  | .requestKeyFrame => do return (.none, ← s.requestKeyFrame c now)
  | .advanceToNextFrame => do
    let (size, s) ← s.advanceToNextFrame c now
    return (.nextFrameSize size, s)
  | .consumeNextFrame bufferSize => do
    let (frame, s) ← s.consumeNextFrame c now bufferSize
    return (.consumedFrame frame, s)
  | .onReceivedRtpPacket arrivalTime packet => do
    return (.none, ← s.onReceivedRtpPacket c now arrivalTime packet)
  | .onReceivedRtcpPacket arrivalTime packet => do
    return (.none, ← s.onReceivedRtcpPacket c now arrivalTime packet)
  | .onRtcpAlarm => do return (.none, ← s.onRtcpAlarm c now)
  | .onConsumptionAlarm => do return (.none, ← s.onConsumptionAlarm c now)

/-- The receiver that the constructor builds. -/
def new (c : ReceiverConfig) : Receiver where
  rtcpBuilder := ({} : CompoundRtcpBuilder).setPlayoutDelay c.targetPlayoutDelay
  rtpParser := .new c.session.senderSsrc
  playoutDelayChanges := [(FrameId.leader, c.targetPlayoutDelay)]

/-- One call, at its time, and what it returns. -/
def Step (c : ReceiverConfig) (s : Receiver) (a : ℤ × ReceiverOp × ReceiverOutput) (t : Receiver) :
    Prop :=
  s.step c a.1 a.2.1 = .ok (a.2.2, t)

/-- The calls `ops` at their times, one after the other: what they return, and the state after
them. -/
def runOps (c : ReceiverConfig) : Receiver → List (ℤ × ReceiverOp) →
    Except ReceiverFault (List (ℤ × ReceiverOp × ReceiverOutput) × Receiver)
  | s, [] => .ok ([], s)
  | s, (now, op) :: ops => do
    let (out, s) ← s.step c now op
    let (labels, s) ← runOps c s ops
    return ((now, op, out) :: labels, s)

end Receiver

end StreamerPlus
