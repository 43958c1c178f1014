import StreamerPlus.Lib.Bitmap
import StreamerPlus.Streaming.FrameCollector
import StreamerPlus.Streaming.RtcpCommon
import StreamerPlus.Streaming.RtcpSession
import StreamerPlus.Util.IntegerDivision

/-!
# `CompoundRtcpBuilder`

The RTCP packets of the receiver (`compound_rtcp_builder.cc`): a receiver report, a reference
time report, a picture loss indicator while the flag is set, the Cast feedback with as many
NACKs and ACKs as fit, and the receiver logs. Each of the helpers below appends one of them.

Two limits are computed in `int`. The number of loss fields is the truncated quotient of the
remaining space, so a buffer of `2 ^ 33` bytes can make it negative and the loop unbounded; and
the ACK vector grows only while the truncated remaining space allows it, so from `2 ^ 31` bytes
on it does not grow at all.
-/

namespace StreamerPlus

open Checked ExpandedValue

/-- `StatisticsEvent::Type`, as far as it has a wire type. -/
inductive StatisticsEventType
  | unknown | frameAckSent | framePlayedOut | frameDecoded | packetReceived
  deriving DecidableEq, Repr

/-- `ToWireType(type)`. -/
def StatisticsEventType.toWireType : StatisticsEventType → ℕ
  | unknown => 0
  | frameAckSent => 11
  | framePlayedOut => 12
  | frameDecoded => 13
  | packetReceived => 14

/-- `FromWireType(wire_type)`. -/
def statisticsEventTypeOf : ℕ → StatisticsEventType
  | 1 | 5 | 11 => .frameAckSent
  | 2 | 6 | 12 => .framePlayedOut
  | 3 | 7 | 13 => .frameDecoded
  | 4 | 8 | 14 => .packetReceived
  | _ => .unknown

/-- `RtcpReceiverEventLogMessage`. -/
structure RtcpReceiverEventLogMessage where
  type : StatisticsEventType
  timestamp : ℤ
  delay : ℤ := 0
  packetId : ℕ := 0
  deriving DecidableEq, Repr

/-- `RtcpReceiverFrameLogMessage`. -/
structure RtcpReceiverFrameLogMessage where
  rtpTimestamp : ℤ
  messages : List RtcpReceiverEventLogMessage
  deriving DecidableEq, Repr

/-- `kRequiredBufferSize` of the builder. -/
@[simp] def kRequiredBufferSize : ℕ := 256

/-- `CompoundRtcpBuilder`. -/
structure CompoundRtcpBuilder where
  checkpointFrameId : ℤ := FrameId.leader
  playoutDelay : ℤ := 400
  receiverReportForNextPacket : Option RtcpReportBlock := none
  nacksForNextPacket : List PacketNack := []
  acksForNextPacket : List ℤ := []
  logsForNextPacket : List RtcpReceiverFrameLogMessage := []
  pictureLossIndicator : Bool := false
  feedbackCount : ℕ := 0
  deriving DecidableEq, Repr

/-- One entry of the loss fields: a packet, and a bit for each of the next eight. -/
structure LossField where
  frameId : ℤ
  packetId : ℕ
  bitVector : ℕ
  deriving DecidableEq, Repr

namespace CompoundRtcpBuilder

/-! ### What the next packet includes -/

variable (b : CompoundRtcpBuilder)

/-- `SetCheckpointFrame(frame_id)`. -/
def setCheckpointFrame (frameId : ℤ) :
    Except RtcpFault CompoundRtcpBuilder := do
  require (b.checkpointFrameId ≤ frameId) .checkpointMovedBack
  return { b with checkpointFrameId := frameId }

/-- `SetPlayoutDelay(delay)`. -/
def setPlayoutDelay (delay : ℤ) : CompoundRtcpBuilder :=
  { b with playoutDelay := delay }

/-- `SetPictureLossIndicator(picture_is_lost)`. -/
def setPictureLossIndicator (lost : Bool) : CompoundRtcpBuilder :=
  { b with pictureLossIndicator := lost }

/-- `IncludeReceiverReportInNextPacket(receiver_report)`. -/
def includeReceiverReportInNextPacket (report : RtcpReportBlock) : CompoundRtcpBuilder :=
  { b with receiverReportForNextPacket := some report }

/-- `IncludeFeedbackInNextPacket(packet_nacks, frame_acks)`. -/
def includeFeedbackInNextPacket (nacks : List PacketNack)
    (acks : List ℤ) : CompoundRtcpBuilder :=
  { b with nacksForNextPacket := nacks, acksForNextPacket := acks }

/-- `IncludeReceiverLogsInNextPacket(logs)`. -/
def includeReceiverLogsInNextPacket
    (logs : List RtcpReceiverFrameLogMessage) : CompoundRtcpBuilder :=
  { b with logsForNextPacket := logs }

/-! ### The parts of a packet -/

variable (session : RtcpSession)

/-- `AppendReceiverReportPacket(buffer)`. -/
def appendReceiverReportPacket (b : CompoundRtcpBuilder)
    (buffer : ByteBuffer) : Except RtcpFault ByteBuffer := do
  let report := b.receiverReportForNextPacket
  let header : RtcpCommonHeader :=
    { packetType := .receiverReport
      reportCount := if report.isSome then 1 else 0
      payloadSize :=
        kRtcpReceiverReportSize + if report.isSome then kRtcpReportBlockSize else 0 }
  let buffer ← header.appendFields buffer
  let buffer ← (appendFields [(4, session.receiverSsrc.toNat)] buffer).mapError .span
  match report with
  | none => return buffer
  | some block => block.appendFields buffer

/-- `AppendReceiverReferenceTimeReportPacket(send_time, buffer)`. -/
def appendReceiverReferenceTimeReportPacket (sendTime : ℤ)
    (buffer : ByteBuffer) : Except RtcpFault ByteBuffer := do
  let header : RtcpCommonHeader :=
    { packetType := .extendedReports
      payloadSize := kRtcpExtendedReportHeaderSize + kRtcpExtendedReportBlockHeaderSize +
        kRtcpReceiverReferenceTimeReportBlockSize }
  let buffer ← header.appendFields buffer
  (appendFields
    [ (4, session.receiverSsrc.toNat), (1, kRtcpReceiverReferenceTimeReportBlockType), (1, 0),
      (2, kRtcpReceiverReferenceTimeReportBlockSize / 4),
      (8, session.ntpConverter.toNtpTimestamp sendTime) ] buffer).mapError .span

/-- `AppendPictureLossIndicatorPacket(buffer)`. -/
def appendPictureLossIndicatorPacket (buffer : ByteBuffer) :
    Except RtcpFault ByteBuffer := do
  let header : RtcpCommonHeader :=
    { packetType := .payloadSpecific
      subtype := .pictureLossIndicator
      payloadSize := kRtcpPictureLossIndicatorHeaderSize }
  let buffer ← header.appendFields buffer
  (appendFields [(4, session.receiverSsrc.toNat), (4, session.senderSsrc.toNat)]
    buffer).mapError .span

/-- The inner loop of the loss fields: the bits of the NACKs of `frameId` that lie within the
eight packets after `first`, and the NACKs after them. The list is sorted and has no
duplicates, so no shift is negative. -/
def lossBits (frameId : ℤ) (first : ℕ) : List PacketNack → ℕ → ℕ × List PacketNack
  | [], bits => (bits, [])
  | nack :: nacks, bits =>
    if nack.frameId = frameId then
      let shift : ℤ := (nack.packetId : ℤ) - first - 1
      if 8 ≤ shift then (bits, nack :: nacks)
      else lossBits frameId first nacks (bits ||| 1 <<< shift.toNat)
    else (bits, nack :: nacks)

/-- The outer loop, with at most `fuel` iterations, until the list ends or `limit` entries have
been written. -/
def lossFields : ℕ → ℤ → List PacketNack → List LossField
  | 0, _, _ => []
  | _ + 1, _, [] => []
  | fuel + 1, limit, nack :: nacks =>
    if limit = 0 then []
    else
      let (bits, rest) := lossBits nack.frameId nack.packetId nacks 0
      ⟨nack.frameId, nack.packetId, bits⟩ :: lossFields fuel (limit - 1) rest

/-- The fields that `AppendCastFeedbackLossFields` appends to a buffer with room for `room`
bytes. NACKs up to the checkpoint are omitted. -/
def castFeedbackLossFields (room : ℕ) : List LossField :=
  let maxNumLossFields :=
    min (toInt32 (room / kRtcpFeedbackLossFieldSize)) 255
  let nacks := b.nacksForNextPacket.dropWhile fun nack => nack.frameId ≤ b.checkpointFrameId
  lossFields nacks.length maxNumLossFields nacks

/-- The bytes of the loss fields. -/
def lossFieldBytes (fields : List LossField) : List (ℕ × ℕ) :=
  fields.flatMap fun f => [(1, lowerBits 8 f.frameId), (2, f.packetId), (1, f.bitVector)]

/-- The loop that sets the bits of the ACK vector, with `room` bytes left in the buffer: the
octets, and the room that is left after them. The vector grows in steps of four octets. -/
def ackOctets (firstFrameId : ℤ) : List ℤ → List ℕ → ℕ → List ℕ × ℕ
  | [], octets, room => (octets, room)
  | frameId :: acks, octets, room =>
    let bitIndex := toInt32 (frameId - firstFrameId)
    if bitIndex < 0 then ackOctets firstFrameId acks octets room
    else
      let octetIndex := bitIndex.toNat / 8
      if octetIndex < octets.length then
        ackOctets firstFrameId acks (Bitmap.insert octets bitIndex.toNat) room
      else
        let numAdditional :=
          (dividePositivesRoundingUp ((octetIndex : ℤ) + 1 - octets.length) 4 * 4).toNat
        if toInt32 room < numAdditional then (octets, room)
        else if kRtcpMaxAckBitVectorOctets < octets.length + numAdditional then (octets, room)
        else
          ackOctets firstFrameId acks
            (Bitmap.insert (octets ++ List.replicate numAdditional 0) bitIndex.toNat)
            (room - numAdditional)

/-- `AppendCastFeedbackAckFields(buffer)`. Without room for the header and the smallest vector
nothing is written, and the ACKs are kept. -/
def appendCastFeedbackAckFields (buffer : ByteBuffer) :
    Except RtcpFault (ByteBuffer × CompoundRtcpBuilder) := do
  if buffer.room < kRtcpFeedbackAckHeaderSize + kRtcpMinAckBitVectorOctets then return (buffer, b)
  let (octets, _) := ackOctets (b.checkpointFrameId + 2) b.acksForNextPacket
    (List.replicate kRtcpMinAckBitVectorOctets 0)
    (buffer.room - (kRtcpFeedbackAckHeaderSize + kRtcpMinAckBitVectorOctets))
  require (octets.length ≤ 0xff) .tooManyAckOctets
  let buffer ← (appendFields
    ([(4, kRtcpCst2IdentifierWord), (1, b.feedbackCount), (1, octets.length)] ++
      octets.map fun octet => (1, octet)) buffer).mapError .span
  return (buffer, { b with acksForNextPacket := [] })

/-- The mandatory fields of the Cast feedback. -/
def feedbackHeaderFields (b : CompoundRtcpBuilder)
    (numLossFields : ℕ) : List (ℕ × ℕ) :=
  [ (4, session.receiverSsrc.toNat), (4, session.senderSsrc.toNat), (4, kRtcpCastIdentifierWord),
    (1, lowerBits 8 b.checkpointFrameId), (1, numLossFields), (2, b.playoutDelay.toNat) ]

/-- `AppendCastFeedbackPacket(buffer)`. -/
def appendCastFeedbackPacket (b : CompoundRtcpBuilder)
    (buffer : ByteBuffer) : Except RtcpFault (ByteBuffer × CompoundRtcpBuilder) := do
  require (kRtcpCommonHeaderSize ≤ buffer.room) (.span .outOfBounds)
  require (0 < b.playoutDelay ∧ b.playoutDelay ≤ 0xffff) .playoutDelayOutOfRange
  let fields := b.castFeedbackLossFields
    (buffer.room - kRtcpCommonHeaderSize - kRtcpFeedbackHeaderSize)
  require (fields.length ≤ 0xff) .tooManyLossFields
  let payload ← (appendFields (b.feedbackHeaderFields session fields.length)
    ⟨[], buffer.room - kRtcpCommonHeaderSize⟩).mapError .span
  let payload ← (appendFields (lossFieldBytes fields) payload).mapError .span
  let (payload, b) ← b.appendCastFeedbackAckFields payload
  let header : RtcpCommonHeader :=
    { packetType := .payloadSpecific, subtype := .feedback, payloadSize := payload.written.length }
  let space ← header.appendFields ⟨[], kRtcpCommonHeaderSize⟩
  return (⟨buffer.written ++ space.written ++ payload.written, payload.room⟩,
    { b with
      nacksForNextPacket := []
      feedbackCount := (b.feedbackCount + 1) % 256 })

/-- The events of one frame log, while there is room; the flag says whether all were written. -/
def appendLogEvents (firstTimestamp : ℤ) : List RtcpReceiverEventLogMessage → ByteBuffer →
    Except RtcpFault (ByteBuffer × Bool)
  | [], buffer => .ok (buffer, true)
  | event :: events, buffer => do
    if buffer.room < kRtcpReceiverFrameLogMessageBlockSize then return (buffer, false)
    let delayDeltaOrPacketId :=
      if event.type = .packetReceived then event.packetId
      else ((event.delay.tdiv 1000) % 0x10000).toNat
    let wireTimestamp := (((event.timestamp - firstTimestamp).tdiv 1000) % 0x1000).toNat
    let buffer ← (appendFields
      [ (2, delayDeltaOrPacketId), (2, (event.type.toWireType <<< 12) ||| wireTimestamp) ]
      buffer).mapError .span
    appendLogEvents firstTimestamp events buffer

/-- The frame logs, while there is room. -/
def appendFrameLogs (session : RtcpSession) : List RtcpReceiverFrameLogMessage → ByteBuffer →
    Except RtcpFault ByteBuffer
  | [], buffer => .ok buffer
  | log :: logs, buffer => do
    if buffer.room < kRtcpReceiverFrameLogMessageHeaderSize then return buffer
    match log.messages with
    | [] => .error .emptyFrameLog
    | first :: _ =>
      let numEventsWire := (log.messages.length - 1) % 256
      let eventTimestampWire :=
        (((first.timestamp - session.startTime).tdiv 1000) % 0x1000000).toNat
      let buffer ← (appendFields
        [ (4, lowerBits 32 log.rtpTimestamp), (4, (numEventsWire <<< 24) ||| eventTimestampWire) ]
        buffer).mapError .span
      let (buffer, all) ← appendLogEvents first.timestamp log.messages buffer
      if all then appendFrameLogs session logs buffer else return buffer

/-- `AppendReceiverLogPacket(buffer)`. -/
def appendReceiverLogPacket (b : CompoundRtcpBuilder)
    (buffer : ByteBuffer) : Except RtcpFault (ByteBuffer × CompoundRtcpBuilder) := do
  if b.logsForNextPacket.isEmpty then return (buffer, b)
  require (kRtcpCommonHeaderSize ≤ buffer.room) (.span .outOfBounds)
  let payload ← (appendFields [(4, session.receiverSsrc.toNat), (4, kCastName)]
    ⟨[], buffer.room - kRtcpCommonHeaderSize⟩).mapError .span
  let payload ← appendFrameLogs session b.logsForNextPacket payload
  let header : RtcpCommonHeader :=
    { packetType := .applicationDefined
      subtype := .receiverLog
      payloadSize := payload.written.length }
  let space ← header.appendFields ⟨[], kRtcpCommonHeaderSize⟩
  return (⟨buffer.written ++ space.written ++ payload.written, payload.room⟩,
    { b with logsForNextPacket := [] })

/-- The parts of `BuildPacket` before the feedback. -/
def appendPreamble (b : CompoundRtcpBuilder) (sendTime : ℤ)
    (buffer : ByteBuffer) : Except RtcpFault ByteBuffer := do
  let buffer ← b.appendReceiverReportPacket session buffer
  let buffer ← appendReceiverReferenceTimeReportPacket session sendTime buffer
  if b.pictureLossIndicator then appendPictureLossIndicatorPacket session buffer
  else return buffer

/-- `BuildPacket(send_time, buffer)` for a buffer of `bufferSize` bytes. The report goes into
one packet only. -/
def buildPacket (b : CompoundRtcpBuilder) (sendTime : ℤ)
    (bufferSize : ℕ) : Except RtcpFault (ByteView × CompoundRtcpBuilder) := do
  require (kRequiredBufferSize ≤ bufferSize) .bufferTooSmall
  let buffer ← b.appendPreamble session sendTime ⟨[], bufferSize⟩
  let b := { b with receiverReportForNextPacket := none }
  let (buffer, b) ← b.appendCastFeedbackPacket session buffer
  let (buffer, b) ← b.appendReceiverLogPacket session buffer
  return (buffer.written, b)

end CompoundRtcpBuilder

end StreamerPlus
