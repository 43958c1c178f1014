import StreamerPlus.Streaming.PacketUtil
import StreamerPlus.Streaming.RtpDefines

/-!
# RTCP headers and report blocks

`rtcp_common.h`: the common header that starts every part of a compound packet, and the report
block. Each has a writer with its checks, and a reader.
-/

namespace StreamerPlus

open Checked

/-- The checks of the RTCP writers. -/
inductive RtcpFault
  | bufferTooSmall | reportCountTooLarge | unwritablePacketType | payloadSizeNotInWords
  | reportBlockOutOfRange | checkpointMovedBack | playoutDelayOutOfRange | tooManyLossFields
  | tooManyAckOctets | emptyFrameLog | span (f : SpanFault)
  deriving DecidableEq, Repr

/-- `RtcpCommonHeader`. Of the union `with`, a packet type reads `reportCount`, `subtype` or
neither. -/
structure RtcpCommonHeader where
  packetType : RtcpPacketType
  reportCount : ℕ := 0
  subtype : RtcpSubtype := .null
  payloadSize : ℕ
  deriving DecidableEq, Repr

namespace RtcpCommonHeader

/-- The low five bits of byte 0. -/
def countOrSubtypeBits (h : RtcpCommonHeader) : Except RtcpFault ℕ :=
  match h.packetType with
  | .senderReport | .receiverReport => do
    require (h.reportCount ≤ 31) .reportCountTooLarge
    return h.reportCount
  | .sourceDescription => .error .unwritablePacketType
  | .applicationDefined | .payloadSpecific =>
    if h.subtype = .null then .error .unwritablePacketType else .ok h.subtype.toByte
  | .extendedReports => .ok 0

/-- `AppendFields(buffer)`. -/
def appendFields (h : RtcpCommonHeader) (buffer : ByteBuffer) : Except RtcpFault ByteBuffer := do
  require (kRtcpCommonHeaderSize ≤ buffer.room) .bufferTooSmall
  let bits ← h.countOrSubtypeBits
  require (h.payloadSize % 4 = 0) .payloadSizeNotInWords
  (StreamerPlus.appendFields
    [ (1, (kRtcpRequiredVersionAndPaddingBits <<< kRtcpReportCountFieldNumBits) ||| bits),
      (1, h.packetType.toByte), (2, h.payloadSize / 4) ] buffer).mapError .span

variable (packetType : RtcpPacketType)

/-- The report count that the low bits of byte 0 stand for. -/
def reportCountOf (bits : ℕ) : ℕ :=
  match packetType with
  | .senderReport | .receiverReport => bits
  | _ => 0

/-- The subtype that the low bits of byte 0 stand for. -/
def subtypeOf (bits : ℕ) : RtcpSubtype :=
  match packetType with
  | .applicationDefined | .payloadSpecific => rtcpSubtypeOf bits
  | _ => .null

/-- `Parse(buffer)`. -/
def parse (buffer : ByteView) : Except SpanFault (Option RtcpCommonHeader) := do
  if buffer.length < kRtcpCommonHeaderSize then return none
  let (byte0, buffer) ← consumeField 1 buffer
  if byte0 >>> kRtcpReportCountFieldNumBits ≠ kRtcpRequiredVersionAndPaddingBits then return none
  let reportCountOrSubtype := byte0 &&& 0b11111
  let (byte1, buffer) ← consumeField 1 buffer
  match rtcpPacketTypeOf? byte1 with
  | none => return none
  | some packetType =>
    let (words, _) ← consumeField 2 buffer
    return some
      { packetType
        reportCount := reportCountOf packetType reportCountOrSubtype
        subtype := subtypeOf packetType reportCountOrSubtype
        payloadSize := words * 4 }

/-- The bytes of a header with the low bits `bits`. -/
def bytes (bits payloadSize : ℕ) : ByteView :=
  fieldBytes [ (1, (kRtcpRequiredVersionAndPaddingBits <<< kRtcpReportCountFieldNumBits) ||| bits),
    (1, packetType.toByte), (2, payloadSize / 4) ]

end RtcpCommonHeader

/-- `RtcpReportBlock`. -/
structure RtcpReportBlock where
  ssrc : Ssrc
  packetFractionLostNumerator : ℤ
  cumulativePacketsLost : ℤ
  extendedHighSequenceNumber : UInt32
  jitter : ℤ
  lastStatusReportId : UInt32
  delaySinceLastReport : ℤ
  deriving DecidableEq, Repr

namespace RtcpReportBlock

/-- The fields of a report block. -/
def fields (b : RtcpReportBlock) : List (ℕ × ℕ) :=
  [ (4, b.ssrc.toNat),
    (4, (b.packetFractionLostNumerator.toNat <<< kRtcpCumulativePacketsFieldNumBits) |||
      (b.cumulativePacketsLost.toNat &&& 0xffffff)),
    (4, b.extendedHighSequenceNumber.toNat), (4, b.jitter.toNat),
    (4, b.lastStatusReportId.toNat), (4, b.delaySinceLastReport.toNat) ]

/-- `AppendFields(buffer)`. -/
def appendFields (b : RtcpReportBlock) (buffer : ByteBuffer) : Except RtcpFault ByteBuffer := do
  require (kRtcpReportBlockSize ≤ buffer.room) .bufferTooSmall
  require (0 ≤ b.packetFractionLostNumerator ∧ b.packetFractionLostNumerator ≤ 0xff)
    .reportBlockOutOfRange
  require (0 ≤ b.cumulativePacketsLost ∧ b.cumulativePacketsLost ≤ 0xffffff)
    .reportBlockOutOfRange
  require (0 ≤ b.jitter ∧ b.jitter ≤ 0xffffffff) .reportBlockOutOfRange
  require (0 ≤ b.delaySinceLastReport ∧ b.delaySinceLastReport ≤ 0xffffffff)
    .reportBlockOutOfRange
  (StreamerPlus.appendFields b.fields buffer).mapError .span

/-- The loop of `ParseOne` over the report blocks: the last one for `ssrc`. -/
def parseBlocks (ssrc : Ssrc) : ℕ → ByteView → Option RtcpReportBlock →
    Except SpanFault (Option RtcpReportBlock)
  | 0, _, result => .ok result
  | n + 1, buffer, result => do
    let (blockSsrc, buffer) ← consumeField 4 buffer
    if blockSsrc ≠ ssrc.toNat then
      let buffer ← skip (kRtcpReportBlockSize - 4) buffer
      parseBlocks ssrc n buffer result
    else
      let (secondWord, buffer) ← consumeField 4 buffer
      let (extendedHighSequenceNumber, buffer) ← consumeField 4 buffer
      let (jitter, buffer) ← consumeField 4 buffer
      let (lastStatusReportId, buffer) ← consumeField 4 buffer
      let (delaySinceLastReport, buffer) ← consumeField 4 buffer
      parseBlocks ssrc n buffer (some
        { ssrc
          packetFractionLostNumerator := secondWord >>> kRtcpCumulativePacketsFieldNumBits
          cumulativePacketsLost := (secondWord &&& 0xffffff : ℕ)
          extendedHighSequenceNumber := UInt32.ofNat extendedHighSequenceNumber
          jitter
          lastStatusReportId := UInt32.ofNat lastStatusReportId
          delaySinceLastReport })

/-- `ParseOne(buffer, report_count, ssrc)`. -/
def parseOne (buffer : ByteView) (reportCount : ℕ) (ssrc : Ssrc) :
    Except SpanFault (Option RtcpReportBlock) :=
  if buffer.length < kRtcpReportBlockSize * reportCount then .ok none
  else parseBlocks ssrc reportCount buffer none

end RtcpReportBlock

end StreamerPlus
