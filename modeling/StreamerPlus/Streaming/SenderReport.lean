import StreamerPlus.Streaming.FrameId
import StreamerPlus.Streaming.RtcpCommon
import StreamerPlus.Streaming.RtcpSession
import StreamerPlus.Util.IntegerDivision

/-!
# Sender reports

`SenderReportBuilder` and `SenderReportParser`: the RTCP packets of the sender, which give the
receiver a lip-sync point and an id that it refers to in its own reports.
-/

namespace StreamerPlus

open Checked ExpandedValue

/-- `RtcpSenderReport`. -/
structure RtcpSenderReport where
  referenceTime : ℤ
  rtpTimestamp : ℤ := 0
  sendPacketCount : ℕ := 0
  sendOctetCount : ℕ := 0
  reportBlock : Option RtcpReportBlock := none
  deriving DecidableEq, Repr

namespace SenderReportBuilder

/-- `kRequiredBufferSize`. -/
@[simp] def kRequiredBufferSize : ℕ :=
  kRtcpCommonHeaderSize + kRtcpSenderReportSize + kRtcpReportBlockSize

/-- `BuildPacket(sender_report, buffer)` for a buffer of `bufferSize` bytes: the packet and its
report id. -/
def buildPacket (session : RtcpSession) (report : RtcpSenderReport) (bufferSize : ℕ) :
    Except RtcpFault (ByteView × ℕ) := do
  require (kRequiredBufferSize ≤ bufferSize) .bufferTooSmall
  let header : RtcpCommonHeader :=
    { packetType := .senderReport
      reportCount := if report.reportBlock.isSome then 1 else 0
      payloadSize :=
        kRtcpSenderReportSize + if report.reportBlock.isSome then kRtcpReportBlockSize else 0 }
  let buffer ← header.appendFields ⟨[], bufferSize⟩
  let ntpTimestamp := session.ntpConverter.toNtpTimestamp report.referenceTime
  let buffer ← (appendFields
    [ (4, session.senderSsrc.toNat), (8, ntpTimestamp), (4, lowerBits 32 report.rtpTimestamp),
      (4, report.sendPacketCount), (4, report.sendOctetCount) ] buffer).mapError .span
  let buffer ← match report.reportBlock with
    | some block => block.appendFields buffer
    | none => .ok buffer
  return (buffer.written, toStatusReportId ntpTimestamp)

/-- `GetRecentReportTime(report_id, on_or_before)`: the upper 16 bits come from the latest time
that is possible, and are one less when the result would be later than that. -/
def getRecentReportTime (session : RtcpSession) (reportId : ℕ) (onOrBefore : ℤ) : ℤ :=
  let maxTimestamp := session.ntpConverter.toNtpTimestamp onOrBefore
  let reconstructed := maxTimestamp / 0x1000000000000 * 0x1000000000000 + reportId * 0x10000
  session.ntpConverter.toLocalTime
    (if reconstructed > maxTimestamp then
      (reconstructed + 0x10000000000000000 - 0x1000000000000) % 0x10000000000000000
    else reconstructed)

end SenderReportBuilder

/-- `SenderReportParser`. -/
structure SenderReportParser where
  lastParsedRtpTimestamp : ℤ := 0
  deriving DecidableEq, Repr

namespace SenderReportParser

/-- `SenderReportWithId`. -/
structure SenderReportWithId extends RtcpSenderReport where
  reportId : ℕ
  deriving DecidableEq, Repr

/-- A Sender Report payload; `none` when it is from another sender. -/
def parseReport (session : RtcpSession) (p : SenderReportParser) (reportCount : ℕ)
    (chunk : ByteView) : Except SpanFault (Option SenderReportWithId) := do
  let (ssrc, chunk) ← consumeField 4 chunk
  if ssrc ≠ session.senderSsrc.toNat then return none
  let (ntpTimestamp, chunk) ← consumeField 8 chunk
  let (truncatedRtpTimestamp, chunk) ← consumeField 4 chunk
  let (sendPacketCount, chunk) ← consumeField 4 chunk
  let (sendOctetCount, chunk) ← consumeField 4 chunk
  let reportBlock ← RtcpReportBlock.parseOne chunk reportCount session.receiverSsrc
  return some
    { reportId := toStatusReportId ntpTimestamp
      referenceTime := session.ntpConverter.toLocalTime ntpTimestamp
      rtpTimestamp := expand 32 p.lastParsedRtpTimestamp truncatedRtpTimestamp
      sendPacketCount
      sendOctetCount
      reportBlock }

/-- The loop of `Parse` over at most `fuel` parts; `none` for a corrupt packet. The last report
found counts. -/
def parseParts (session : RtcpSession) (p : SenderReportParser) : ℕ → ByteView →
    Option SenderReportWithId → Except SpanFault (Option (Option SenderReportWithId))
  | 0, _, report => .ok (some report)
  | fuel + 1, buffer, report => do
    if buffer.isEmpty then return some report
    match ← RtcpCommonHeader.parse buffer with
    | none => return none
    | some header =>
      let buffer ← skip kRtcpCommonHeaderSize buffer
      if toInt32 buffer.length < header.payloadSize then return none
      let chunk := buffer.take header.payloadSize
      let buffer := buffer.drop header.payloadSize
      if header.packetType ≠ .senderReport then parseParts session p fuel buffer report
      else if header.payloadSize < kRtcpSenderReportSize then return none
      else
        match ← parseReport session p header.reportCount chunk with
        | none => parseParts session p fuel buffer report
        | some found => parseParts session p fuel buffer (some found)

/-- `Parse(buffer)`. -/
def parse (session : RtcpSession) (p : SenderReportParser) (buffer : ByteView) :
    Except SpanFault (Option SenderReportWithId × SenderReportParser) := do
  match ← parseParts session p buffer.length buffer none with
  | some (some report) => return (some report, { p with
      lastParsedRtpTimestamp := report.rtpTimestamp })
  | _ => return (none, p)

end SenderReportParser

end StreamerPlus
