import StreamerPlus.Streaming.RtcpCommon
import StreamerPlus.Streaming.SessionConfig

/-!
# `PacketReceiveStatsTracker`

What the receiver reports about the packets that arrived (`packet_receive_stats_tracker.cc`), and
the setters of `RtcpReportBlock` that clamp it to the wire format. The fields of the tracker are
only read once a packet has been counted.
-/

namespace StreamerPlus

open ExpandedValue

namespace RtcpReportBlock

variable (b : RtcpReportBlock)

/-- `SetPacketFractionLostNumerator(num_apparently_sent, num_received)`. -/
def setPacketFractionLostNumerator (numApparentlySent numReceived : ℤ) : RtcpReportBlock :=
  { b with
    packetFractionLostNumerator :=
      if numApparentlySent ≤ 0 then 0
      else min (max (((numApparentlySent - numReceived) * 256).tdiv numApparentlySent) 0) 0xff }

/-- `SetCumulativePacketsLost(num_apparently_sent, num_received)`. -/
def setCumulativePacketsLost (numApparentlySent numReceived : ℤ) : RtcpReportBlock :=
  { b with cumulativePacketsLost := min (max (numApparentlySent - numReceived) 0) 0xffffff }

/-- `SetDelaySinceLastReport(local_clock_delay)`. The longest delay that the field can hold is
65535999984 µs. -/
def setDelaySinceLastReport (localClockDelay : ℤ) : RtcpReportBlock :=
  { b with
    delaySinceLastReport :=
      if localClockDelay > 65535999984 then 0xffffffff
      else if localClockDelay ≤ 0 then 0
      else (localClockDelay * 65536).tdiv 1000000 }

end RtcpReportBlock

/-- `PacketReceiveStatsTracker`. -/
structure PacketReceiveStatsTracker where
  numRtpPacketsReceived : ℤ := 0
  numRtpPacketsReceivedAtLastReport : ℤ := 0
  greatestSequenceNumber : ℤ := 0
  baseSequenceNumber : ℤ := 0
  greatestSequenceNumberAtLastReport : ℤ := 0
  lastRtpPacketArrivalTime : ℤ := 0
  lastRtpPacketTimestamp : ℤ := 0
  jitter : ℤ := 0
  deriving DecidableEq, Repr

namespace PacketReceiveStatsTracker

/-- `OnReceivedValidRtpPacket(sequence_number, rtp_timestamp, arrival_time)`. -/
def onReceivedValidRtpPacket (timebase : RtpTimebase) (t : PacketReceiveStatsTracker)
    (sequenceNumber : ℕ) (rtpTimestamp arrivalTime : ℤ) : PacketReceiveStatsTracker :=
  let t :=
    if t.numRtpPacketsReceived = 0 then
      { t with
        numRtpPacketsReceivedAtLastReport := 0
        greatestSequenceNumber := sequenceNumber
        baseSequenceNumber := sequenceNumber - 1
        greatestSequenceNumberAtLastReport := sequenceNumber - 1
        jitter := 0 }
    else
      let timeBetweenArrivals := arrivalTime - t.lastRtpPacketArrivalTime
      let mediaTimeDifference := timebase.toDuration (rtpTimestamp - t.lastRtpPacketTimestamp)
      let absoluteDelta := |timeBetweenArrivals - mediaTimeDifference|
      { t with
        greatestSequenceNumber :=
          max t.greatestSequenceNumber (expand 16 t.greatestSequenceNumber sequenceNumber)
        jitter := t.jitter + (absoluteDelta - t.jitter).tdiv 16 }
  { t with
    numRtpPacketsReceived := t.numRtpPacketsReceived + 1
    lastRtpPacketArrivalTime := arrivalTime
    lastRtpPacketTimestamp := rtpTimestamp }

/-- `PopulateNextReport(report)`. -/
def populateNextReport (timebase : RtpTimebase) (t : PacketReceiveStatsTracker)
    (report : RtcpReportBlock) : RtcpReportBlock × PacketReceiveStatsTracker :=
  if t.numRtpPacketsReceived ≤ 0 then (report, t)
  else
    let report := report.setPacketFractionLostNumerator
      (t.greatestSequenceNumber - t.greatestSequenceNumberAtLastReport)
      (t.numRtpPacketsReceived - t.numRtpPacketsReceivedAtLastReport)
    let report := report.setCumulativePacketsLost
      (t.greatestSequenceNumber - t.baseSequenceNumber) t.numRtpPacketsReceived
    ({ report with
        extendedHighSequenceNumber := UInt32.ofNat (lowerBits 32 t.greatestSequenceNumber)
        jitter := timebase.fromDuration t.jitter },
      { t with
        greatestSequenceNumberAtLastReport := t.greatestSequenceNumber
        numRtpPacketsReceivedAtLastReport := t.numRtpPacketsReceived })

end PacketReceiveStatsTracker

end StreamerPlus
