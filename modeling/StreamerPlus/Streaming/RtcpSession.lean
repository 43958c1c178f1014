import Mathlib.Tactic
import StreamerPlus.Streaming.RtpDefines

/-!
# Sessions and NTP time

`RtcpSession` (`rtcp_session.h`) holds what both ends of one RTP stream share, and its
`NtpTimeConverter` (`ntp_time.h`) maps clock times, in microseconds, to 64-bit NTP timestamps
and back. Both directions truncate, and the seconds of a timestamp wrap around in 2036.
-/

namespace StreamerPlus

/-- `kTimeBetweenNtpEpochAndUnixEpoch`, in seconds. -/
@[simp] def kTimeBetweenNtpEpochAndUnixEpoch : ℤ := 2208988800

/-- `NtpTimeConverter`. -/
structure NtpTimeConverter where
  startTime : ℤ
  sinceNtpEpoch : ℤ
  deriving DecidableEq, Repr

/-- `AssembleNtpTimestamp(seconds, fraction)`. -/
def assembleNtpTimestamp (seconds fraction : ℤ) : ℕ :=
  (seconds % 0x100000000).toNat * 0x100000000 + (fraction % 0x100000000).toNat

/-- `ToStatusReportId(ntp_timestamp)`. -/
def toStatusReportId (ntpTimestamp : ℕ) : ℕ := ntpTimestamp / 0x10000 % 0x100000000

namespace NtpTimeConverter

/-- `ToNtpTimestamp(time_point)`. -/
def toNtpTimestamp (c : NtpTimeConverter) (timePoint : ℤ) : ℕ :=
  let timeSinceStart := timePoint - c.startTime
  let wholeSeconds := timeSinceStart.tdiv 1000000
  let remainder := ((timeSinceStart - wholeSeconds * 1000000) * 0x100000000).tdiv 1000000
  assembleNtpTimestamp (c.sinceNtpEpoch + wholeSeconds) remainder

/-- `ToLocalTime(timestamp)`. -/
def toLocalTime (c : NtpTimeConverter) (timestamp : ℕ) : ℤ :=
  let ntpSeconds : ℤ := timestamp / 0x100000000
  let ntpSeconds :=
    if ntpSeconds ≤ kTimeBetweenNtpEpochAndUnixEpoch then ntpSeconds + 0x100000000 else ntpSeconds
  let wholeSeconds := ntpSeconds - c.sinceNtpEpoch
  let remainder := ((timestamp % 0x100000000 : ℕ) : ℤ) * 1000000 / 0x100000000
  wholeSeconds * 1000000 + c.startTime + remainder

end NtpTimeConverter

/-- `RtcpSession`, with the checks of its constructor. -/
structure RtcpSession where
  senderSsrc : Ssrc
  receiverSsrc : Ssrc
  startTime : ℤ
  ntpConverter : NtpTimeConverter
  senderSsrc_ne : senderSsrc ≠ 0
  receiverSsrc_ne : receiverSsrc ≠ 0
  ssrc_ne : senderSsrc ≠ receiverSsrc

/-- A session with the smallest identifiers. -/
def exampleSession : RtcpSession := ⟨1, 2, 0, ⟨0, 0⟩, by decide, by decide, by decide⟩

end StreamerPlus
