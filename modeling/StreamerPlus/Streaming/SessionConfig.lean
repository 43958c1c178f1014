import StreamerPlus.Streaming.EncodedFrame
import StreamerPlus.Streaming.RtcpSession

/-!
# The configuration of one stream

`SessionConfig`, as one end of a stream uses it. Two parts of it stand for code that is not
translated: `RtpTimeDelta::ToDuration` and `FromDuration` compute in `double`, and `FrameCrypto`
calls an AES library. They are parameters, and every result holds whatever they compute.
-/

namespace StreamerPlus

/-- `SenderPacketRouter::kNever` and `Alarm::kImmediately`, the ends of the clock's range. -/
@[simp] def kNever : ℤ := 0x7fffffffffffffff
@[simp] def kImmediately : ℤ := -0x8000000000000000

/-- `kRtcpReportInterval`, in the clock's microseconds. -/
def kRtcpReportInterval : ℤ := 500000

/-- The conversions between RTP ticks and clock durations for the stream's timebase. -/
structure RtpTimebase where
  toDuration : ℤ → ℤ
  fromDuration : ℤ → ℤ

/-- `SessionConfig`, with the session of this end. `crypt` is `FrameCrypto::Crypt`. -/
structure SessionConfig where
  session : RtcpSession
  rtpTimebase : RtpTimebase
  crypt : ℤ → List UInt8 → List UInt8
  targetPlayoutDelay : ℤ
  isPliEnabled : Bool
  areReceiverEventLogsEnabled : Bool
  targetPlayoutDelay_pos : 0 < targetPlayoutDelay

/-- `FrameCrypto::Encrypt(frame)`: the metadata is copied and the data encrypted. -/
def SessionConfig.encrypt (c : SessionConfig) (frame : EncodedFrame) : EncryptedFrame :=
  { frame with data := c.crypt frame.frameId frame.data }

@[simp]
theorem SessionConfig.frameId_encrypt (c : SessionConfig) (frame : EncodedFrame) :
    (c.encrypt frame).frameId = frame.frameId := rfl

/-- A configuration with a timebase of 90 kHz and a playout delay of 400 ms, whose encryption leaves
the data as they are. -/
def exampleSessionConfig (areReceiverEventLogsEnabled : Bool) : SessionConfig where
  session := exampleSession
  rtpTimebase := ⟨fun ticks => ticks * 1000000 / 90000, fun duration => duration * 90000 / 1000000⟩
  crypt _ data := data
  targetPlayoutDelay := 400
  isPliEnabled := false
  areReceiverEventLogsEnabled
  targetPlayoutDelay_pos := by decide

end StreamerPlus
