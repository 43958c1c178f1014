import StreamerPlus.Streaming.MessageFields

/-!
# Capture configurations

`AudioCaptureConfig` and `VideoCaptureConfig` (`capture_configs.h`): what a client is told about the
streams that its receivers get. Delays are in milliseconds.
-/

namespace StreamerPlus

/-- `AudioCaptureConfig`. -/
structure AudioCaptureConfig where
  codec : AudioCodec := .opus
  channels : ℤ := 2
  bitRate : ℤ := 0
  sampleRate : ℤ := 48000
  targetPlayoutDelay : ℤ := 400
  codecParameter : String := ""
  deriving DecidableEq, Repr

/-- `VideoCaptureConfig`. -/
structure VideoCaptureConfig where
  codec : VideoCodec := .vp8
  maxFrameRate : SimpleFraction := ⟨30, 1⟩
  maxBitRate : ℤ := 0
  resolutions : List Resolution := []
  targetPlayoutDelay : ℤ := 400
  codecParameter : String := ""
  deriving DecidableEq, Repr

end StreamerPlus
