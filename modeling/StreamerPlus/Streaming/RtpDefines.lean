import Mathlib.Tactic.Common

/-!
# Constants and enumerations of the wire formats

`rtp_defines.h` and the streaming constants of `public/constants.h` that the modelled code
reads. A `FramePacketId` is a natural number where the source computes with it in `int`. The
constants are tagged `simp`, so that arithmetic about packet sizes sees numbers.
-/

namespace StreamerPlus

/-- `Ssrc`. -/
abbrev Ssrc := UInt32

@[simp] def kAllPacketsLost : ℕ := 0xffff
@[simp] def kMaxAllowedFramePacketId : ℕ := 0xfffe

/-- `kMaxUnackedFrames`: how many frames may be in flight, and the size of both frame rings. -/
@[simp] def kMaxUnackedFrames : ℕ := 120

/-! ### RTP -/

@[simp] def kRtpPacketMinValidSize : ℕ := 18
@[simp] def kRtpRequiredFirstByte : ℕ := 0b10000000
@[simp] def kRtpMarkerBitMask : ℕ := 0b10000000
@[simp] def kRtpPayloadTypeMask : ℕ := 0b01111111
@[simp] def kRtpKeyFrameBitMask : ℕ := 0b10000000
@[simp] def kRtpHasReferenceFrameIdBitMask : ℕ := 0b01000000
@[simp] def kRtpExtensionCountMask : ℕ := 0b00111111
@[simp] def kAdaptiveLatencyRtpExtensionType : ℕ := 1
@[simp] def kNumExtensionDataSizeFieldBits : ℕ := 10

/-- `RtpPayloadType`. `kVideoHackForAndroidTV` has the value of `kAudioOpus` and is not a
constructor of its own. -/
inductive RtpPayloadType
  | null | audioOpus | audioAac | audioPcm16 | audioVarious
  | videoVp8 | videoH264 | videoVarious | videoVp9 | videoAv1 | audioHackForAndroidTV
  deriving DecidableEq, Repr

/-- The wire value of a payload type. -/
def RtpPayloadType.toByte : RtpPayloadType → ℕ
  | null => 0
  | audioOpus => 96
  | audioAac => 97
  | audioPcm16 => 98
  | audioVarious => 99
  | videoVp8 => 100
  | videoH264 => 101
  | videoVarious => 102
  | videoVp9 => 103
  | videoAv1 => 104
  | audioHackForAndroidTV => 127

/-- `IsRtpPayloadType(raw_byte)` together with the cast that it allows: the payload type of a
raw byte, when it has one other than `kNull`. -/
def rtpPayloadTypeOf? : ℕ → Option RtpPayloadType
  | 96 => some .audioOpus
  | 97 => some .audioAac
  | 98 => some .audioPcm16
  | 99 => some .audioVarious
  | 100 => some .videoVp8
  | 101 => some .videoH264
  | 102 => some .videoVarious
  | 103 => some .videoVp9
  | 104 => some .videoAv1
  | 127 => some .audioHackForAndroidTV
  | _ => none

/-! ### RTCP -/

@[simp] def kRtcpCommonHeaderSize : ℕ := 4
@[simp] def kRtcpRequiredVersionAndPaddingBits : ℕ := 0b100
@[simp] def kRtcpReportCountFieldNumBits : ℕ := 5
@[simp] def kRtcpSenderReportSize : ℕ := 24
@[simp] def kRtcpReceiverReportSize : ℕ := 4
@[simp] def kRtcpReportBlockSize : ℕ := 24
@[simp] def kRtcpCumulativePacketsFieldNumBits : ℕ := 24
@[simp] def kRtcpFeedbackHeaderSize : ℕ := 16
/-- `'C' 'A' 'S' 'T'`, also `kCastName`. -/
@[simp] def kRtcpCastIdentifierWord : ℕ := 0x43415354
@[simp] def kRtcpFeedbackLossFieldSize : ℕ := 4
@[simp] def kRtcpFeedbackAckHeaderSize : ℕ := 6
/-- `'C' 'S' 'T' '2'`. -/
@[simp] def kRtcpCst2IdentifierWord : ℕ := 0x43535432
@[simp] def kRtcpMinAckBitVectorOctets : ℕ := 2
@[simp] def kRtcpMaxAckBitVectorOctets : ℕ := 254
@[simp] def kRtcpExtendedReportHeaderSize : ℕ := 4
@[simp] def kRtcpExtendedReportBlockHeaderSize : ℕ := 4
@[simp] def kRtcpReceiverReferenceTimeReportBlockType : ℕ := 4
@[simp] def kRtcpReceiverReferenceTimeReportBlockSize : ℕ := 8
@[simp] def kRtcpPictureLossIndicatorHeaderSize : ℕ := 8
@[simp] def kRtcpReceiverFrameLogMessageHeaderSize : ℕ := 8
@[simp] def kRtcpReceiverFrameLogMessageBlockSize : ℕ := 4
@[simp] def kCastName : ℕ := 0x43415354
/-- `'T' 'I' 'M' 'E'`. -/
@[simp] def kTimeSyncRequestName : ℕ := 0x54494d45

/-- `RtcpPacketType`, `kNull` apart. -/
inductive RtcpPacketType
  | senderReport | receiverReport | sourceDescription | applicationDefined
  | payloadSpecific | extendedReports
  deriving DecidableEq, Repr

/-- The wire value of a packet type. -/
def RtcpPacketType.toByte : RtcpPacketType → ℕ
  | senderReport => 200
  | receiverReport => 201
  | sourceDescription => 202
  | applicationDefined => 204
  | payloadSpecific => 206
  | extendedReports => 207

/-- `IsRtcpPacketType(raw_byte)` together with the cast that it allows. -/
def rtcpPacketTypeOf? : ℕ → Option RtcpPacketType
  | 200 => some .senderReport
  | 201 => some .receiverReport
  | 202 => some .sourceDescription
  | 204 => some .applicationDefined
  | 206 => some .payloadSpecific
  | 207 => some .extendedReports
  | _ => none

/-- `RtcpSubtype`. -/
inductive RtcpSubtype
  | null | pictureLossIndicator | receiverLog | feedback
  deriving DecidableEq, Repr

/-- The wire value of a subtype. -/
def RtcpSubtype.toByte : RtcpSubtype → ℕ
  | null => 0
  | pictureLossIndicator => 1
  | receiverLog => 2
  | feedback => 15

/-- The subtype a header parse finds: an unknown one is `kNull`. -/
def rtcpSubtypeOf : ℕ → RtcpSubtype
  | 1 => .pictureLossIndicator
  | 2 => .receiverLog
  | 15 => .feedback
  | _ => .null

end StreamerPlus
