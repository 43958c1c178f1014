import StreamerPlus.Lib.Checked
import StreamerPlus.Streaming.RtpDefines
import StreamerPlus.Util.SimpleFraction

/-!
# What the session messages are about

The types that the OFFER, the ANSWER and the configurations of both sessions share
(`public/constants.h`, `message_fields.cc`, `resolution.cc`, `session_config.cc`), the error codes
that the sessions report, and the faults that end the program: failed `OSP_CHECK`s, and accesses to
what is not there.

A parser that returns an `ErrorOr` is an `Except ErrorCode`. The texts of its errors are left out;
nothing reads them.
-/

namespace StreamerPlus

/-! ### Errors and faults -/

/-- `Error::Code`, an `int8_t`. -/
abbrev ErrorCode := Int8

namespace ErrorCode

def jsonParseError : ErrorCode := 39
def parameterInvalid : ErrorCode := 92
def interrupted : ErrorCode := 101
def unknownCodec : ErrorCode := 102
def invalidCodecParameter : ErrorCode := 103
def socketClosedFailure : ErrorCode := 23
def socketFailure : ErrorCode := 104
def unencryptedOffer : ErrorCode := 105
def remotingNotSupported : ErrorCode := 106
def noStreamSelected : ErrorCode := 107
def initializationFailure : ErrorCode := 16

end ErrorCode

/-- What ends the program. -/
inductive SessionFault
  /-- The error of an `ErrorOr` that holds a value. -/
  | errorOfValue
  /-- `std::get` of an alternative that the variant does not hold. -/
  | wrongAlternative
  /-- An index past the end of a vector. -/
  | indexPastEnd
  /-- An assertion of JsonCpp about the kind of a value. -/
  | jsonKind
  /-- `OSP_CHECK(IsValid())` of a message that is converted to JSON. -/
  | invalidMessage
  /-- `OSP_CHECK(!message.valid)` of a message that is reported as an error. -/
  | validMessage
  /-- `OSP_CHECK(current_negotiation_)`. -/
  | noNegotiation
  /-- The checks of `RtcpSession` and `SenderImpl` on their configuration. -/
  | badSessionConfig
  /-- `OSP_CHECK` of `SenderPacketRouter::OnSenderCreated`. -/
  | senderExists
  /-- `OSP_CHECK` of `ReceiverPacketRouter::RegisterPacketConsumer`. -/
  | receiverExists
  /-- `OSP_CHECK(properties.IsValid())`. -/
  | invalidOffer
  /-- `OSP_NOTREACHED()`. -/
  | notReached
  deriving DecidableEq, Repr

/-- The value of an `std::optional` that a parser needs, or its error. -/
def orError {ε α : Type} (e : ε) : Option α → Except ε α
  | some a => .ok a
  | none => .error e

@[simp]
theorem orError_eq_ok {ε α : Type} {e : ε} {o : Option α} {a : α} :
    orError e o = .ok a ↔ o = some a := by
  cases o <;> simp [orError]

/-! ### Codecs and modes -/

inductive AudioCodec
  | aac | opus | notSpecified
  deriving DecidableEq, Repr

inductive VideoCodec
  | h264 | vp8 | hevc | notSpecified | vp9 | av1
  deriving DecidableEq, Repr

inductive CastMode
  | mirroring | remoting
  deriving DecidableEq, Repr

inductive StreamType
  | unknown | audio | video
  deriving DecidableEq, Repr

def kCastWebrtcNamespace : String := "urn:x-cast:com.google.cast.webrtc"

def kCastRemotingNamespace : String := "urn:x-cast:com.google.cast.remoting"

def kAudioCodecNames : List (String × AudioCodec) :=
  [("aac", .aac), ("opus", .opus), ("REMOTE_AUDIO", .notSpecified)]

def kVideoCodecNames : List (String × VideoCodec) :=
  [("h264", .h264), ("vp8", .vp8), ("hevc", .hevc), ("REMOTE_VIDEO", .notSpecified),
    ("vp9", .vp9), ("av1", .av1)]

def kCastModeNames : List (String × CastMode) :=
  [("mirroring", .mirroring), ("remoting", .remoting)]

/-! ### Resolutions -/

/-- `Resolution`. -/
structure Resolution where
  width : ℤ := 0
  height : ℤ := 0
  deriving DecidableEq, Repr

namespace Resolution

/-- `IsValid()`. -/
def isValid (r : Resolution) : Bool := 0 < r.width && 0 < r.height

/-- `TryParse(root)`. -/
def tryParse (root : Json) : Except ErrorCode Resolution := do
  let width ← orError .jsonParseError (root.field "width").tryParseInt
  let height ← orError .jsonParseError (root.field "height").tryParseInt
  let out : Resolution := { width, height }
  if out.isValid then return out else throw .jsonParseError

end Resolution

/-- `Dimensions`. -/
structure Dimensions where
  width : ℤ := 0
  height : ℤ := 0
  frameRate : SimpleFraction := {}
  deriving DecidableEq, Repr

namespace Dimensions

/-- `IsValid()`. -/
def isValid (d : Dimensions) : Bool := 0 < d.width && 0 < d.height && d.frameRate.isPositive

/-- `ToJson()`. -/
def toJson (d : Dimensions) : Except SessionFault Json := do
  Checked.require (d.isValid = true) .invalidMessage
  return .object [("width", .int d.width), ("height", .int d.height),
    ("frameRate", .string d.frameRate.toText)]

end Dimensions

/-! ### The configuration of a stream at one end -/

/-- The `SessionConfig` that a session builds from a stream. The AES key and mask are the numbers
that their sixteen bytes spell. -/
structure StreamConfig where
  senderSsrc : Ssrc
  receiverSsrc : Ssrc
  rtpTimebase : ℤ
  channels : ℤ
  targetPlayoutDelay : ℤ
  aesSecretKey : BitVec 128
  aesIvMask : BitVec 128
  isPliEnabled : Bool
  streamType : StreamType
  areReceiverEventLogsEnabled : Bool
  deriving DecidableEq, Repr

/-- `SessionConfig::IsValid()`. -/
def StreamConfig.isValid (c : StreamConfig) : Bool :=
  0 < c.senderSsrc && 0 < c.receiverSsrc && 0 < c.rtpTimebase && 0 < c.channels &&
    c.aesSecretKey ≠ 0 && c.aesIvMask ≠ 0

theorem Ssrc.pos_iff {ssrc : Ssrc} : 0 < ssrc ↔ ssrc ≠ 0 := by
  rw [UInt32.lt_iff_toNat_lt, ne_eq, ← UInt32.toNat_inj]
  simp only [UInt32.toNat_zero]
  omega

theorem StreamConfig.isValid_iff {c : StreamConfig} :
    c.isValid = true ↔ c.senderSsrc ≠ 0 ∧ c.receiverSsrc ≠ 0 ∧ 0 < c.rtpTimebase ∧
      0 < c.channels ∧ c.aesSecretKey ≠ 0 ∧ c.aesIvMask ≠ 0 := by
  simp only [isValid, Bool.and_eq_true, decide_eq_true_eq, Ssrc.pos_iff, and_assoc]

end StreamerPlus
