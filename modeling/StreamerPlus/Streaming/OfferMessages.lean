import StreamerPlus.Streaming.AnswerMessages
import StreamerPlus.Util.Hex

/-!
# OFFER messages

`public/offer_messages.cc`: the streams that a sender offers, and how they are read from JSON.

`Offer::TryParse` reads `castMode` with `asString()`, which aborts for an array or an object, and
the `type` of each stream with `operator[]`, which aborts for what is neither an object nor null:
its result is a fault, an error or an OFFER. A stream with an unknown codec is skipped.

`IsParsed` says what the parser guarantees of a stream. It does not exclude the SSRC 0 or
`0xffffffff`, nor key material that is zero.
-/

namespace StreamerPlus

open Checked

@[simp] def kDefaultTargetPlayoutDelay : ℤ := 400
@[simp] def kMaxTargetPlayoutDelay : ℤ := 5000
@[simp] def kRtpVideoTimebase : ℤ := 90000
@[simp] def kDefaultAudioMinSampleRate : ℤ := 16000

/-! ### Fields of a stream -/

variable (value : Json)

/-- `TryParseRtpPayloadType(value)`. -/
def tryParseRtpPayloadType : Option RtpPayloadType :=
  value.tryParseInt.bind fun t => if t < 256 then rtpPayloadTypeOf? t.toNat else none

/-- `TryParseRtpTimebase(value)`: a fraction with the numerator 1. -/
def tryParseRtpTimebase : Option ℤ := do
  let fraction ← SimpleFraction.fromString (← value.tryParseString)
  if fraction.isPositive && fraction.numerator = 1 then some fraction.denominator else none

/-- A field of `sscanf` with `%16llx` that takes all of its sixteen characters: an optional sign, an
optional `0x`, and digits. -/
def scanHexField (text : List Char) : Option (BitVec 64) :=
  let isNegative := text.head? = some '-'
  let unsigned := if isNegative ∨ text.head? = some '+' then text.tail else text
  let digits :=
    if unsigned.take 2 = ['0', 'x'] ∨ unsigned.take 2 = ['0', 'X'] then unsigned.drop 2
    else unsigned
  (digits.mapM hexDigit?).map fun values =>
    let magnitude := BitVec.ofNat 64 (values.foldl (fun n d => 16 * n + d) 0)
    if isNegative then -magnitude else magnitude

/-- `TryParseAesHexBytes(value)`. Two fields of at most sixteen characters take all of the text, and
no character is a space. -/
def tryParseAesHexBytes : Option (BitVec 128) := do
  let text ← value.tryParseString
  if text.toList.length = 32 then
    let high ← scanHexField (text.toList.take 16)
    let low ← scanHexField (text.toList.drop 16)
    return high ++ low
  else none

/-- `Stream::Type`. -/
inductive StreamSource
  | audioSource | videoSource
  deriving DecidableEq, Repr

/-! ### Streams -/

/-- `Stream`. -/
structure Stream where
  index : ℤ
  type : StreamSource
  channels : ℤ
  rtpPayloadType : RtpPayloadType
  ssrc : Ssrc
  targetDelay : ℤ
  aesKey : BitVec 128
  aesIvMask : BitVec 128
  receiverRtcpEventLog : Bool := true
  receiverRtcpDscp : Option ℤ := none
  rtpTimebase : ℤ
  codecParameter : String := ""
  rtpExtensions : List String := []
  deriving DecidableEq, Repr

namespace Stream

/-- The number of channels: a default when there is none, and an error when it is zero. -/
def parseChannels : StreamSource → Except ErrorCode ℤ :=
  fun type =>
    match value.tryParseInt with
    | none => .ok (if type = .audioSource then 2 else 1)
    | some channels => if channels ≤ 0 then .error .jsonParseError else .ok channels

/-- The DSCP value, of at most six bits. -/
def parseDscp : Except ErrorCode (Option ℤ) :=
  match value.tryParseInt with
  | none => .ok none
  | some dscp => if dscp > 63 then .error .jsonParseError else .ok (some dscp)

/-- `TryParse(value, type)`. -/
def tryParse (type : StreamSource) : Except ErrorCode Stream := do
  let index ← orError .jsonParseError (value.field "index").tryParseInt
  let ssrc ← orError .jsonParseError (value.field "ssrc").tryParseUint
  let rtpPayloadType ←
    orError .jsonParseError (tryParseRtpPayloadType (value.field "rtpPayloadType"))
  let rtpTimebase ← orError .jsonParseError (tryParseRtpTimebase (value.field "timeBase"))
  let channels ← parseChannels (value.field "channels") type
  let aesKey ← orError .unencryptedOffer (tryParseAesHexBytes (value.field "aesKey"))
  let aesIvMask ← orError .unencryptedOffer (tryParseAesHexBytes (value.field "aesIvMask"))
  require (kDefaultAudioMinSampleRate ≤ rtpTimebase ∧ rtpTimebase ≤ kRtpVideoTimebase)
    ErrorCode.jsonParseError
  let receiverRtcpDscp ← parseDscp (value.field "receiverRtcpDscp")
  return {
    index, type, channels, rtpPayloadType, ssrc, aesKey, aesIvMask, receiverRtcpDscp, rtpTimebase
    targetDelay :=
      ((value.field "targetDelay").tryParseInt.filter (· ≤ kMaxTargetPlayoutDelay)).getD
        kDefaultTargetPlayoutDelay
    receiverRtcpEventLog := (value.field "receiverRtcpEventLog").tryParseBool.getD true
    rtpExtensions := (value.field "rtpExtensions").tryParseStringArray.getD []
    codecParameter := (value.field "codecParameter").tryParseString.getD "" }

end Stream

/-- `CodecParameterIsValid(codec, parameter)` for audio. -/
def AudioCodec.parameterIsValid (codec : AudioCodec) (parameter : String) : Bool :=
  parameter.isEmpty ||
    match codec with
    | .aac => parameter.startsWith "mp4a."
    | .opus | .notSpecified => false

/-- `CodecParameterIsValid(codec, parameter)` for video. -/
def VideoCodec.parameterIsValid (codec : VideoCodec) (parameter : String) : Bool :=
  parameter.isEmpty ||
    match codec with
    | .vp8 => parameter.startsWith "vp08"
    | .vp9 => parameter.startsWith "vp09"
    | .av1 => parameter.startsWith "av01"
    | .hevc => parameter.startsWith "hev1"
    | .h264 => parameter.startsWith "avc1"
    | .notSpecified => false

/-- `AudioStream`. -/
structure AudioStream where
  stream : Stream
  codec : AudioCodec
  bitRate : ℤ
  deriving DecidableEq, Repr

namespace AudioStream

/-- `TryParse(value)`. -/
def tryParse (value : Json) : Except ErrorCode AudioStream := do
  let stream ← Stream.tryParse value .audioSource
  let bitRate ← orError .jsonParseError (value.field "bitRate").tryParseInt
  let codecName ← orError .jsonParseError (value.field "codecName").tryParseString
  let codec ← orError .unknownCodec (getEnum kAudioCodecNames codecName)
  require (codec.parameterIsValid stream.codecParameter = true) ErrorCode.invalidCodecParameter
  return { stream, codec, bitRate }

end AudioStream

/-- `VideoStream`. -/
structure VideoStream where
  stream : Stream
  codec : VideoCodec
  maxFrameRate : SimpleFraction
  maxBitRate : ℤ
  protection : String := ""
  profile : String := ""
  level : String := ""
  resolutions : List Resolution := []
  errorRecoveryMode : String := ""
  deriving DecidableEq, Repr

namespace VideoStream

/-- `TryParseResolutions(value)`, whose failure leaves no resolutions. -/
def parseResolutions : List Resolution :=
  (value.tryParseArray fun item => (Resolution.tryParse item).toOption).getD []

/-- The frame rate of a text that is one, and 30 otherwise. -/
def parseMaxFrameRate : SimpleFraction :=
  ((value.tryParseString.bind SimpleFraction.fromString).filter (·.isPositive)).getD ⟨30, 1⟩

/-- `TryParse(value)`. -/
def tryParse (value : Json) : Except ErrorCode VideoStream := do
  let stream ← Stream.tryParse value .videoSource
  let codecName ← orError .jsonParseError (value.field "codecName").tryParseString
  let codec ← orError .unknownCodec (getEnum kVideoCodecNames codecName)
  require (codec.parameterIsValid stream.codecParameter = true) ErrorCode.invalidCodecParameter
  return {
    stream, codec
    maxFrameRate := parseMaxFrameRate (value.field "maxFrameRate")
    resolutions := parseResolutions (value.field "resolutions")
    profile := (value.field "profile").tryParseString.getD ""
    protection := (value.field "protection").tryParseString.getD ""
    level := (value.field "level").tryParseString.getD ""
    errorRecoveryMode := (value.field "errorRecoveryMode").tryParseString.getD ""
    maxBitRate := (value.field "maxBitRate").tryParseInt.getD (4 * 2 ^ 20) }

end VideoStream

/-! ### The OFFER -/

/-- `Offer`. -/
structure Offer where
  castMode : CastMode := .mirroring
  audioStreams : List AudioStream := []
  videoStreams : List VideoStream := []
  deriving DecidableEq, Repr

namespace Offer

/-- `GetEnum(kCastModeNames, value.asString())`. The text of a number or a truth value names no
mode, and arrays and objects have no text. -/
def parseCastMode : Json → Except SessionFault (Option CastMode)
  | .string s => .ok (getEnum kCastModeNames s)
  | .array _ | .object _ => .error .jsonKind
  | _ => .ok none

/-- `fields[kStreamType]`, read as a text. -/
def parseStreamType : Json → Except SessionFault (Option String)
  | .object fields => .ok (Json.object fields |>.field "type").tryParseString
  | .null => .ok none
  | _ => .error .jsonKind

/-- What `TryParse` has read so far. -/
structure Streams where
  audio : List AudioStream := []
  video : List VideoStream := []
  dscp : Option (Option ℤ) := none

namespace Streams

/-- All streams of an OFFER have the same DSCP value. -/
def checkDscp (s : Streams) (dscp : Option ℤ) : Except ErrorCode Streams :=
  match s.dscp with
  | none => .ok { s with dscp := some dscp }
  | some dscp' => if dscp = dscp' then .ok s else .error .jsonParseError

/-- Add a stream of the given type; one with an unknown codec, or of another type, is skipped. -/
def add (s : Streams) (type : String) (fields : Json) : Except ErrorCode Streams :=
  if type = "audio_source" then
    match AudioStream.tryParse fields with
    | .ok stream => do
      let s ← s.checkDscp stream.stream.receiverRtcpDscp
      return { s with audio := s.audio ++ [stream] }
    | .error e => if e = .unknownCodec then .ok s else .error e
  else if type = "video_source" then
    match VideoStream.tryParse fields with
    | .ok stream => do
      let s ← s.checkDscp stream.stream.receiverRtcpDscp
      return { s with video := s.video ++ [stream] }
    | .error e => if e = .unknownCodec then .ok s else .error e
  else .ok s

/-- The loop of `TryParse` over the supported streams. -/
def read (s : Streams) : List Json → Except SessionFault (Except ErrorCode Streams)
  | [] => .ok (.ok s)
  | fields :: rest => do
    match ← parseStreamType fields with
    | none => return .error .jsonParseError
    | some type =>
      match s.add type fields with
      | .error e => return .error e
      | .ok s => s.read rest

end Streams

/-- `TryParse(root)`. -/
def tryParse (root : Json) : Except SessionFault (Except ErrorCode Offer) :=
  if !root.isObject then .ok (.error .jsonParseError)
  else do
    let castMode ← parseCastMode (root.field "castMode")
    match root.field "supportedStreams" with
    | .array items =>
      match ← Streams.read {} items with
      | .error e => return .error e
      | .ok s =>
        return .ok
          { castMode := castMode.getD .mirroring, audioStreams := s.audio, videoStreams := s.video }
    | _ => return .error .jsonParseError

end Offer

/-! ### What the parser guarantees -/

/-- The ranges of a parsed stream. -/
structure Stream.IsParsed (s : Stream) : Prop where
  index_nonneg : 0 ≤ s.index
  channels_pos : 0 < s.channels
  rtpTimebase_pos : 0 < s.rtpTimebase

variable {value : Json}

theorem Stream.parseChannels_pos {type : StreamSource} {channels : ℤ}
    (h : parseChannels value type = .ok channels) : 0 < channels := by
  unfold parseChannels at h
  split at h
  · cases h
    split_ifs <;> omega
  · split_ifs at h
    cases h
    omega

theorem Stream.isParsed_of_tryParse {type : StreamSource} {s : Stream}
    (h : tryParse value type = .ok s) : s.IsParsed := by
  simp only [tryParse, bind_eq_ok, orError_eq_ok, require_eq_ok] at h
  obtain ⟨index, hindex, _, -, _, -, rtpTimebase, -, channels, hchannels, _, -, _, -, -, htimebase,
    _, -, h⟩ := h
  cases h
  have hpos : 0 < rtpTimebase := by
    have hlow := htimebase.1
    simp only [kDefaultAudioMinSampleRate] at hlow
    omega
  exact ⟨Json.tryParseInt_nonneg hindex, parseChannels_pos hchannels, hpos⟩

theorem AudioStream.isParsed_of_tryParse {s : AudioStream}
    (h : tryParse value = .ok s) : s.stream.IsParsed := by
  simp only [tryParse, bind_eq_ok] at h
  obtain ⟨stream, hstream, _, -, _, -, _, -, _, -, h⟩ := h
  cases h
  exact Stream.isParsed_of_tryParse hstream

theorem VideoStream.isParsed_of_tryParse {s : VideoStream}
    (h : tryParse value = .ok s) : s.stream.IsParsed := by
  simp only [tryParse, bind_eq_ok] at h
  obtain ⟨stream, hstream, _, -, _, -, _, -, h⟩ := h
  cases h
  exact Stream.isParsed_of_tryParse hstream

namespace Offer

/-- Every stream of the OFFER is as the parser leaves it. -/
structure IsParsed (o : Offer) : Prop where
  audio : ∀ s ∈ o.audioStreams, s.stream.IsParsed
  video : ∀ s ∈ o.videoStreams, s.stream.IsParsed

namespace Streams

/-- Every stream read so far is as the parser leaves it. -/
structure IsParsed (s : Streams) : Prop where
  audio : ∀ x ∈ s.audio, x.stream.IsParsed
  video : ∀ x ∈ s.video, x.stream.IsParsed

variable {s t : Streams}

theorem checkDscp_eq {dscp : Option ℤ} (h : s.checkDscp dscp = .ok t) :
    t.audio = s.audio ∧ t.video = s.video := by
  unfold checkDscp at h
  split at h
  · cases h
    exact ⟨rfl, rfl⟩
  · split_ifs at h
    cases h
    exact ⟨rfl, rfl⟩

theorem IsParsed.add (h : s.IsParsed) {type : String} {fields : Json}
    (hadd : s.add type fields = .ok t) : t.IsParsed := by
  unfold Streams.add at hadd
  split_ifs at hadd
  · split at hadd
    next stream hstream =>
      obtain ⟨s', hdscp, hadd⟩ := bind_eq_ok.mp hadd
      obtain ⟨haudio, hvideo⟩ := checkDscp_eq hdscp
      cases hadd
      exact ⟨List.forall_mem_append.mpr ⟨haudio ▸ h.audio,
        List.forall_mem_singleton.mpr (AudioStream.isParsed_of_tryParse hstream)⟩,
        hvideo ▸ h.video⟩
    next =>
      split_ifs at hadd
      cases hadd
      exact h
  · split at hadd
    next stream hstream =>
      obtain ⟨s', hdscp, hadd⟩ := bind_eq_ok.mp hadd
      obtain ⟨haudio, hvideo⟩ := checkDscp_eq hdscp
      cases hadd
      exact ⟨haudio ▸ h.audio, List.forall_mem_append.mpr ⟨hvideo ▸ h.video,
        List.forall_mem_singleton.mpr (VideoStream.isParsed_of_tryParse hstream)⟩⟩
    next =>
      split_ifs at hadd
      cases hadd
      exact h
  · cases hadd
    exact h

/-- The loop keeps what it has read, one stream after the other. -/
theorem IsParsed.read {items : List Json} (h : s.IsParsed) (hread : s.read items = .ok (.ok t)) :
    t.IsParsed := by
  induction items generalizing s with
  | nil =>
    cases hread
    exact h
  | cons fields rest ih =>
    simp only [Streams.read, bind_eq_ok] at hread
    obtain ⟨type, -, hread⟩ := hread
    cases type with
    | none => cases hread
    | some type =>
      cases hadd : s.add type fields with
      | error e => simp [hadd] at hread
      | ok s' =>
        simp only [hadd] at hread
        exact ih (h.add hadd) hread

/-- JsonCpp reads the type of a stream that is an object or null. -/
theorem succeeds_parseStreamType {fields : Json} :
    Succeeds (parseStreamType fields) ↔ fields.isObject = true ∨ fields.isNull = true := by
  cases fields <;> simp [parseStreamType]

/-- The loop aborts at the first stream that it reaches and that is neither. -/
theorem succeeds_read {s : Streams} {items : List Json} :
    Succeeds (s.read items) ↔
      ∀ pre fields post s', items = pre ++ fields :: post → s.read pre = .ok (.ok s') →
        fields.isObject = true ∨ fields.isNull = true := by
  induction items generalizing s with
  | nil => simp [Streams.read]
  | cons fields rest ih =>
    rw [Streams.read, succeeds_bind]
    constructor
    · rintro ⟨type, htype, hrest⟩ pre fields' post s' hitems hread
      cases pre with
      | nil =>
        obtain ⟨rfl, -⟩ := List.cons.inj hitems
        exact succeeds_parseStreamType.mp ⟨type, htype⟩
      | cons _ pre =>
        obtain ⟨rfl, hrest'⟩ := List.cons.inj hitems
        rw [Streams.read, htype, ok_bind] at hread
        -- the loop went on after the first stream, so it was added
        cases type with
        | none => cases hread
        | some type =>
          cases hadd : s.add type fields with
          | error e =>
            simp only [hadd] at hread
            cases hread
          | ok s'' =>
            simp only [hadd] at hread hrest
            exact ih.mp hrest pre fields' post s' hrest' hread
    · intro h
      obtain ⟨type, htype⟩ := succeeds_parseStreamType.mpr (h [] fields rest s rfl rfl)
      refine ⟨type, htype, ?_⟩
      cases type with
      | none => exact succeeds_pure
      | some type =>
        cases hadd : s.add type fields with
        | error e =>
          simp only [hadd]
          exact succeeds_pure
        | ok s'' =>
          simp only [hadd]
          refine ih.mpr fun pre fields' post s' hitems hread => ?_
          refine h (fields :: pre) fields' post s' (by rw [hitems]; rfl) ?_
          rw [Streams.read, htype, ok_bind]
          simpa only [hadd] using hread

end Streams

/-- **A parsed OFFER has parsed streams.** -/
theorem isParsed_of_tryParse {root : Json} {o : Offer} (h : tryParse root = .ok (.ok o)) :
    o.IsParsed := by
  unfold tryParse at h
  split_ifs at h
  · cases h
  · obtain ⟨castMode, -, h⟩ := bind_eq_ok.mp h
    split at h
    next items _ =>
      obtain ⟨r, hread, h⟩ := bind_eq_ok.mp h
      cases r with
      | error e => cases h
      | ok s =>
        cases h
        have hparsed : s.IsParsed :=
          Streams.IsParsed.read (s := {}) ⟨by simp, by simp⟩ hread
        exact ⟨hparsed.audio, hparsed.video⟩
    next => cases h

/-- JsonCpp reads the OFFER without aborting: its mode is no array or object, and each of its
streams that the loop reaches is an object or null. -/
def IsReadable (root : Json) : Prop :=
  root.isObject = true → Succeeds (parseCastMode (root.field "castMode")) ∧
    ∀ pre fields post s, root.field "supportedStreams" = .array (pre ++ fields :: post) →
      Streams.read {} pre = .ok (.ok s) → fields.isObject = true ∨ fields.isNull = true

theorem succeeds_tryParse {root : Json} : Succeeds (tryParse root) ↔ IsReadable root := by
  unfold tryParse IsReadable
  cases hobject : root.isObject with
  | false => simp
  | true =>
    simp only [Bool.not_true, Bool.false_eq_true, if_false, true_imp_iff]
    rw [succeeds_bind]
    constructor
    · rintro ⟨mode, hmode, h⟩
      refine ⟨⟨mode, hmode⟩, fun pre fields post s hitems hread => ?_⟩
      simp only [hitems] at h
      obtain ⟨r, hr, -⟩ := succeeds_bind.mp h
      exact Streams.succeeds_read.mp ⟨r, hr⟩ pre fields post s rfl hread
    · rintro ⟨⟨mode, hmode⟩, h⟩
      refine ⟨mode, hmode, ?_⟩
      split
      next items hitems =>
        refine (succeeds_bind_iff fun r => ?_).mpr (Streams.succeeds_read.mpr ?_)
        · cases r <;> exact succeeds_pure
        · rintro pre fields post s rfl hread
          exact h pre fields post s hitems hread
      next => exact succeeds_pure

end Offer

end StreamerPlus
