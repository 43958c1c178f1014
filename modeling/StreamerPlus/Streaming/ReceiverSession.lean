import StreamerPlus.Lib.Run
import StreamerPlus.Streaming.CaptureConfigs
import StreamerPlus.Streaming.ReceiverConstraints
import StreamerPlus.Streaming.SessionMessages

/-!
# `ReceiverSession`

The receiver's end of the control channel (`public/receiver_session.cc`, `ReceiverSessionMessenger`
of `public/session_messenger.cc`, and the registrations of `impl/receiver_packet_router.cc`). An
OFFER is answered at once when the UDP socket is ready or has failed. While the socket is starting,
the OFFER is kept as the pending one, and the next OFFER interrupts it.

A step is a message of some sender, as the JSON value that its text denotes, or a change of the
state of the socket. Its result is a fault, or what the session then does and the new state. A
message that is handed to the messenger counts as sent.

Left out are messages in other namespaces, and the messengers for RPC and INPUT messages beyond the
bytes that they are handed.
-/

namespace StreamerPlus

open Checked

/-! ### Constraints -/

/-- `ReceiverConstraints`, as the constructor of the session accepts them: no codec is left
open. -/
structure ReceiverConstraints where
  videoCodecs : List VideoCodec := [.vp8, .h264]
  audioCodecs : List AudioCodec := [.opus, .aac]
  audioLimits : List AudioLimits := []
  videoLimits : List VideoLimits := []
  displayDescription : Option Display := none
  remoting : Option RemotingConstraints := none
  enableDscp : Bool := false
  supportsInputEvents : Bool := false
  videoCodecs_specified : .notSpecified ∉ videoCodecs := by decide
  audioCodecs_specified : .notSpecified ∉ audioCodecs := by decide
  deriving DecidableEq

/-! ### The session -/

/-- `PendingOffer`: an OFFER with the streams that were selected. -/
structure PendingOffer where
  senderId : String
  sequenceNumber : ℤ
  mode : CastMode := .mirroring
  selectedAudio : Option AudioStream := none
  selectedVideo : Option VideoStream := none
  deriving DecidableEq, Repr

/-- `PendingOffer::IsValid()`. -/
def PendingOffer.isValid (p : PendingOffer) : Bool :=
  (p.selectedAudio.isSome || p.selectedVideo.isSome) && p.senderId ≠ "" && 0 ≤ p.sequenceNumber

/-- `ConfiguredReceivers`. A `Receiver` is the `SessionConfig` that it was built from. -/
structure ConfiguredReceivers where
  audioReceiver : Option StreamConfig
  audioConfig : AudioCaptureConfig
  videoReceiver : Option StreamConfig
  videoConfig : VideoCaptureConfig
  inputEnabled : Bool
  senderId : String
  deriving DecidableEq, Repr

namespace ReceiverSession

/-- `Environment::SocketState`. -/
inductive SocketState
  | starting | ready | invalid
  deriving DecidableEq, Repr

/-- What the session does. -/
inductive Output
  | post (senderId : String) (message : ReceiverMessage)
  | onError (error : ErrorCode)
  | setDscp (dscp : ℤ)
  | onReceiversDestroying
  | onNegotiated (receivers : ConfiguredReceivers)
  | onRemotingNegotiated (receivers : ConfiguredReceivers)
  | processRpc (bytes : List UInt8)
  | processInput (bytes : List UInt8)
  deriving DecidableEq, Repr

end ReceiverSession

open ReceiverSession in
/-- `ReceiverSession`, with the state of its environment's socket. `registered` are the sender SSRCs
that `packet_router_` knows. -/
structure ReceiverSession where
  constraints : ReceiverConstraints
  socketState : SocketState := .starting
  localPort : UInt16 := 0
  pendingOffer : Option PendingOffer := none
  currentAudioReceiver : Option StreamConfig := none
  currentVideoReceiver : Option StreamConfig := none
  registered : List Ssrc := []
  negotiatedSenderId : String := ""
  hasRpcMessenger : Bool := false
  deriving DecidableEq

namespace ReceiverSession

/-- The result of a step. -/
abbrev Result := Except SessionFault (List Output × ReceiverSession)

variable (base64 : Base64)

/-! ### Replies -/

/-- `ReceiverSessionMessenger::SendMessage`, and the report of its error to the client. -/
def sendMessage (senderId : String) (message : ReceiverMessage) :
    Except SessionFault (List Output) :=
  if senderId = "" then .ok [.onError .initializationFailure]
  else do
    let _ ← message.toJson base64
    return [.post senderId message]

/-- `SendErrorAnswerReply(sender_id, sequence_number, error)`. -/
def sendErrorAnswerReply (senderId : String) (sequenceNumber : ℤ) (code : ErrorCode)
    (description : String) : Except SessionFault (List Output) :=
  sendMessage base64 senderId
    { type := .answer
      sequenceNumber
      valid := false
      body := .error (.ofError code description) }

/-! ### Selecting streams -/

/-- `SelectStream`: the first stream with the most preferred codec, among those whose parameter the
client supports. -/
def selectStream {σ κ : Type} [DecidableEq κ] (codec : σ → κ) (stream : σ → Stream)
    (supportsCodecParameter : String → Bool) (preferredCodecs : List κ) (offeredStreams : List σ) :
    Option σ :=
  preferredCodecs.findSome? fun preferred => offeredStreams.find? fun offered =>
    codec offered = preferred && ((stream offered).codecParameter.isEmpty ||
      supportsCodecParameter (stream offered).codecParameter)

/-- The stream of a list with one stream. -/
def onlyStream {σ : Type} : List σ → Option σ
  | [stream] => some stream
  | _ => none

variable (s : ReceiverSession)

/-- `SelectStreams(offer, properties)`. -/
def selectStreams (supportsCodecParameter : String → Bool) (offer : Offer)
    (properties : PendingOffer) : PendingOffer :=
  match offer.castMode with
  | .mirroring =>
    { properties with
      selectedAudio := selectStream AudioStream.codec AudioStream.stream supportsCodecParameter
        s.constraints.audioCodecs offer.audioStreams
      selectedVideo := selectStream VideoStream.codec VideoStream.stream supportsCodecParameter
        s.constraints.videoCodecs offer.videoStreams }
  | .remoting =>
    { properties with
      selectedAudio := onlyStream offer.audioStreams
      selectedVideo := onlyStream offer.videoStreams }

variable (properties : PendingOffer)

/-- `MaybeSetDscp(audio, video, env)`. -/
def maybeSetDscp : List Output :=
  let dscp :=
    match properties.selectedAudio, properties.selectedVideo with
    | some audio, _ => audio.stream.receiverRtcpDscp
    | none, some video => video.stream.receiverRtcpDscp
    | none, none => none
  (dscp.map .setDscp).toList

/-- The sender asks for input events with its video stream. -/
def requestsInputEvents : Bool :=
  properties.selectedVideo.any (·.stream.rtpExtensions.contains "input_events")

/-! ### The ANSWER -/

variable (constraints : ReceiverConstraints)

/-- The limits of the selected audio stream. -/
def audioConstraints (properties : PendingOffer) : AudioConstraints :=
  match properties.selectedAudio.bind fun audio =>
      constraints.audioLimits.find? fun limit =>
        limit.codec = audio.codec || limit.appliesToAllCodecs with
  | some limit =>
    { maxSampleRate := limit.maxSampleRate
      maxChannels := limit.maxChannels
      minBitRate := limit.minBitRate
      maxBitRate := limit.maxBitRate
      maxDelay := some limit.maxDelay }
  | none => {}

/-- The limits of the selected video stream. -/
def videoConstraints (properties : PendingOffer) : VideoConstraints :=
  match properties.selectedVideo.bind fun video =>
      constraints.videoLimits.find? fun limit =>
        limit.codec = video.codec || limit.appliesToAllCodecs with
  | some limit =>
    { maxPixelsPerSecond := some limit.maxPixelsPerSecond
      minResolution := none
      maxDimensions := limit.maxDimensions
      minBitRate := limit.minBitRate
      maxBitRate := limit.maxBitRate
      maxDelay := some limit.maxDelay }
  | none => {}

/-- The selected streams, audio first. -/
def selected : List Stream :=
  (properties.selectedAudio.map AudioStream.stream).toList ++
    (properties.selectedVideo.map VideoStream.stream).toList

/-- `ConstructAnswer(properties)`, without its check. The event logs are those of the audio stream
alone. -/
def answerOf (properties : PendingOffer) : Answer :=
  let constraints : Constraints :=
    { audio := audioConstraints s.constraints properties
      video := videoConstraints s.constraints properties }
  { udpPort := s.localPort.toNat
    sendIndexes := (selected properties).map (·.index)
    ssrcs := (selected properties).map (·.ssrc + 1)
    constraints := if constraints.isValid then some constraints else none
    display := s.constraints.displayDescription.map fun display =>
      { dimensions := some display.dimensions
        aspectRatio := none
        aspectRatioConstraint := some (if display.canScaleContent then .variable else .fixed) }
    receiverRtcpEventLog := ((properties.selectedAudio.map AudioStream.stream).toList.filter
      (·.receiverRtcpEventLog)).map (·.index)
    receiverRtcpDscp :=
      if s.constraints.enableDscp then
        ((selected properties).filter (·.receiverRtcpDscp.isSome)).map (·.index)
      else []
    rtpExtensions :=
      if s.constraints.supportsInputEvents && requestsInputEvents properties then
        [[], ["input_events"]]
      else [] }

/-- `ConstructAnswer(properties)`. -/
def constructAnswer (properties : PendingOffer) :
    Except SessionFault Answer := do
  require (properties.isValid = true) .invalidOffer
  return s.answerOf properties

/-! ### Receivers -/

/-- The `SessionConfig` of a stream. The SSRC of the receiver is the next one. -/
def receiverConfig (stream : Stream) : StreamConfig where
  senderSsrc := stream.ssrc
  receiverSsrc := stream.ssrc + 1
  rtpTimebase := stream.rtpTimebase
  channels := stream.channels
  targetPlayoutDelay := stream.targetDelay
  aesSecretKey := stream.aesKey
  aesIvMask := stream.aesIvMask
  isPliEnabled := true
  streamType := .unknown
  areReceiverEventLogsEnabled := stream.receiverRtcpEventLog

variable (registered : List Ssrc)

/-- `ConstructReceiver(stream)`, with the checks of `RtcpSession` and the registration in the
router. -/
def constructReceiver (stream : Stream) : Except SessionFault (Option StreamConfig × List Ssrc) :=
  let config := receiverConfig stream
  if !config.isValid then .ok (none, registered)
  else do
    require (config.senderSsrc ≠ 0 ∧ config.receiverSsrc ≠ 0 ∧
      config.senderSsrc ≠ config.receiverSsrc) .badSessionConfig
    require (config.senderSsrc ∉ registered) .receiverExists
    return (some config, registered ++ [config.senderSsrc])

/-- The receiver of a stream, if there is a stream. -/
def constructOptional :
    Option Stream → Except SessionFault (Option StreamConfig × List Ssrc)
  | none => .ok (none, registered)
  | some stream => constructReceiver registered stream

/-- A receiver that is destroyed is taken out of the router. -/
def deregister : Option StreamConfig → List Ssrc
  | none => registered
  | some config => registered.erase config.senderSsrc

/-- `ResetReceivers(kRenegotiated)`. -/
def resetReceivers : List Output × ReceiverSession :=
  if s.currentVideoReceiver.isSome || s.currentAudioReceiver.isSome then
    ([.onReceiversDestroying],
      { s with
        currentAudioReceiver := none
        currentVideoReceiver := none
        registered :=
          deregister (deregister s.registered s.currentAudioReceiver) s.currentVideoReceiver
        hasRpcMessenger := false })
  else ([], s)

/-- The capture configuration of the selected audio stream. -/
def audioConfigOf : AudioCaptureConfig :=
  match properties.selectedAudio with
  | some audio =>
    { codec := audio.codec
      channels := audio.stream.channels
      bitRate := audio.bitRate
      sampleRate := audio.stream.rtpTimebase
      targetPlayoutDelay := audio.stream.targetDelay
      codecParameter := audio.stream.codecParameter }
  | none => {}

/-- The capture configuration of the selected video stream. -/
def videoConfigOf : VideoCaptureConfig :=
  match properties.selectedVideo with
  | some video =>
    { codec := video.codec
      maxFrameRate := video.maxFrameRate
      maxBitRate := video.maxBitRate
      resolutions := video.resolutions
      targetPlayoutDelay := video.stream.targetDelay
      codecParameter := video.stream.codecParameter }
  | none => {}

/-- `SpawnReceivers(properties)`. -/
def spawnReceivers (properties : PendingOffer) :
    Except SessionFault (List Output × ConfiguredReceivers × ReceiverSession) := do
  require (properties.isValid = true) .invalidOffer
  let (outputs, s) := s.resetReceivers
  let (audio, registered) ←
    constructOptional s.registered (properties.selectedAudio.map AudioStream.stream)
  let (video, registered) ←
    constructOptional registered (properties.selectedVideo.map VideoStream.stream)
  -- a receiver that is not replaced stays
  let audio := if properties.selectedAudio.isSome then audio else s.currentAudioReceiver
  let video := if properties.selectedVideo.isSome then video else s.currentVideoReceiver
  return (outputs,
    { audioReceiver := audio
      audioConfig := audioConfigOf properties
      videoReceiver := video
      videoConfig := videoConfigOf properties
      inputEnabled := s.constraints.supportsInputEvents && requestsInputEvents properties
      senderId := properties.senderId },
    { s with currentAudioReceiver := audio, currentVideoReceiver := video, registered })

/-- `InitializeSession(properties)`. -/
def initializeSession (properties : PendingOffer) : Result := do
  let dscp := if s.constraints.enableDscp then maybeSetDscp properties else []
  let answer ← s.constructAnswer properties
  if !answer.isValid then
    let reply ← sendErrorAnswerReply base64 properties.senderId properties.sequenceNumber
      .parameterInvalid "Failed to construct an ANSWER message"
    return (dscp ++ reply, s)
  else
    let reply ← sendMessage base64 properties.senderId
      { type := .answer
        sequenceNumber := properties.sequenceNumber
        valid := true
        body := .answer answer }
    let (destroyed, receivers, s) ← s.spawnReceivers properties
    let s := { s with negotiatedSenderId := properties.senderId }
    match properties.mode with
    | .mirroring => return (dscp ++ reply ++ destroyed ++ [.onNegotiated receivers], s)
    | .remoting =>
      return (dscp ++ reply ++ destroyed ++ [.onRemotingNegotiated receivers],
        { s with hasRpcMessenger := true })

/-! ### Messages of a sender -/

/-- The reply to the pending OFFER, when there is one. -/
def replyToPending (code : ErrorCode) (description : String) : Except SessionFault (List Output) :=
  match s.pendingOffer with
  | some pending =>
    sendErrorAnswerReply base64 pending.senderId pending.sequenceNumber code description
  | none => .ok []

/-- The end of `OnOffer`, for an OFFER with a stream that is selected. -/
def acceptOffer (properties : PendingOffer) : Result := do
  let interrupted ← s.replyToPending base64 .interrupted
    "Received a new OFFER before negotiation could complete."
  let s := { s with pendingOffer := none }
  match s.socketState with
  | .invalid =>
    let reply ← sendErrorAnswerReply base64 properties.senderId properties.sequenceNumber
      .socketClosedFailure "UDP socket is closed, likely due to a bind error."
    return (interrupted ++ reply, s)
  | .ready =>
    let (outputs, s) ← s.initializeSession base64 properties
    return (interrupted ++ outputs, s)
  | .starting => return (interrupted, { s with pendingOffer := some properties })

/-- What `OnOffer` selects from an OFFER. -/
def propertiesOf (supportsCodecParameter : String → Bool) (senderId : String)
    (sequenceNumber : ℤ) (offer : Offer) : PendingOffer :=
  s.selectStreams supportsCodecParameter offer { senderId, sequenceNumber, mode := offer.castMode }

/-- `OnOffer(sender_id, message)`. -/
def onOffer (supportsCodecParameter : String → Bool) (senderId : String)
    (message : SenderMessage) : Result :=
  if message.sequenceNumber < 0 then .ok ([], s)
  else if !message.valid then do
    let reply ← sendErrorAnswerReply base64 senderId message.sequenceNumber .parameterInvalid
      "Failed to parse malformed OFFER"
    return (reply ++ [.onError .parameterInvalid], s)
  else
    match message.body with
    | .offer offer =>
      if offer.castMode = .remoting && s.constraints.remoting.isNone then do
        let reply ← sendErrorAnswerReply base64 senderId message.sequenceNumber
          .remotingNotSupported "This receiver does not have remoting enabled."
        return (reply, s)
      else
        let properties :=
          s.propertiesOf supportsCodecParameter senderId message.sequenceNumber offer
        if !properties.isValid then do
          let reply ← sendErrorAnswerReply base64 senderId message.sequenceNumber
            .noStreamSelected "Failed to select any streams from OFFER"
          return (reply, s)
        else s.acceptOffer base64 properties
    | _ => .error .wrongAlternative

/-- `ToCapability(codec)` for audio. -/
def audioToCapability : AudioCodec → Except SessionFault MediaCapability
  | .aac => .ok .aac
  | .opus => .ok .opus
  | .notSpecified => .error .notReached

/-- `ToCapability(codec)` for video. -/
def videoToCapability : VideoCodec → Except SessionFault MediaCapability
  | .vp8 => .ok .vp8
  | .vp9 => .ok .vp9
  | .h264 => .ok .h264
  | .hevc => .ok .hevc
  | .av1 => .ok .av1
  | .notSpecified => .error .notReached

/-- `CreateRemotingCapabilityV2()`, with the remoting constraints that it checks for. -/
def createRemotingCapabilityV2
    (remoting : RemotingConstraints) : Except SessionFault ReceiverCapability := do
  let audio ← constraints.audioCodecs.mapM audioToCapability
  let video ← constraints.videoCodecs.mapM videoToCapability
  return {
    remotingVersion := 2
    mediaCapabilities := audio ++ video ++
      (if remoting.supportsChromeAudioCodecs then [.audio] else []) ++
      (if remoting.supports4k then [.supports4k] else []) }

/-- The flag and the body of the reply to a request for capabilities. -/
def capabilitiesReply : Except SessionFault (Bool × ReceiverMessageBody) :=
  match s.constraints.remoting with
  | some remoting => do
    let capability ← createRemotingCapabilityV2 s.constraints remoting
    return (true, .capability capability)
  | none => .ok (false, .error (.ofError .remotingNotSupported "Remoting is not supported"))

/-- `OnCapabilitiesRequest(sender_id, message)`. -/
def onCapabilitiesRequest (senderId : String) (message : SenderMessage) : Result :=
  if message.sequenceNumber < 0 then .ok ([], s)
  else do
    let (valid, body) ← s.capabilitiesReply
    let reply ← sendMessage base64 senderId
      { type := .capabilitiesResponse, sequenceNumber := message.sequenceNumber, valid, body }
    return (reply, s)

/-- `OnRpcMessage(sender_id, message)`. -/
def onRpcMessage (senderId : String) (message : SenderMessage) : Result :=
  if !message.valid || senderId ≠ s.negotiatedSenderId then .ok ([], s)
  else
    match message.body with
    | .bytes bytes => .ok (if s.hasRpcMessenger then [.processRpc bytes] else [], s)
    | _ => .error .wrongAlternative

/-- `OnInputMessage(sender_id, message)`. -/
def onInputMessage (senderId : String) (message : SenderMessage) : Result :=
  if !message.valid || senderId ≠ s.negotiatedSenderId then .ok ([], s)
  else
    match message.body with
    | .bytes bytes => .ok ([.processInput bytes], s)
    | _ => .error .wrongAlternative

/-- The handler of a message's type. -/
def dispatch (supportsCodecParameter : String → Bool) (senderId : String)
    (message : SenderMessage) : Result :=
  match message.type with
  | .offer => s.onOffer base64 supportsCodecParameter senderId message
  | .getCapabilities => s.onCapabilitiesRequest base64 senderId message
  | .rpc => s.onRpcMessage senderId message
  | .input => s.onInputMessage senderId message
  | .unknown => .ok ([], s)

/-- A namespace of the sessions. -/
def isSessionNamespace (namespace_ : String) : Bool :=
  namespace_ = kCastWebrtcNamespace || namespace_ = kCastRemotingNamespace

/-- `ReceiverSessionMessenger::OnMessage`. A message is the JSON value that its text denotes, or
`none` when it denotes none. -/
def onMessage (supportsCodecParameter : String → Bool)
    (sourceId namespace_ : String) (message : Option Json) : Result :=
  if !isSessionNamespace namespace_ then .ok ([], s)
  else
    match message with
    | none => .ok ([.onError .jsonParseError], s)
    | some value =>
      -- the error of the parse is reported although there is none
      if !value.isObject then .error .errorOfValue
      else do
        let message ← SenderMessage.parse base64 value
        s.dispatch base64 supportsCodecParameter sourceId message

/-! ### The socket -/

/-- `OnSocketReady()`, after the environment has set its state. -/
def onSocketReady : Result :=
  match s.pendingOffer with
  | some pending => do
    let (outputs, s) ← s.initializeSession base64 pending
    return (outputs, { s with pendingOffer := none })
  | none => .ok ([], s)

/-- `OnSocketInvalid(error)`, after the environment has set its state. -/
def onSocketInvalid (code : ErrorCode) (description : String) : Result := do
  let reply ← s.replyToPending base64 code description
  return (reply ++ [.onError .socketFailure], { s with pendingOffer := none })

/-! ### Steps -/

inductive Event
  | message (sourceId namespace_ : String) (message : Option Json)
      (supportsCodecParameter : String → Bool)
  | socketReady (port : UInt16)
  | socketInvalid (code : ErrorCode) (description : String)

/-- One step. -/
def step : Event → Result
  | .message sourceId namespace_ message supportsCodecParameter =>
    s.onMessage base64 supportsCodecParameter sourceId namespace_ message
  | .socketReady port =>
    onSocketReady base64 { s with socketState := .ready, localPort := port }
  | .socketInvalid code description =>
    onSocketInvalid base64 { s with socketState := .invalid } code description

/-- The session that the constructor builds, in an environment whose socket has some state. -/
def new (socketState : SocketState) (localPort : UInt16) : ReceiverSession :=
  { constraints, socketState, localPort }

/-- A run of the session over the events. -/
def run (events : List Event) : Except SessionFault ReceiverSession :=
  events.foldlM (fun s event => Prod.snd <$> s.step base64 event) s

end ReceiverSession

end StreamerPlus
