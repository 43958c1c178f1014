import StreamerPlus.Streaming.ReceiverSession

/-!
# The steps of a `ReceiverSession`

`step_stepped` says what a step of a sound session can do: drop a message or handle it without an
ANSWER, reject an OFFER, accept one in the place of the pending one, or settle the pending one when
the state of the socket changes. The results about ANSWERs are read off it.

A session is sound when its router knows exactly the receivers that exist, and when the pending
OFFER could be answered (`Sound`); every run keeps it so.
-/

namespace StreamerPlus

open Checked

namespace ReceiverSession

section Parts

variable {base64 : Base64} {s t : ReceiverSession} {senderId description : String}
  {sequenceNumber : ℤ} {code : ErrorCode} {properties : PendingOffer} {stream : Stream}
  {registered registered' : List Ssrc} {receiver : Option StreamConfig} {outputs : List Output}
  {receivers : ConfiguredReceivers}

/-- The ANSWER that reports an error. -/
def errorAnswer (sequenceNumber : ℤ) (code : ErrorCode) (description : String) :
    ReceiverMessage where
  type := .answer
  sequenceNumber
  valid := false
  body := .error (.ofError code description)

/-- The ANSWER with result ok. -/
def okAnswer (sequenceNumber : ℤ) (answer : Answer) : ReceiverMessage where
  type := .answer
  sequenceNumber
  valid := true
  body := .answer answer

/-- An error can always be reported to a sender that has a name. -/
theorem sendErrorAnswerReply_eq (h : senderId ≠ "") :
    sendErrorAnswerReply base64 senderId sequenceNumber code description =
      .ok [.post senderId (errorAnswer sequenceNumber code description)] := by
  rw [sendErrorAnswerReply, sendMessage, if_neg h]
  rfl

theorem succeeds_sendErrorAnswerReply :
    Succeeds (sendErrorAnswerReply base64 senderId sequenceNumber code description) := by
  by_cases h : senderId = ""
  · rw [sendErrorAnswerReply, sendMessage, if_pos h]
    exact succeeds_ok
  · rw [sendErrorAnswerReply_eq h]
    exact succeeds_ok

/-- A valid ANSWER can be sent to a sender that has a name. -/
theorem sendMessage_okAnswer (base64 : Base64) (sequenceNumber : ℤ) {answer : Answer}
    (h : senderId ≠ "") (hvalid : answer.isValid = true) :
    sendMessage base64 senderId (okAnswer sequenceNumber answer) =
      .ok [.post senderId (okAnswer sequenceNumber answer)] := by
  obtain ⟨json, hjson⟩ := Answer.exists_toJson hvalid
  rw [sendMessage, if_neg h]
  have hmessage : Succeeds ((okAnswer sequenceNumber answer).toJson base64) := by
    rw [ReceiverMessage.toJson, succeeds_bind_iff fun _ => succeeds_pure]
    exact (succeeds_bind_iff fun _ => succeeds_pure).mpr ⟨json, hjson⟩
  obtain ⟨json', hjson'⟩ := hmessage
  rw [hjson', ok_bind]
  rfl

theorem PendingOffer.senderId_ne (h : properties.isValid = true) : properties.senderId ≠ "" := by
  simp only [PendingOffer.isValid, Bool.and_eq_true, decide_eq_true_eq] at h
  exact h.1.2

/-- The receiver that a stream gets: none when its configuration is not valid. -/
def receiverOf (stream : Stream) : Option StreamConfig :=
  if (receiverConfig stream).isValid then some (receiverConfig stream) else none

theorem receiverOf_eq_some {config : StreamConfig} :
    receiverOf stream = some config ↔
      config = receiverConfig stream ∧ (receiverConfig stream).isValid = true := by
  unfold receiverOf
  split_ifs with h <;> simp [h, eq_comm]

/-- The SSRC of the receiver is never that of the sender. -/
theorem ssrc_ne_succ (ssrc : Ssrc) : ssrc ≠ ssrc + 1 := by
  intro h
  have h' := congrArg UInt32.toNat h
  rw [UInt32.toNat_add] at h'
  have hlt := ssrc.toNat_lt
  simp only [UInt32.toNat_ofNat, Nat.reducePow, Nat.reduceMod] at h' hlt
  omega

/-- A receiver is registered under the SSRC of its sender. -/
theorem constructReceiver_ok
    (h : constructReceiver registered stream = .ok (receiver, registered')) :
    receiver = receiverOf stream ∧
      registered' = registered ++ (receiverOf stream).toList.map (·.senderSsrc) := by
  simp only [constructReceiver] at h
  unfold receiverOf
  split_ifs at h with hinvalid
  · cases h
    rw [Bool.not_eq_true'] at hinvalid
    simp [hinvalid]
  · obtain ⟨-, h⟩ := require_bind_eq_ok.mp h
    obtain ⟨-, h⟩ := require_bind_eq_ok.mp h
    cases h
    simp_all

/-- The only check that can fail is that of the router. -/
theorem succeeds_constructReceiver :
    Succeeds (constructReceiver registered stream) ↔
      ((receiverConfig stream).isValid = true → stream.ssrc ∉ registered) := by
  simp only [constructReceiver]
  cases hvalid : (receiverConfig stream).isValid with
  | false => simp
  | true =>
    obtain ⟨hsender, hreceiver, -⟩ := StreamConfig.isValid_iff.mp hvalid
    have hconfig : (receiverConfig stream).senderSsrc ≠ 0 ∧
        (receiverConfig stream).receiverSsrc ≠ 0 ∧
          (receiverConfig stream).senderSsrc ≠ (receiverConfig stream).receiverSsrc :=
      ⟨hsender, hreceiver, ssrc_ne_succ stream.ssrc⟩
    rw [require_of hconfig]
    simp only [Bool.not_true, Bool.false_eq_true, if_false, ok_bind, true_imp_iff]
    rw [succeeds_bind_iff fun _ => succeeds_pure, succeeds_require]
    rfl

theorem constructOptional_ok {o : Option Stream}
    (h : constructOptional registered o = .ok (receiver, registered')) :
    receiver = o.bind receiverOf ∧
      registered' = registered ++ (o.bind receiverOf).toList.map (·.senderSsrc) := by
  cases o with
  | none =>
    cases h
    simp
  | some stream => exact constructReceiver_ok h

theorem succeeds_constructOptional {o : Option Stream} :
    Succeeds (constructOptional registered o) ↔
      ∀ stream, o = some stream → (receiverConfig stream).isValid = true →
        stream.ssrc ∉ registered := by
  cases o with
  | none => simp [constructOptional]
  | some stream => simp [constructOptional, succeeds_constructReceiver]

end Parts

/-! ### What the session keeps -/

/-- The streams are streams of an OFFER that the parser accepts, and the mode is its mode. -/
structure IsSelectedFrom (properties : PendingOffer) (offer : Offer) : Prop where
  isParsed : ∃ root, Offer.tryParse root = .ok (.ok offer)
  mode : properties.mode = offer.castMode
  audio : ∀ stream, properties.selectedAudio = some stream → stream ∈ offer.audioStreams
  video : ∀ stream, properties.selectedVideo = some stream → stream ∈ offer.videoStreams

/-- The receivers that exist are those that the router knows, and the pending OFFER is one that can
be answered. -/
structure Sound (s : ReceiverSession) : Prop where
  pending_isValid : ∀ pending, s.pendingOffer = some pending → pending.isValid = true
  registered : s.registered =
    (s.currentAudioReceiver.toList ++ s.currentVideoReceiver.toList).map (·.senderSsrc)

section Sound

variable {base64 : Base64} {s t : ReceiverSession} {properties : PendingOffer}
  {outputs : List Output} {receivers : ConfiguredReceivers}

/-- A session without a pending OFFER is sound when its router is. -/
theorem Sound.dropPending (hs : s.Sound) : ReceiverSession.Sound { s with pendingOffer := none } :=
  ⟨by simp, hs.registered⟩

theorem Sound.setSocket (hs : s.Sound) (socketState : SocketState) (localPort : UInt16) :
    ReceiverSession.Sound { s with socketState, localPort } :=
  ⟨hs.pending_isValid, hs.registered⟩

/-- Nothing is left in the router once the receivers are gone. -/
theorem Sound.resetReceivers (hs : s.Sound) :
    s.resetReceivers.2 =
        { s with
          currentAudioReceiver := none
          currentVideoReceiver := none
          registered := []
          hasRpcMessenger := s.resetReceivers.2.hasRpcMessenger } ∧
      (s.resetReceivers.1 = [] ∨ s.resetReceivers.1 = [.onReceiversDestroying]) := by
  have hregistered := hs.registered
  obtain ⟨constraints, socketState, localPort, pendingOffer, audio, video, registered, senderId,
    rpc⟩ := s
  simp only at hregistered
  cases audio <;> cases video <;> simp_all [ReceiverSession.resetReceivers, deregister]

/-- Two streams that both get a receiver have different SSRCs. -/
def AreDistinct (properties : PendingOffer) : Prop :=
  ∀ audio video, properties.selectedAudio = some audio → properties.selectedVideo = some video →
    (receiverConfig audio.stream).isValid = true → (receiverConfig video.stream).isValid = true →
      audio.stream.ssrc ≠ video.stream.ssrc

/-- What `SpawnReceivers` leaves: a receiver for each selected stream with a valid configuration,
and no others. -/
structure Spawned (s : ReceiverSession) (properties : PendingOffer) (outputs : List Output)
    (receivers : ConfiguredReceivers) (t : ReceiverSession) : Prop where
  outputs : outputs = [] ∨ outputs = [.onReceiversDestroying]
  audioReceiver : receivers.audioReceiver =
    (properties.selectedAudio.map AudioStream.stream).bind receiverOf
  videoReceiver : receivers.videoReceiver =
    (properties.selectedVideo.map VideoStream.stream).bind receiverOf
  state : ∃ hasRpcMessenger, t =
    { s with
      currentAudioReceiver := receivers.audioReceiver
      currentVideoReceiver := receivers.videoReceiver
      registered :=
        (receivers.audioReceiver.toList ++ receivers.videoReceiver.toList).map (·.senderSsrc)
      hasRpcMessenger }

/-- A receiver that is not selected is none. -/
theorem ite_isSome_bind {σ : Type} {o : Option σ} {stream : σ → Stream} :
    (if o.isSome = true then (o.map stream).bind receiverOf else none) =
      (o.map stream).bind receiverOf := by
  cases o <;> simp

theorem spawnReceivers_ok (hs : s.Sound)
    (h : s.spawnReceivers properties = .ok (outputs, receivers, t)) :
    Spawned s properties outputs receivers t := by
  obtain ⟨-, h⟩ := require_bind_eq_ok.mp h
  obtain ⟨hreset, houtputs⟩ := hs.resetReceivers
  generalize s.resetReceivers = reset at h hreset houtputs
  obtain ⟨destroyed, s'⟩ := reset
  obtain ⟨⟨audio, registered⟩, haudio, h⟩ := bind_eq_ok.mp h
  obtain ⟨⟨video, registered'⟩, hvideo, h⟩ := bind_eq_ok.mp h
  cases h
  simp only at hreset houtputs
  rw [hreset] at haudio
  obtain ⟨rfl, rfl⟩ := constructOptional_ok haudio
  obtain ⟨rfl, rfl⟩ := constructOptional_ok hvideo
  have hnone : s'.currentAudioReceiver = none ∧ s'.currentVideoReceiver = none := by
    rw [hreset]
    exact ⟨rfl, rfl⟩
  simp only [hnone, ite_isSome_bind]
  refine ⟨houtputs, rfl, rfl, s'.hasRpcMessenger, ?_⟩
  rw [hreset]
  simp

/-- **The router takes the receivers unless two of them have one SSRC.** -/
theorem succeeds_spawnReceivers (hs : s.Sound) (hvalid : properties.isValid = true) :
    Succeeds (s.spawnReceivers properties) ↔ AreDistinct properties := by
  obtain ⟨hreset, -⟩ := hs.resetReceivers
  have hregistered : s.resetReceivers.2.registered = [] := by rw [hreset]
  rw [spawnReceivers, require_of hvalid, ok_bind]
  dsimp only
  rw [hregistered, succeeds_bind]
  have haudio : Succeeds
      (constructOptional [] (properties.selectedAudio.map AudioStream.stream)) :=
    succeeds_constructOptional.mpr fun _ _ _ => List.not_mem_nil
  obtain ⟨⟨audio, registered⟩, haudio⟩ := haudio
  obtain ⟨-, rfl⟩ := constructOptional_ok haudio
  simp only [haudio, Except.ok.injEq, exists_eq_left', List.nil_append]
  rw [succeeds_bind_iff fun _ => succeeds_pure, succeeds_constructOptional]
  unfold AreDistinct
  cases properties.selectedAudio with
  | none => simp
  | some audio =>
    cases properties.selectedVideo with
    | none => simp
    | some video =>
      cases hof : receiverOf audio.stream with
      | none =>
        have hconfig : ¬(receiverConfig audio.stream).isValid = true := fun hconfig => by
          rw [receiverOf, if_pos hconfig] at hof
          cases hof
        simp [hof, hconfig]
      | some config =>
        obtain ⟨rfl, hconfig⟩ := receiverOf_eq_some.mp hof
        have hlist : ((((some audio).map AudioStream.stream).bind receiverOf).toList.map
            (·.senderSsrc)) = [audio.stream.ssrc] := by
          simp [hof, receiverConfig]
        rw [hlist]
        constructor
        · intro h _ _ haudio hvideo _ hvideoConfig heq
          cases haudio
          cases hvideo
          exact h video.stream rfl hvideoConfig (List.mem_singleton.mpr heq.symm)
        · intro h stream hstream hvideoConfig hmem
          cases hstream
          exact h audio video rfl rfl hconfig hvideoConfig (List.mem_singleton.mp hmem).symm

/-- The report to the client. -/
def report (mode : CastMode) (receivers : ConfiguredReceivers) : Output :=
  match mode with
  | .mirroring => .onNegotiated receivers
  | .remoting => .onRemotingNegotiated receivers

/-- **What `InitializeSession` does**: it refuses an OFFER whose ANSWER would not be valid, and
answers every other one before it creates the receivers. -/
inductive Initialized (s : ReceiverSession) (properties : PendingOffer) :
    List Output → ReceiverSession → Prop
  | refused (dscp : Option ℤ) (hinvalid : (s.answerOf properties).isValid = false) :
    Initialized s properties
      ((dscp.map .setDscp).toList ++ [.post properties.senderId
        (errorAnswer properties.sequenceNumber .parameterInvalid
          "Failed to construct an ANSWER message")]) s
  | negotiated (dscp : Option ℤ) {destroyed : List Output} {receivers : ConfiguredReceivers}
      {t : ReceiverSession} (hasRpcMessenger : Bool)
      (hvalid : (s.answerOf properties).isValid = true)
      (hspawned : Spawned s properties destroyed receivers t) :
    Initialized s properties
      ((dscp.map .setDscp).toList ++
        [.post properties.senderId
          (okAnswer properties.sequenceNumber (s.answerOf properties))] ++
        destroyed ++ [report properties.mode receivers])
      { t with negotiatedSenderId := properties.senderId, hasRpcMessenger }

/-- The outputs about DSCP. -/
theorem exists_dscp (enableDscp : Bool) (properties : PendingOffer) :
    ∃ dscp : Option ℤ, (if enableDscp = true then maybeSetDscp properties else []) =
      (dscp.map Output.setDscp).toList := by
  cases enableDscp with
  | false => exact ⟨none, rfl⟩
  | true => exact ⟨_, rfl⟩

theorem initializeSession_ok (hs : s.Sound) (hproperties : properties.isValid = true)
    (h : s.initializeSession base64 properties = .ok (outputs, t)) :
    Initialized s properties outputs t := by
  obtain ⟨dscp, hdscp⟩ := exists_dscp s.constraints.enableDscp properties
  simp only [initializeSession, hdscp, constructAnswer, require_of hproperties, ok_bind,
    pure_eq_ok] at h
  have hsender := PendingOffer.senderId_ne hproperties
  split_ifs at h with hvalid
  · rw [sendErrorAnswerReply_eq hsender, ok_bind] at h
    cases h
    exact .refused dscp (by simpa using hvalid)
  · rw [Bool.not_eq_true', Bool.not_eq_false] at hvalid
    have hsent := sendMessage_okAnswer base64 properties.sequenceNumber hsender hvalid
    simp only [okAnswer] at hsent
    rw [hsent, ok_bind] at h
    obtain ⟨⟨destroyed, receivers, u⟩, hspawn, h⟩ := bind_eq_ok.mp h
    have hinit := fun hasRpcMessenger =>
      Initialized.negotiated dscp hasRpcMessenger hvalid (spawnReceivers_ok hs hspawn)
    dsimp only at h
    cases hmode : properties.mode with
    | mirroring =>
      rw [hmode] at h hinit
      cases h
      exact hinit _
    | remoting =>
      rw [hmode] at h hinit
      cases h
      exact hinit _

/-- The ANSWER can always be written, so that only the receivers may fail. -/
def CanInitialize (s : ReceiverSession) (properties : PendingOffer) : Prop :=
  (s.answerOf properties).isValid = true → AreDistinct properties

theorem succeeds_initializeSession (hs : s.Sound) (hproperties : properties.isValid = true) :
    Succeeds (s.initializeSession base64 properties) ↔ s.CanInitialize properties := by
  have hsender := PendingOffer.senderId_ne hproperties
  simp only [initializeSession, constructAnswer, require_of hproperties, ok_bind, pure_eq_ok,
    CanInitialize]
  cases hvalid : (s.answerOf properties).isValid with
  | false =>
    simp only [Bool.not_false, if_true, Bool.false_eq_true, false_imp_iff, iff_true]
    rw [sendErrorAnswerReply_eq hsender, ok_bind]
    exact succeeds_ok
  | true =>
    have hsent := sendMessage_okAnswer base64 properties.sequenceNumber hsender hvalid
    simp only [okAnswer] at hsent
    simp only [Bool.not_true, Bool.false_eq_true, if_false, true_imp_iff, hsent, ok_bind]
    rw [← succeeds_spawnReceivers hs hproperties]
    refine succeeds_bind_iff fun r => ?_
    cases properties.mode <;> exact succeeds_ok

/-! ### What an OFFER leads to -/

/-- The OFFER of a message with the streams that are selected, unless it is rejected. -/
def accepted (s : ReceiverSession) (supportsCodecParameter : String → Bool) (senderId : String)
    (message : SenderMessage) : Option PendingOffer :=
  match message.body with
  | .offer offer =>
    if message.valid && !(offer.castMode = .remoting && s.constraints.remoting.isNone) &&
        (s.propertiesOf supportsCodecParameter senderId message.sequenceNumber offer).isValid then
      some (s.propertiesOf supportsCodecParameter senderId message.sequenceNumber offer)
    else none
  | _ => none

variable {supportsCodecParameter : String → Bool} {senderId : String} {message : SenderMessage}

theorem mem_of_selectStream {σ κ : Type} [DecidableEq κ] {codec : σ → κ} {stream : σ → Stream}
    {preferredCodecs : List κ} {offeredStreams : List σ} {x : σ}
    (h : selectStream codec stream supportsCodecParameter preferredCodecs offeredStreams = some x) :
    x ∈ offeredStreams := by
  obtain ⟨preferred, -, hfind⟩ := List.exists_of_findSome?_eq_some h
  exact List.mem_of_find?_eq_some hfind

theorem mem_of_onlyStream {σ : Type} {streams : List σ} {x : σ} (h : onlyStream streams = some x) :
    x ∈ streams := by
  unfold onlyStream at h
  split at h
  · cases h
    exact List.mem_singleton_self x
  · cases h

/-- The streams that are selected are streams of the OFFER. -/
theorem propertiesOf_isSelectedFrom (s : ReceiverSession) (supportsCodecParameter : String → Bool)
    (senderId : String) (sequenceNumber : ℤ) {offer : Offer}
    (h : ∃ root, Offer.tryParse root = .ok (.ok offer)) :
    IsSelectedFrom (s.propertiesOf supportsCodecParameter senderId sequenceNumber offer) offer := by
  unfold propertiesOf selectStreams
  cases hmode : offer.castMode with
  | mirroring =>
    exact ⟨h, hmode.symm, fun _ => mem_of_selectStream, fun _ => mem_of_selectStream⟩
  | remoting => exact ⟨h, hmode.symm, fun _ => mem_of_onlyStream, fun _ => mem_of_onlyStream⟩

theorem propertiesOf_senderId (s : ReceiverSession) (supportsCodecParameter : String → Bool)
    (senderId : String) (sequenceNumber : ℤ) (offer : Offer) :
    (s.propertiesOf supportsCodecParameter senderId sequenceNumber offer).senderId = senderId ∧
      (s.propertiesOf supportsCodecParameter senderId sequenceNumber offer).sequenceNumber =
        sequenceNumber := by
  unfold propertiesOf selectStreams
  cases offer.castMode <;> exact ⟨rfl, rfl⟩

/-- What is known of an accepted OFFER. -/
theorem accepted_eq_some
    (h : s.accepted supportsCodecParameter senderId message = some properties) :
    properties.isValid = true ∧ properties.senderId = senderId ∧
      properties.sequenceNumber = message.sequenceNumber ∧ message.valid = true ∧
      ∃ offer, message.body = .offer offer ∧
        ((∃ root, Offer.tryParse root = .ok (.ok offer)) → IsSelectedFrom properties offer) := by
  unfold accepted at h
  split at h
  next offer hbody =>
    split_ifs at h with hcond
    cases h
    simp only [Bool.and_eq_true] at hcond
    obtain ⟨hsender, hnumber⟩ :=
      propertiesOf_senderId s supportsCodecParameter senderId message.sequenceNumber offer
    exact ⟨hcond.2, hsender, hnumber, hcond.1.1, offer, hbody,
      propertiesOf_isSelectedFrom _ _ _ _⟩
  next => cases h

/-- **An OFFER is rejected with one error, or accepted.** -/
theorem onOffer_cases (base64 : Base64) (s : ReceiverSession)
    (supportsCodecParameter : String → Bool) (senderId : String)
    (hnumber : 0 ≤ message.sequenceNumber)
    (hbody : message.valid = true → ∃ offer, message.body = .offer offer) :
    (s.accepted supportsCodecParameter senderId message = none ∧
      ∃ code description, ∃ errors : List ErrorCode,
        s.onOffer base64 supportsCodecParameter senderId message =
          sendErrorAnswerReply base64 senderId message.sequenceNumber code description >>=
            fun reply => .ok (reply ++ errors.map .onError, s)) ∨
    ∃ properties, s.accepted supportsCodecParameter senderId message = some properties ∧
      s.onOffer base64 supportsCodecParameter senderId message =
        s.acceptOffer base64 properties := by
  unfold onOffer accepted
  rw [if_neg (not_lt.mpr hnumber)]
  cases hvalid : message.valid with
  | false =>
    refine Or.inl ⟨?_, _, _, [.parameterInvalid], rfl⟩
    split <;> simp
  | true =>
    obtain ⟨offer, hoffer⟩ := hbody hvalid
    rw [hoffer]
    simp only [Bool.not_true, Bool.false_eq_true, if_false, Bool.true_and]
    by_cases hremoting : (offer.castMode = .remoting && s.constraints.remoting.isNone) = true
    · refine Or.inl ⟨by simp [hremoting], .remotingNotSupported,
        "This receiver does not have remoting enabled.", [], ?_⟩
      rw [if_pos hremoting]
      simp
    · rw [if_neg hremoting, Bool.eq_false_iff.mpr hremoting]
      cases hproperties :
          (s.propertiesOf supportsCodecParameter senderId message.sequenceNumber offer).isValid with
      | false =>
        exact Or.inl ⟨by simp, .noStreamSelected, "Failed to select any streams from OFFER", [],
          by simp⟩
      | true =>
        exact Or.inr ⟨s.propertiesOf supportsCodecParameter senderId message.sequenceNumber offer,
          by simp, by simp⟩

/-- The OFFER that an event delivers: its sender and its number. OFFERs without a sender or a number
cannot be answered. -/
def offerOf (base64 : Base64) : Event → Option (String × ℤ)
  | .message sourceId namespace_ (some value) _ =>
    match SenderMessage.parse base64 value with
    | .ok message =>
      if isSessionNamespace namespace_ && value.isObject && message.type = .offer &&
          0 ≤ message.sequenceNumber && sourceId ≠ "" then
        some (sourceId, message.sequenceNumber)
      else none
    | .error _ => none
  | _ => none

/-- The streams of a valid OFFER that an event delivers. -/
def deliveredOffer (base64 : Base64) : Event → Option Offer
  | .message _ _ (some value) _ =>
    match SenderMessage.parse base64 value with
    | .ok message =>
      match message.valid, message.body with
      | true, .offer offer => some offer
      | _, _ => none
    | .error _ => none
  | _ => none

/-- The output is an ANSWER to a sender. -/
def Output.isAnswer : Output → Bool
  | .post _ message => message.type = .answer
  | _ => false

/-- The reply to a pending OFFER that is given up. -/
def pendingReply (pending : Option PendingOffer) (code : ErrorCode) (description : String) :
    List Output :=
  (pending.map fun p =>
    .post p.senderId (errorAnswer p.sequenceNumber code description)).toList

theorem Sound.replyToPending (hs : s.Sound) (code : ErrorCode) (description : String) :
    s.replyToPending base64 code description =
      .ok (pendingReply s.pendingOffer code description) := by
  unfold ReceiverSession.replyToPending
  cases hpending : s.pendingOffer with
  | none => rfl
  | some pending =>
    exact sendErrorAnswerReply_eq (PendingOffer.senderId_ne (hs.pending_isValid _ hpending))

/-- What an accepted OFFER leads to, once the pending one is given up. -/
inductive Accepted (s : ReceiverSession) (properties : PendingOffer) :
    List Output → ReceiverSession → Prop
  | pending (hstate : s.socketState = .starting) :
    Accepted s properties [] { s with pendingOffer := some properties }
  | initialized {outputs : List Output} {t : ReceiverSession} (hstate : s.socketState = .ready)
      (hinitialized : Initialized { s with pendingOffer := none } properties outputs t) :
    Accepted s properties outputs t
  | failed (hstate : s.socketState = .invalid) :
    Accepted s properties
      [.post properties.senderId (errorAnswer properties.sequenceNumber .socketClosedFailure
        "UDP socket is closed, likely due to a bind error.")]
      { s with pendingOffer := none }

/-- **What a step can do.** Every OFFER is rejected, or accepted in the place of the pending one.
The pending one is settled by the socket. -/
inductive Stepped (base64 : Base64) (s : ReceiverSession) :
    Event → List Output → ReceiverSession → Prop
  | quiet {event : Event} {outputs : List Output} (hoffer : offerOf base64 event = none)
      (hquiet : ∀ output ∈ outputs, output.isAnswer = false) :
    Stepped base64 s event outputs s
  | rejected {event : Event} {senderId : String} {sequenceNumber : ℤ}
      (hoffer : offerOf base64 event = some (senderId, sequenceNumber)) (code : ErrorCode)
      (description : String) (errors : List ErrorCode) :
    Stepped base64 s event
      (.post senderId (errorAnswer sequenceNumber code description) :: errors.map .onError) s
  | accepted {event : Event} {properties : PendingOffer} {outputs : List Output}
      {t : ReceiverSession}
      (hoffer : offerOf base64 event = some (properties.senderId, properties.sequenceNumber))
      (hproperties : properties.isValid = true)
      (hselected : ∃ offer, deliveredOffer base64 event = some offer ∧
        IsSelectedFrom properties offer)
      (haccepted : Accepted s properties outputs t) :
    Stepped base64 s event
      (pendingReply s.pendingOffer .interrupted
        "Received a new OFFER before negotiation could complete." ++ outputs) t
  | ready {port : UInt16} (hpending : s.pendingOffer = none) :
    Stepped base64 s (.socketReady port) [] { s with socketState := .ready, localPort := port }
  | readyPending {port : UInt16} {pending : PendingOffer} {outputs : List Output}
      {t : ReceiverSession} (hpending : s.pendingOffer = some pending)
      (hinitialized : Initialized { s with socketState := .ready, localPort := port } pending
        outputs t) :
    Stepped base64 s (.socketReady port) outputs { t with pendingOffer := none }
  | invalid {code : ErrorCode} {description : String} :
    Stepped base64 s (.socketInvalid code description)
      (pendingReply s.pendingOffer code description ++ [.onError .socketFailure])
      { s with socketState := .invalid, pendingOffer := none }

theorem acceptOffer_ok (hs : s.Sound) (hproperties : properties.isValid = true)
    (h : s.acceptOffer base64 properties = .ok (outputs, t)) :
    ∃ rest, outputs = pendingReply s.pendingOffer .interrupted
        "Received a new OFFER before negotiation could complete." ++ rest ∧
      Accepted s properties rest t := by
  rw [acceptOffer, hs.replyToPending, ok_bind] at h
  dsimp only at h
  split at h
  next hstate =>
    rw [sendErrorAnswerReply_eq (PendingOffer.senderId_ne hproperties), ok_bind] at h
    cases h
    exact ⟨_, rfl, .failed hstate⟩
  next hstate =>
    obtain ⟨⟨rest, u⟩, hinit, h⟩ := bind_eq_ok.mp h
    cases h
    exact ⟨rest, rfl, .initialized hstate (initializeSession_ok hs.dropPending hproperties hinit)⟩
  next hstate =>
    cases h
    exact ⟨[], by simp, .pending hstate⟩

theorem sendMessage_not_isAnswer {reply : ReceiverMessage} (htype : reply.type ≠ .answer)
    (h : sendMessage base64 senderId reply = .ok outputs) :
    ∀ output ∈ outputs, output.isAnswer = false := by
  unfold sendMessage at h
  split_ifs at h
  · cases h
    simp [Output.isAnswer]
  · obtain ⟨json, -, h⟩ := bind_eq_ok.mp h
    cases h
    simp [Output.isAnswer, htype]

theorem onCapabilitiesRequest_quiet
    (h : s.onCapabilitiesRequest base64 senderId message = .ok (outputs, t)) :
    t = s ∧ ∀ output ∈ outputs, output.isAnswer = false := by
  unfold onCapabilitiesRequest at h
  split_ifs at h
  · cases h
    simp
  · obtain ⟨⟨valid, body⟩, -, h⟩ := bind_eq_ok.mp h
    obtain ⟨reply, hreply, h⟩ := bind_eq_ok.mp h
    cases h
    exact ⟨rfl, sendMessage_not_isAnswer (by simp) hreply⟩

theorem onRpcMessage_quiet (h : s.onRpcMessage senderId message = .ok (outputs, t)) :
    t = s ∧ ∀ output ∈ outputs, output.isAnswer = false := by
  unfold onRpcMessage at h
  split at h
  · cases h
    simp
  · split at h
    · cases h
      refine ⟨rfl, ?_⟩
      split_ifs <;> simp [Output.isAnswer]
    · cases h

theorem onInputMessage_quiet (h : s.onInputMessage senderId message = .ok (outputs, t)) :
    t = s ∧ ∀ output ∈ outputs, output.isAnswer = false := by
  unfold onInputMessage at h
  split_ifs at h
  · cases h
    simp
  · split at h
    · cases h
      simp [Output.isAnswer]
    · cases h

/-- Only an OFFER changes the session or is answered. -/
theorem dispatch_quiet (htype : message.type ≠ .offer)
    (h : s.dispatch base64 supportsCodecParameter senderId message = .ok (outputs, t)) :
    t = s ∧ ∀ output ∈ outputs, output.isAnswer = false := by
  unfold dispatch at h
  split at h
  next hoffer => exact absurd hoffer htype
  next => exact onCapabilitiesRequest_quiet h
  next => exact onRpcMessage_quiet h
  next => exact onInputMessage_quiet h
  next =>
    cases h
    simp

/-- A message is dropped or handled quietly, or it is an OFFER. -/
theorem onMessage_cases {namespace_ : String} {json : Option Json}
    (h : s.onMessage base64 supportsCodecParameter senderId namespace_ json = .ok (outputs, t)) :
    (t = s ∧ (∀ output ∈ outputs, output.isAnswer = false) ∧
      offerOf base64 (.message senderId namespace_ json supportsCodecParameter) = none) ∨
    ∃ value message, json = some value ∧ isSessionNamespace namespace_ = true ∧
      value.isObject = true ∧ SenderMessage.parse base64 value = .ok message ∧
      message.type = .offer ∧ 0 ≤ message.sequenceNumber ∧
      s.onOffer base64 supportsCodecParameter senderId message = .ok (outputs, t) := by
  unfold onMessage at h
  split_ifs at h with hnamespace
  · cases h
    refine Or.inl ⟨rfl, by simp, ?_⟩
    cases json with
    | none => rfl
    | some value =>
      rw [Bool.not_eq_true'] at hnamespace
      simp only [offerOf, hnamespace, Bool.false_and, Bool.false_eq_true, if_false]
      split <;> rfl
  · rw [Bool.not_eq_true', Bool.not_eq_false] at hnamespace
    cases json with
    | none =>
      cases h
      exact Or.inl ⟨rfl, by simp [Output.isAnswer], rfl⟩
    | some value =>
      dsimp only at h
      split_ifs at h with hobject
      rw [Bool.not_eq_true', Bool.not_eq_false] at hobject
      obtain ⟨message, hparse, h⟩ := bind_eq_ok.mp h
      have hoffer : message.type ≠ .offer ∨ message.sequenceNumber < 0 → offerOf base64
          (.message senderId namespace_ (some value) supportsCodecParameter) = none := by
        intro hnot
        simp only [offerOf, hparse, ite_eq_right_iff, Bool.and_eq_true, decide_eq_true_eq]
        rintro ⟨⟨⟨-, htype⟩, hnumber⟩, -⟩
        rcases hnot with hnot | hnot
        · exact absurd htype hnot
        · omega
      by_cases htype : message.type = .offer
      · rw [dispatch, htype] at h
        by_cases hnumber : message.sequenceNumber < 0
        · rw [onOffer, if_pos hnumber] at h
          cases h
          exact Or.inl ⟨rfl, by simp, hoffer (Or.inr hnumber)⟩
        · exact Or.inr ⟨value, message, rfl, hnamespace, hobject, hparse, htype,
            not_lt.mp hnumber, h⟩
      · obtain ⟨hsame, hquiet⟩ := dispatch_quiet htype h
        exact Or.inl ⟨hsame, hquiet, hoffer (Or.inl htype)⟩

/-- An OFFER that is parsed has the body of one. -/
theorem exists_offer {value : Json} (hparse : SenderMessage.parse base64 value = .ok message)
    (htype : message.type = .offer) (hvalid : message.valid = true) :
    ∃ root offer, message.body = .offer offer ∧ Offer.tryParse root = .ok (.ok offer) := by
  have hbody := SenderMessage.body_of_valid hparse hvalid
  rw [SenderMessage.HasBody, htype] at hbody
  exact hbody

/-- **Every step is one of these.** -/
theorem step_stepped (hs : s.Sound) {event : Event}
    (h : s.step base64 event = .ok (outputs, t)) : Stepped base64 s event outputs t := by
  cases event with
  | message sourceId namespace_ json supportsCodecParameter =>
    rcases onMessage_cases h with
      ⟨rfl, hquiet, hoffer⟩ | ⟨value, message, rfl, hnamespace, hobject, hparse, htype, hnumber, h⟩
    · exact .quiet hoffer hquiet
    have hbody := exists_offer hparse htype
    have hoffer : sourceId ≠ "" → offerOf base64
        (.message sourceId namespace_ (some value) supportsCodecParameter) =
          some (sourceId, message.sequenceNumber) := by
      intro hsource
      simp only [offerOf, hparse, hnamespace, hobject, htype]
      exact if_pos (by simp [hnumber, hsource])
    rcases onOffer_cases base64 s supportsCodecParameter sourceId hnumber
      (fun hvalid => (hbody hvalid).elim fun _ h => h.imp fun _ h => h.1) with
      ⟨-, code, description, errors, heq⟩ | ⟨properties, haccepted, heq⟩
    · rw [heq] at h
      by_cases hsource : sourceId = ""
      · -- without a sender the reply goes nowhere
        rw [sendErrorAnswerReply, sendMessage, if_pos hsource, ok_bind] at h
        cases h
        refine .quiet ?_ (by simp [Output.isAnswer])
        simp [offerOf, hparse, hsource]
      · rw [sendErrorAnswerReply_eq hsource, ok_bind] at h
        cases h
        exact .rejected (hoffer hsource) code description errors
    · rw [heq] at h
      obtain ⟨hvalid, hsender, hsame, hmessage, offer, hoffer', hselected⟩ :=
        accepted_eq_some haccepted
      obtain ⟨rest, rfl, haccepted'⟩ := acceptOffer_ok hs hvalid h
      have hsource : sourceId ≠ "" := hsender ▸ PendingOffer.senderId_ne hvalid
      obtain ⟨root, offer', hoffer'', hroot⟩ := hbody hmessage
      cases hoffer'.symm.trans hoffer''
      have hdelivered : deliveredOffer base64
          (.message sourceId namespace_ (some value) supportsCodecParameter) = some offer := by
        simp only [deliveredOffer, hparse, hmessage, hoffer']
      refine .accepted ?_ hvalid ⟨offer, hdelivered, hselected ⟨root, hroot⟩⟩ haccepted'
      rw [hsender, hsame]
      exact hoffer hsource
  | socketReady port =>
    rw [step, onSocketReady] at h
    split at h
    next pending hpending =>
      obtain ⟨⟨outputs', u⟩, hinit, h⟩ := bind_eq_ok.mp h
      cases h
      exact .readyPending hpending
        (initializeSession_ok (hs.setSocket _ _) (hs.pending_isValid _ hpending) hinit)
    next hpending =>
      cases h
      exact .ready hpending
  | socketInvalid code description =>
    rw [step, onSocketInvalid, (hs.setSocket .invalid s.localPort).replyToPending, ok_bind] at h
    cases h
    exact .invalid

/-! ### Every session is sound -/

theorem sound_new (constraints : ReceiverConstraints) (socketState : SocketState)
    (localPort : UInt16) : (new constraints socketState localPort).Sound :=
  ⟨by simp [new], rfl⟩

/-- New receivers are in the router, and the pending OFFER is not touched. -/
theorem Initialized.sound (h : Initialized s properties outputs t) (hs : s.Sound) : t.Sound := by
  cases h with
  | refused => exact hs
  | negotiated dscp hasRpcMessenger hvalid hspawned =>
    obtain ⟨rpc, rfl⟩ := hspawned.state
    exact ⟨hs.pending_isValid, rfl⟩

theorem Accepted.sound (h : Accepted s properties outputs t)
    (hproperties : properties.isValid = true) (hs : s.Sound) : t.Sound := by
  cases h with
  | pending hstate =>
    refine ⟨fun pending hpending => ?_, hs.registered⟩
    cases hpending
    exact hproperties
  | initialized hstate hinitialized => exact hinitialized.sound hs.dropPending
  | failed hstate => exact hs.dropPending

/-- A step keeps a session sound. -/
theorem Sound.step (hs : s.Sound) {event : Event} (h : s.step base64 event = .ok (outputs, t)) :
    t.Sound := by
  cases step_stepped hs h with
  | quiet => exact hs
  | rejected => exact hs
  | accepted hoffer hproperties hselected haccepted =>
    exact haccepted.sound hproperties hs
  | ready hpending => exact hs.setSocket _ _
  | readyPending hpending hinitialized =>
    exact (hinitialized.sound (hs.setSocket _ _)).dropPending
  | invalid => exact (hs.setSocket .invalid s.localPort).dropPending

end Sound

end ReceiverSession

end StreamerPlus
