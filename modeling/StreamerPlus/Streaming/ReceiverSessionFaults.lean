import StreamerPlus.Streaming.ReceiverSessionSteps

/-!
# What aborts a `ReceiverSession`

`step_succeeds_iff` says, for every state that a session reaches, exactly which events it survives
(`Admits`). A sender has three ways to abort it:

* a text that is JSON but not an object has no error to report;
* JsonCpp aborts when the mode of an OFFER is an array or an object, and when one of its streams is
  neither an object nor null;
* an audio and a video stream with one SSRC, which both get a receiver, are registered twice.

Everything else that the code checks follows from what it checked before: the ANSWER is written only
when it is valid, the bodies of valid messages have the type of the message, and the constraints of
the session leave no codec open.
-/

namespace StreamerPlus

open Checked

namespace ReceiverSession

section Admits

variable (base64 : Base64) (s : ReceiverSession)

/-- An OFFER that is answered at once has distinct SSRCs. -/
def AdmitsMessage (supportsCodecParameter : String → Bool) (senderId : String)
    (message : SenderMessage) : Prop :=
  message.type = .offer → 0 ≤ message.sequenceNumber → s.socketState = .ready →
    ∀ properties, s.accepted supportsCodecParameter senderId message = some properties →
      s.CanInitialize properties

/-- **The events that a session survives.** -/
def Admits : Event → Prop
  | .message sourceId namespace_ json supportsCodecParameter =>
    isSessionNamespace namespace_ = true → ∀ value, json = some value →
      value.isObject = true ∧
      (SenderMessage.getMessageType value = .offer → Offer.IsReadable (value.field "offer")) ∧
      ∀ message, SenderMessage.parse base64 value = .ok message →
        s.AdmitsMessage supportsCodecParameter sourceId message
  | .socketReady port =>
    ∀ pending, s.pendingOffer = some pending →
      CanInitialize { s with socketState := .ready, localPort := port } pending
  | .socketInvalid _ _ => True

end Admits

section Faults

variable {base64 : Base64} {s t : ReceiverSession} {properties : PendingOffer} {senderId : String}
  {supportsCodecParameter : String → Bool} {message : SenderMessage} {value : Json}
  {outputs : List Output} {event : Event}

/-! ### The parts of a step -/

theorem succeeds_parse (base64 : Base64) :
    Succeeds (SenderMessage.parse base64 value) ↔
      (SenderMessage.getMessageType value = .offer → Offer.IsReadable (value.field "offer")) := by
  rw [SenderMessage.parse, succeeds_bind_iff fun _ => succeeds_pure]
  cases SenderMessage.getMessageType value with
  | offer =>
    rw [SenderMessage.parseBody, ← Offer.succeeds_tryParse]
    refine (succeeds_bind_iff fun r => ?_).trans ⟨fun h _ => h, fun h => h rfl⟩
    cases r <;> exact succeeds_pure
  | getCapabilities => simp [SenderMessage.parseBody]
  | rpc => simp [SenderMessage.parseBody]
  | input => simp [SenderMessage.parseBody]
  | unknown => simp [SenderMessage.parseBody]

theorem succeeds_acceptOffer (hs : s.Sound) (hproperties : properties.isValid = true) :
    Succeeds (s.acceptOffer base64 properties) ↔
      (s.socketState = .ready → s.CanInitialize properties) := by
  rw [acceptOffer, hs.replyToPending, ok_bind]
  dsimp only
  split
  next hstate =>
    rw [sendErrorAnswerReply_eq (PendingOffer.senderId_ne hproperties), ok_bind]
    simp [hstate]
  next hstate =>
    rw [succeeds_bind_iff fun _ => succeeds_pure,
      succeeds_initializeSession hs.dropPending hproperties]
    -- the ANSWER does not depend on the pending OFFER
    exact ⟨fun h _ => h, fun h => h hstate⟩
  next hstate => simp [hstate]

theorem succeeds_onOffer (hs : s.Sound)
    (hbody : message.valid = true → ∃ offer, message.body = .offer offer) :
    Succeeds (s.onOffer base64 supportsCodecParameter senderId message) ↔
      (0 ≤ message.sequenceNumber → s.socketState = .ready →
        ∀ properties, s.accepted supportsCodecParameter senderId message = some properties →
          s.CanInitialize properties) := by
  by_cases hnumber : message.sequenceNumber < 0
  · rw [onOffer, if_pos hnumber]
    exact iff_of_true succeeds_ok fun hnot => absurd hnumber (not_lt.mpr hnot)
  rcases onOffer_cases base64 s supportsCodecParameter senderId (not_lt.mp hnumber) hbody with
    ⟨hnone, code, description, errors, heq⟩ | ⟨properties, hsome, heq⟩
  · rw [heq, succeeds_bind_iff fun _ => succeeds_ok]
    exact iff_of_true succeeds_sendErrorAnswerReply (by simp [hnone])
  · rw [heq, succeeds_acceptOffer hs (accepted_eq_some hsome).1]
    simp [hsome, not_lt.mp hnumber]

/-- The codecs of the constraints are all capabilities. -/
theorem succeeds_createRemotingCapabilityV2 (constraints : ReceiverConstraints)
    (remoting : RemotingConstraints) :
    Succeeds (createRemotingCapabilityV2 constraints remoting) := by
  have haudio : Succeeds (constraints.audioCodecs.mapM audioToCapability) := by
    refine succeeds_mapM.mpr fun codec hcodec => ?_
    have hne : codec ≠ .notSpecified := fun h => constraints.audioCodecs_specified (h ▸ hcodec)
    cases codec <;> simp_all [audioToCapability]
  have hvideo : Succeeds (constraints.videoCodecs.mapM videoToCapability) := by
    refine succeeds_mapM.mpr fun codec hcodec => ?_
    have hne : codec ≠ .notSpecified := fun h => constraints.videoCodecs_specified (h ▸ hcodec)
    cases codec <;> simp_all [videoToCapability]
  obtain ⟨audio, haudio⟩ := haudio
  obtain ⟨video, hvideo⟩ := hvideo
  rw [createRemotingCapabilityV2, haudio, ok_bind, hvideo, ok_bind]
  exact succeeds_pure

theorem succeeds_onCapabilitiesRequest :
    Succeeds (s.onCapabilitiesRequest base64 senderId message) := by
  unfold onCapabilitiesRequest
  split_ifs
  · exact succeeds_ok
  rw [succeeds_bind]
  cases hremoting : s.constraints.remoting with
  | none =>
    refine ⟨_, by rw [capabilitiesReply, hremoting], ?_⟩
    refine (succeeds_bind_iff fun _ => succeeds_pure).mpr ?_
    unfold sendMessage
    split_ifs
    · exact succeeds_ok
    · exact succeeds_pure
  | some remoting =>
    obtain ⟨capability, hcapability⟩ :=
      succeeds_createRemotingCapabilityV2 s.constraints remoting
    refine ⟨(true, .capability capability), ?_, ?_⟩
    · simp only [capabilitiesReply, hremoting, hcapability, ok_bind, pure_eq_ok]
    refine (succeeds_bind_iff fun _ => succeeds_pure).mpr ?_
    unfold sendMessage
    split_ifs
    · exact succeeds_ok
    · exact succeeds_pure

/-- A valid RPC or INPUT message has its bytes. -/
theorem exists_bytes (hparse : SenderMessage.parse base64 value = .ok message)
    (htype : message.type = .rpc ∨ message.type = .input) (hvalid : message.valid = true) :
    ∃ bytes, message.body = .bytes bytes := by
  have hbody := SenderMessage.body_of_valid hparse hvalid
  rcases htype with htype | htype
  · rw [SenderMessage.HasBody, htype] at hbody
    exact hbody
  · rw [SenderMessage.HasBody, htype] at hbody
    exact hbody

theorem succeeds_onRpcMessage
    (hbody : message.valid = true → ∃ bytes, message.body = .bytes bytes) :
    Succeeds (s.onRpcMessage senderId message) := by
  unfold onRpcMessage
  split
  · exact succeeds_ok
  next hcond =>
    simp only [Bool.or_eq_true, Bool.not_eq_true', not_or, Bool.not_eq_false] at hcond
    obtain ⟨bytes, hbytes⟩ := hbody hcond.1
    rw [hbytes]
    exact succeeds_ok

theorem succeeds_onInputMessage
    (hbody : message.valid = true → ∃ bytes, message.body = .bytes bytes) :
    Succeeds (s.onInputMessage senderId message) := by
  unfold onInputMessage
  split
  · exact succeeds_ok
  next hcond =>
    simp only [Bool.or_eq_true, Bool.not_eq_true', not_or, Bool.not_eq_false] at hcond
    obtain ⟨bytes, hbytes⟩ := hbody hcond.1
    rw [hbytes]
    exact succeeds_ok

theorem succeeds_dispatch (hs : s.Sound)
    (hparse : SenderMessage.parse base64 value = .ok message) :
    Succeeds (s.dispatch base64 supportsCodecParameter senderId message) ↔
      s.AdmitsMessage supportsCodecParameter senderId message := by
  unfold dispatch AdmitsMessage
  cases htype : message.type with
  | offer =>
    simp only [true_imp_iff]
    exact succeeds_onOffer hs fun hvalid =>
      (exists_offer hparse htype hvalid).elim fun _ h => h.imp fun _ h => h.1
  | getCapabilities => exact iff_of_true succeeds_onCapabilitiesRequest (by simp)
  | rpc =>
    exact iff_of_true (succeeds_onRpcMessage (exists_bytes hparse (Or.inl htype))) (by simp)
  | input =>
    exact iff_of_true (succeeds_onInputMessage (exists_bytes hparse (Or.inr htype))) (by simp)
  | unknown => simp

/-! ### Steps and runs -/

/-- **A sound session survives exactly the events that it admits.** -/
theorem step_succeeds_iff (hs : s.Sound) :
    Succeeds (s.step base64 event) ↔ s.Admits base64 event := by
  cases event with
  | message sourceId namespace_ json supportsCodecParameter =>
    simp only [step, onMessage, Admits]
    cases hnamespace : isSessionNamespace namespace_ with
    | false => simp
    | true =>
      cases json with
      | none => simp
      | some value =>
        simp only [Bool.not_true, Bool.false_eq_true, if_false, true_imp_iff, Option.some.injEq,
          forall_eq']
        cases hobject : value.isObject with
        | false => simp
        | true =>
          simp only [Bool.not_true, Bool.false_eq_true, if_false, true_and]
          rw [← succeeds_parse base64, succeeds_bind]
          constructor
          · rintro ⟨message, hparse, h⟩
            refine ⟨⟨message, hparse⟩, fun message' hparse' => ?_⟩
            cases hparse.symm.trans hparse'
            exact (succeeds_dispatch hs hparse).mp h
          · rintro ⟨⟨message, hparse⟩, h⟩
            exact ⟨message, hparse, (succeeds_dispatch hs hparse).mpr (h message hparse)⟩
  | socketReady port =>
    simp only [step, onSocketReady, Admits]
    split
    next pending hpending =>
      rw [succeeds_bind_iff fun _ => succeeds_pure,
        succeeds_initializeSession (hs.setSocket .ready port) (hs.pending_isValid _ hpending)]
      simp [hpending]
    next hpending => simp [hpending]
  | socketInvalid code description =>
    simp only [step, onSocketInvalid, Admits, iff_true]
    rw [(hs.setSocket .invalid s.localPort).replyToPending, ok_bind]
    exact succeeds_pure

/-- **A run keeps a session sound.** -/
theorem Sound.run {events : List Event} (hs : s.Sound) (h : s.run base64 events = .ok t) :
    t.Sound := by
  refine foldlM_invariant (P := Sound) (fun s event t _ hs h => ?_) hs h
  cases hstep : s.step base64 event with
  | error fault => simp [hstep] at h
  | ok result =>
    rw [hstep] at h
    cases h
    exact hs.step hstep

/-- **A session runs to completion exactly when it admits every event in the state that the events
before it lead to.** -/
theorem run_completes_iff (constraints : ReceiverConstraints) (socketState : SocketState)
    (localPort : UInt16) (events : List Event) :
    Succeeds ((new constraints socketState localPort).run base64 events) ↔
      ∀ pre event post s, events = pre ++ event :: post →
        (new constraints socketState localPort).run base64 pre = .ok s →
          s.Admits base64 event := by
  unfold run
  rw [succeeds_foldlM]
  refine forall_congr' fun pre => forall_congr' fun event => forall_congr' fun post =>
    forall_congr' fun s => forall_congr' fun _ => forall_congr' fun hpre => ?_
  have hs : s.Sound := (sound_new constraints socketState localPort).run hpre
  rw [succeeds_map, step_succeeds_iff hs]

/-- A stream of an OFFER. -/
def streamFields (index : ℚ) (type codecName : String) (ssrc : ℚ) (timeBase : String) :
    List (String × Json) :=
  [("index", .number index), ("type", .string type), ("codecName", .string codecName),
    ("ssrc", .number ssrc), ("rtpPayloadType", .number 96), ("timeBase", .string timeBase),
    ("aesKey", .string "0123456789abcdef0123456789abcdef"),
    ("aesIvMask", .string "fedcba9876543210fedcba9876543210"), ("bitRate", .number 128000)]

/-- An OFFER with an audio and a video stream. -/
def offerOfSsrcs (sequenceNumber audioSsrc videoSsrc : ℚ) : Json :=
  .object [("type", .string "OFFER"), ("seqNum", .number sequenceNumber),
    ("offer", .object [("castMode", .string "mirroring"), ("supportedStreams", .array
      [.object (streamFields 0 "audio_source" "opus" audioSsrc "1/48000"),
        .object (streamFields 1 "video_source" "vp8" videoSsrc "1/90000")])])]

/-- Both streams have the SSRC 7, and the second receiver cannot be registered. -/
theorem not_completes_sameSsrc :
    ¬Succeeds ((new {} .ready 2344).run ⟨fun _ => "", fun _ => none⟩
      [.message "sender-0" kCastWebrtcNamespace (some (offerOfSsrcs 1 7 7)) fun _ => true]) := by
  decide +kernel

end Faults

end ReceiverSession

end StreamerPlus
