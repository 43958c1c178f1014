import StreamerPlus.Streaming.ReceiverSessionFaults

/-!
# The ANSWERs of a `ReceiverSession`

Two results about whole runs of the session, both read off `Stepped`:

* **Every OFFER gets exactly one ANSWER** (`offers_perm_answers`). The OFFERs received so far are,
  up to order, the ANSWERs sent so far and the pending OFFER, if there is one. An OFFER waits only
  while the socket is starting.
* **When a successful ANSWER has its receivers** (`backed_iff`). The ANSWER is built from the
  streams, the receivers from their `SessionConfig`s. A stream whose SSRC is 0 or the last one, or
  whose key or mask is zero, is accepted by the parser and listed in the ANSWER, but it gets no
  receiver.
-/

namespace StreamerPlus

open Checked TransitionSystem

namespace ReceiverSession

/-- A step with what the session did in it. -/
abbrev Label := Event × List Output

/-- The steps of the session, with their outputs. -/
def Steps (base64 : Base64) (s : ReceiverSession) (label : Label) (t : ReceiverSession) : Prop :=
  s.step base64 label.1 = .ok (label.2, t)

section Counting

variable {base64 : Base64} {s t : ReceiverSession} {properties : PendingOffer} {event : Event}
  {outputs : List Output} {labels : List Label} {constraints : ReceiverConstraints}
  {socketState : SocketState} {localPort : UInt16}

theorem Sound.of_run (h : Run (Steps base64) (new constraints socketState localPort) labels s) :
    s.Sound :=
  h.invariant (fun _ _ _ hs hstep => hs.step hstep) (sound_new constraints socketState localPort)

/-! ### Every OFFER gets one ANSWER -/

/-- The sender and the number of an ANSWER. -/
def Output.answerKey : Output → Option (String × ℤ)
  | .post senderId message =>
    if message.type = .answer then some (senderId, message.sequenceNumber) else none
  | _ => none

/-- The ANSWERs among the outputs. -/
def answerKeys (outputs : List Output) : List (String × ℤ) :=
  outputs.filterMap Output.answerKey

/-- The ANSWERs of a run, in order. -/
def answers (labels : List Label) : List (String × ℤ) :=
  labels.flatMap fun label => answerKeys label.2

/-- The OFFERs of a run, in order. -/
def offers (base64 : Base64) (labels : List Label) : List (String × ℤ) :=
  labels.filterMap fun label => offerOf base64 label.1

/-- The OFFER that waits for the socket: none or one. -/
def pendingKeys (s : ReceiverSession) : List (String × ℤ) :=
  s.pendingOffer.toList.map fun pending => (pending.senderId, pending.sequenceNumber)

theorem answerKeys_append (outputs rest : List Output) :
    answerKeys (outputs ++ rest) = answerKeys outputs ++ answerKeys rest :=
  List.filterMap_append

theorem answerKeys_eq_nil (h : ∀ output ∈ outputs, output.isAnswer = false) :
    answerKeys outputs = [] := by
  refine List.filterMap_eq_nil_iff.mpr fun output houtput => ?_
  have hanswer := h output houtput
  cases output with
  | post senderId message => simpa [Output.answerKey, Output.isAnswer] using hanswer
  | _ => rfl

/-- The reply to a pending OFFER is its one ANSWER. -/
theorem answerKeys_pendingReply (code : ErrorCode) (description : String) :
    answerKeys (pendingReply s.pendingOffer code description) = s.pendingKeys := by
  rw [pendingReply, pendingKeys]
  cases s.pendingOffer <;> rfl

theorem answerKeys_errors (errors : List ErrorCode) : answerKeys (errors.map .onError) = [] :=
  answerKeys_eq_nil fun output houtput => by
    obtain ⟨error, -, rfl⟩ := List.mem_map.mp houtput
    rfl

theorem answerKeys_setDscp (dscp : Option ℤ) : answerKeys (dscp.map .setDscp).toList = [] := by
  cases dscp <;> rfl

theorem answerKeys_report (mode : CastMode) (receivers : ConfiguredReceivers) :
    answerKeys [report mode receivers] = [] := by
  cases mode <;> rfl

/-- `InitializeSession` sends one ANSWER, whatever it finds. -/
theorem Initialized.answerKeys (h : Initialized s properties outputs t) :
    answerKeys outputs = [(properties.senderId, properties.sequenceNumber)] := by
  cases h with
  | refused dscp hinvalid =>
    rw [answerKeys_append, answerKeys_setDscp]
    rfl
  | negotiated dscp hasRpcMessenger hvalid hspawned =>
    -- the receivers of the last negotiation are destroyed after the ANSWER
    rcases hspawned.outputs with rfl | rfl
    · simp only [answerKeys_append, answerKeys_setDscp, answerKeys_report]
      rfl
    · simp only [answerKeys_append, answerKeys_setDscp, answerKeys_report]
      rfl

/-- `InitializeSession` does not touch the pending OFFER or the socket. -/
theorem Initialized.same (h : Initialized s properties outputs t) :
    t.pendingOffer = s.pendingOffer ∧ t.socketState = s.socketState := by
  cases h with
  | refused => exact ⟨rfl, rfl⟩
  | negotiated dscp hasRpcMessenger hvalid hspawned =>
    obtain ⟨rpc, rfl⟩ := hspawned.state
    exact ⟨rfl, rfl⟩

/-- An OFFER that is accepted is answered, or it waits. -/
theorem Accepted.answerKeys (h : Accepted s properties outputs t) :
    answerKeys outputs ++ t.pendingKeys = [(properties.senderId, properties.sequenceNumber)] := by
  cases h with
  | pending hstate => rfl
  | initialized hstate hinitialized =>
    rw [hinitialized.answerKeys, pendingKeys, hinitialized.same.1]
    rfl
  | failed hstate => rfl

/-- **One step keeps the account**: what waited and what arrived is what is answered and what waits
now. -/
theorem Stepped.perm (h : Stepped base64 s event outputs t) :
    (s.pendingKeys ++ (offerOf base64 event).toList).Perm
      (answerKeys outputs ++ t.pendingKeys) := by
  cases h with
  | quiet hoffer hquiet => simp [hoffer, answerKeys_eq_nil hquiet]
  | rejected hoffer code description errors =>
    rw [← List.singleton_append, answerKeys_append, answerKeys_errors, hoffer]
    -- the OFFER that waits is older than the one that is answered here
    exact List.perm_append_comm
  | accepted hoffer hproperties hselected haccepted =>
    rw [answerKeys_append, answerKeys_pendingReply, List.append_assoc, haccepted.answerKeys, hoffer]
    rfl
  | ready hpending => simp [pendingKeys, hpending, offerOf, ReceiverSession.answerKeys]
  | readyPending hpending hinitialized =>
    rw [hinitialized.answerKeys]
    simp [pendingKeys, hpending, offerOf]
  | invalid =>
    have herror : ReceiverSession.answerKeys [.onError .socketFailure] = [] := rfl
    rw [answerKeys_append, answerKeys_pendingReply, herror]
    simp [pendingKeys, offerOf]

/-- An OFFER waits only while the socket is starting. -/
def WaitsForSocket (s : ReceiverSession) : Prop :=
  s.pendingOffer ≠ none → s.socketState = .starting

theorem Stepped.waitsForSocket (h : Stepped base64 s event outputs t) (hs : s.WaitsForSocket) :
    t.WaitsForSocket := by
  cases h with
  | quiet => exact hs
  | rejected => exact hs
  | accepted hoffer hproperties hselected haccepted =>
    intro hpending
    cases haccepted with
    | pending hstate => exact hstate
    | initialized hstate hinitialized => exact absurd hinitialized.same.1 hpending
    | failed hstate => exact absurd rfl hpending
  | ready hnone => exact fun hpending => absurd hnone hpending
  | readyPending => exact fun hpending => absurd rfl hpending
  | invalid => exact fun hpending => absurd rfl hpending

/-- **Every OFFER gets exactly one ANSWER**, to its sender and with its number, except for the OFFER
that waits for the socket to start. -/
theorem offers_perm_answers
    (h : Run (Steps base64) (new constraints socketState localPort) labels s) :
    (offers base64 labels).Perm (answers labels ++ s.pendingKeys) ∧ s.WaitsForSocket := by
  induction h with
  | nil => exact ⟨List.Perm.refl _, fun hpending => absurd rfl hpending⟩
  | @snoc u v labels label hrun hstep ih =>
    obtain ⟨hperm, hwaits⟩ := ih
    have hstepped := step_stepped (Sound.of_run hrun) hstep
    refine ⟨?_, hstepped.waitsForSocket hwaits⟩
    have hoffers : offers base64 (labels ++ [label]) =
        offers base64 labels ++ (offerOf base64 label.1).toList := by
      simp only [offers, List.filterMap_append]
      cases hoffer : offerOf base64 label.1 <;> simp [hoffer]
    have hanswers : answers (labels ++ [label]) = answers labels ++ answerKeys label.2 := by
      simp [answers]
    rw [hoffers, hanswers, List.append_assoc]
    -- the account of the run, then that of its last step
    refine (hperm.append_right _).trans ?_
    rw [List.append_assoc]
    exact hstepped.perm.append_left _

/-- A base64 that decodes nothing. -/
def noBase64 : Base64 := ⟨fun _ => "", fun _ => none⟩

/-- An OFFER of one sender. -/
def offerEvent (sequenceNumber audioSsrc videoSsrc : ℚ) : Event :=
  .message "sender-0" kCastWebrtcNamespace
    (some (offerOfSsrcs sequenceNumber audioSsrc videoSsrc)) fun _ => true

/-- What a step that succeeds does. -/
def resultOf (s : ReceiverSession) (event : Event) : List Output × ReceiverSession :=
  match s.step noBase64 event with
  | .ok result => result
  | .error _ => ([], s)

/-- The first of two OFFERs is interrupted by the second, which waits. -/
theorem offers_perm_answers_interrupted :
    let first := resultOf (new {} .starting 0) (offerEvent 1 7 8)
    let second := resultOf first.2 (offerEvent 2 7 8)
    let labels := [(offerEvent 1 7 8, first.1), (offerEvent 2 7 8, second.1)]
    answers labels = [("sender-0", 1)] ∧ second.2.pendingKeys = [("sender-0", 2)] ∧
      (offers noBase64 labels).Perm [("sender-0", 1), ("sender-0", 2)] ∧
      second.2.socketState = .starting := by
  intro first second labels
  have hfirst : Steps noBase64 (new {} .starting 0) (offerEvent 1 7 8, first.1) first.2 := by
    unfold Steps
    decide +kernel
  have hsecond : Steps noBase64 first.2 (offerEvent 2 7 8, second.1) second.2 := by
    unfold Steps
    decide +kernel
  have hanswers : answers labels = [("sender-0", 1)] := by decide +kernel
  have hpending : second.2.pendingKeys = [("sender-0", 2)] := by decide +kernel
  obtain ⟨hperm, hwaits⟩ := offers_perm_answers ((Run.single hfirst).snoc hsecond)
  refine ⟨hanswers, hpending, ?_, hwaits (by decide +kernel)⟩
  change (offers noBase64 labels).Perm (answers labels ++ second.2.pendingKeys) at hperm
  rwa [hanswers, hpending] at hperm

end Counting

section Backing

variable {base64 : Base64} {s t : ReceiverSession} {properties : PendingOffer} {event : Event}
  {outputs : List Output} {constraints : ReceiverConstraints} {socketState : SocketState}
  {localPort : UInt16} {senderId : String} {message : ReceiverMessage}

/-! ### The receivers of a successful ANSWER -/

/-- The selected streams, each with the receiver that the client was given for its kind. -/
def selectedReceivers (properties : PendingOffer) (receivers : ConfiguredReceivers) :
    List (Stream × Option StreamConfig) :=
  (properties.selectedAudio.map fun audio => (audio.stream, receivers.audioReceiver)).toList ++
    (properties.selectedVideo.map fun video => (video.stream, receivers.videoReceiver)).toList

/-- The index and the SSRC that the ANSWER lists are those of a stream whose receiver exists, is
valid and is registered for the SSRC of the stream. -/
structure IsServed (registered : List Ssrc) (index : ℤ) (ssrc : Ssrc) (stream : Stream)
    (config : StreamConfig) : Prop where
  index : index = stream.index
  isValid : config.isValid = true
  senderSsrc : config.senderSsrc = stream.ssrc
  registered : stream.ssrc ∈ registered
  receiverSsrc : config.receiverSsrc = ssrc

/-- **The ANSWER is backed**: its entries are the selected streams in order, and each is served. -/
structure Backed (answer : Answer) (properties : PendingOffer) (receivers : ConfiguredReceivers)
    (registered : List Ssrc) : Prop where
  length : answer.sendIndexes.length = answer.ssrcs.length
  served : List.Forall₂
    (fun (entry : ℤ × Ssrc) (p : Stream × Option StreamConfig) =>
      ∃ config, p.2 = some config ∧ IsServed registered entry.1 entry.2 p.1 config)
    (answer.sendIndexes.zip answer.ssrcs) (selectedReceivers properties receivers)

/-- What `SessionConfig::IsValid()` asks of a stream and the parser of the OFFER does not. The last
SSRC is followed by 0. -/
structure HasKeys (stream : Stream) : Prop where
  ssrc_ne_zero : stream.ssrc ≠ 0
  ssrc_ne_last : stream.ssrc ≠ 0xffffffff
  aesKey_ne_zero : stream.aesKey ≠ 0
  aesIvMask_ne_zero : stream.aesIvMask ≠ 0

/-- The SSRC of the receiver is 0 for the last SSRC alone. -/
theorem Ssrc.succ_eq_zero_iff {ssrc : Ssrc} : ssrc + 1 = 0 ↔ ssrc = 0xffffffff := by
  rw [← UInt32.toNat_inj, ← UInt32.toNat_inj, UInt32.toNat_add]
  have hlt := ssrc.toNat_lt
  simp only [UInt32.toNat_one, UInt32.toNat_zero, UInt32.reduceToNat]
  omega

/-- A parsed stream gets a receiver exactly when it has its keys. -/
theorem isValid_receiverConfig_iff {stream : Stream} (h : stream.IsParsed) :
    (receiverConfig stream).isValid = true ↔ HasKeys stream := by
  rw [StreamConfig.isValid_iff]
  constructor
  · rintro ⟨hssrc, hnext, -, -, hkey, hmask⟩
    exact ⟨hssrc, fun hlast => hnext (Ssrc.succ_eq_zero_iff.mpr hlast), hkey, hmask⟩
  · rintro ⟨hssrc, hlast, hkey, hmask⟩
    exact ⟨hssrc, fun hnext => hlast (Ssrc.succ_eq_zero_iff.mp hnext), h.rtpTimebase_pos,
      h.channels_pos, hkey, hmask⟩

variable {receivers : ConfiguredReceivers}

theorem selectedReceivers_eq {outputs : List Output}
    (h : Spawned s properties outputs receivers t) :
    selectedReceivers properties receivers =
      (selected properties).map fun stream => (stream, receiverOf stream) := by
  rw [selectedReceivers, selected, h.audioReceiver, h.videoReceiver]
  cases properties.selectedAudio <;> cases properties.selectedVideo <;> rfl

/-- Exactly the streams with a receiver are in the router. -/
theorem registered_eq {outputs : List Output} (h : Spawned s properties outputs receivers t) :
    t.registered = ((selected properties).filterMap receiverOf).map (·.senderSsrc) := by
  obtain ⟨hasRpcMessenger, rfl⟩ := h.state
  have hlist : ∀ o : Option Stream, (o.bind receiverOf).toList = o.toList.filterMap receiverOf := by
    intro o
    cases o with
    | none => rfl
    | some stream => cases hof : receiverOf stream <;> simp [hof]
  rw [selected, List.filterMap_append, ← hlist, ← hlist, ← h.audioReceiver, ← h.videoReceiver]

/-- The entries of an ANSWER are those of the selected streams. -/
theorem zip_answerOf (s : ReceiverSession) (properties : PendingOffer) :
    (s.answerOf properties).sendIndexes.zip (s.answerOf properties).ssrcs =
      (selected properties).map fun stream => (stream.index, stream.ssrc + 1) :=
  List.zip_map'

/-- The ANSWER is backed when the configuration of every selected stream is valid. -/
theorem Spawned.backed_answerOf {outputs : List Output}
    (h : Spawned s properties outputs receivers t) :
    Backed (s.answerOf properties) properties receivers t.registered ↔
      ∀ stream ∈ selected properties, (receiverConfig stream).isValid = true := by
  have hmem : ∀ stream ∈ selected properties, (receiverConfig stream).isValid = true →
      stream.ssrc ∈ t.registered := by
    intro stream hstream hvalid
    rw [registered_eq h]
    have hof : receiverOf stream = some (receiverConfig stream) :=
      receiverOf_eq_some.mpr ⟨rfl, hvalid⟩
    exact List.mem_map.mpr
      ⟨receiverConfig stream, List.mem_filterMap.mpr ⟨stream, hstream, hof⟩, rfl⟩
  constructor
  · rintro ⟨-, hserved⟩ stream hstream
    rw [zip_answerOf, selectedReceivers_eq h, List.forall₂_map_left_iff, List.forall₂_map_right_iff,
      List.forall₂_same] at hserved
    obtain ⟨config, hof, -⟩ := hserved stream hstream
    exact (receiverOf_eq_some.mp hof).2
  · intro hvalid
    refine ⟨by simp [answerOf], ?_⟩
    rw [zip_answerOf, selectedReceivers_eq h, List.forall₂_map_left_iff, List.forall₂_map_right_iff,
      List.forall₂_same]
    intro stream hstream
    have hconfig := hvalid stream hstream
    exact ⟨receiverConfig stream, receiverOf_eq_some.mpr ⟨rfl, hconfig⟩,
      ⟨rfl, hconfig, rfl, hmem stream hstream hconfig, rfl⟩⟩

/-- The streams of a parsed OFFER are parsed. -/
theorem IsSelectedFrom.stream_isParsed {offer : Offer} (h : IsSelectedFrom properties offer) :
    ∀ stream ∈ selected properties, stream.IsParsed := by
  obtain ⟨root, hroot⟩ := h.isParsed
  have hparsed := Offer.isParsed_of_tryParse hroot
  intro stream hstream
  rw [selected, List.mem_append, Option.mem_toList, Option.mem_toList, Option.map_eq_some_iff,
    Option.map_eq_some_iff] at hstream
  rcases hstream with ⟨audio, haudio, rfl⟩ | ⟨video, hvideo, rfl⟩
  · exact hparsed.audio audio (h.audio audio haudio)
  · exact hparsed.video video (h.video video hvideo)

/-- The ANSWER with result ok to an OFFER, with the receivers that the client is given. It lists the
selected streams. -/
structure Negotiated (properties : PendingOffer) (senderId : String) (message : ReceiverMessage)
    (outputs : List Output) (registered : List Ssrc) (answer : Answer)
    (receivers : ConfiguredReceivers) : Prop where
  senderId : senderId = properties.senderId
  message : message = okAnswer properties.sequenceNumber answer
  indexes : answer.sendIndexes = (selected properties).map (·.index)
  ssrcs : answer.ssrcs = (selected properties).map (·.ssrc + 1)
  reported : report properties.mode receivers ∈ outputs
  backed : Backed answer properties receivers registered ↔
    ∀ stream ∈ selected properties, (receiverConfig stream).isValid = true

/-- The output is an ANSWER with result ok. -/
def Output.isOk : Output → Bool
  | .post _ message => message.type = .answer && message.valid
  | _ => false

theorem not_isOk_pendingReply (pending : Option PendingOffer) (code : ErrorCode)
    (description : String) :
    ∀ output ∈ pendingReply pending code description, output.isOk = false := by
  intro output houtput
  cases pending with
  | none => cases houtput
  | some pending =>
    obtain rfl := List.mem_singleton.mp houtput
    rfl

/-- `InitializeSession` sends the ANSWER with result ok that it builds the receivers for. -/
theorem Initialized.negotiated_of_mem (h : Initialized s properties outputs t)
    (hmem : .post senderId message ∈ outputs)
    (hok : (Output.post senderId message).isOk = true) :
    ∃ answer receivers,
      Negotiated properties senderId message outputs t.registered answer receivers := by
  cases h with
  | refused dscp hinvalid =>
    rw [List.mem_append, List.mem_singleton] at hmem
    rcases hmem with hmem | hmem
    · simp at hmem
    · cases hmem
      cases hok
  | @negotiated dscp destroyed receivers t hasRpcMessenger hvalid hspawned =>
    refine ⟨s.answerOf properties, receivers, ?_⟩
    have hpost : senderId = properties.senderId ∧
        message = okAnswer properties.sequenceNumber (s.answerOf properties) := by
      simp only [List.mem_append, List.mem_singleton] at hmem
      rcases hmem with ((hmem | hmem) | hmem) | hmem
      · simp at hmem
      · cases hmem
        exact ⟨rfl, rfl⟩
      · rcases hspawned.outputs with rfl | rfl <;> simp at hmem
      · cases hmode : properties.mode <;> simp [report, hmode] at hmem
    exact ⟨hpost.1, hpost.2, rfl, rfl, by simp, hspawned.backed_answerOf⟩

/-- The streams were selected from an OFFER of the run, with its sender and its number. -/
def Delivered (base64 : Base64) (labels : List Label) (properties : PendingOffer) (offer : Offer) :
    Prop :=
  IsSelectedFrom properties offer ∧ ∃ label ∈ labels,
    offerOf base64 label.1 = some (properties.senderId, properties.sequenceNumber) ∧
      deliveredOffer base64 label.1 = some offer

theorem Delivered.mono {labels labels' : List Label} {offer : Offer}
    (h : Delivered base64 labels properties offer) (hsub : labels ⊆ labels') :
    Delivered base64 labels' properties offer := by
  obtain ⟨hselected, label, hlabel, hoffer⟩ := h
  exact ⟨hselected, label, hsub hlabel, hoffer⟩

/-- **The OFFER that waits is one of the run.** -/
theorem pending_delivered {labels : List Label} {pending : PendingOffer}
    (h : Run (Steps base64) (new constraints socketState localPort) labels s)
    (hpending : s.pendingOffer = some pending) :
    ∃ offer, Delivered base64 labels pending offer := by
  induction h with
  | nil => cases hpending
  | @snoc u v labels label hrun hstep ih =>
    -- the pending OFFER of the state before is still one of the longer run
    have hkeep : u.pendingOffer = some pending →
        ∃ offer, Delivered base64 (labels ++ [label]) pending offer := fun hu =>
      (ih hu).imp fun _ hdelivered => hdelivered.mono (List.subset_append_left _ _)
    obtain ⟨event, outputs⟩ := label
    generalize hl : labels ++ [(event, outputs)] = all at hkeep ⊢
    cases step_stepped (Sound.of_run hrun) hstep with
    | quiet => exact hkeep hpending
    | rejected => exact hkeep hpending
    | accepted hoffer hproperties hselected haccepted =>
      obtain ⟨offer, hdelivered, hfrom⟩ := hselected
      cases haccepted with
      | pending hstate =>
        cases hpending
        exact ⟨offer, hfrom, _, hl ▸ List.mem_append_right _ (List.mem_singleton_self _), hoffer,
          hdelivered⟩
      | initialized hstate hinitialized => cases hinitialized.same.1.symm.trans hpending
      | failed hstate => cases hpending
    | ready hnone => exact hkeep hpending
    | readyPending => cases hpending
    | invalid => cases hpending

/-- A step that sends an ANSWER with result ok is one that initializes the session, for the OFFER
that it delivers or for the one that waited. -/
theorem Stepped.negotiated_of_mem (h : Stepped base64 s event outputs t)
    (hmem : .post senderId message ∈ outputs)
    (hok : (Output.post senderId message).isOk = true) :
    ∃ properties answer receivers,
      ((∃ offer, Delivered base64 [(event, outputs)] properties offer) ∨
        s.pendingOffer = some properties) ∧
      Negotiated properties senderId message outputs t.registered answer receivers := by
  cases h with
  | quiet hoffer hquiet =>
    have hanswer := hquiet _ hmem
    simp only [Output.isAnswer, Output.isOk, Bool.and_eq_true] at hanswer hok
    exact absurd hok.1 (Bool.eq_false_iff.mp hanswer)
  | rejected hoffer code description errors =>
    rw [List.mem_cons] at hmem
    rcases hmem with hmem | hmem
    · cases hmem
      cases hok
    · simp at hmem
  | accepted hoffer hproperties hselected haccepted =>
    obtain ⟨offer, hdelivered, hfrom⟩ := hselected
    rcases List.mem_append.mp hmem with hmem | hmem
    · exact absurd hok (Bool.eq_false_iff.mp (not_isOk_pendingReply _ _ _ _ hmem))
    cases haccepted with
    | pending hstate => cases hmem
    | initialized hstate hinitialized =>
      obtain ⟨answer, receivers, hnegotiated⟩ := hinitialized.negotiated_of_mem hmem hok
      exact ⟨_, answer, receivers,
        Or.inl ⟨offer, hfrom, _, List.mem_singleton_self _, hoffer, hdelivered⟩,
        { hnegotiated with reported := List.mem_append_right _ hnegotiated.reported }⟩
    | failed hstate =>
      obtain hmem := List.mem_singleton.mp hmem
      cases hmem
      cases hok
  | ready hpending => cases hmem
  | @readyPending port pending outputs t hpending hinitialized =>
    obtain ⟨answer, receivers, hnegotiated⟩ := hinitialized.negotiated_of_mem hmem hok
    exact ⟨pending, answer, receivers, Or.inr hpending, hnegotiated⟩
  | invalid =>
    rcases List.mem_append.mp hmem with hmem | hmem
    · exact absurd hok (Bool.eq_false_iff.mp (not_isOk_pendingReply _ _ _ _ hmem))
    · simp at hmem

/-- **A successful ANSWER is backed by receivers exactly when every selected stream has its keys.**
The streams are those of an OFFER of the run that the parser accepted, the ANSWER lists their
indexes and the SSRCs that follow theirs, and the router is looked at right after the step. -/
theorem backed_iff {pre post : List Label}
    (h : Run (Steps base64) (new constraints socketState localPort)
      (pre ++ (event, outputs) :: post) t)
    (hmem : .post senderId message ∈ outputs) (htype : message.type = .answer)
    (hok : message.valid = true) :
    ∃ u offer properties answer receivers,
      Run (Steps base64) (new constraints socketState localPort) (pre ++ [(event, outputs)]) u ∧
      Delivered base64 (pre ++ [(event, outputs)]) properties offer ∧
      senderId = properties.senderId ∧ message = okAnswer properties.sequenceNumber answer ∧
      answer.sendIndexes = (selected properties).map (·.index) ∧
      answer.ssrcs = (selected properties).map (·.ssrc + 1) ∧
      report properties.mode receivers ∈ outputs ∧
      (Backed answer properties receivers u.registered ↔
        ∀ stream ∈ selected properties, HasKeys stream) := by
  obtain ⟨s, hpre, hrest⟩ := h.split
  obtain ⟨u, hstep, -⟩ := hrest.uncons
  obtain ⟨properties, answer, receivers, hsource, hnegotiated⟩ :=
    (step_stepped (Sound.of_run hpre) hstep).negotiated_of_mem hmem
      (by simp [Output.isOk, htype, hok])
  have hdelivered : ∃ offer, Delivered base64 (pre ++ [(event, outputs)]) properties offer := by
    rcases hsource with ⟨offer, hnow⟩ | hpending
    · exact ⟨offer, hnow.mono (List.subset_append_right _ _)⟩
    · obtain ⟨offer, hbefore⟩ := pending_delivered hpre hpending
      exact ⟨offer, hbefore.mono (List.subset_append_left _ _)⟩
  obtain ⟨offer, hdelivered⟩ := hdelivered
  refine ⟨u, offer, properties, answer, receivers, hpre.snoc hstep, hdelivered,
    hnegotiated.senderId, hnegotiated.message, hnegotiated.indexes, hnegotiated.ssrcs,
    hnegotiated.reported, hnegotiated.backed.trans ?_⟩
  exact forall₂_congr fun stream hstream =>
    isValid_receiverConfig_iff (hdelivered.1.stream_isParsed stream hstream)

/-- The ANSWER to an OFFER with two streams. -/
def answerWith (ssrcs : List Ssrc) : Answer where
  udpPort := 2344
  sendIndexes := [0, 1]
  ssrcs
  receiverRtcpEventLog := [0]

/-- An OFFER with the SSRCs 7 and 8 is answered with 8 and 9. -/
theorem backed_iff_twoStreams :
    let result := resultOf (new {} .ready 2344) (offerEvent 1 7 8)
    .post "sender-0" (okAnswer 1 (answerWith [8, 9])) ∈ result.1 ∧
    ∃ u properties receivers, (selected properties).map (·.index) = [0, 1] ∧
      (selected properties).map (·.ssrc + 1) = [8, 9] ∧
      report properties.mode receivers ∈ result.1 ∧
      (Backed (answerWith [8, 9]) properties receivers (registered u) ↔
        ∀ stream ∈ selected properties, HasKeys stream) := by
  intro result
  have hstep : Steps noBase64 (new {} .ready 2344) (offerEvent 1 7 8, result.1) result.2 := by
    unfold Steps
    decide +kernel
  have hmem : .post "sender-0" (okAnswer 1 (answerWith [8, 9])) ∈ result.1 := by decide +kernel
  have hrun : Run (Steps noBase64) (new {} .ready 2344)
      ([] ++ (offerEvent 1 7 8, result.1) :: []) result.2 :=
    Run.single hstep
  obtain ⟨u, offer, properties, answer, receivers, -, -, -, hmessage, hindexes, hssrcs, hreport,
    hbacked⟩ := backed_iff hrun hmem rfl rfl
  obtain rfl := ReceiverMessageBody.answer.inj (congrArg ReceiverMessage.body hmessage)
  exact ⟨hmem, u, properties, receivers, hindexes.symm, hssrcs.symm, hreport, hbacked⟩

/-- The SSRC of the audio stream is the last one. The ANSWER lists the stream, but the client is
given no receiver for it. -/
theorem not_backed_lastSsrc :
    let result := resultOf (new {} .ready 2344) (offerEvent 1 4294967295 8)
    Run (Steps noBase64) (new {} .ready 2344) [(offerEvent 1 4294967295 8, result.1)] result.2 ∧
    .post "sender-0" (okAnswer 1 (answerWith [0, 9])) ∈ result.1 ∧
    ∃ receivers, .onNegotiated receivers ∈ result.1 ∧ receivers.audioReceiver = none ∧
      result.2.registered = [8] := by
  intro result
  have hstep : Steps noBase64 (new {} .ready 2344)
      (offerEvent 1 4294967295 8, result.1) result.2 := by
    unfold Steps
    decide +kernel
  have hany : result.1.any (fun output =>
      match output with
      | .onNegotiated receivers => receivers.audioReceiver = none
      | _ => false) = true := by
    decide +kernel
  obtain ⟨output, hmem, hnone⟩ := List.any_eq_true.mp hany
  refine ⟨Run.single hstep, by decide +kernel, ?_⟩
  cases output with
  | onNegotiated receivers =>
    exact ⟨receivers, hmem, of_decide_eq_true hnone, by decide +kernel⟩
  | _ => cases hnone

end Backing

end ReceiverSession

end StreamerPlus
