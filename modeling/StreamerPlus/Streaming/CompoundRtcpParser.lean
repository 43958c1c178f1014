import StreamerPlus.Streaming.CompoundRtcpBuilder

/-!
# `CompoundRtcpParser`

The sender's parser of the receiver's RTCP packets (`compound_rtcp_parser.cc`). A compound
packet is parsed to its end before anything is dispatched; the result is then either rejected,
ignored because a packet with a later reference time has been seen, or dispatched to the
client as one record, whose parts the client is told in the order of the fields of `Dispatch`.

A payload has at most `4 * 65535` bytes, so the conversions of its size to `int` are exact and
are left out. `ParseApplicationDefined` reads eight bytes without a check: a shorter payload is
the fault of this parser.
-/

namespace StreamerPlus

open Checked ExpandedValue

/-- The results of the `ParseXYZ()` methods. A time that has not been set is `none`. -/
structure RtcpParseResults where
  receiverReferenceTime : Option ℤ := none
  receiverReport : Option RtcpReportBlock := none
  logMessages : List RtcpReceiverFrameLogMessage := []
  checkpointFrameId : Option ℤ := none
  targetPlayoutDelay : ℤ := 0
  receivedFrames : List ℤ := []
  packetNacks : List PacketNack := []
  pictureLossIndicator : Bool := false
  deriving DecidableEq, Repr

/-- `CompoundRtcpParser`. -/
structure CompoundRtcpParser where
  latestReceiverTimestamp : Option ℤ := none
  latestFrameLogRtpTimestamp : ℤ := 0
  deriving DecidableEq, Repr

namespace CompoundRtcpParser

/-! ### NACK lists -/

/-- The order of the NACK sort: `kAllPacketsLost` comes before the other packets of a frame. -/
def NackLE (a b : PacketNack) : Prop :=
  a.frameId < b.frameId ∨
    a.frameId = b.frameId ∧ (a.packetId + 1) % 0x10000 ≤ (b.packetId + 1) % 0x10000

instance : DecidableRel NackLE := fun _ _ => inferInstanceAs (Decidable (_ ∨ _))

/-- The pass over the sorted list that drops duplicates, and the other packets of a frame of
which all packets are lost. `kept` is the last element kept. -/
def pruneNacks : PacketNack → List PacketNack → List PacketNack
  | kept, [] => [kept]
  | kept, nack :: nacks =>
    if nack.frameId ≠ kept.frameId ∨
        kept.packetId ≠ kAllPacketsLost ∧ nack.packetId ≠ kept.packetId then
      kept :: pruneNacks nack nacks
    else pruneNacks kept nacks

/-- `CanonicalizePacketNackVector(packets)`. -/
def canonicalizePacketNackVector (packets : List PacketNack) : List PacketNack :=
  match packets.insertionSort NackLE with
  | [] => []
  | nack :: nacks => pruneNacks nack nacks

/-! ### The parts of a compound packet

Each parser returns `none` for corrupt input. -/

variable (session : RtcpSession)

/-- `ParseReceiverReport(in, num_report_blocks, receiver_report)`. -/
def parseReceiverReport (payload : ByteView) (numReportBlocks : ℕ)
    (r : RtcpParseResults) : Except SpanFault (Option RtcpParseResults) := do
  if payload.length < kRtcpReceiverReportSize then return none
  let (ssrc, payload) ← consumeField 4 payload
  if ssrc = session.receiverSsrc.toNat then
    let report ← RtcpReportBlock.parseOne payload numReportBlocks session.senderSsrc
    return some { r with receiverReport := report }
  else return some r

/-- The events of one frame log; unknown ones are skipped. `none` is a short payload. -/
def parseLogEvents (base : ℤ) : ℕ → ByteView →
    Except SpanFault (Option (List RtcpReceiverEventLogMessage × ByteView))
  | 0, payload => .ok (some ([], payload))
  | n + 1, payload => do
    if payload.length < kRtcpReceiverFrameLogMessageBlockSize then return none
    let (delayDeltaOrPacketId, payload) ← consumeField 2 payload
    let (typeAndDelta, payload) ← consumeField 2 payload
    match ← parseLogEvents base n payload with
    | none => return none
    | some (events, payload) =>
      let type := statisticsEventTypeOf (typeAndDelta >>> 12)
      if type = .unknown then return some (events, payload)
      let timestamp := base + toDuration (typeAndDelta &&& 0xfff : ℕ)
      if type = .packetReceived then
        return some ({ type, timestamp, packetId := delayDeltaOrPacketId } :: events, payload)
      else
        let delay := toDuration ((delayDeltaOrPacketId : ℤ).bmod 0x10000)
        return some ({ type, timestamp, delay } :: events, payload)

/-- `ParseFrameLogMessages(in, messages)`, for at most `fuel` frames. The timestamp that later
frames are expanded from moves on with every complete frame, also when the packet is rejected
further on. -/
def parseFrameLogMessages (session : RtcpSession) : ℕ → ByteView → CompoundRtcpParser →
    RtcpParseResults → Except SpanFault (Option RtcpParseResults × CompoundRtcpParser)
  | 0, _, p, r => .ok (some r, p)
  | fuel + 1, payload, p, r => do
    if payload.isEmpty then return (some r, p)
    if payload.length < kRtcpReceiverFrameLogMessageHeaderSize then return (none, p)
    let (truncatedRtpTimestamp, payload) ← consumeField 4 payload
    let (data, payload) ← consumeField 4 payload
    let base := session.startTime + toDuration (data &&& 0xffffff : ℕ)
    let numEvents := 1 + data / 0x1000000 % 256
    let rtpTimestamp := expand 32 p.latestFrameLogRtpTimestamp truncatedRtpTimestamp
    match ← parseLogEvents base numEvents payload with
    | none => return (none, p)
    | some (messages, payload) =>
      parseFrameLogMessages session fuel payload
        { p with latestFrameLogRtpTimestamp := rtpTimestamp }
        { r with logMessages := r.logMessages ++ [{ rtpTimestamp, messages }] }

/-- `ParseApplicationDefined(subtype, in, messages)`. -/
def parseApplicationDefined (subtype : RtcpSubtype) (payload : ByteView)
    (p : CompoundRtcpParser) (r : RtcpParseResults) :
    Except SpanFault (Option RtcpParseResults × CompoundRtcpParser) := do
  let (ssrc, payload) ← consumeField 4 payload
  let (name, payload) ← consumeField 4 payload
  if ssrc ≠ session.receiverSsrc.toNat then return (some r, p)
  if name ≠ kCastName then return (if name = kTimeSyncRequestName then some r else none, p)
  if subtype = .receiverLog then parseFrameLogMessages session payload.length payload p r
  else return (some r, p)

/-- The loss fields: a NACK for the packet of each field, and one for each bit of its vector
unless all packets of the frame are lost. -/
def parseLossFields (feedbackFrameId : ℤ) : ℕ → ByteView →
    Except SpanFault (List PacketNack × ByteView)
  | 0, payload => .ok ([], payload)
  | n + 1, payload => do
    let (truncatedFrameId, payload) ← consumeField 1 payload
    let frameId := expandGreaterThan 8 feedbackFrameId truncatedFrameId
    let (packetId, payload) ← consumeField 2 payload
    let (bits, payload) ← consumeField 1 payload
    let more :=
      if packetId = kAllPacketsLost then []
      else (Bitmap.shiftOut 8 0 bits).map fun k => ⟨frameId, (packetId + 1 + k) % 0x10000⟩
    let (nacks, payload) ← parseLossFields feedbackFrameId n payload
    return (⟨frameId, packetId⟩ :: more ++ nacks, payload)

/-- The octets of the ACK vector. -/
def consumeOctets : ℕ → ByteView → Except SpanFault (List ℕ)
  | 0, _ => .ok []
  | n + 1, payload => do
    let (octet, payload) ← consumeField 1 payload
    let octets ← consumeOctets n payload
    return octet :: octets

/-- The optional CST2 feedback: the frames whose bits are set. -/
def parseAckFields (feedbackFrameId : ℤ) (payload : ByteView) :
    Except SpanFault (Option (List ℤ)) := do
  if payload.length < kRtcpFeedbackAckHeaderSize then return some []
  let (word, payload) ← consumeField 4 payload
  if word ≠ kRtcpCst2IdentifierWord then return some []
  let payload ← skip 1 payload
  let (ackBitvectorOctetCount, payload) ← consumeField 1 payload
  if payload.length < ackBitvectorOctetCount then return none
  let octets ← consumeOctets ackBitvectorOctetCount payload
  return some ((Bitmap.toList 0 octets).map fun k : ℕ => feedbackFrameId + 2 + k)

/-- `ParseFeedback(in, max_feedback_frame_id, ...)`. -/
def parseFeedback (payload : ByteView) (maxFeedbackFrameId : ℤ)
    (r : RtcpParseResults) : Except SpanFault (Option RtcpParseResults) := do
  if payload.length < kRtcpFeedbackHeaderSize then return none
  let (receiverSsrc, payload) ← consumeField 4 payload
  if receiverSsrc ≠ session.receiverSsrc.toNat then return some r
  let (senderSsrc, payload) ← consumeField 4 payload
  if senderSsrc ≠ session.senderSsrc.toNat then return some r
  let (word, payload) ← consumeField 4 payload
  if word ≠ kRtcpCastIdentifierWord then return none
  let (truncatedFrameId, payload) ← consumeField 1 payload
  let feedbackFrameId := expandLessThanOrEqual 8 maxFeedbackFrameId truncatedFrameId
  let (lossFieldCount, payload) ← consumeField 1 payload
  let (playoutDelay, payload) ← consumeField 2 payload
  if (r.checkpointFrameId.any fun frameId => decide (feedbackFrameId < frameId)) then
    return some r
  if payload.length < kRtcpFeedbackLossFieldSize * lossFieldCount then return none
  let (packetNacks, payload) ← parseLossFields feedbackFrameId lossFieldCount payload
  match ← parseAckFields feedbackFrameId payload with
  | none => return none
  | some receivedFrames =>
    return some
      { r with
        checkpointFrameId := some feedbackFrameId
        targetPlayoutDelay := playoutDelay
        receivedFrames
        packetNacks }

/-- The loop of `ParseExtendedReports`, for at most `fuel` blocks. -/
def parseExtendedReportBlocks (session : RtcpSession) : ℕ → ByteView → RtcpParseResults →
    Except SpanFault (Option RtcpParseResults)
  | 0, _, r => .ok (some r)
  | fuel + 1, payload, r => do
    if payload.isEmpty then return some r
    if payload.length < kRtcpExtendedReportBlockHeaderSize then return none
    let (blockType, payload) ← consumeField 1 payload
    let payload ← skip 1 payload
    let (words, payload) ← consumeField 2 payload
    let blockDataSize := words * 4
    if payload.length < blockDataSize then return none
    if blockType = kRtcpReceiverReferenceTimeReportBlockType then
      if blockDataSize ≠ 8 then return none
      let (timestamp, payload) ← consumeField 8 payload
      parseExtendedReportBlocks session fuel payload
        { r with receiverReferenceTime := some (session.ntpConverter.toLocalTime timestamp) }
    else
      let payload ← skip blockDataSize payload
      parseExtendedReportBlocks session fuel payload r

/-- `ParseExtendedReports(in, receiver_reference_time)`. -/
def parseExtendedReports (payload : ByteView) (r : RtcpParseResults) :
    Except SpanFault (Option RtcpParseResults) := do
  if payload.length < kRtcpExtendedReportHeaderSize then return none
  let (ssrc, payload) ← consumeField 4 payload
  if ssrc ≠ session.receiverSsrc.toNat then return some r
  parseExtendedReportBlocks session payload.length payload r

/-- `ParsePictureLossIndicator(in, picture_loss_indicator)`. -/
def parsePictureLossIndicator (payload : ByteView)
    (r : RtcpParseResults) : Except SpanFault (Option RtcpParseResults) := do
  if payload.length < kRtcpPictureLossIndicatorHeaderSize then return none
  let (receiverSsrc, payload) ← consumeField 4 payload
  if receiverSsrc ≠ session.receiverSsrc.toNat then return some r
  let (senderSsrc, _) ← consumeField 4 payload
  if senderSsrc ≠ session.senderSsrc.toNat then return some r
  return some { r with pictureLossIndicator := true }

/-! ### The whole packet -/

/-- The switch over the packet type. -/
def parsePart (maxFeedbackFrameId : ℤ) (header : RtcpCommonHeader)
    (payload : ByteView) (p : CompoundRtcpParser) (r : RtcpParseResults) :
    Except SpanFault (Option RtcpParseResults × CompoundRtcpParser) :=
  match header.packetType with
  | .receiverReport => do
    return (← parseReceiverReport session payload header.reportCount r, p)
  | .applicationDefined => parseApplicationDefined session header.subtype payload p r
  | .payloadSpecific =>
    match header.subtype with
    | .pictureLossIndicator => do return (← parsePictureLossIndicator session payload r, p)
    | .feedback => do return (← parseFeedback session payload maxFeedbackFrameId r, p)
    | _ => .ok (some r, p)
  | .extendedReports => do return (← parseExtendedReports session payload r, p)
  | _ => .ok (some r, p)

/-- The loop of `Parse` over the parts of a compound packet, of which there are at most `fuel`. -/
def parseParts (session : RtcpSession) (maxFeedbackFrameId : ℤ) : ℕ → ByteView →
    CompoundRtcpParser → RtcpParseResults →
    Except SpanFault (Option RtcpParseResults × CompoundRtcpParser)
  | 0, _, p, r => .ok (some r, p)
  | fuel + 1, buffer, p, r => do
    if buffer.isEmpty then return (some r, p)
    match ← RtcpCommonHeader.parse buffer with
    | none => return (none, p)
    | some header =>
      let buffer ← skip kRtcpCommonHeaderSize buffer
      if toInt32 buffer.length < header.payloadSize then return (none, p)
      match ← parsePart session maxFeedbackFrameId header (buffer.take header.payloadSize) p r with
      | (none, p) => return (none, p)
      | (some r, p) =>
        parseParts session maxFeedbackFrameId fuel (buffer.drop header.payloadSize) p r

/-- What the client is told, with the canonical NACK list: nothing for a corrupt packet
(`Parse` returns `false`) or an outdated one. -/
inductive Outcome
  | rejected | outdated | dispatched (r : RtcpParseResults)
  deriving DecidableEq, Repr

/-- What `Parse` does with the results of a well-formed packet: a packet with a reference time
before the latest one is ignored. -/
def dispatch (p : CompoundRtcpParser) (r : RtcpParseResults) : Outcome × CompoundRtcpParser :=
  let r' := { r with packetNacks := canonicalizePacketNackVector r.packetNacks }
  match r.receiverReferenceTime, p.latestReceiverTimestamp with
  | none, _ => (.dispatched r', p)
  | some t, some latest =>
    if t < latest then (.outdated, p)
    else (.dispatched r', { p with latestReceiverTimestamp := some t })
  | some t, none => (.dispatched r', { p with latestReceiverTimestamp := some t })

/-- `Parse(buffer, max_feedback_frame_id)`. -/
def parse (p : CompoundRtcpParser) (buffer : ByteView)
    (maxFeedbackFrameId : ℤ) : Except SpanFault (Outcome × CompoundRtcpParser) := do
  match ← parseParts session maxFeedbackFrameId buffer.length buffer p {} with
  | (none, p) => return (.rejected, p)
  | (some r, p) => return p.dispatch r

/-! ### The feedback

Only the Cast feedback writes the checkpoint, the playout delay and the lists of frames and
packets; the other sub-packets pass them on. -/

/-- The part of the results that the Cast feedback writes. -/
def feedback (r : RtcpParseResults) : Option ℤ × ℤ × List ℤ × List PacketNack :=
  (r.checkpointFrameId, r.targetPlayoutDelay, r.receivedFrames, r.packetNacks)

variable {session : RtcpSession} {p p' : CompoundRtcpParser} {r r' : RtcpParseResults}
  {payload buffer : ByteView} {max : ℤ}

/-- A part that is parsed passes on the feedback of `r`. -/
def KeepsFeedback (r : RtcpParseResults) (x : Except SpanFault (Option RtcpParseResults)) : Prop :=
  Checked.Outcome (fun o => ∀ r' ∈ o, feedback r' = feedback r) (fun _ => True) x

theorem keepsFeedback_none : KeepsFeedback r (pure none) := by simp [KeepsFeedback]

theorem keepsFeedback_some (h : feedback r' = feedback r) : KeepsFeedback r (pure (some r')) := by
  simpa [KeepsFeedback] using h

/-- What is computed on the way does not matter. -/
theorem keepsFeedback_bind {α : Type} {x : Except SpanFault α}
    {f : α → Except SpanFault (Option RtcpParseResults)} (h : ∀ a, KeepsFeedback r (f a)) :
    KeepsFeedback r (x >>= f) :=
  outcome_true.bind fun a _ => h a

theorem parseReceiverReport_keepsFeedback (n : ℕ) :
    KeepsFeedback r (parseReceiverReport session payload n r) := by
  unfold parseReceiverReport
  split_ifs
  · exact keepsFeedback_none
  · refine keepsFeedback_bind fun a => ?_
    dsimp only
    split_ifs
    · exact keepsFeedback_bind fun report => keepsFeedback_some rfl
    · exact keepsFeedback_some rfl

theorem parsePictureLossIndicator_keepsFeedback :
    KeepsFeedback r (parsePictureLossIndicator session payload r) := by
  unfold parsePictureLossIndicator
  split_ifs
  · exact keepsFeedback_none
  · refine keepsFeedback_bind fun a => ?_
    dsimp only
    split_ifs
    · exact keepsFeedback_some rfl
    · refine keepsFeedback_bind fun b => ?_
      split_ifs
      · exact keepsFeedback_some rfl
      · exact keepsFeedback_some rfl

theorem parseExtendedReportBlocks_keepsFeedback (fuel : ℕ) (h : feedback r' = feedback r) :
    KeepsFeedback r (parseExtendedReportBlocks session fuel payload r') := by
  induction fuel generalizing payload r' with
  | zero => exact keepsFeedback_some h
  | succ fuel ih =>
    unfold parseExtendedReportBlocks
    split_ifs
    · exact keepsFeedback_some h
    · exact keepsFeedback_none
    · refine keepsFeedback_bind fun a => keepsFeedback_bind fun b =>
        keepsFeedback_bind fun d => ?_
      dsimp only
      split_ifs
      · exact keepsFeedback_none
      · exact keepsFeedback_none
      · exact keepsFeedback_bind fun e => ih h
      · exact keepsFeedback_bind fun e => ih h

theorem parseExtendedReports_keepsFeedback :
    KeepsFeedback r (parseExtendedReports session payload r) := by
  unfold parseExtendedReports
  split_ifs
  · exact keepsFeedback_none
  · refine keepsFeedback_bind fun a => ?_
    dsimp only
    split_ifs
    · exact keepsFeedback_some rfl
    · exact parseExtendedReportBlocks_keepsFeedback _ rfl

theorem parseFrameLogMessages_keepsFeedback (fuel : ℕ) (h : feedback r' = feedback r) :
    Checked.Outcome (fun o => ∀ q ∈ o.1, feedback q = feedback r) (fun _ => True)
      (parseFrameLogMessages session fuel payload p r') := by
  induction fuel generalizing payload p r' with
  | zero => simpa [parseFrameLogMessages] using h
  | succ fuel ih =>
    unfold parseFrameLogMessages
    split_ifs
    · simpa using h
    · simp
    · refine outcome_true.bind fun a _ => outcome_true.bind fun b _ =>
        outcome_true.bind fun o _ => ?_
      cases o with
      | none => simp
      | some messages => exact ih h

theorem parseApplicationDefined_keepsFeedback (subtype : RtcpSubtype) :
    Checked.Outcome (fun o => ∀ q ∈ o.1, feedback q = feedback r) (fun _ => True)
      (parseApplicationDefined session subtype payload p r) := by
  unfold parseApplicationDefined
  refine outcome_true.bind fun a _ => outcome_true.bind fun b _ => ?_
  dsimp only
  split_ifs
  · simp
  · simp
  · simp
  · exact parseFrameLogMessages_keepsFeedback _ rfl
  · simp

/-- A sub-packet that is not a Cast feedback passes the feedback on. -/
theorem parsePart_keepsFeedback {header : RtcpCommonHeader}
    (h : ¬(header.packetType = .payloadSpecific ∧ header.subtype = .feedback)) :
    Checked.Outcome (fun o => ∀ q ∈ o.1, feedback q = feedback r) (fun _ => True)
      (parsePart session max header payload p r) := by
  unfold parsePart
  split
  · exact (parseReceiverReport_keepsFeedback _).bind fun o ho => ho
  · exact parseApplicationDefined_keepsFeedback _
  · rename_i htype
    split
    · exact parsePictureLossIndicator_keepsFeedback.bind fun o ho => ho
    · rename_i hsubtype
      exact absurd ⟨htype, hsubtype⟩ h
    · simp
  · exact parseExtendedReports_keepsFeedback.bind fun o ho => ho
  · simp

/-! ### The order of the acknowledged frames

`OnReceiverHasFrames` relies on a list in ascending order: its last element is the latest. -/

/-- The acknowledged frames are in ascending order. -/
def AcksSorted (r : RtcpParseResults) : Prop := r.receivedFrames.Pairwise (· < ·)

theorem AcksSorted.congr (h : AcksSorted r) (hr : feedback r' = feedback r) : AcksSorted r' := by
  simp only [feedback, Prod.mk.injEq] at hr
  rw [AcksSorted, hr.2.2.1]
  exact h

/-- The bits of the ACK vector are read from the lowest on. -/
theorem parseAckFields_sorted (feedbackFrameId : ℤ) :
    Checked.Outcome (fun o => ∀ frames ∈ o, frames.Pairwise (· < ·)) (fun _ => True)
      (parseAckFields feedbackFrameId payload) := by
  unfold parseAckFields
  split_ifs
  · simp
  · refine outcome_true.bind fun a _ => ?_
    dsimp only
    split_ifs
    · simp
    · refine outcome_true.bind fun b _ => outcome_true.bind fun d _ => ?_
      split_ifs
      · simp
      · refine outcome_true.bind fun octets _ => ?_
        rintro _ ⟨⟩
        refine List.Pairwise.map _ (fun a b hab => ?_) Bitmap.pairwise_toList
        omega

theorem parseFeedback_acksSorted (h : AcksSorted r) :
    Checked.Outcome (fun o => ∀ r' ∈ o, AcksSorted r') (fun _ => True)
      (parseFeedback session payload max r) := by
  have hsame : Checked.Outcome (fun o => ∀ r' ∈ o, AcksSorted r') (fun _ => True)
      (pure (some r) : Except SpanFault (Option RtcpParseResults)) := by simpa using h
  have hnone : Checked.Outcome (fun o => ∀ r' ∈ o, AcksSorted r') (fun _ => True)
      (pure none : Except SpanFault (Option RtcpParseResults)) := by simp
  unfold parseFeedback
  split_ifs
  · exact hnone
  · refine outcome_true.bind fun a _ => ?_
    dsimp only
    split_ifs
    · exact hsame
    · refine outcome_true.bind fun b _ => ?_
      split_ifs
      · exact hsame
      · refine outcome_true.bind fun d _ => ?_
        split_ifs
        · exact hnone
        · refine outcome_true.bind fun e _ => outcome_true.bind fun f _ =>
            outcome_true.bind fun g _ => ?_
          split_ifs
          · exact hsame
          · exact hnone
          · refine outcome_true.bind fun l _ => (parseAckFields_sorted _).bind fun o ho => ?_
            cases o with
            | none => exact hnone
            | some frames =>
              rintro _ ⟨⟩
              exact ho frames rfl

theorem parsePart_acksSorted (header : RtcpCommonHeader) (h : AcksSorted r) :
    Checked.Outcome (fun o => ∀ r ∈ o.1, AcksSorted r) (fun _ => True)
      (parsePart session max header payload p r) := by
  by_cases hfeedback : header.packetType = .payloadSpecific ∧ header.subtype = .feedback
  · simp only [parsePart, hfeedback]
    exact (parseFeedback_acksSorted h).bind fun o ho => ho
  · exact (parsePart_keepsFeedback hfeedback).mono (fun o ho q hq => h.congr (ho q hq)) fun _ => id

theorem parseParts_acksSorted (fuel : ℕ) (h : AcksSorted r) :
    Checked.Outcome (fun o => ∀ r ∈ o.1, AcksSorted r) (fun _ => True)
      (parseParts session max fuel buffer p r) := by
  induction fuel generalizing buffer p r with
  | zero => simpa [parseParts] using h
  | succ fuel ih =>
    unfold parseParts
    split_ifs
    · simpa using h
    · refine outcome_true.bind fun header _ => ?_
      cases header with
      | none => simp
      | some header =>
        refine outcome_true.bind fun rest _ => ?_
        generalize toInt32 rest.length = size
        split_ifs
        · simp
        · refine (parsePart_acksSorted header h).bind ?_
          rintro ⟨o, p'⟩ ho
          cases o with
          | none => simp
          | some r' => exact ih (ho r' rfl)

/-- **The client is told of acknowledged frames in ascending order.** -/
theorem receivedFrames_sorted (h : p.parse session buffer max = .ok (.dispatched r, p')) :
    r.receivedFrames.Pairwise (· < ·) := by
  rw [parse, bind_eq_ok] at h
  obtain ⟨⟨o, q⟩, hparts, h⟩ := h
  have hsorted := (parseParts_acksSorted buffer.length (r := {}) List.Pairwise.nil).of_ok hparts
  cases o with
  | none => cases h
  | some r' =>
    have hr' := hsorted r' rfl
    -- only the NACK list is changed before it is dispatched
    simp only [pure_eq_ok, Except.ok.injEq, dispatch] at h
    split at h
    · cases h
      exact hr'
    · split_ifs at h
      · cases h
      · cases h
        exact hr'
    · cases h
      exact hr'

end CompoundRtcpParser

end StreamerPlus
