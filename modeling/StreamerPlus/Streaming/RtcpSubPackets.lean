import StreamerPlus.Streaming.CompoundRtcpParser

/-!
# The sub-packets of a compound RTCP packet

`Parse` cuts a datagram into sub-packets and hands the payload of each to the parser of its
type (`compound_rtcp_parser.cc`). This module says what the parsers do with a payload, whatever
its bytes are: which of their reads may leave it, and what they do to the state that the
`CompoundRtcpParser` keeps between packets.

Main results:

* `succeeds_parse_iff`: no read leaves its payload exactly when every `APP` sub-packet that is
  handed over has the eight bytes that `ParseApplicationDefined` reads unchecked.
* `unchanged_iff_of_undispatched`: a packet that is rejected or outdated leaves the parser as it
  was exactly when the timestamps of its frame logs lead back to the one before them.
-/

namespace StreamerPlus

open Checked ExpandedValue

section Reads

variable {α : Type} {m n : ℕ} {view : ByteView}

/-- A read that fits goes on with the bytes after it. -/
theorem succeeds_consumeField_bind {f : ℕ × ByteView → Except SpanFault α}
    (h : m + n ≤ view.length) (hf : ∀ v rest, m ≤ rest.length → Succeeds (f (v, rest))) :
    Succeeds (consumeField n view >>= f) := by
  rw [consumeField_of_le (by omega), ok_bind]
  exact hf _ _ (by simp; omega)

theorem succeeds_skip_bind {f : ByteView → Except SpanFault α} (h : m + n ≤ view.length)
    (hf : ∀ rest, m ≤ rest.length → Succeeds (f rest)) : Succeeds (skip n view >>= f) := by
  rw [skip, if_pos (by omega), ok_bind]
  exact hf _ (by simp; omega)

/-- A check that returns early. -/
theorem succeeds_unless {c : Prop} [Decidable c] {a : α} {x : Except SpanFault α}
    (h : ¬c → Succeeds x) : Succeeds (if c then pure a else x) := by
  split_ifs with hc
  exacts [succeeds_pure, h hc]

/-- A read past the end faults. -/
theorem consumeField_of_lt (h : view.length < n) : consumeField n view = .error .outOfBounds := by
  cases hread : consumeField n view with
  | error e => rfl
  | ok a =>
    have := (consumeField_eq_ok hread).2
    omega

end Reads

/-- The header of a sub-packet is read inside of the datagram. -/
theorem RtcpCommonHeader.succeeds_parse (buffer : ByteView) :
    Succeeds (RtcpCommonHeader.parse buffer) := by
  unfold RtcpCommonHeader.parse
  refine succeeds_unless fun hsize => ?_
  refine succeeds_consumeField_bind (m := 3) (by simpa using hsize) fun byte0 rest h => ?_
  refine succeeds_unless fun _ => succeeds_consumeField_bind (m := 2) h fun byte1 rest h => ?_
  dsimp only
  split
  · exact succeeds_pure
  · exact succeeds_consumeField_bind (m := 0) h fun _ _ _ => succeeds_pure

/-- `ParseOne` reads the blocks that it has checked to be there. -/
theorem RtcpReportBlock.succeeds_parseBlocks {ssrc : Ssrc} {n : ℕ} {buffer : ByteView}
    {result : Option RtcpReportBlock} (h : 24 * n ≤ buffer.length) :
    Succeeds (parseBlocks ssrc n buffer result) := by
  induction n generalizing buffer result with
  | zero => exact succeeds_ok
  | succ n ih =>
    unfold parseBlocks
    refine succeeds_consumeField_bind (m := 24 * n + 20) (by omega) fun blockSsrc rest h => ?_
    dsimp only
    split_ifs
    · exact succeeds_skip_bind h fun rest h => ih h
    · refine succeeds_consumeField_bind h fun secondWord rest h => ?_
      refine succeeds_consumeField_bind h fun sequenceNumber rest h => ?_
      refine succeeds_consumeField_bind h fun jitter rest h => ?_
      refine succeeds_consumeField_bind h fun reportId rest h => ?_
      exact succeeds_consumeField_bind h fun delay rest h => ih h

namespace CompoundRtcpParser

variable {session : RtcpSession} {p p' : CompoundRtcpParser} {r : RtcpParseResults}
  {payload buffer : ByteView} {max : ℤ}

/-! ### The sub-packets -/

/-- A sub-packet: its header, and the bytes that the header declares to be its payload. -/
structure SubPacket where
  header : RtcpCommonHeader
  payload : ByteView
  deriving DecidableEq, Repr

/-- The sub-packet at the front of a datagram, and what follows it. There is none at the end of
the datagram, for a header that is corrupt, and where the payload is cut off. -/
def firstSubPacket (buffer : ByteView) : Option (SubPacket × ByteView) :=
  match RtcpCommonHeader.parse buffer with
  | .ok (some header) =>
    let rest := buffer.drop kRtcpCommonHeaderSize
    if toInt32 rest.length < header.payloadSize then none
    else some (⟨header, rest.take header.payloadSize⟩, rest.drop header.payloadSize)
  | _ => none

/-- The sub-packets that the loop of `Parse` hands to the parser of their type, up to the one
that is rejected. -/
def handedOver (session : RtcpSession) (maxFeedbackFrameId : ℤ) : ℕ → ByteView →
    CompoundRtcpParser → RtcpParseResults → List SubPacket
  | 0, _, _, _ => []
  | fuel + 1, buffer, p, r =>
    match firstSubPacket buffer with
    | none => []
    | some (s, rest) =>
      s :: match parsePart session maxFeedbackFrameId s.header s.payload p r with
        | .ok (some r, p) => handedOver session maxFeedbackFrameId fuel rest p r
        | _ => []

theorem firstSubPacket_of_parse {header : RtcpCommonHeader}
    (h : RtcpCommonHeader.parse buffer = .ok (some header)) :
    firstSubPacket buffer =
      if toInt32 (buffer.drop kRtcpCommonHeaderSize).length < header.payloadSize then none
      else some (⟨header, (buffer.drop kRtcpCommonHeaderSize).take header.payloadSize⟩,
        (buffer.drop kRtcpCommonHeaderSize).drop header.payloadSize) := by
  simp only [firstSubPacket, h]

/-- One round of the loop of `Parse`. -/
theorem parseParts_succ (fuel : ℕ) :
    parseParts session max (fuel + 1) buffer p r =
      match firstSubPacket buffer with
      | none => .ok (if buffer.isEmpty then some r else none, p)
      | some (s, rest) =>
        match parsePart session max s.header s.payload p r with
        | .ok (some r, p) => parseParts session max fuel rest p r
        | .ok (none, p) => .ok (none, p)
        | .error e => .error e := by
  rw [parseParts]
  by_cases hempty : buffer.isEmpty
  · obtain rfl := List.isEmpty_iff.mp hempty
    rfl
  · obtain ⟨header, hheader⟩ := RtcpCommonHeader.succeeds_parse buffer
    rw [if_neg hempty, if_neg hempty, hheader, ok_bind]
    cases header with
    | none => simp only [firstSubPacket, hheader, pure_eq_ok]
    | some header =>
      have hsize : kRtcpCommonHeaderSize ≤ buffer.length := by
        by_contra hlt
        rw [RtcpCommonHeader.parse, if_pos (not_le.mp hlt)] at hheader
        cases hheader
      rw [firstSubPacket_of_parse hheader]
      show (skip kRtcpCommonHeaderSize buffer >>= fun buffer => _) = _
      rw [skip, if_pos hsize, ok_bind]
      generalize toInt32 (buffer.drop kRtcpCommonHeaderSize).length = size
      by_cases hlong : size < header.payloadSize
      · rw [if_pos hlong, if_pos hlong]
        rfl
      · rw [if_neg hlong, if_neg hlong]
        dsimp only
        generalize parsePart session max header _ p r = x
        rcases x with e | ⟨o, q⟩
        · rfl
        · cases o <;> rfl

/-! ### The parsers of the payloads -/

theorem succeeds_parseReceiverReport (n : ℕ) :
    Succeeds (parseReceiverReport session payload n r) := by
  unfold parseReceiverReport
  refine succeeds_unless fun hsize => ?_
  refine succeeds_consumeField_bind (m := 0) (by simpa using hsize) fun ssrc rest _ => ?_
  dsimp only
  split_ifs
  · refine (succeeds_bind_iff fun _ => succeeds_pure).mpr (succeeds_unless fun hblocks => ?_)
    exact RtcpReportBlock.succeeds_parseBlocks (by simpa using hblocks)
  · exact succeeds_pure

theorem succeeds_parsePictureLossIndicator :
    Succeeds (parsePictureLossIndicator session payload r) := by
  unfold parsePictureLossIndicator
  refine succeeds_unless fun hsize => ?_
  refine succeeds_consumeField_bind (m := 4) (by simpa using hsize) fun receiverSsrc rest h => ?_
  refine succeeds_unless fun _ => succeeds_consumeField_bind (m := 0) h fun senderSsrc _ _ => ?_
  exact succeeds_unless fun _ => succeeds_pure

theorem succeeds_parseExtendedReportBlocks (fuel : ℕ) :
    Succeeds (parseExtendedReportBlocks session fuel payload r) := by
  induction fuel generalizing payload r with
  | zero => exact succeeds_ok
  | succ fuel ih =>
    unfold parseExtendedReportBlocks
    refine succeeds_unless fun _ => succeeds_unless fun hsize => ?_
    refine succeeds_consumeField_bind (m := 3) (by simpa using hsize) fun blockType rest h => ?_
    refine succeeds_skip_bind (m := 2) h fun rest h => ?_
    refine succeeds_consumeField_bind (m := 0) h fun words rest _ => ?_
    refine succeeds_unless fun hdata => ?_
    dsimp only
    split_ifs with htype hwords
    · exact succeeds_pure
    · exact succeeds_consumeField_bind (m := 0) (by omega) fun _ _ _ => ih
    · exact succeeds_skip_bind (m := 0) (by omega) fun _ _ => ih

theorem succeeds_parseExtendedReports : Succeeds (parseExtendedReports session payload r) := by
  unfold parseExtendedReports
  refine succeeds_unless fun hsize => ?_
  refine succeeds_consumeField_bind (m := 0) (by simpa using hsize) fun ssrc rest _ => ?_
  exact succeeds_unless fun _ => succeeds_parseExtendedReportBlocks _

/-- The loss fields take four bytes each. -/
theorem succeeds_parseLossFields {c : ℤ} {n : ℕ} (h : 4 * n ≤ payload.length) :
    Succeeds (parseLossFields c n payload) := by
  induction n generalizing payload with
  | zero => exact succeeds_ok
  | succ n ih =>
    unfold parseLossFields
    refine succeeds_consumeField_bind (m := 4 * n + 3) h fun truncatedFrameId rest h => ?_
    refine succeeds_consumeField_bind h fun packetId rest h => ?_
    refine succeeds_consumeField_bind h fun bits rest h => ?_
    exact (succeeds_bind_iff fun _ => succeeds_pure).mpr (ih h)

theorem succeeds_consumeOctets {n : ℕ} (h : n ≤ payload.length) :
    Succeeds (consumeOctets n payload) := by
  induction n generalizing payload with
  | zero => exact succeeds_ok
  | succ n ih =>
    unfold consumeOctets
    refine succeeds_consumeField_bind h fun octet rest h => ?_
    exact (succeeds_bind_iff fun _ => succeeds_pure).mpr (ih h)

theorem succeeds_parseAckFields (c : ℤ) : Succeeds (parseAckFields c payload) := by
  unfold parseAckFields
  refine succeeds_unless fun hsize => ?_
  refine succeeds_consumeField_bind (m := 2) (by simpa using hsize) fun word rest h => ?_
  refine succeeds_unless fun _ => succeeds_skip_bind (m := 1) h fun rest h => ?_
  refine succeeds_consumeField_bind (m := 0) h fun count rest _ => ?_
  refine succeeds_unless fun hcount => (succeeds_bind_iff fun _ => succeeds_pure).mpr ?_
  exact succeeds_consumeOctets (by omega)

theorem succeeds_parseFeedback : Succeeds (parseFeedback session payload max r) := by
  unfold parseFeedback
  refine succeeds_unless fun hsize => ?_
  refine succeeds_consumeField_bind (m := 12) (by simpa using hsize) fun receiverSsrc rest h => ?_
  refine succeeds_unless fun _ => succeeds_consumeField_bind (m := 8) h fun senderSsrc rest h => ?_
  refine succeeds_unless fun _ => succeeds_consumeField_bind (m := 4) h fun word rest h => ?_
  refine succeeds_unless fun _ => ?_
  refine succeeds_consumeField_bind (m := 3) h fun truncatedFrameId rest h => ?_
  refine succeeds_consumeField_bind (m := 2) h fun lossFieldCount rest h => ?_
  refine succeeds_consumeField_bind (m := 0) h fun playoutDelay rest _ => ?_
  refine succeeds_unless fun _ => succeeds_unless fun hcount => ?_
  refine (succeeds_bind_iff fun a => ?_).mpr (succeeds_parseLossFields (by simpa using hcount))
  refine (succeeds_bind_iff fun o => ?_).mpr (succeeds_parseAckFields _)
  cases o <;> exact succeeds_pure

/-! ### The frame logs

The RTP timestamp that the next frame log is expanded from is the only part of the parser's
state that is written before a packet is known to be good. -/

/-- The truncated RTP timestamps of the frame logs of a payload, up to the first one that is not
complete. -/
def frameLogTimestamps : ℕ → ByteView → List ℕ
  | 0, _ => []
  | fuel + 1, payload =>
    if payload.length < kRtcpReceiverFrameLogMessageHeaderSize then []
    else
      let data := BigEndian.decode ((payload.drop 4).take 4)
      let events := payload.drop kRtcpReceiverFrameLogMessageHeaderSize
      let size := kRtcpReceiverFrameLogMessageBlockSize * (1 + data / 0x1000000 % 256)
      if events.length < size then []
      else BigEndian.decode (payload.take 4) :: frameLogTimestamps fuel (events.drop size)

/-- The truncated RTP timestamps of the complete frame logs of a sub-packet: only an `APP`
sub-packet of the receiver under the name of Cast has any. -/
def SubPacket.frameLogTimestamps (session : RtcpSession) (s : SubPacket) : List ℕ :=
  let logs := s.payload.drop 8
  if s.header.packetType = .applicationDefined ∧ s.header.subtype = .receiverLog ∧
      8 ≤ s.payload.length ∧
      BigEndian.decode (s.payload.take 4) = session.receiverSsrc.toNat ∧
      BigEndian.decode ((s.payload.drop 4).take 4) = kCastName then
    CompoundRtcpParser.frameLogTimestamps logs.length logs
  else []

/-- The parser after frame logs with these truncated RTP timestamps. -/
def afterFrameLogs (p : CompoundRtcpParser) (timestamps : List ℕ) : CompoundRtcpParser :=
  { p with latestFrameLogRtpTimestamp := timestamps.foldl (expand 32) p.latestFrameLogRtpTimestamp }

@[simp]
theorem afterFrameLogs_nil : p.afterFrameLogs [] = p := rfl

theorem afterFrameLogs_append (l₁ l₂ : List ℕ) :
    p.afterFrameLogs (l₁ ++ l₂) = (p.afterFrameLogs l₁).afterFrameLogs l₂ := by
  simp [afterFrameLogs]

theorem afterFrameLogs_eq_self_iff {timestamps : List ℕ} :
    p.afterFrameLogs timestamps = p ↔
      timestamps.foldl (expand 32) p.latestFrameLogRtpTimestamp =
        p.latestFrameLogRtpTimestamp := by
  cases p
  simp [afterFrameLogs]

/-- The events of a frame log take four bytes each, and either all are there or none is read. -/
theorem outcome_parseLogEvents (base : ℤ) (n : ℕ) :
    Checked.Outcome
      (fun o => if payload.length < 4 * n then o = none
        else ∃ events, o = some (events, payload.drop (4 * n)))
      (fun _ => False) (parseLogEvents base n payload) := by
  induction n generalizing payload with
  | zero => exact ⟨[], rfl⟩
  | succ n ih =>
    unfold parseLogEvents
    by_cases hsize : payload.length < kRtcpReceiverFrameLogMessageBlockSize
    · have hsize' : payload.length < 4 * (n + 1) := by simp at hsize; omega
      rw [if_pos hsize]
      simp [hsize']
    · have hsize' : 4 ≤ payload.length := by simpa using hsize
      rw [if_neg hsize, consumeField_of_le (by omega), ok_bind]
      dsimp only
      rw [consumeField_of_le (by simp; omega), ok_bind, List.drop_drop]
      refine (@ih (payload.drop 4)).bind fun o ho => ?_
      have hiff : (payload.drop 4).length < 4 * n ↔ payload.length < 4 * (n + 1) := by
        simp
        omega
      simp only [hiff, List.drop_drop] at ho
      by_cases hall : payload.length < 4 * (n + 1)
      · rw [if_pos hall] at ho
        subst ho
        simp [hall]
      · rw [if_neg hall] at ho
        obtain ⟨events, rfl⟩ := ho
        have hdrop : 4 + 4 * n = 4 * (n + 1) := by ring
        simp only [hall, if_false, hdrop]
        split_ifs <;> exact ⟨_, rfl⟩

/-- The frame logs of a payload move the timestamp on, one complete log after the other. -/
theorem outcome_parseFrameLogMessages (fuel : ℕ) :
    Checked.Outcome (fun o => o.2 = p.afterFrameLogs (frameLogTimestamps fuel payload))
      (fun _ => False) (parseFrameLogMessages session fuel payload p r) := by
  induction fuel generalizing payload p r with
  | zero => rfl
  | succ fuel ih =>
    unfold parseFrameLogMessages frameLogTimestamps
    by_cases hsize : payload.length < kRtcpReceiverFrameLogMessageHeaderSize
    · rw [if_pos hsize, if_pos hsize]
      split_ifs <;> rfl
    · have hsize' : 8 ≤ payload.length := by simpa using hsize
      have hempty : ¬payload.isEmpty := by
        rintro h
        simp [List.isEmpty_iff.mp h] at hsize'
      have hdrop : (payload.drop 4).drop 4 =
          payload.drop kRtcpReceiverFrameLogMessageHeaderSize := List.drop_drop
      rw [if_neg hempty, if_neg hsize, if_neg hsize, consumeField_of_le (by omega), ok_bind]
      dsimp only
      rw [consumeField_of_le (by simp; omega), ok_bind, hdrop]
      dsimp only
      refine (outcome_parseLogEvents _ _).bind fun o ho => ?_
      by_cases hevents : (payload.drop kRtcpReceiverFrameLogMessageHeaderSize).length <
          kRtcpReceiverFrameLogMessageBlockSize *
            (1 + BigEndian.decode ((payload.drop 4).take 4) / 0x1000000 % 256)
      · rw [if_pos hevents]
        rw [if_pos (by exact hevents)] at ho
        subst ho
        rfl
      · rw [if_neg hevents]
        rw [if_neg (by exact hevents)] at ho
        obtain ⟨events, rfl⟩ := ho
        exact ih

/-- **`ParseApplicationDefined` reads the first eight bytes of its payload unchecked**, and
nothing else that may not be there. -/
theorem outcome_parseApplicationDefined {s : SubPacket}
    (htype : s.header.packetType = .applicationDefined) (hsize : 8 ≤ s.payload.length) :
    Checked.Outcome (fun o => o.2 = p.afterFrameLogs (s.frameLogTimestamps session))
      (fun _ => False) (parseApplicationDefined session s.header.subtype s.payload p r) := by
  unfold parseApplicationDefined
  rw [consumeField_of_le (by omega), ok_bind]
  dsimp only
  rw [consumeField_of_le (by simp; omega), ok_bind, List.drop_drop]
  dsimp only
  unfold SubPacket.frameLogTimestamps
  split_ifs <;> first | rfl | simp_all
  · exact outcome_parseFrameLogMessages _

theorem parseApplicationDefined_of_lt {subtype : RtcpSubtype} (h : payload.length < 8) :
    parseApplicationDefined session subtype payload p r = .error .outOfBounds := by
  unfold parseApplicationDefined
  by_cases hsize : payload.length < 4
  · rw [consumeField_of_lt hsize]
    rfl
  · rw [consumeField_of_le (by omega), ok_bind]
    dsimp only
    rw [consumeField_of_lt (by simp; omega)]
    rfl

/-! ### The whole packet -/

/-- The sub-packet has the bytes that its parser reads without a check. -/
def SubPacket.HasFixedFields (s : SubPacket) : Prop :=
  s.header.packetType = .applicationDefined → 8 ≤ s.payload.length

/-- A sub-packet of another type than `APP` has no frame logs. -/
theorem SubPacket.frameLogTimestamps_of_ne {s : SubPacket}
    (h : s.header.packetType ≠ .applicationDefined) : s.frameLogTimestamps session = [] :=
  if_neg fun hs => h hs.1

/-- A parser that succeeds and leaves the state of the parser alone. -/
theorem outcome_of_succeeds {x : Except SpanFault (Option RtcpParseResults)} (h : Succeeds x) :
    Checked.Outcome (fun o => o.2 = p) (fun _ => False) (do return (← x, p)) := by
  obtain ⟨o, rfl⟩ := h
  rfl

/-- What a sub-packet does to the parser. -/
theorem outcome_parsePart {s : SubPacket} (h : s.HasFixedFields) :
    Checked.Outcome (fun o => o.2 = p.afterFrameLogs (s.frameLogTimestamps session))
      (fun _ => False) (parsePart session max s.header s.payload p r) := by
  by_cases happ : s.header.packetType = .applicationDefined
  · simp only [parsePart, happ]
    exact outcome_parseApplicationDefined happ (h happ)
  · rw [SubPacket.frameLogTimestamps_of_ne happ, afterFrameLogs_nil]
    unfold parsePart
    split
    · exact outcome_of_succeeds (succeeds_parseReceiverReport _)
    · contradiction
    · split
      · exact outcome_of_succeeds succeeds_parsePictureLossIndicator
      · exact outcome_of_succeeds succeeds_parseFeedback
      · rfl
    · exact outcome_of_succeeds succeeds_parseExtendedReports
    · rfl

theorem succeeds_parsePart_iff {s : SubPacket} :
    Succeeds (parsePart session max s.header s.payload p r) ↔ s.HasFixedFields := by
  constructor
  · intro h happ
    by_contra hsize
    simp only [parsePart, happ, parseApplicationDefined_of_lt (not_le.mp hsize)] at h
    exact not_succeeds_error h
  · intro h
    obtain ⟨o, ho, -⟩ := (outcome_parsePart h).exists_ok
    exact ⟨o, ho⟩

theorem succeeds_parseParts_iff (fuel : ℕ) :
    Succeeds (parseParts session max fuel buffer p r) ↔
      ∀ s ∈ handedOver session max fuel buffer p r, s.HasFixedFields := by
  induction fuel generalizing buffer p r with
  | zero => simp [parseParts, handedOver]
  | succ fuel ih =>
    rw [parseParts_succ, handedOver]
    cases firstSubPacket buffer with
    | none => simp
    | some a =>
      obtain ⟨s, rest⟩ := a
      dsimp only
      rw [List.forall_mem_cons, ← @succeeds_parsePart_iff session p r max s]
      rcases parsePart session max s.header s.payload p r with e | ⟨_ | r', p'⟩
      · simp
      · simp
      · simp [ih]

/-- The frame logs of the sub-packets that are handed over, and nothing else, change the state
of the parser before the packet is dispatched. -/
theorem parseParts_state {fuel : ℕ} {o : Option RtcpParseResults}
    (h : parseParts session max fuel buffer p r = .ok (o, p')) :
    p' = p.afterFrameLogs
      ((handedOver session max fuel buffer p r).flatMap
        (SubPacket.frameLogTimestamps session)) := by
  induction fuel generalizing buffer p r with
  | zero =>
    cases h
    rfl
  | succ fuel ih =>
    rw [parseParts_succ] at h
    rw [handedOver]
    cases hfirst : firstSubPacket buffer with
    | none =>
      rw [hfirst] at h
      cases h
      rfl
    | some a =>
      obtain ⟨s, rest⟩ := a
      rw [hfirst] at h
      dsimp only at h ⊢
      rw [List.flatMap_cons, afterFrameLogs_append]
      cases hpart : parsePart session max s.header s.payload p r with
      | error e =>
        rw [hpart] at h
        cases h
      | ok b =>
        obtain ⟨o', q⟩ := b
        have hq : q = p.afterFrameLogs (s.frameLogTimestamps session) :=
          (outcome_parsePart (succeeds_parsePart_iff.mp ⟨_, hpart⟩)).of_ok hpart
        rw [hpart] at h
        rw [← hq]
        cases o' with
        | none =>
          cases h
          rfl
        | some r' => exact ih h

/-- **`Parse` stays inside of every payload exactly when each `APP` sub-packet that it comes to
has eight bytes.** Every other sub-packet that is too short is rejected, whatever sizes and
counts the datagram declares. -/
theorem succeeds_parse_iff (session : RtcpSession) (p : CompoundRtcpParser) (buffer : ByteView)
    (max : ℤ) :
    Succeeds (p.parse session buffer max) ↔
      ∀ s ∈ handedOver session max buffer.length buffer p {},
        s.header.packetType = .applicationDefined → 8 ≤ s.payload.length := by
  refine Iff.trans ?_ (succeeds_parseParts_iff buffer.length)
  refine succeeds_bind_iff fun a => ?_
  obtain ⟨o, q⟩ := a
  cases o <;> exact succeeds_pure

/-- An `APP` sub-packet without a payload is read past its end. -/
theorem parse_emptyApplicationDefined :
    parse exampleSession {} [0x82, 0xcc, 0x00, 0x00] 0 = .error .outOfBounds := by
  decide +kernel

/-- The state that a packet leaves behind when nothing of it is dispatched. -/
theorem parse_state_of_undispatched {o : Outcome}
    (h : p.parse session buffer max = .ok (o, p')) (ho : o = .rejected ∨ o = .outdated) :
    p' = p.afterFrameLogs
      ((handedOver session max buffer.length buffer p {}).flatMap
        (SubPacket.frameLogTimestamps session)) := by
  rw [parse, bind_eq_ok] at h
  obtain ⟨⟨results, q⟩, hparts, h⟩ := h
  rw [← parseParts_state hparts]
  cases results with
  | none =>
    cases h
    rfl
  | some r =>
    -- only an outdated packet comes here, and its reference time is not recorded
    simp only [pure_eq_ok, Except.ok.injEq, dispatch] at h
    split at h
    · cases h
      simp at ho
    · split_ifs at h
      · cases h
        rfl
      · cases h
        simp at ho
    · cases h
      simp at ho

/-- **A packet that is rejected or outdated has no effect exactly when its frame logs lead the
timestamp back to where it was.** The frame logs of every sub-packet up to the one that is
rejected are counted, whatever comes of the packet later. -/
theorem unchanged_iff_of_undispatched {o : Outcome}
    (h : p.parse session buffer max = .ok (o, p')) (ho : o = .rejected ∨ o = .outdated) :
    (p' = p ∧ ∀ later max', p'.parse session later max' = p.parse session later max') ↔
      ((handedOver session max buffer.length buffer p {}).flatMap
          (SubPacket.frameLogTimestamps session)).foldl (expand 32) p.latestFrameLogRtpTimestamp =
        p.latestFrameLogRtpTimestamp := by
  rw [← afterFrameLogs_eq_self_iff, ← parse_state_of_undispatched h ho]
  exact ⟨fun hp => hp.1, fun hp => ⟨hp, fun later max' => by rw [hp]⟩⟩

/-- A receiver log of the example session with one frame log of one event. -/
def oneFrameLog (truncatedRtpTimestamp : ℕ) : ByteView :=
  RtcpCommonHeader.bytes .applicationDefined 2 20 ++
    fieldBytes [(4, 2), (4, kCastName), (4, truncatedRtpTimestamp), (4, 0), (2, 0), (2, 0x1000)]

/-- A rejected packet whose frame log has the latest timestamp again has no effect. -/
theorem unchanged_sameTimestamp :
    ∃ p', parse exampleSession {} (oneFrameLog 0 ++ [0]) 0 = .ok (.rejected, p') ∧ p' = {} ∧
      ∀ later max', p'.parse exampleSession later max' = parse exampleSession {} later max' := by
  have h : parse exampleSession {} (oneFrameLog 0 ++ [0]) 0 = .ok (.rejected, {}) := by
    decide +kernel
  exact ⟨_, h, (unchanged_iff_of_undispatched h (.inl rfl)).mpr (by decide +kernel)⟩

/-- What the client is told for `oneFrameLog`, with the timestamp that it was expanded to. -/
def oneFrameLogResults (rtpTimestamp : ℤ) : RtcpParseResults :=
  { logMessages := [{ rtpTimestamp, messages := [{ type := .frameAckSent, timestamp := 0 }] }] }

/-- A packet that is rejected for its last byte moves the timestamp, and the client is then told
another RTP timestamp for the frame log of a good packet. -/
theorem changed_rejectedFrameLog :
    parse exampleSession {} (oneFrameLog 0x7fffffff ++ [0]) 0 =
        .ok (.rejected, { latestFrameLogRtpTimestamp := 0x7fffffff }) ∧
      parse exampleSession { latestFrameLogRtpTimestamp := 0x7fffffff }
          (oneFrameLog 0xfffffff0) 0 =
        .ok (.dispatched (oneFrameLogResults 0xfffffff0),
          { latestFrameLogRtpTimestamp := 0xfffffff0 }) ∧
      parse exampleSession {} (oneFrameLog 0xfffffff0) 0 =
        .ok (.dispatched (oneFrameLogResults (-16)), { latestFrameLogRtpTimestamp := -16 }) := by
  decide +kernel

end CompoundRtcpParser

end StreamerPlus
