import StreamerPlus.Lib.Outcome
import StreamerPlus.Streaming.EncodedFrame
import StreamerPlus.Streaming.PacketUtil
import StreamerPlus.Streaming.RtpDefines

/-!
# `RtpPacketParser`

`rtp_packet_parser.cc`. The parser expands the truncated timestamp and frame id of a packet
relative to the last timestamp and the highest frame id that it has parsed, and takes over the
new values only from a packet that is well formed to its end.
-/

namespace StreamerPlus

open Checked ExpandedValue

/-- `RtpPacketParser::ParseResult`. -/
structure ParseResult where
  payloadType : RtpPayloadType
  sequenceNumber : ℕ
  rtpTimestamp : ℤ
  isKeyFrame : Bool
  frameId : ℤ
  packetId : UInt16
  maxPacketId : UInt16
  referencedFrameId : ℤ
  newPlayoutDelay : ℤ
  payload : ByteView
  deriving DecidableEq, Repr

/-- `RtpPacketParser`. -/
structure RtpPacketParser where
  senderSsrc : Ssrc
  lastParsedRtpTimestamp : ℤ
  highestRtpFrameId : ℤ
  deriving DecidableEq, Repr

namespace RtpPacketParser

/-- The constructor. -/
def new (senderSsrc : Ssrc) : RtpPacketParser := ⟨senderSsrc, 0, FrameId.first⟩

/-- The loop over `n` Cast extensions: the playout delay and the rest of the packet, or `none`
for a corrupt packet. -/
def parseExtensions : ℕ → ByteView → ℤ →
    Except SpanFault (Option (ℤ × ByteView))
  | 0, buffer, delay => .ok (some (delay, buffer))
  | n + 1, buffer, delay => do
    if buffer.length < 2 then return none
    let (typeAndSize, buffer) ← consumeField 2 buffer
    let type := typeAndSize >>> kNumExtensionDataSizeFieldBits
    let size := typeAndSize &&& (1 <<< kNumExtensionDataSizeFieldBits - 1)
    if buffer.length < size then return none
    if type = kAdaptiveLatencyRtpExtensionType then
      if size ≠ 2 then return none
      let (delay, _) ← consumeField 2 buffer
      parseExtensions n (buffer.drop size) delay
    else parseExtensions n (buffer.drop size) delay

/-- The reference frame id: the field if there is one, and otherwise the frame itself for a key
frame and its predecessor for other frames. -/
def consumeReferencedFrameId (hasReferencedFrameId isKeyFrame : Bool) (frameId : ℤ)
    (buffer : ByteView) : Except SpanFault (Option (ℤ × ByteView)) := do
  if hasReferencedFrameId then
    if buffer.isEmpty then return none
    let (truncatedId, buffer) ← consumeField 1 buffer
    return some (expand 8 frameId truncatedId, buffer)
  else return some (if isKeyFrame then frameId else frameId - 1, buffer)

variable (p : RtpPacketParser)

/-- The Cast header: every field from the key frame bit on, for a packet whose RTP header gave
`payloadType`, `sequenceNumber` and `rtpTimestamp`. -/
def parseCastHeader (payloadType : RtpPayloadType) (sequenceNumber : ℕ)
    (rtpTimestamp : ℤ) (buffer : ByteView) : Except SpanFault (Option ParseResult) := do
  let (byte12, buffer) ← consumeField 1 buffer
  let isKeyFrame := byte12 &&& kRtpKeyFrameBitMask != 0
  let hasReferencedFrameId := byte12 &&& kRtpHasReferenceFrameIdBitMask != 0
  let numCastExtensions := byte12 &&& kRtpExtensionCountMask
  let (truncatedFrameId, buffer) ← consumeField 1 buffer
  let frameId := expand 8 p.highestRtpFrameId truncatedFrameId
  let (packetId, buffer) ← consumeField 2 buffer
  let (maxPacketId, buffer) ← consumeField 2 buffer
  if maxPacketId = kAllPacketsLost then return none
  if packetId > maxPacketId then return none
  match ← consumeReferencedFrameId hasReferencedFrameId isKeyFrame frameId buffer with
  | none => return none
  | some (referencedFrameId, buffer) =>
    match ← parseExtensions numCastExtensions buffer 0 with
    | none => return none
    | some (newPlayoutDelay, payload) =>
      return some
        { payloadType, sequenceNumber, rtpTimestamp, isKeyFrame, frameId,
          packetId := UInt16.ofNat packetId, maxPacketId := UInt16.ofNat maxPacketId,
          referencedFrameId, newPlayoutDelay, payload }

/-- The packet as `Parse` reads it. -/
def parsePacket (buffer : ByteView) :
    Except SpanFault (Option ParseResult) := do
  if buffer.length < kRtpPacketMinValidSize then return none
  let (byte0, buffer) ← consumeField 1 buffer
  if byte0 ≠ kRtpRequiredFirstByte then return none
  let (byte1, buffer) ← consumeField 1 buffer
  match rtpPayloadTypeOf? (byte1 &&& kRtpPayloadTypeMask) with
  | none => return none
  | some payloadType =>
    let (sequenceNumber, buffer) ← consumeField 2 buffer
    let (truncatedTimestamp, buffer) ← consumeField 4 buffer
    let rtpTimestamp := expand 32 p.lastParsedRtpTimestamp truncatedTimestamp
    let (ssrc, buffer) ← consumeField 4 buffer
    if ssrc ≠ p.senderSsrc.toNat then return none
    p.parseCastHeader payloadType sequenceNumber rtpTimestamp buffer

/-- The parser after a well-formed packet. -/
def track (result : ParseResult) : RtpPacketParser :=
  { p with
    lastParsedRtpTimestamp := result.rtpTimestamp
    highestRtpFrameId := max p.highestRtpFrameId result.frameId }

/-- `Parse(buffer)`. -/
def parse (buffer : ByteView) :
    Except SpanFault (Option ParseResult × RtpPacketParser) := do
  match ← p.parsePacket buffer with
  | none => return (none, p)
  | some result => return (some result, p.track result)

/-! ### The packets that are accepted -/

variable {buffer : ByteView}

theorem packetId_le_of_parseCastHeader {p : RtpPacketParser} {t : RtpPayloadType} {k : ℕ} {ts : ℤ}
    {r : ParseResult}
    (h : p.parseCastHeader t k ts buffer = .ok (some r)) :
    r.packetId.toNat ≤ r.maxPacketId.toNat ∧ r.maxPacketId.toNat < kAllPacketsLost := by
  unfold parseCastHeader at h
  obtain ⟨⟨byte12, b₁⟩, -, h⟩ := bind_eq_ok.mp h
  obtain ⟨⟨id, b₂⟩, -, h⟩ := bind_eq_ok.mp h
  obtain ⟨⟨pid, b₃⟩, hpid, h⟩ := bind_eq_ok.mp h
  obtain ⟨⟨maxPid, b₄⟩, hmax, h⟩ := bind_eq_ok.mp h
  have hpid' := (consumeField_eq_ok hpid).1
  have hmax' := (consumeField_eq_ok hmax).1
  dsimp only at h
  split_ifs at h with hall hgt
  · cases h
  · cases h
  obtain ⟨reference, -, h⟩ := bind_eq_ok.mp h
  cases reference with
  | none => cases h
  | some reference =>
    obtain ⟨extensions, -, h⟩ := bind_eq_ok.mp h
    cases extensions with
    | none => cases h
    | some extensions =>
      cases h
      simp only [UInt16.toNat_ofNat', kAllPacketsLost] at hall ⊢
      omega

/-- The id of a packet is one of its frame, and no frame has the id that stands for all. -/
theorem packetId_le_of_parse {p p' : RtpPacketParser} {r : ParseResult}
    (h : p.parse buffer = .ok (some r, p')) :
    r.packetId.toNat ≤ r.maxPacketId.toNat ∧ r.maxPacketId.toNat < kAllPacketsLost := by
  unfold parse at h
  obtain ⟨result, hpacket, h⟩ := bind_eq_ok.mp h
  cases result with
  | none => cases h
  | some result =>
    cases h
    unfold parsePacket at hpacket
    split_ifs at hpacket
    · cases hpacket
    obtain ⟨⟨byte0, b₁⟩, -, hpacket⟩ := bind_eq_ok.mp hpacket
    dsimp only at hpacket
    split_ifs at hpacket
    · cases hpacket
    obtain ⟨⟨byte1, b₂⟩, -, hpacket⟩ := bind_eq_ok.mp hpacket
    dsimp only at hpacket
    cases htype : rtpPayloadTypeOf? (byte1 &&& kRtpPayloadTypeMask) with
    | none =>
      rw [htype] at hpacket
      cases hpacket
    | some payloadType =>
      rw [htype] at hpacket
      obtain ⟨⟨k, b₃⟩, -, hpacket⟩ := bind_eq_ok.mp hpacket
      obtain ⟨⟨ts, b₄⟩, -, hpacket⟩ := bind_eq_ok.mp hpacket
      obtain ⟨⟨ssrc, b₅⟩, -, hpacket⟩ := bind_eq_ok.mp hpacket
      dsimp only at hpacket
      split_ifs at hpacket
      · cases hpacket
      exact packetId_le_of_parseCastHeader hpacket

/-! ### The bytes that are read -/

/-- No read is out of bounds, and what is left unread is the end of `buffer`. -/
def Reads {α : Type} (rest : α → ByteView) (buffer : ByteView) :
    Except SpanFault (Option α) → Prop :=
  Outcome (fun r => ∀ a ∈ r, rest a <:+ buffer) fun _ => False

theorem reads_none {α : Type} {rest : α → ByteView} :
    Reads rest buffer (.ok none) := by simp [Reads]

theorem reads_parseExtensions (n : ℕ) {buffer buffer' : ByteView} (h : buffer <:+ buffer')
    (delay : ℤ) : Reads Prod.snd buffer' (parseExtensions n buffer delay) := by
  induction n generalizing buffer delay with
  | zero => simpa [Reads, parseExtensions] using h
  | succ n ih =>
    have hdrop : ∀ size, (buffer.drop 2).drop size <:+ buffer' := fun size =>
      ((List.drop_suffix _ _).trans (List.drop_suffix _ _)).trans h
    unfold parseExtensions
    split
    · exact reads_none
    rw [consumeField_of_le (by omega), ok_bind]
    dsimp only
    split_ifs
    · exact reads_none
    · exact reads_none
    · rw [consumeField_of_le (by omega), ok_bind]
      exact ih (hdrop _) _
    · exact ih (hdrop _) _

theorem reads_consumeReferencedFrameId (hasReference key : Bool) (id : ℤ) (buffer : ByteView) :
    Reads Prod.snd buffer (consumeReferencedFrameId hasReference key id buffer) := by
  unfold consumeReferencedFrameId
  split_ifs with _ hempty
  · exact reads_none
  · rw [List.isEmpty_iff, ← List.length_eq_zero_iff] at hempty
    rw [consumeField_of_le (by omega), ok_bind]
    simp [Reads, List.tail_suffix]
  all_goals simp [Reads]

theorem reads_parseCastHeader {p : RtpPacketParser} {t : RtpPayloadType} {k n : ℕ} {ts : ℤ}
    (h : n + 6 ≤ buffer.length) :
    Reads ParseResult.payload (buffer.drop (n + 6))
      (p.parseCastHeader t k ts (buffer.drop n)) := by
  unfold parseCastHeader
  simp (disch := grind) only [consumeField_of_le, ok_bind, List.drop_drop]
  split_ifs
  · exact reads_none
  · exact reads_none
  refine Outcome.bind (reads_consumeReferencedFrameId _ _ _ _) fun reference hrest => ?_
  cases reference with
  | none => exact reads_none
  | some reference =>
    refine Outcome.bind (reads_parseExtensions _ (hrest _ rfl) 0) fun extensions hpayload => ?_
    cases extensions with
    | none => exact reads_none
    | some extensions => simpa [Reads] using hpayload

/-- **No packet makes the parser read outside of it**, and the payload of one that is accepted is
its end, after a header of at least 18 bytes. -/
theorem exists_parse (buffer : ByteView) :
    ∃ r p', p.parse buffer = .ok (r, p') ∧ ∀ part ∈ r, part.payload <:+ buffer.drop 18 := by
  have hpacket : Reads ParseResult.payload (buffer.drop 18) (p.parsePacket buffer) := by
    unfold parsePacket
    split
    · exact reads_none
    next hlong =>
    simp only [kRtpPacketMinValidSize] at hlong
    simp (disch := grind) only [consumeField_of_le, ok_bind, List.drop_drop]
    split
    · exact reads_none
    split
    · exact reads_none
    split
    · exact reads_none
    exact reads_parseCastHeader (by omega)
  obtain ⟨r, hr, hsuffix⟩ := hpacket.exists_ok
  rw [parse, hr, ok_bind]
  cases r with
  | none => exact ⟨none, p, rfl, by simp⟩
  | some part => exact ⟨_, _, rfl, hsuffix⟩

end RtpPacketParser

end StreamerPlus
