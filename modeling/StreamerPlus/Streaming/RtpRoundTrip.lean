import StreamerPlus.Streaming.FrameCollector
import StreamerPlus.Streaming.RtpPacketizer

/-!
# The RTP round trip

A frame that is packetized, parsed and collected again. The packets may arrive in any order
and any number of times, each of them with its own sequence number and through a parser whose
references are within the expansion distance of the frame.

The collector ends up with `sentData frame`, the part of the data that the packetizer's
truncated length covers. So the frame itself makes the trip exactly when its data is shorter
than `2 ^ 31` bytes; above that `ComputeNumberOfPackets` may still accept a frame of which
`GeneratePacket` sends a part, or which it cannot send at all.
-/

namespace StreamerPlus

open Checked ExpandedValue RtpPacketizer

/-! ### Parsing a generated packet -/

namespace RtpPacketizer

/-- The parser can expand the truncated values of the frame. -/
structure InRange (parser : RtpPacketParser) (p : RtpPacketizer) (frame : EncryptedFrame) :
    Prop where
  ssrc : parser.senderSsrc = p.senderSsrc
  frameId : |frame.frameId - parser.highestRtpFrameId| ≤ maxDistanceForExpansion 8
  rtpTimestamp : |frame.rtpTimestamp - parser.lastParsedRtpTimestamp| ≤ maxDistanceForExpansion 32

variable (p : RtpPacketizer)

/-- What the parser makes of packet `i` of `n`. -/
def parsedPacket (frame : EncryptedFrame) (n : ℤ) (i : ℕ) : ParseResult where
  payloadType := p.payloadType
  sequenceNumber := p.sequenceNumber % 256 ^ 2
  rtpTimestamp := frame.rtpTimestamp
  isKeyFrame := frame.dependency = .keyFrame
  frameId := frame.frameId
  packetId := UInt16.ofNat i
  maxPacketId := UInt16.ofNat (n - 1).toNat
  referencedFrameId := frame.referencedFrameId
  newPlayoutDelay := if i = 0 then frame.newPlayoutDelay else 0
  payload := p.dataChunk frame i

theorem rtpPayloadTypeOf?_byte1 {t : RtpPayloadType} (ht : t ≠ .null) (last : Bool) :
    rtpPayloadTypeOf?
      (((if last then kRtpMarkerBitMask else 0) ||| t.toByte) % 256 ^ 1 &&& kRtpPayloadTypeMask) =
      some t := by
  cases t <;> cases last <;> first | rfl | exact absurd rfl ht

/-- The Cast header of a packet: the bytes after the RTP header. -/
def castHeaderFields (frame : EncryptedFrame) (n : ℤ) (i : ℕ) : List (ℕ × ℕ) :=
  [ (1, (if frame.dependency = .keyFrame then kRtpKeyFrameBitMask else 0) |||
      kRtpHasReferenceFrameIdBitMask ||| (if includesAdaptiveLatencyChange frame i then 1 else 0)),
    (1, lowerBits 8 frame.frameId), (2, i), (2, (n - 1).toNat),
    (1, lowerBits 8 frame.referencedFrameId) ] ++
  if includesAdaptiveLatencyChange frame i then
    [ (2, (kAdaptiveLatencyRtpExtensionType <<< kNumExtensionDataSizeFieldBits) ||| 2),
      (2, frame.newPlayoutDelay.toNat) ]
  else []

/-- The three parts of byte 12. -/
theorem byte12_bits (c : Prop) [Decidable c] (ext : Bool) :
    let byte12 := ((if c then kRtpKeyFrameBitMask else 0) ||| kRtpHasReferenceFrameIdBitMask |||
      (if ext then 1 else 0)) % 256 ^ 1
    (byte12 &&& kRtpKeyFrameBitMask != 0) = decide c ∧
      (byte12 &&& kRtpHasReferenceFrameIdBitMask != 0) = true ∧
      byte12 &&& kRtpExtensionCountMask = if ext then 1 else 0 := by
  by_cases hc : c <;> cases ext <;> simp [hc]

theorem consumeReferencedFrameId_field (key : Bool) (frameId : ℤ) (x : ℕ) (rest : ByteView) :
    RtpPacketParser.consumeReferencedFrameId true key frameId (BigEndian.encode 1 x ++ rest) =
      .ok (some (expand 8 frameId (x % 256 ^ 1), rest)) := by
  have hne : (BigEndian.encode 1 x ++ rest).isEmpty = false := by simp [BigEndian.encode]
  simp only [RtpPacketParser.consumeReferencedFrameId, if_true, hne, consumeField_encode_append,
    ok_bind, pure_eq_ok]
  rfl

theorem parseExtensions_adaptiveLatency (adaptive : Bool) (delay : ℕ) (payload : ByteView) :
    RtpPacketParser.parseExtensions (if adaptive then 1 else 0)
      (fieldBytes (if adaptive then
        [(2, (kAdaptiveLatencyRtpExtensionType <<< kNumExtensionDataSizeFieldBits) ||| 2),
          (2, delay)]
        else []) ++ payload) 0 =
      .ok (some (if adaptive then ((delay % 256 ^ 2 : ℕ) : ℤ) else 0, payload)) := by
  cases adaptive with
  | false => rfl
  | true =>
    have hdrop : (BigEndian.encode 2 delay ++ payload).drop 2 = payload :=
      List.drop_left' (BigEndian.length_encode 2 delay)
    have hlen : ¬ (BigEndian.encode 2 delay ++ payload).length < 2 := by
      rw [List.length_append, BigEndian.length_encode]
      omega
    have hsize : (kAdaptiveLatencyRtpExtensionType <<< kNumExtensionDataSizeFieldBits ||| 2) %
        256 ^ 2 &&& 1 <<< kNumExtensionDataSizeFieldBits - 1 = 2 := by decide
    simp only [if_true, fieldBytes_cons, fieldBytes_nil, List.append_nil, List.append_assoc,
      RtpPacketParser.parseExtensions, consumeField_encode_append, ok_bind, hsize, hdrop]
    rw [if_neg (by rw [List.length_append, BigEndian.length_encode]; omega), if_neg hlen,
      if_pos (by decide), if_neg (by decide)]

/-- The playout delay field, if there is one, holds the frame's new delay. -/
theorem adaptiveLatency_delay {frame : EncryptedFrame} {i : ℕ} (hdelay : 0 ≤ frame.newPlayoutDelay)
    (hdelay' : frame.newPlayoutDelay ≤ 0xffff) :
    (if includesAdaptiveLatencyChange frame i then
        ((frame.newPlayoutDelay.toNat % 256 ^ 2 : ℕ) : ℤ) else 0) =
      if i = 0 then frame.newPlayoutDelay else 0 := by
  unfold includesAdaptiveLatencyChange
  by_cases hi : i = 0
  · by_cases hpos : 0 < frame.newPlayoutDelay
    · simp only [hi, hpos, beq_self_eq_true, decide_true, Bool.and_self, if_true]
      omega
    · simp only [hi, hpos, decide_false, Bool.and_false, Bool.false_eq_true, if_false, if_true]
      omega
  · simp [hi]

theorem parseCastHeader_castHeaderFields {parser : RtpPacketParser} {p : RtpPacketizer}
    {frame : EncryptedFrame} {n : ℤ} {i : ℕ} {t : RtpPayloadType} {k : ℕ} {ts : ℤ}
    {payload : ByteView} (hrange : InRange parser p frame)
    (href : |frame.referencedFrameId - frame.frameId| ≤ maxDistanceForExpansion 8)
    (hdelay : 0 ≤ frame.newPlayoutDelay) (hdelay' : frame.newPlayoutDelay ≤ 0xffff)
    (hi : (i : ℤ) < n) (hn : n ≤ 0xfffe) :
    parser.parseCastHeader t k ts (fieldBytes (castHeaderFields frame n i) ++ payload) =
      .ok (some ⟨t, k, ts, frame.dependency = .keyFrame, frame.frameId, UInt16.ofNat i,
        UInt16.ofNat (n - 1).toNat, frame.referencedFrameId,
        if i = 0 then frame.newPlayoutDelay else 0, payload⟩) := by
  have hid : expand 8 parser.highestRtpFrameId (lowerBits 8 frame.frameId) = frame.frameId :=
    expand_lowerBits hrange.frameId
  have hrefId : expand 8 frame.frameId (lowerBits 8 frame.referencedFrameId) =
      frame.referencedFrameId := expand_lowerBits href
  have hlow : ∀ x : ℤ, lowerBits 8 x % 256 ^ 1 = lowerBits 8 x := fun x =>
    Nat.mod_eq_of_lt (lowerBits_lt 8 x)
  have hpid : i % 256 ^ 2 = i := Nat.mod_eq_of_lt (by omega)
  have hmax : (n - 1).toNat % 256 ^ 2 = (n - 1).toNat := Nat.mod_eq_of_lt (by omega)
  have hmax' : (n - 1).toNat ≠ kAllPacketsLost := by simp only [kAllPacketsLost]; omega
  have hle : ¬ i > (n - 1).toNat := by omega
  obtain ⟨hkey, href', hext⟩ := byte12_bits (frame.dependency = .keyFrame)
    (includesAdaptiveLatencyChange frame i)
  have hdel := adaptiveLatency_delay (i := i) hdelay hdelay'
  unfold RtpPacketParser.parseCastHeader castHeaderFields
  simp only [List.cons_append, List.nil_append, fieldBytes_cons, List.append_assoc,
    consumeField_encode_append, ok_bind, hlow, hpid, hmax, hid, if_neg hmax', if_neg hle,
    hkey, href', hext, consumeReferencedFrameId_field, hrefId, parseExtensions_adaptiveLatency,
    hdel, pure_eq_ok]

/-- **The parser reads back what the packetizer wrote.** -/
theorem parsePacket_packetBytes {parser : RtpPacketParser} {p : RtpPacketizer}
    {frame : EncryptedFrame} {n : ℤ} {i : ℕ} (hrange : InRange parser p frame)
    (href : |frame.referencedFrameId - frame.frameId| ≤ maxDistanceForExpansion 8)
    (hdelay : 0 ≤ frame.newPlayoutDelay) (hdelay' : frame.newPlayoutDelay ≤ 0xffff)
    (hi : (i : ℤ) < n) (hn : n ≤ 0xfffe) :
    parser.parsePacket (p.packetBytes frame n i) = .ok (some (p.parsedPacket frame n i)) := by
  have hts : expand 32 parser.lastParsedRtpTimestamp (lowerBits 32 frame.rtpTimestamp) =
      frame.rtpTimestamp := expand_lowerBits hrange.rtpTimestamp
  have hlow : lowerBits 32 frame.rtpTimestamp % 256 ^ 4 = lowerBits 32 frame.rtpTimestamp :=
    Nat.mod_eq_of_lt (lt_of_lt_of_eq (lowerBits_lt 32 _) (by norm_num))
  have hcast := @parseCastHeader_castHeaderFields parser p frame n i p.payloadType
    (p.sequenceNumber % 256 ^ 2) frame.rtpTimestamp (p.dataChunk frame i) hrange href hdelay hdelay'
      hi hn
  have hbytes : p.packetBytes frame n i =
      BigEndian.encode 1 kRtpRequiredFirstByte ++ (BigEndian.encode 1
        ((if decide ((i : ℤ) = n - 1) then kRtpMarkerBitMask else 0) ||| p.payloadType.toByte) ++
      (BigEndian.encode 2 p.sequenceNumber ++ (BigEndian.encode 4 (lowerBits 32 frame.rtpTimestamp)
        ++ (BigEndian.encode 4 p.senderSsrc.toNat ++
          (fieldBytes (castHeaderFields frame n i) ++ p.dataChunk frame i))))) := by
    simp only [packetBytes, headerFields, castHeaderFields, List.cons_append, List.nil_append,
      fieldBytes_cons, List.append_assoc]
  have hlen : ¬ (p.packetBytes frame n i).length < kRtpPacketMinValidSize := by
    rw [packetBytes, List.length_append, length_fieldBytes, fieldSize_headerFields]
    simp only [kBaseRtpHeaderSize]
    omega
  unfold RtpPacketParser.parsePacket
  rw [if_neg hlen, hbytes]
  simp only [consumeField_encode_append, ok_bind, rtpPayloadTypeOf?_byte1 p.payloadType_ne, hlow,
    hts, toNat_mod_field, hrange.ssrc]
  rw [if_neg (by decide), if_neg (by simp), hcast]
  rfl

/-! ### Collecting the packets of a frame -/

/-- The metadata that the collector ends up with. A key frame stays one, and any other frame is
independent exactly when it references itself. -/
def collectedMetadata (frame : EncryptedFrame) : FrameMetadata where
  dependency :=
    if frame.dependency = .keyFrame then .keyFrame
    else if frame.frameId = frame.referencedFrameId then .independent
    else .dependent
  frameId := some frame.frameId
  referencedFrameId := some frame.referencedFrameId
  rtpTimestamp := frame.rtpTimestamp
  newPlayoutDelay := frame.newPlayoutDelay

/-- The chunks of a frame of `N` packets once the packets `seen` have arrived. -/
def seenChunks (frame : EncryptedFrame) (N : ℕ) (seen : List ℕ) : List (Option ByteView) :=
  (List.range N).map fun j => if j ∈ seen then some (p.dataChunk frame j) else none

/-- The collector has collected exactly the packets `seen` of the `N` packets of the frame. -/
structure Collected (frame : EncryptedFrame) (N : ℕ) (seen : List ℕ)
    (c : FrameCollector) : Prop where
  frameId : c.frame.frameId = some frame.frameId
  chunks : c.chunks = if seen = [] then [] else seenChunks p frame N seen
  metadata : 0 ∈ seen → c.frame = collectedMetadata frame

variable {p : RtpPacketizer} {frame : EncryptedFrame} {N : ℕ} {seen : List ℕ} {c : FrameCollector}

@[simp]
theorem length_seenChunks (p : RtpPacketizer) (frame : EncryptedFrame) (N : ℕ) (seen : List ℕ) :
    (seenChunks p frame N seen).length = N := by simp [seenChunks]

theorem getElem?_seenChunks {i : ℕ} (hi : i < N) :
    (seenChunks p frame N seen)[i]? =
      some (if i ∈ seen then some (p.dataChunk frame i) else none) := by
  simp [seenChunks, hi]

theorem seenChunks_set {i : ℕ} :
    (seenChunks p frame N seen).set i (some (p.dataChunk frame i)) =
      seenChunks p frame N (i :: seen) := by
  apply List.ext_getElem
  · simp
  · intro j h₁ h₂
    rw [List.getElem_set]
    by_cases hij : i = j
    · simp [hij, seenChunks]
    · have hji : j ≠ i := fun h => hij h.symm
      simp [hij, hji, seenChunks]

/-- The first packet sizes the chunks, and every later one finds them of that size. -/
theorem Collected.expectPackets (h : Collected p frame N seen c) (hN : 0 < N)
    {maxPacketId : UInt16} (hmax : maxPacketId.toNat + 1 = N) :
    ∃ c₁, c.expectPackets maxPacketId = some c₁ ∧ c₁.frame = c.frame ∧
      c₁.chunks = seenChunks p frame N seen := by
  have hchunks := h.chunks
  unfold FrameCollector.expectPackets
  by_cases hseen : seen = []
  · rw [if_pos hseen] at hchunks
    have hnum : c.numMissingPackets = kUnknownNumberOfPackets := by
      rcases c.accounted with ⟨-, hnum⟩ | ⟨hpos, -⟩
      · exact hnum
      · simp [hchunks] at hpos
    rw [if_pos hnum]
    refine ⟨_, rfl, rfl, ?_⟩
    simp [hmax, seenChunks, hseen, List.map_const']
  · rw [if_neg hseen] at hchunks
    have hlen : c.chunks.length = N := by rw [hchunks, length_seenChunks]
    have hnum : c.numMissingPackets ≠ kUnknownNumberOfPackets := by
      rcases c.accounted with ⟨hnil, -⟩ | ⟨-, hle, hnum⟩
      · simp [hnil] at hlen
        omega
      · have := List.countP_le_length (p := Option.isNone) (l := c.chunks)
        simp only [kUnknownNumberOfPackets]
        omega
    rw [if_neg hnum, if_neg (by omega)]
    exact ⟨c, rfl, rfl, hchunks⟩

theorem seenChunks_cons_of_mem {i : ℕ} (hi : i ∈ seen) :
    seenChunks p frame N (i :: seen) = seenChunks p frame N seen := by
  have hmem : ∀ j, j ∈ i :: seen ↔ j ∈ seen := fun j =>
    ⟨fun h => (List.mem_cons.mp h).elim (· ▸ hi) id, List.mem_cons_of_mem i⟩
  simp only [seenChunks, hmem]

/-- Packet 0 carries all of the metadata. -/
theorem metadataFrom_parsedPacket {m : FrameMetadata} (hm : m.frameId = some frame.frameId)
    (q : RtpPacketizer) (n : ℤ) :
    FrameCollector.metadataFrom m (q.parsedPacket frame n 0) = collectedMetadata frame := by
  simp [FrameCollector.metadataFrom, parsedPacket, collectedMetadata, hm]

/-- **One packet.** Packet `i` is accepted, and adds itself to the packets seen. -/
theorem Collected.collectRtpPacket (h : Collected p frame N seen c) {i : ℕ} (hi : i < N)
    (hN : N ≤ 0xfffe) {q : RtpPacketizer} (hq : q.maxPacketSize = p.maxPacketSize) :
    ∃ c', c.collectRtpPacket (q.parsedPacket frame N i) = .ok (true, c') ∧
      Collected p frame N (i :: seen) c' := by
  have hchunk : q.dataChunk frame i = p.dataChunk frame i := by
    simp only [dataChunk, maxPayloadSize, hq]
  have hpid : (q.parsedPacket frame N i).packetId.toNat = i := by
    simp only [parsedPacket, UInt16.toNat_ofNat']
    omega
  obtain ⟨c₁, hexp, hframe, hchunks⟩ := h.expectPackets (by omega)
    (show (q.parsedPacket frame N i).maxPacketId.toNat + 1 = N by
      simp only [parsedPacket, UInt16.toNat_ofNat']; omega)
  have hget : c₁.chunks[(q.parsedPacket frame N i).packetId.toNat]? =
      some (if i ∈ seen then some (p.dataChunk frame i) else none) := by
    rw [hpid, hchunks, getElem?_seenChunks hi]
  unfold FrameCollector.collectRtpPacket
  rw [require_of (by simp [h.frameId]), ok_bind, if_neg (by simp [h.frameId, parsedPacket]), hexp]
  dsimp only
  split
  · rename_i hnone
    rw [hget] at hnone
    cases hnone
  · -- a packet that was seen before leaves the collector as it is
    rename_i x hsome
    have hmem : i ∈ seen := by
      by_contra hmem
      rw [hget, if_neg hmem] at hsome
      cases hsome
    refine ⟨c₁, rfl, hframe ▸ h.frameId, ?_, fun h₀ => ?_⟩
    · rw [if_neg (List.cons_ne_nil _ _), hchunks, seenChunks_cons_of_mem hmem]
    · rw [hframe]
      exact h.metadata ((List.mem_cons.mp h₀).elim (· ▸ hmem) id)
  · rename_i hnone
    rw [require_of (FrameCollector.numMissingPackets_nonneg _), ok_bind]
    refine ⟨_, rfl, ?_, ?_, fun h₀ => ?_⟩
    · rw [FrameCollector.frame_storeChunk_frameId, hframe, h.frameId]
    · rw [if_neg (List.cons_ne_nil _ _), ← seenChunks_set, ← hchunks]
      simp only [FrameCollector.storeChunk, hpid]
      rw [← hchunk]
      rfl
    · simp only [FrameCollector.storeChunk]
      rcases List.mem_cons.mp h₀ with rfl | h₀
      · rw [if_pos (by rfl)]
        exact metadataFrom_parsedPacket (hframe ▸ h.frameId) q N
      · split_ifs with hzero
        · have : i = 0 := by rw [← hpid, hzero]; rfl
          subst this
          exact metadataFrom_parsedPacket (hframe ▸ h.frameId) q N
        · rw [hframe]
          exact h.metadata h₀

/-! ### The round trip of a frame -/

/-- `part` is what a receiver can make of packet `i`: the packet was generated with some
sequence number and parsed by a parser in range. -/
def ArrivesAs (p : RtpPacketizer) (frame : EncryptedFrame) (i : ℕ) (part : ParseResult) : Prop :=
  ∃ (k bufferSize : ℕ) (bytes : ByteView) (p' : RtpPacketizer) (parser parser' : RtpPacketParser),
    p.maxPacketSize ≤ bufferSize ∧ bufferSize < 0x80000000 ∧
      (p.withSequenceNumber k).generatePacket frame i bufferSize = .ok (bytes, p') ∧
      InRange parser p frame ∧ parser.parse bytes = .ok (some part, parser')

/-- The collector after a list of parsed packets. -/
def collectAll (c : FrameCollector) (parts : List ParseResult) :
    Except FrameCollector.Fault FrameCollector :=
  parts.foldlM (fun c part => do
    let (_, c) ← c.collectRtpPacket part
    return c) c

/-- The frame makes the trip with `payload` as its data: every packet is generated, is small
enough and is accepted; and the packets make the frame complete exactly when each has arrived
at least once, and then with the frame's metadata and that payload. -/
structure RoundTrips (p : RtpPacketizer) (frame : EncryptedFrame) (payload : List UInt8) :
    Prop where
  generated : ∀ i : ℕ, (i : ℤ) < p.computeNumberOfPackets frame →
    ∀ k bufferSize : ℕ, p.maxPacketSize ≤ bufferSize → bufferSize < 0x80000000 →
      ∃ bytes p', (p.withSequenceNumber k).generatePacket frame i bufferSize =
          .ok (bytes, p') ∧ bytes.length ≤ p.maxPacketSize ∧
        ∀ parser, InRange parser p frame →
          ∃ part parser', parser.parse bytes = .ok (some part, parser')
  collected : ∀ arrivals : List (ℕ × ParseResult),
    (∀ a ∈ arrivals, (a.1 : ℤ) < p.computeNumberOfPackets frame ∧ ArrivesAs p frame a.1 a.2) →
      ∃ c, collectAll (FrameCollector.new.setFrameId frame.frameId) (arrivals.map Prod.snd) =
          .ok c ∧
        (c.isComplete = true ↔
          ∀ i : ℕ, (i : ℤ) < p.computeNumberOfPackets frame → i ∈ arrivals.map Prod.fst) ∧
        (c.isComplete = true →
          (∃ chunks, c.getPayloadChunks = .ok chunks ∧ chunks.flatten = payload) ∧
          c.peekFrameMetadata = .ok (collectedMetadata frame))

/-- What the sender's client has to provide for a frame. -/
structure Sendable (p : RtpPacketizer) (frame : EncryptedFrame) : Prop where
  packets : 0 < p.computeNumberOfPackets frame
  reference : |frame.referencedFrameId - frame.frameId| ≤ 127
  delay_nonneg : 0 ≤ frame.newPlayoutDelay
  delay_le : frame.newPlayoutDelay ≤ 65535

section

variable (h : Sendable p frame) (hs : 0 ≤ toInt32 frame.data.length)
include h hs

/-- Whatever the sequence number, packet `i` is generated as `packetBytes` and accepted as
`parsedPacket`. -/
theorem Sendable.generate_parse {i : ℕ} (hi : (i : ℤ) < p.computeNumberOfPackets frame)
    (k : ℕ) {bufferSize : ℕ} (hbuf : p.maxPacketSize ≤ bufferSize)
    (hbuf' : bufferSize < 0x80000000) :
    ∃ bytes p', (p.withSequenceNumber k).generatePacket frame i bufferSize =
        .ok (bytes, p') ∧ bytes.length ≤ p.maxPacketSize ∧
      ∀ parser, InRange parser p frame → ∃ parser',
        parser.parse bytes = .ok (some ((p.withSequenceNumber k).parsedPacket frame
          (p.computeNumberOfPackets frame) i), parser') := by
  obtain ⟨N, hN, -, hN', -, -⟩ := computeNumberOfPackets_spec hs h.packets
  have hgen := generatePacket_eq (p := p.withSequenceNumber k) hs hi
    (by exact h.delay_le) hbuf hbuf'
  refine ⟨_, _, hgen, length_packetBytes_le _ _ _ _, fun parser hrange => ?_⟩
  have hparse := parsePacket_packetBytes (p := p.withSequenceNumber k)
    { hrange with } h.reference h.delay_nonneg h.delay_le hi
    (by omega)
  unfold RtpPacketParser.parse
  rw [computeNumberOfPackets_withSequenceNumber, hparse, ok_bind]
  exact ⟨_, rfl⟩

theorem Sendable.eq_parsedPacket {i : ℕ} (hi : (i : ℤ) < p.computeNumberOfPackets frame)
    {part : ParseResult} (ha : ArrivesAs p frame i part) :
    ∃ k, part = (p.withSequenceNumber k).parsedPacket frame
      (p.computeNumberOfPackets frame) i := by
  obtain ⟨k, bufferSize, bytes, p', parser, parser', hbuf, hbuf', hgen, hrange, hparse⟩ := ha
  obtain ⟨bytes', p'', hgen', -, hparse'⟩ := h.generate_parse hs hi k hbuf hbuf'
  rw [hgen'] at hgen
  cases hgen
  obtain ⟨parser'', hparse''⟩ := hparse' parser hrange
  rw [hparse''] at hparse
  cases hparse
  exact ⟨k, rfl⟩

/-- **Any list of packets.** The collector has collected exactly the packets that arrived. -/
theorem Sendable.collectAll {arrivals : List (ℕ × ParseResult)}
    (ha : ∀ a ∈ arrivals,
      (a.1 : ℤ) < p.computeNumberOfPackets frame ∧ ArrivesAs p frame a.1 a.2)
    {seen : List ℕ} {c : FrameCollector}
    (hc : Collected p frame (p.computeNumberOfPackets frame).toNat seen c) :
    ∃ c', RtpPacketizer.collectAll c (arrivals.map Prod.snd) = .ok c' ∧
      Collected p frame (p.computeNumberOfPackets frame).toNat
        ((arrivals.map Prod.fst).reverse ++ seen) c' := by
  obtain ⟨N, hN, -, hN', -, -⟩ := computeNumberOfPackets_spec hs h.packets
  induction arrivals generalizing seen c with
  | nil => exact ⟨c, rfl, hc⟩
  | cons a arrivals ih =>
    obtain ⟨hlt, harr⟩ := ha a List.mem_cons_self
    obtain ⟨k, hpart⟩ := h.eq_parsedPacket hs hlt harr
    obtain ⟨c₁, hstep, hc₁⟩ := hc.collectRtpPacket (i := a.1) (by omega) (by omega)
      (q := p.withSequenceNumber k) rfl
    rw [show ((p.computeNumberOfPackets frame).toNat : ℤ) = p.computeNumberOfPackets frame by
      omega, ← hpart] at hstep
    obtain ⟨c', hrest, hc'⟩ := ih (fun a ha' => ha a (List.mem_cons_of_mem _ ha')) hc₁
    refine ⟨c', ?_, by simpa using hc'⟩
    simp only [RtpPacketizer.collectAll, List.map_cons, List.foldlM_cons, hstep, ok_bind,
      pure_eq_ok]
    exact hrest

end

/-- The chunks in order are the whole payload. -/
theorem flatten_take_drop (l : List UInt8) (m N : ℕ) :
    ((List.range N).map fun j => (l.drop (m * j)).take m).flatten = l.take (m * N) := by
  induction N with
  | zero => simp
  | succ N ih =>
    rw [List.range_succ, List.map_append, List.flatten_append, ih, Nat.mul_succ, List.take_add]
    simp

theorem Collected.isComplete_iff (hc : Collected p frame N seen c) (hN : 0 < N) :
    c.isComplete = true ↔ ∀ i < N, i ∈ seen := by
  rw [FrameCollector.isComplete_iff, hc.chunks]
  by_cases hseen : seen = []
  · simp only [hseen, if_true, ne_eq, not_true_eq_false, false_and, List.not_mem_nil, imp_false,
      false_iff, not_forall]
    exact ⟨0, by omega⟩
  · have hne : seenChunks p frame N seen ≠ [] := by
      intro hnil
      have := length_seenChunks p frame N seen
      simp [hnil] at this
      omega
    rw [if_neg hseen]
    simp only [ne_eq, hne, not_false_eq_true, true_and]
    simp only [seenChunks, List.mem_map, List.mem_range, forall_exists_index, and_imp,
      forall_apply_eq_imp_iff₂]
    refine forall₂_congr fun i _ => ?_
    by_cases hi : i ∈ seen <;> simp [hi]

/-- A complete collector holds the sent data and the frame's metadata. -/
theorem Collected.payload (hc : Collected p frame N seen c) (hN : 0 < N)
    (hcover : (sentData frame).length ≤ p.maxPayloadSize * N) (hcomp : c.isComplete = true) :
    (∃ chunks, c.getPayloadChunks = .ok chunks ∧ chunks.flatten = sentData frame) ∧
      c.peekFrameMetadata = .ok (collectedMetadata frame) := by
  have hall := (hc.isComplete_iff hN).mp hcomp
  have hne : seen ≠ [] := List.ne_nil_of_mem (hall 0 hN)
  refine ⟨⟨(List.range N).map fun j => p.dataChunk frame j, ?_, ?_⟩, ?_⟩
  · rw [FrameCollector.getPayloadChunks, require_of hcomp, ok_bind, pure_eq_ok, hc.chunks,
      if_neg hne]
    simp only [seenChunks, List.map_map]
    refine congrArg Except.ok (List.map_congr_left fun j hj => ?_)
    simp [hall j (List.mem_range.mp hj)]
  · rw [show (fun j => p.dataChunk frame j) =
      fun j => ((sentData frame).drop (p.maxPayloadSize * j)).take p.maxPayloadSize from rfl,
      flatten_take_drop, List.take_of_length_le hcover]
  · rw [FrameCollector.peekFrameMetadata, require_of hcomp, ok_bind, hc.metadata (hall 0 hN)]
    rfl

/-- A frame whose truncated length is not negative makes the trip with its sent data. -/
theorem Sendable.roundTrips_sentData (h : Sendable p frame)
    (hs : 0 ≤ toInt32 frame.data.length) : RoundTrips p frame (sentData frame) where
  generated i hi k bufferSize hbuf hbuf' := by
    obtain ⟨bytes, p', hgen, hlen, hparse⟩ := h.generate_parse hs hi k hbuf hbuf'
    exact ⟨bytes, p', hgen, hlen, fun parser hrange => ⟨_, hparse parser hrange⟩⟩
  collected arrivals ha := by
    obtain ⟨N, hN, hN₁, -, hcover, -⟩ := computeNumberOfPackets_spec hs h.packets
    have hfresh : Collected p frame (p.computeNumberOfPackets frame).toNat []
        (FrameCollector.new.setFrameId frame.frameId) := ⟨rfl, rfl, by simp⟩
    obtain ⟨c, hall, hc⟩ := h.collectAll hs ha hfresh
    rw [hN, Int.toNat_natCast] at hc
    refine ⟨c, hall, ?_, hc.payload (by omega) hcover⟩
    rw [hc.isComplete_iff (by omega), hN]
    simp

/-- The packets of a frame can arrive in any order and any number of times. -/
theorem Sendable.exists_arrivals (h : Sendable p frame) (hs : 0 ≤ toInt32 frame.data.length)
    (ids : List ℕ) (hids : ∀ i ∈ ids, (i : ℤ) < p.computeNumberOfPackets frame) :
    ∃ arrivals : List (ℕ × ParseResult), arrivals.map Prod.fst = ids ∧
      ∀ a ∈ arrivals, (a.1 : ℤ) < p.computeNumberOfPackets frame ∧ ArrivesAs p frame a.1 a.2 := by
  let parser : RtpPacketParser := ⟨p.senderSsrc, frame.rtpTimestamp, frame.frameId⟩
  have hrange : InRange parser p frame :=
    ⟨rfl, by simp [parser, maxDistanceForExpansion], by simp [parser, maxDistanceForExpansion]⟩
  refine ⟨ids.map fun i =>
    (i, (p.withSequenceNumber 0).parsedPacket frame (p.computeNumberOfPackets frame) i),
    by simp [Function.comp_def], ?_⟩
  intro a ha
  obtain ⟨i, hi, rfl⟩ := List.mem_map.mp ha
  obtain ⟨bytes, p', hgen, -, hparse⟩ :=
    h.generate_parse hs (hids i hi) 0 le_rfl p.maxPacketSize_lt
  obtain ⟨parser', hparse⟩ := hparse parser hrange
  exact ⟨hids i hi, 0, _, bytes, p', parser, parser', le_rfl, p.maxPacketSize_lt, hgen, hrange,
    hparse⟩

/-- What a frame arrives with is determined. -/
theorem RoundTrips.payload_eq {payload payload' : List UInt8} (h : RoundTrips p frame payload)
    (h' : RoundTrips p frame payload') (hsend : Sendable p frame)
    (hs : 0 ≤ toInt32 frame.data.length) : payload = payload' := by
  obtain ⟨arrivals, hids, ha⟩ := hsend.exists_arrivals hs
    (List.range (p.computeNumberOfPackets frame).toNat) fun i hi => by
      have := List.mem_range.mp hi
      omega
  have hall : ∀ i : ℕ, (i : ℤ) < p.computeNumberOfPackets frame → i ∈ arrivals.map Prod.fst :=
    fun i hi => hids ▸ List.mem_range.mpr (by omega)
  obtain ⟨c, hc, hcomp, hpay⟩ := h.collected arrivals ha
  obtain ⟨c', hc', -, hpay'⟩ := h'.collected arrivals ha
  rw [hc] at hc'
  cases hc'
  obtain ⟨⟨chunks, hchunks, hflat⟩, -⟩ := hpay (hcomp.mpr hall)
  obtain ⟨⟨chunks', hchunks', hflat'⟩, -⟩ := hpay' (hcomp.mpr hall)
  rw [hchunks] at hchunks'
  cases hchunks'
  rw [← hflat, hflat']

/-- A frame of `2 ^ 31` bytes or more does not make the trip, although it is accepted. -/
theorem Sendable.not_roundTrips (h : Sendable p frame) (hlen : 0x80000000 ≤ frame.data.length) :
    ¬ RoundTrips p frame frame.data := by
  intro htrip
  rcases lt_or_ge (toInt32 frame.data.length) 0 with hs | hs
  · -- the last packet is never generated
    have hpos := h.packets
    obtain ⟨bytes, p', hgen, -⟩ := htrip.generated (p.computeNumberOfPackets frame - 1).toNat
      (by omega) p.sequenceNumber p.maxPacketSize le_rfl p.maxPacketSize_lt
    exact generatePacket_last_of_neg hs h.packets _ hgen
  · -- only the sent data arrives
    have heq := htrip.payload_eq (h.roundTrips_sentData hs) h hs
    have := (sentData_eq_iff frame hs).mp heq.symm
    omega

/-- **The RTP round trip.** A frame that `ComputeNumberOfPackets` accepts survives being
packetized, parsed and collected, in any order and with any repetitions, exactly when it has
fewer than `2 ^ 31` bytes. -/
theorem roundTrips_iff (h : Sendable p frame) :
    RoundTrips p frame frame.data ↔ frame.data.length < 0x80000000 := by
  constructor
  · intro htrip
    by_contra hlen
    exact h.not_roundTrips (by omega) htrip
  · intro hlen
    have hs : 0 ≤ toInt32 frame.data.length := by
      rw [toInt32_of_lt] <;> omega
    have htrip := h.roundTrips_sentData hs
    rwa [(sentData_eq_iff frame hs).mpr hlen] at htrip

/-- A first key frame that holds `data`. -/
def keyFrameOf (data : List UInt8) : EncryptedFrame := ⟨.keyFrame, 0, 0, 0, 0, 400, data⟩

theorem sendable_keyFrameOf {data : List UInt8}
    (h : 0 < p.computeNumberOfPackets (keyFrameOf data)) : Sendable p (keyFrameOf data) :=
  ⟨h, by simp [keyFrameOf], by simp [keyFrameOf], by simp [keyFrameOf]⟩

/-- A packetizer with two bytes of data in a packet. -/
def smallPacketizer : RtpPacketizer :=
  { vp8Packetizer with
    maxPacketSize := kMaxRtpHeaderSize + 2, lt_maxPacketSize := by decide
    maxPacketSize_lt := by decide }

/-- Five bytes in three packets make the trip. Their last packet arrives first and once more. -/
theorem roundTrips_three_packets :
    RoundTrips smallPacketizer (keyFrameOf [1, 2, 3, 4, 5]) [1, 2, 3, 4, 5] ∧
      ∃ (arrivals : List (ℕ × ParseResult)) (c : FrameCollector) (chunks : List ByteView),
        arrivals.map Prod.fst = [2, 0, 2, 1] ∧
        collectAll (FrameCollector.new.setFrameId 0) (arrivals.map Prod.snd) = .ok c ∧
        c.getPayloadChunks = .ok chunks ∧ chunks.flatten = [1, 2, 3, 4, 5] := by
  have hnum : smallPacketizer.computeNumberOfPackets (keyFrameOf [1, 2, 3, 4, 5]) = 3 := by decide
  have hsend := @sendable_keyFrameOf smallPacketizer [1, 2, 3, 4, 5] (by decide)
  have htrip := (roundTrips_iff hsend).mpr (by decide)
  obtain ⟨arrivals, hids, ha⟩ := hsend.exists_arrivals (by decide) [2, 0, 2, 1] (by decide)
  obtain ⟨c, hc, hcomplete, hpayload⟩ := htrip.collected arrivals ha
  rw [hids, hnum] at hcomplete
  have hall : ∀ i : ℕ, (i : ℤ) < 3 → i ∈ [2, 0, 2, 1] := by
    intro i hi
    simp only [List.mem_cons, List.not_mem_nil]
    omega
  obtain ⟨⟨chunks, hchunks, hflat⟩, -⟩ := hpayload (hcomplete.mpr hall)
  exact ⟨htrip, arrivals, c, chunks, hids, hc, hchunks, hflat⟩

/-- `2 ^ 32` bytes are accepted as one packet and do not make the trip. -/
theorem not_roundTrips_four_gibibytes :
    vp8Packetizer.computeNumberOfPackets (keyFrameOf (List.replicate 0x100000000 0)) = 1 ∧
      ¬ RoundTrips vp8Packetizer (keyFrameOf (List.replicate 0x100000000 0))
        (List.replicate 0x100000000 0) := by
  have hn : vp8Packetizer.computeNumberOfPackets
      (keyFrameOf (List.replicate 0x100000000 0)) = 1 := by
    simp only [computeNumberOfPackets, keyFrameOf, List.length_replicate]
    decide
  refine ⟨hn, Sendable.not_roundTrips (sendable_keyFrameOf (by omega)) ?_⟩
  simp only [keyFrameOf, List.length_replicate]
  decide

end RtpPacketizer

end StreamerPlus
