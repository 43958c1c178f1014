import StreamerPlus.Streaming.EncodedFrame
import StreamerPlus.Streaming.PacketUtil
import StreamerPlus.Streaming.RtpDefines
import StreamerPlus.Util.IntegerDivision

/-!
# `RtpPacketizer`

The split of one encrypted frame into RTP packets (`rtp_packetizer.cc`). Sizes go through
`static_cast<int>`, so the packetizer sees the length of the data modulo `2 ^ 32`, and what it
sends is `sentData`: all of the data only while that length is below `2 ^ 31`.

The main results are the two halves of this. `generatePacket_eq` gives the bytes of every
packet when the truncated length is not negative, and `generatePacket_last_of_neg` shows that
the last packet cannot be generated when it is.
-/

namespace StreamerPlus

open Checked

@[simp] def kBaseRtpHeaderSize : ℕ := kRtpPacketMinValidSize + 1
@[simp] def kAdaptiveLatencyHeaderSize : ℕ := 4
@[simp] def kMaxRtpHeaderSize : ℕ := kBaseRtpHeaderSize + kAdaptiveLatencyHeaderSize

/-- `RtpPacketizer`. The three conditions are the checks of the constructor and the type of
`max_packet_size_`. -/
structure RtpPacketizer where
  payloadType : RtpPayloadType
  senderSsrc : Ssrc
  maxPacketSize : ℕ
  sequenceNumber : ℕ
  payloadType_ne : payloadType ≠ .null
  lt_maxPacketSize : kMaxRtpHeaderSize < maxPacketSize
  maxPacketSize_lt : maxPacketSize < 0x80000000

namespace RtpPacketizer

/-- A video packetizer with packets of at most 1472 bytes. -/
def vp8Packetizer : RtpPacketizer :=
  ⟨.videoVp8, 1, 1472, 0, by decide, by decide, by decide⟩

/-- What stops `GeneratePacket`: one of its checks, a signed overflow, or a span access. -/
inductive Fault
  | bufferTooSmall | noPackets | packetIdOutOfRange | playoutDelayTooLarge | packetTooLarge
  | signedOverflow | span (f : SpanFault)
  deriving DecidableEq, Repr

variable (p : RtpPacketizer) (frame : EncryptedFrame)

/-- The packetizer with another `sequence_number_`. -/
def withSequenceNumber (k : ℕ) : RtpPacketizer := { p with sequenceNumber := k }

/-- `max_payload_size()`. -/
def maxPayloadSize : ℕ := p.maxPacketSize - kMaxRtpHeaderSize

/-- `ComputeNumberOfPackets(frame)`. -/
def computeNumberOfPackets : ℤ :=
  let numPackets :=
    max 1 (dividePositivesRoundingUp (toInt32 frame.data.length) p.maxPayloadSize)
  if numPackets ≤ kMaxAllowedFramePacketId then numPackets else -1

/-- `include_adaptive_latency_change`. -/
def includesAdaptiveLatencyChange (packetId : ℕ) : Bool :=
  packetId == 0 && decide (0 < frame.newPlayoutDelay)

/-- The RTP header, the Cast header and its extension, field by field. -/
def headerFields (numPackets : ℤ) (packetId : ℕ) : List (ℕ × ℕ) :=
  let isLastPacket : Bool := decide ((packetId : ℤ) = numPackets - 1)
  let adaptive := includesAdaptiveLatencyChange frame packetId
  [ (1, kRtpRequiredFirstByte),
    (1, (if isLastPacket then kRtpMarkerBitMask else 0) ||| p.payloadType.toByte),
    (2, p.sequenceNumber),
    (4, ExpandedValue.lowerBits 32 frame.rtpTimestamp),
    (4, p.senderSsrc.toNat),
    (1, (if frame.dependency = .keyFrame then kRtpKeyFrameBitMask else 0) |||
      kRtpHasReferenceFrameIdBitMask ||| (if adaptive then 1 else 0)),
    (1, ExpandedValue.lowerBits 8 frame.frameId),
    (2, packetId),
    (2, (numPackets - 1).toNat),
    (1, ExpandedValue.lowerBits 8 frame.referencedFrameId) ] ++
  if adaptive then
    [ (2, (kAdaptiveLatencyRtpExtensionType <<< kNumExtensionDataSizeFieldBits) ||| 2),
      (2, frame.newPlayoutDelay.toNat) ]
  else []

/-- `data.subspan(offset, count)` with the arguments converted to `size_t`: a count of `-1` is
`std::dynamic_extent`, the rest of the span. -/
def subspan (data : ByteView) (offset count : ℤ) : Except Fault ByteView :=
  if offset < 0 ∨ data.length < offset then .error (.span .outOfBounds)
  else if count = -1 then .ok (data.drop offset.toNat)
  else if count < 0 ∨ data.length < offset + count then .error (.span .outOfBounds)
  else .ok ((data.drop offset.toNat).take count.toNat)

/-- `GeneratePacket(frame, packet_id, buffer)` for a buffer of `bufferSize` bytes: the bytes of
`packet`, and the packetizer with its next sequence number. -/
def generatePacket (packetId bufferSize : ℕ) : Except Fault (ByteView × RtpPacketizer) := do
  require (p.maxPacketSize ≤ toInt32 bufferSize) .bufferTooSmall
  let numPackets := p.computeNumberOfPackets frame
  require (0 < numPackets) .noPackets
  require ((packetId : ℤ) < numPackets) .packetIdOutOfRange
  let adaptive := includesAdaptiveLatencyChange frame packetId
  require (adaptive = true → frame.newPlayoutDelay ≤ 0xffff) .playoutDelayTooLarge
  let headerSize := kBaseRtpHeaderSize + if adaptive then kAdaptiveLatencyHeaderSize else 0
  let dataChunkStart := p.maxPayloadSize * packetId
  require (dataChunkStart < 0x80000000) .signedOverflow
  let dataChunkSize : ℤ :=
    if (packetId : ℤ) = numPackets - 1 then toInt32 frame.data.length - dataChunkStart
    else p.maxPayloadSize
  let packetSize := headerSize + dataChunkSize
  require (packetSize ≤ p.maxPacketSize) .packetTooLarge
  let buffer ← (appendFields (p.headerFields frame numPackets packetId) ⟨[], bufferSize⟩).mapError
    Fault.span
  let dataChunk ← subspan frame.data dataChunkStart dataChunkSize
  require (dataChunk.length ≤ buffer.room) (.span .outOfBounds)
  return ((buffer.written ++ dataChunk).take packetSize.toNat,
    p.withSequenceNumber ((p.sequenceNumber + 1) % 0x10000))

/-! ### The number of packets -/

@[simp]
theorem computeNumberOfPackets_withSequenceNumber (k : ℕ) :
    (p.withSequenceNumber k).computeNumberOfPackets frame = p.computeNumberOfPackets frame := rfl

/-- The part of the data that the truncated length covers. -/
def sentData : List UInt8 := frame.data.take (toInt32 frame.data.length).toNat

/-- The payload of packet `i`. -/
def dataChunk (i : ℕ) : List UInt8 :=
  ((sentData frame).drop (p.maxPayloadSize * i)).take p.maxPayloadSize

theorem maxPayloadSize_pos : 0 < p.maxPayloadSize := by
  have := p.lt_maxPacketSize
  unfold maxPayloadSize
  omega

theorem maxPayloadSize_add : p.maxPayloadSize + 23 = p.maxPacketSize := by
  have := p.lt_maxPacketSize
  simp only [kMaxRtpHeaderSize, kBaseRtpHeaderSize, kRtpPacketMinValidSize,
    kAdaptiveLatencyHeaderSize] at this
  simp only [maxPayloadSize, kMaxRtpHeaderSize, kBaseRtpHeaderSize, kRtpPacketMinValidSize,
    kAdaptiveLatencyHeaderSize]
  omega

theorem length_sentData (h : 0 ≤ toInt32 frame.data.length) :
    ((sentData frame).length : ℤ) = toInt32 frame.data.length := by
  have := toInt32_le (n := frame.data.length) (by omega)
  simp only [sentData, List.length_take]
  omega

theorem sentData_eq_iff (h : 0 ≤ toInt32 frame.data.length) :
    sentData frame = frame.data ↔ frame.data.length < 0x80000000 := by
  constructor
  · intro he
    have := length_sentData frame h
    rw [he] at this
    have := toInt32_lt frame.data.length
    omega
  · intro hlt
    rw [sentData, toInt32_of_lt (by omega) (by exact_mod_cast hlt)]
    simp

variable {p frame}

/-- Chunks of `m` cover `s` when there are `⌈s / m⌉` of them, and one less do not exceed it. -/
private theorem max_one_ceil_spec {s m : ℤ} (hs : 0 ≤ s) (hm : 0 < m) :
    s ≤ m * max 1 ((s + m - 1) / m) ∧ m * (max 1 ((s + m - 1) / m) - 1) ≤ s := by
  have hq₁ := Int.mul_ediv_add_emod (s + m - 1) m
  have hq₂ := Int.emod_lt_of_pos (s + m - 1) hm
  have hq₃ := Int.emod_nonneg (s + m - 1) hm.ne'
  generalize (s + m - 1) / m = q at *
  rcases le_or_gt q 1 with hq | hq
  · have hmq : m * q ≤ m * 1 := by gcongr
    rw [max_eq_left hq]
    constructor <;> omega
  · rw [max_eq_right hq.le, mul_sub]
    constructor <;> omega

/-- The packets cover the sent data, and every packet but the last is full. -/
theorem computeNumberOfPackets_spec (hs : 0 ≤ toInt32 frame.data.length)
    (hn : 0 < p.computeNumberOfPackets frame) :
    ∃ N : ℕ, p.computeNumberOfPackets frame = N ∧ 1 ≤ N ∧ N ≤ 0xfffe ∧
      (sentData frame).length ≤ p.maxPayloadSize * N ∧
      p.maxPayloadSize * (N - 1) ≤ (sentData frame).length := by
  have hlen := length_sentData frame hs
  have hm : (0 : ℤ) < p.maxPayloadSize := by exact_mod_cast p.maxPayloadSize_pos
  have hm' := p.maxPacketSize_lt
  have hadd := p.maxPayloadSize_add
  have hdiv := dividePositivesRoundingUp_eq hs (toInt32_lt _) hm (by omega)
  obtain ⟨hcover, hfull⟩ := max_one_ceil_spec hs hm
  unfold computeNumberOfPackets at hn ⊢
  rw [hdiv] at hn ⊢
  generalize max 1 ((toInt32 frame.data.length + p.maxPayloadSize - 1) / p.maxPayloadSize) = q
    at hn hcover hfull ⊢
  simp only [kMaxAllowedFramePacketId] at hn ⊢
  split_ifs at hn with hle
  · lift q to ℕ using by omega
    rw [← hlen] at hcover hfull
    refine ⟨q, if_pos hle, by omega, by omega, by exact_mod_cast hcover, ?_⟩
    rw [show (q : ℤ) - 1 = (q - 1 : ℕ) by omega] at hfull
    exact_mod_cast hfull
  · omega

/-! ### The bytes of a packet -/

/-- The bytes of packet `i` of `n`. -/
def packetBytes (p : RtpPacketizer) (frame : EncryptedFrame) (n : ℤ) (i : ℕ) : ByteView :=
  fieldBytes (p.headerFields frame n i) ++ p.dataChunk frame i

theorem fieldSize_headerFields (p : RtpPacketizer) (frame : EncryptedFrame) (n : ℤ) (i : ℕ) :
    fieldSize (p.headerFields frame n i) =
      kBaseRtpHeaderSize +
        if includesAdaptiveLatencyChange frame i then kAdaptiveLatencyHeaderSize else 0 := by
  unfold headerFields
  cases includesAdaptiveLatencyChange frame i <;> simp [fieldSize]

theorem length_dataChunk_le (p : RtpPacketizer) (frame : EncryptedFrame) (i : ℕ) :
    (p.dataChunk frame i).length ≤ p.maxPayloadSize := by
  simp [dataChunk]

/-- No packet is larger than `max_packet_size_`. -/
theorem length_packetBytes_le (p : RtpPacketizer) (frame : EncryptedFrame) (n : ℤ) (i : ℕ) :
    (p.packetBytes frame n i).length ≤ p.maxPacketSize := by
  have h₁ := p.length_dataChunk_le frame i
  have h₂ := p.maxPayloadSize_add
  rw [packetBytes, List.length_append, length_fieldBytes, fieldSize_headerFields]
  split_ifs <;> simp <;> omega

theorem subspan_of_le {data : ByteView} {offset count : ℤ} (h₀ : 0 ≤ offset) (hc : 0 ≤ count)
    (h : offset + count ≤ data.length) :
    subspan data offset count = .ok ((data.drop offset.toNat).take count.toNat) := by
  rw [subspan, if_neg (by omega), if_neg (by omega), if_neg (by omega)]

/-- A cut of `size` bytes that is full, or that ends where the sent data ends, is the chunk. -/
private theorem take_drop_eq_dataChunk (hs : 0 ≤ toInt32 frame.data.length) {i size : ℕ}
    (hend : p.maxPayloadSize * i + size ≤ (sentData frame).length)
    (hsize : size = p.maxPayloadSize ∨
      p.maxPayloadSize * i + size = (sentData frame).length ∧ size ≤ p.maxPayloadSize) :
    (frame.data.drop (p.maxPayloadSize * i)).take size = p.dataChunk frame i ∧
      (p.dataChunk frame i).length = size := by
  have hlen := length_sentData frame hs
  have hle := toInt32_le (n := frame.data.length) (by omega)
  have hchunk : p.dataChunk frame i = (frame.data.drop (p.maxPayloadSize * i)).take size := by
    rw [dataChunk, sentData, List.drop_take, List.take_take]
    congr 1
    omega
  refine ⟨hchunk.symm, ?_⟩
  rw [hchunk, List.length_take, List.length_drop]
  omega

/-- The chunk that `GeneratePacket` cuts out: the last one ends where the sent data ends and
the others are full. -/
theorem dataChunkSize_spec (hs : 0 ≤ toInt32 frame.data.length) {i : ℕ}
    (hi : (i : ℤ) < p.computeNumberOfPackets frame) :
    ∃ size : ℕ,
      (if (i : ℤ) = p.computeNumberOfPackets frame - 1 then
          toInt32 frame.data.length - (p.maxPayloadSize * i : ℕ) else (p.maxPayloadSize : ℤ)) =
        (size : ℤ) ∧
      p.maxPayloadSize * i + size ≤ (sentData frame).length ∧ size ≤ p.maxPayloadSize ∧
      (frame.data.drop (p.maxPayloadSize * i)).take size = p.dataChunk frame i ∧
      (p.dataChunk frame i).length = size := by
  obtain ⟨N, hN, hN₁, -, hcover, hfull⟩ := computeNumberOfPackets_spec (p := p) hs (by omega)
  have hlen := length_sentData frame hs
  rw [hN] at hi ⊢
  by_cases hlast : (i : ℤ) = N - 1
  · obtain rfl : N = i + 1 := by omega
    rw [Nat.add_sub_cancel] at hfull
    rw [Nat.mul_succ] at hcover
    have hsz : (sentData frame).length - p.maxPayloadSize * i ≤ p.maxPayloadSize := by omega
    refine ⟨(sentData frame).length - p.maxPayloadSize * i, ?_, by omega, hsz,
      take_drop_eq_dataChunk hs (by omega) (Or.inr ⟨by omega, hsz⟩)⟩
    rw [if_pos hlast]
    omega
  · have hnext : p.maxPayloadSize * (i + 1) ≤ p.maxPayloadSize * (N - 1) :=
      Nat.mul_le_mul_left _ (by omega)
    rw [Nat.mul_succ] at hnext
    exact ⟨p.maxPayloadSize, by rw [if_neg hlast], by omega, le_rfl,
      take_drop_eq_dataChunk hs (by omega) (Or.inl rfl)⟩

/-- **The generated packets.** While the truncated length is not negative, every packet of the
frame is its header and its chunk of the sent data. -/
theorem generatePacket_eq (hs : 0 ≤ toInt32 frame.data.length) {i bufferSize : ℕ}
    (hi : (i : ℤ) < p.computeNumberOfPackets frame) (hdelay : frame.newPlayoutDelay ≤ 0xffff)
    (hbuf : p.maxPacketSize ≤ bufferSize) (hbuf' : bufferSize < 0x80000000) :
    p.generatePacket frame i bufferSize =
      .ok (p.packetBytes frame (p.computeNumberOfPackets frame) i,
        p.withSequenceNumber ((p.sequenceNumber + 1) % 0x10000)) := by
  have hn : 0 < p.computeNumberOfPackets frame := by omega
  obtain ⟨size, hsize, hend, hsz, hchunk, hlen⟩ := dataChunkSize_spec hs hi
  have hL := length_sentData frame hs
  have hs31 := toInt32_lt frame.data.length
  have hle := toInt32_le (n := frame.data.length) (by omega)
  have hm := p.maxPayloadSize_add
  have hbuf₀ : (p.maxPacketSize : ℤ) ≤ toInt32 bufferSize := by
    rw [toInt32_of_lt] <;> omega
  have hhead := p.fieldSize_headerFields frame (p.computeNumberOfPackets frame) i
  have hhead' : fieldSize (p.headerFields frame (p.computeNumberOfPackets frame) i) ≤ 23 := by
    rw [hhead]
    split_ifs <;> simp
  have hfields : appendFields (p.headerFields frame (p.computeNumberOfPackets frame) i)
      ⟨[], bufferSize⟩ =
        .ok ⟨fieldBytes (p.headerFields frame (p.computeNumberOfPackets frame) i),
          bufferSize - fieldSize (p.headerFields frame (p.computeNumberOfPackets frame) i)⟩ := by
    rw [appendFields_of_le (by show _ ≤ bufferSize; omega), List.nil_append]
  have hpacket : ((kBaseRtpHeaderSize + if includesAdaptiveLatencyChange frame i then
      kAdaptiveLatencyHeaderSize else 0 : ℕ) : ℤ) + size ≤ p.maxPacketSize := by
    rw [← hhead]
    omega
  have hstart : p.maxPayloadSize * i < 0x80000000 := by omega
  have hcut := @subspan_of_le frame.data (p.maxPayloadSize * i : ℕ) size (by omega) (by omega)
    (by omega)
  have hroom : (p.dataChunk frame i).length ≤
      bufferSize - fieldSize (p.headerFields frame (p.computeNumberOfPackets frame) i) := by
    omega
  unfold generatePacket
  dsimp only
  rw [require_of hbuf₀, ok_bind, require_of hn, ok_bind, require_of hi, ok_bind,
    require_of (fun _ => hdelay), ok_bind, require_of hstart, ok_bind, hsize,
    require_of hpacket, ok_bind, hfields]
  simp only [Except.mapError, ok_bind]
  rw [hcut, ok_bind, Int.toNat_natCast,
    Int.toNat_natCast, hchunk, require_of hroom, ok_bind, pure_eq_ok, packetBytes,
    List.take_of_length_le]
  rw [List.length_append, length_fieldBytes, hhead, hlen]
  omega

/-- A frame whose truncated length is negative has a last packet that cannot be generated. -/
theorem generatePacket_last_of_neg (hs : toInt32 frame.data.length < 0)
    (hn : 0 < p.computeNumberOfPackets frame) :
    ∀ r, p.generatePacket frame (p.computeNumberOfPackets frame - 1).toNat p.maxPacketSize ≠
      .ok r := by
  intro r h
  obtain ⟨i, hi⟩ : ∃ i : ℕ, (i : ℤ) = p.computeNumberOfPackets frame - 1 :=
    ⟨(p.computeNumberOfPackets frame - 1).toNat, by omega⟩
  rw [← hi, Int.toNat_natCast] at h
  unfold generatePacket at h
  dsimp only at h
  rw [if_pos hi] at h
  simp only [require_bind_eq_ok] at h
  simp only [bind_eq_ok, mapError_eq_ok, require_eq_ok] at h
  obtain ⟨-, -, -, -, -, -, buffer, hbuf, chunk, hchunk, -, hroom, -⟩ := h
  obtain ⟨-, rfl⟩ := appendFields_eq_ok hbuf
  have hsize : toInt32 frame.data.length - (p.maxPayloadSize * i : ℕ) < 0 := by omega
  unfold subspan at hchunk
  split_ifs at hchunk with h₁ h₂ h₃
  · -- a count of `-1` is the rest of the span, more than any packet buffer holds
    cases hchunk
    have hlen : 0x80000000 ≤ frame.data.length := by
      by_contra hlt
      rw [toInt32_of_lt] at hs <;> omega
    have := p.maxPacketSize_lt
    simp only [List.length_drop] at hroom
    omega
  · omega

end RtpPacketizer

end StreamerPlus
