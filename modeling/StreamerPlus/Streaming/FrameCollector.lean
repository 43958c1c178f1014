import StreamerPlus.Streaming.RtpPacketParser

/-!
# `FrameCollector`

The reassembly of one frame from its parsed packets (`frame_collector.cc`). A chunk is `none`
until its packet has been collected; the buffers behind the payloads are left out, and with
them the two checks that a payload lies in its own buffer.

The collector carries its own accounting: either no packet has been collected since the last
`Reset()`, or `num_missing_packets_` counts the chunks that are still missing. The check at
the end of `CollectRtpPacket` follows from it.
-/

namespace StreamerPlus

open Checked

/-- `PacketNack`. -/
structure PacketNack where
  frameId : ℤ
  packetId : ℕ
  deriving DecidableEq, Repr

/-- `kUnknownNumberOfPackets`, the largest `int`. -/
@[simp] def kUnknownNumberOfPackets : ℤ := 0x7fffffff

/-- `FrameCollector`. -/
structure FrameCollector where
  frame : FrameMetadata
  numMissingPackets : ℤ
  chunks : List (Option ByteView)
  accounted : chunks = [] ∧ numMissingPackets = kUnknownNumberOfPackets ∨
    0 < chunks.length ∧ chunks.length ≤ 0x10000 ∧
      numMissingPackets = chunks.countP Option.isNone

namespace FrameCollector

/-- The checks of the collector. -/
inductive Fault
  | nullFrameId | negativeMissingCount | incomplete
  deriving DecidableEq, Repr

/-- A collector as constructed, and as `Reset()` leaves it. -/
def new : FrameCollector := ⟨{}, kUnknownNumberOfPackets, [], by simp⟩

variable (c : FrameCollector)

/-- `set_frame_id(frame_id)`. -/
def setFrameId (frameId : ℤ) : FrameCollector :=
  { c with frame := { c.frame with frameId := some frameId } }

/-- `is_complete()`. -/
def isComplete : Bool := c.numMissingPackets == 0

/-- The chunks after the first packet of a frame of `maxPacketId + 1` packets has been seen, and
`none` when an earlier packet announced another number of packets. -/
def expectPackets (maxPacketId : UInt16) : Option FrameCollector :=
  if c.numMissingPackets = kUnknownNumberOfPackets then
    some ⟨c.frame, maxPacketId.toNat + 1, List.replicate (maxPacketId.toNat + 1) none, by
      have := maxPacketId.toNat_lt
      refine Or.inr ⟨by simp, by simp; omega, by simp [List.countP_replicate]⟩⟩
  else if maxPacketId.toNat + 1 ≠ c.chunks.length then none
  else some c

/-- The metadata that packet 0 carries. -/
def metadataFrom (frame : FrameMetadata) (part : ParseResult) : FrameMetadata :=
  { frame with
    dependency :=
      if part.isKeyFrame then .keyFrame
      else if part.frameId = part.referencedFrameId then .independent
      else .dependent
    referencedFrameId := some part.referencedFrameId
    rtpTimestamp := part.rtpTimestamp
    newPlayoutDelay := part.newPlayoutDelay }

/-- Fills a missing chunk. -/
def storeChunk (part : ParseResult)
    (h : c.chunks[part.packetId.toNat]? = some none) : FrameCollector where
  frame := if part.packetId = 0 then metadataFrom c.frame part else c.frame
  numMissingPackets := c.numMissingPackets - 1
  chunks := c.chunks.set part.packetId.toNat (some part.payload)
  accounted := by
    obtain ⟨hlt, hnone⟩ := List.getElem?_eq_some_iff.mp h
    rcases c.accounted with ⟨hnil, -⟩ | ⟨hpos, hle, hnum⟩
    · simp [hnil] at hlt
    · have hcount : 0 < c.chunks.countP Option.isNone :=
        List.countP_pos_iff.mpr ⟨none, hnone ▸ List.getElem_mem hlt, rfl⟩
      refine Or.inr ⟨by simpa using hpos, by simpa using hle, ?_⟩
      rw [hnum, List.countP_set hlt, hnone]
      simp
      omega

/-- `CollectRtpPacket(part, buffer)`: whether the packet was accepted. -/
def collectRtpPacket (part : ParseResult) :
    Except Fault (Bool × FrameCollector) := do
  require c.frame.frameId.isSome .nullFrameId
  if some part.frameId ≠ c.frame.frameId then return (false, c)
  match c.expectPackets part.maxPacketId with
  | none => return (false, c)
  | some c =>
    match h : c.chunks[part.packetId.toNat]? with
    | none => return (false, c)
    | some (some _) => return (true, c)
    | some none =>
      let c := c.storeChunk part h
      require (0 ≤ c.numMissingPackets) .negativeMissingCount
      return (true, c)

/-- The elements that `GetMissingPackets(nacks)` appends. -/
def getMissingPackets : Except Fault (List PacketNack) :=
  match c.frame.frameId with
  | none => .error .nullFrameId
  | some frameId =>
    if c.isComplete then .ok []
    else if (c.chunks.length : ℤ) ≤ c.numMissingPackets then .ok [⟨frameId, kAllPacketsLost⟩]
    else .ok ((List.range c.chunks.length).filterMap fun packetId =>
      if c.chunks[packetId]? = some none then some ⟨frameId, packetId⟩ else none)

/-- `PeekFrameMetadata()`. -/
def peekFrameMetadata : Except Fault FrameMetadata := do
  require c.isComplete .incomplete
  return c.frame

/-- `GetPayloadChunks()`. -/
def getPayloadChunks : Except Fault (List ByteView) := do
  require c.isComplete .incomplete
  return c.chunks.map fun chunk => chunk.getD []

/-- `GetFramePayloadSize()`. -/
def getFramePayloadSize : Except Fault ℕ := do
  let chunks ← c.getPayloadChunks
  return (chunks.map List.length).sum

/-! ### Completeness -/

@[simp]
theorem isComplete_new : new.isComplete = false := rfl

@[simp]
theorem frame_storeChunk_frameId (part : ParseResult)
    (h : c.chunks[part.packetId.toNat]? = some none) :
    (c.storeChunk part h).frame.frameId = c.frame.frameId := by
  simp only [storeChunk]
  split_ifs <;> rfl

/-- A collector is complete when every packet of its frame has been collected. -/
theorem isComplete_iff :
    c.isComplete = true ↔ c.chunks ≠ [] ∧ ∀ chunk ∈ c.chunks, chunk.isSome := by
  rcases c.accounted with ⟨hnil, hnum⟩ | ⟨hpos, -, hnum⟩
  · simp [isComplete, hnil, hnum]
  · have hne : c.chunks ≠ [] := List.ne_nil_of_length_pos hpos
    simp [isComplete, hnum, hne, List.countP_eq_zero, Option.isNone_iff_eq_none,
      Option.isSome_iff_ne_none]

variable {c c' : FrameCollector}

theorem frameId_expectPackets {maxPacketId : UInt16}
    (h : c.expectPackets maxPacketId = some c') : c'.frame.frameId = c.frame.frameId := by
  unfold expectPackets at h
  split_ifs at h
  · cases h
    rfl
  · cases h
    rfl

/-- The last check of `CollectRtpPacket` always passes. -/
theorem numMissingPackets_nonneg (c : FrameCollector) : 0 ≤ c.numMissingPackets := by
  rcases c.accounted with ⟨-, hnum⟩ | ⟨-, -, hnum⟩ <;> simp [hnum]

/-! ### What a packet changes -/

/-- No packet has been collected when the number of packets is not known. -/
theorem numMissingPackets_eq_unknown_iff (c : FrameCollector) :
    c.numMissingPackets = kUnknownNumberOfPackets ↔ c.chunks = [] := by
  rcases c.accounted with ⟨hnil, hnum⟩ | ⟨hpos, hle, hnum⟩
  · simp [hnil, hnum]
  · have hcount : c.chunks.countP Option.isNone ≤ c.chunks.length := List.countP_le_length
    have hne : c.chunks ≠ [] := List.ne_nil_of_length_pos hpos
    simp only [hnum, kUnknownNumberOfPackets, hne, iff_false]
    omega

/-- The frame has as many packets as the packet says, if nothing else is known of it. -/
theorem expectPackets_eq_some {maxPacketId : UInt16} (h : c.expectPackets maxPacketId = some c') :
    c'.chunks.length = maxPacketId.toNat + 1 ∧
      (c.chunks = [] ∧ c'.chunks = List.replicate (maxPacketId.toNat + 1) none ∨
        c.chunks ≠ [] ∧ c' = c) := by
  unfold expectPackets at h
  split_ifs at h with hunknown hlength
  · cases h
    exact ⟨by simp, Or.inl ⟨(numMissingPackets_eq_unknown_iff c).mp hunknown, rfl⟩⟩
  · cases h
    exact ⟨(not_not.mp hlength).symm,
      Or.inr ⟨fun hnil => hunknown ((numMissingPackets_eq_unknown_iff c).mpr hnil), rfl⟩⟩

/-- A packet that is not accepted changes nothing. -/
theorem eq_of_collectRtpPacket_false {part : ParseResult}
    (h : c.collectRtpPacket part = .ok (false, c'))
    (hpart : part.packetId.toNat ≤ part.maxPacketId.toNat) : c' = c := by
  unfold collectRtpPacket at h
  rw [require_bind_eq_ok] at h
  obtain ⟨-, h⟩ := h
  split_ifs at h with hid
  · cases h
    rfl
  cases hexpect : c.expectPackets part.maxPacketId with
  | none =>
    rw [hexpect] at h
    cases h
    rfl
  | some c₁ =>
    rw [hexpect] at h
    dsimp only at h
    split at h
    · rename_i hnone
      have hlength := (expectPackets_eq_some hexpect).1
      rw [List.getElem?_eq_none_iff] at hnone
      omega
    · cases h
    · rw [require_bind_eq_ok] at h
      cases h.2

/-- **An accepted packet** is the only one that it adds, and all packets of a frame agree on
their number. -/
theorem collectRtpPacket_true {part : ParseResult} (h : c.collectRtpPacket part = .ok (true, c')) :
    c'.chunks.length = part.maxPacketId.toNat + 1 ∧
      (c.chunks = [] ∨ c.chunks.length = part.maxPacketId.toNat + 1) ∧
      c'.frame.frameId = c.frame.frameId ∧
      ∀ i ≤ part.maxPacketId.toNat, c'.chunks[i]? = some none ↔
        i ≠ part.packetId.toNat ∧ (c.chunks = [] ∨ c.chunks[i]? = some none) := by
  unfold collectRtpPacket at h
  rw [require_bind_eq_ok] at h
  obtain ⟨-, h⟩ := h
  split_ifs at h with hid
  · cases h
  cases hexpect : c.expectPackets part.maxPacketId with
  | none =>
    rw [hexpect] at h
    cases h
  | some c₁ =>
    rw [hexpect] at h
    have hframe := frameId_expectPackets hexpect
    obtain ⟨hlength, hcases⟩ := expectPackets_eq_some hexpect
    have hbefore : c.chunks = [] ∨ c.chunks.length = part.maxPacketId.toNat + 1 := by
      rcases hcases with ⟨hnil, -⟩ | ⟨-, rfl⟩
      · exact Or.inl hnil
      · exact Or.inr hlength
    have hmissing : ∀ i ≤ part.maxPacketId.toNat, c₁.chunks[i]? = some none ↔
        c.chunks = [] ∨ c.chunks[i]? = some none := by
      intro i hi
      rcases hcases with ⟨hnil, hchunks⟩ | ⟨hne, rfl⟩
      · simp [hnil, hchunks, Nat.lt_succ_of_le hi]
      · simp [hne]
    dsimp only at h
    split at h
    · cases h
    · rename_i chunk hchunk
      cases h
      refine ⟨hlength, hbefore, hframe, fun i hi => ?_⟩
      rw [hmissing i hi]
      refine ⟨fun hnone => ⟨?_, hnone⟩, And.right⟩
      rintro rfl
      rw [← hmissing _ hi, hchunk] at hnone
      simp at hnone
    · rename_i hnone
      rw [require_bind_eq_ok] at h
      cases h.2
      refine ⟨by simp [storeChunk, hlength], hbefore, by simp [hframe], fun i hi => ?_⟩
      simp only [storeChunk, List.getElem?_set, ← hmissing i hi]
      split_ifs with heq
      · simp [heq]
      · simp [heq]
      · simp [Ne.symm heq]

end FrameCollector

end StreamerPlus
