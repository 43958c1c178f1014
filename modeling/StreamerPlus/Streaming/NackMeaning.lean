import StreamerPlus.Streaming.FeedbackLists
import StreamerPlus.Streaming.RtcpSubPackets

/-!
# What the parsed NACKs mean

A loss field names a packet and, with the bits of its vector, up to eight packets after it; the
packet id `0xffff` names all packets of a frame. `ParseFeedback` counts the packet ids of the
bits up in 16 bits, next to this sentinel, and `CanonicalizePacketNackVector` then sorts and
prunes the list that the client is told.

Main results:

* `canonicalizePacketNackVector_spec`: whatever the list, its canonical form is sorted, has no
  duplicates and reports the same packets.
* `means_packetNacks_iff`: the client is told what the loss fields of the datagram say exactly
  when no bit of theirs stands for a packet id after `0xfffe` that is not lost anyway.
-/

namespace StreamerPlus

open Checked ExpandedValue

/-! ### Lost packets -/

/-- The NACK reports the packet, by itself or with its whole frame. -/
def PacketNack.Reports (n : PacketNack) (frameId : ℤ) (packetId : ℕ) : Prop :=
  n.frameId = frameId ∧ (n.packetId = kAllPacketsLost ∨ n.packetId = packetId)

/-- The loss field reports the packet, as the wire format has it. -/
def LossField.Reports (f : LossField) (frameId : ℤ) (packetId : ℕ) : Prop :=
  f.frameId = frameId ∧ (f.packetId = kAllPacketsLost ∨ f.packetId = packetId ∨
    ∃ k, f.bitVector.testBit k ∧ packetId = f.packetId + k + 1)

/-- **The NACK list says what the loss fields say**, in canonical form: sorted and without
duplicates, with one entry for a frame that is lost as a whole. Packet ids are below
`kAllPacketsLost`. -/
structure Means (fields : List LossField) (nacks : List PacketNack) : Prop where
  sorted : nacks.Pairwise NackLT
  alone : ∀ n ∈ nacks, n.packetId = kAllPacketsLost →
    ∀ m ∈ nacks, m.frameId = n.frameId → m = n
  frames : ∀ frameId, (∃ n ∈ nacks, n.frameId = frameId ∧ n.packetId = kAllPacketsLost) ↔
    ∃ f ∈ fields, f.frameId = frameId ∧ f.packetId = kAllPacketsLost
  packets : ∀ frameId packetId, packetId < kAllPacketsLost →
    ((∃ n ∈ nacks, n.Reports frameId packetId) ↔ ∃ f ∈ fields, f.Reports frameId packetId)

/-- No bit of a loss field is taken for something that is not lost: where the packet ids of the
bits run into the sentinel the whole frame is lost, and where they run past it the packet that
the id has wrapped around to is. -/
def Unwrapped (fields : List LossField) : Prop :=
  ∀ f ∈ fields, f.packetId ≠ kAllPacketsLost → ∀ k, f.bitVector.testBit k →
    (f.packetId + k + 1 = kAllPacketsLost →
      ∃ g ∈ fields, g.frameId = f.frameId ∧ g.packetId = kAllPacketsLost) ∧
    (kAllPacketsLost < f.packetId + k + 1 →
      ∃ g ∈ fields, g.Reports f.frameId (f.packetId + k + 1 - 0x10000))

namespace CompoundRtcpParser

/-! ### Canonical lists -/

instance : Std.Total NackLE :=
  ⟨fun a b => by
    unfold NackLE
    omega⟩

instance : IsTrans PacketNack NackLE :=
  ⟨fun a b c => by
    unfold NackLE
    omega⟩

variable {kept nack : PacketNack} {nacks : List PacketNack}

/-- What is kept after `kept` comes after it, also in the order of the result. -/
theorem nackLT_of_nackLE (hkeep : nack.frameId ≠ kept.frameId ∨
      kept.packetId ≠ kAllPacketsLost ∧ nack.packetId ≠ kept.packetId)
    (hkept : kept.packetId ≤ 0xffff) (hnack : nack.packetId ≤ 0xffff) (hle : NackLE kept nack) :
    NackLT kept nack ∧
      (nack.frameId = kept.frameId →
        kept.packetId ≠ kAllPacketsLost ∧ nack.packetId ≠ kAllPacketsLost) := by
  simp only [kAllPacketsLost, NackLE, NackLT] at *
  omega

theorem sublist_pruneNacks : (pruneNacks kept nacks).Sublist (kept :: nacks) := by
  induction nacks generalizing kept with
  | nil => exact List.Sublist.refl _
  | cons nack nacks ih =>
    unfold pruneNacks
    split_ifs
    · exact ih.cons_cons kept
    · exact ih.trans ((List.sublist_cons_self nack nacks).cons_cons kept)

theorem mem_pruneNacks_self : kept ∈ pruneNacks kept nacks := by
  induction nacks generalizing kept with
  | nil => exact List.mem_singleton_self kept
  | cons nack nacks ih =>
    unfold pruneNacks
    split_ifs
    · exact List.mem_cons_self
    · exact ih

/-- Only duplicates and packets of a frame that is reported as a whole are dropped. -/
theorem mem_pruneNacks_or {n : PacketNack} (h : n ∈ kept :: nacks) :
    n ∈ pruneNacks kept nacks ∨ ⟨n.frameId, kAllPacketsLost⟩ ∈ pruneNacks kept nacks := by
  induction nacks generalizing kept with
  | nil => exact .inl h
  | cons nack nacks ih =>
    unfold pruneNacks
    split_ifs with hkeep
    · rcases List.mem_cons.mp h with rfl | h
      · exact .inl List.mem_cons_self
      · exact (ih h).imp (List.mem_cons_of_mem kept) (List.mem_cons_of_mem kept)
    · rcases List.mem_cons.mp h with rfl | h
      · exact ih List.mem_cons_self
      · rcases List.mem_cons.mp h with rfl | h
        · -- the dropped NACK is `kept`, or in the frame that `kept` reports
          simp only [not_or, not_and, not_not] at hkeep
          by_cases hall : kept.packetId = kAllPacketsLost
          · have hkept : kept = ⟨n.frameId, kAllPacketsLost⟩ := by
              cases kept
              simp_all
            exact .inr (hkept ▸ mem_pruneNacks_self)
          · have hkept : kept = n := by
              cases kept
              cases n
              simp_all
            exact .inl (hkept ▸ mem_pruneNacks_self)
        · exact ih (List.mem_cons_of_mem kept h)

theorem nackList_pruneNacks (hsorted : (kept :: nacks).Pairwise NackLE)
    (hid : ∀ n ∈ kept :: nacks, n.packetId ≤ 0xffff) : NackList (pruneNacks kept nacks) := by
  induction nacks generalizing kept with
  | nil =>
    refine ⟨List.pairwise_singleton _ _, ?_, ?_⟩
    · simpa [pruneNacks] using hid
    · simp [pruneNacks]
  | cons nack nacks ih =>
    unfold pruneNacks
    split_ifs with hkeep
    · have htail := ih hsorted.tail fun n hn => hid n (List.mem_cons_of_mem kept hn)
      have hrest : ∀ m ∈ pruneNacks nack nacks, NackLT kept m ∧
          (m.frameId = kept.frameId →
            kept.packetId ≠ kAllPacketsLost ∧ m.packetId ≠ kAllPacketsLost) := by
        intro m hm
        have hm' := sublist_pruneNacks.subset hm
        have hlt := nackLT_of_nackLE hkeep (hid kept List.mem_cons_self)
          (hid nack (List.mem_cons_of_mem _ List.mem_cons_self))
          (List.rel_of_pairwise_cons hsorted List.mem_cons_self)
        have hle : m = nack ∨ NackLE nack m := by
          rcases List.mem_cons.mp hm' with rfl | hm'
          · exact .inl rfl
          · exact .inr (List.rel_of_pairwise_cons hsorted.tail hm')
        have hmid := hid m (List.mem_cons_of_mem _ hm')
        have hnack := hid nack (List.mem_cons_of_mem _ List.mem_cons_self)
        rcases hle with rfl | hle
        · exact hlt
        · simp only [kAllPacketsLost, NackLE, NackLT] at *
          omega
      refine ⟨List.pairwise_cons.mpr ⟨fun m hm => (hrest m hm).1, htail.sorted⟩, ?_, ?_⟩
      · intro n hn
        rcases List.mem_cons.mp hn with rfl | hn
        · exact hid n List.mem_cons_self
        · exact htail.packetId n hn
      · intro n hn hall m hm hframe
        rcases List.mem_cons.mp hn with rfl | hn'
        · rcases List.mem_cons.mp hm with rfl | hm'
          · rfl
          · exact absurd hall ((hrest m hm').2 hframe).1
        · rcases List.mem_cons.mp hm with rfl | hm'
          · exact absurd hall ((hrest n hn').2 hframe.symm).2
          · exact htail.allLost n hn' hall m hm' hframe
    · refine ih (hsorted.sublist ((List.sublist_cons_self nack nacks).cons_cons kept))
        fun n hn => ?_
      exact hid n (((List.sublist_cons_self nack nacks).cons_cons kept).subset hn)

/-- **The canonical form of a list of 16-bit NACKs is a NACK list of its elements**; what it
leaves out is reported as a whole frame. -/
theorem canonicalizePacketNackVector_spec (hid : ∀ n ∈ nacks, n.packetId ≤ 0xffff) :
    NackList (canonicalizePacketNackVector nacks) ∧
      (∀ n ∈ canonicalizePacketNackVector nacks, n ∈ nacks) ∧
      ∀ n ∈ nacks, n ∈ canonicalizePacketNackVector nacks ∨
        ⟨n.frameId, kAllPacketsLost⟩ ∈ canonicalizePacketNackVector nacks := by
  have hmem : ∀ n, n ∈ nacks.insertionSort NackLE ↔ n ∈ nacks := fun n =>
    List.mem_insertionSort NackLE
  have hsorted := List.pairwise_insertionSort NackLE nacks
  unfold canonicalizePacketNackVector
  cases hsort : nacks.insertionSort NackLE with
  | nil =>
    rw [hsort] at hmem
    refine ⟨⟨List.Pairwise.nil, by simp, by simp⟩, by simp, fun n hn => ?_⟩
    exact absurd ((hmem n).mpr hn) (List.not_mem_nil)
  | cons kept rest =>
    rw [hsort] at hmem hsorted
    refine ⟨nackList_pruneNacks hsorted fun n hn => hid n ((hmem n).mp hn), ?_, ?_⟩
    · exact fun n hn => (hmem n).mp (sublist_pruneNacks.subset hn)
    · exact fun n hn => mem_pruneNacks_or ((hmem n).mpr hn)

theorem mem_canonical_frame_iff (hid : ∀ n ∈ nacks, n.packetId ≤ 0xffff) (frameId : ℤ) :
    (∃ n ∈ canonicalizePacketNackVector nacks,
        n.frameId = frameId ∧ n.packetId = kAllPacketsLost) ↔
      ∃ n ∈ nacks, n.frameId = frameId ∧ n.packetId = kAllPacketsLost := by
  obtain ⟨-, hsub, hcover⟩ := canonicalizePacketNackVector_spec hid
  constructor
  · rintro ⟨n, hn, h⟩
    exact ⟨n, hsub n hn, h⟩
  · rintro ⟨n, hn, rfl, hall⟩
    rcases hcover n hn with h | h
    · exact ⟨n, h, rfl, hall⟩
    · exact ⟨_, h, rfl, rfl⟩

theorem reports_canonical_iff (hid : ∀ n ∈ nacks, n.packetId ≤ 0xffff) (frameId : ℤ)
    (packetId : ℕ) :
    (∃ n ∈ canonicalizePacketNackVector nacks, n.Reports frameId packetId) ↔
      ∃ n ∈ nacks, n.Reports frameId packetId := by
  obtain ⟨-, hsub, hcover⟩ := canonicalizePacketNackVector_spec hid
  constructor
  · rintro ⟨n, hn, h⟩
    exact ⟨n, hsub n hn, h⟩
  · rintro ⟨n, hn, hframe, hpacket⟩
    rcases hcover n hn with h | h
    · exact ⟨n, h, hframe, hpacket⟩
    · exact ⟨_, h, hframe, .inl rfl⟩

/-! ### The loss fields -/

/-- The widths of the fields. -/
def InWidth (f : LossField) : Prop := f.packetId ≤ 0xffff ∧ f.bitVector < 256

variable {f : LossField} {fields : List LossField} {n : PacketNack}

theorem lt_of_testBit (hf : InWidth f) {k : ℕ} (hk : f.bitVector.testBit k) : k < 8 := by
  by_contra hge
  have hlt : f.bitVector < 2 ^ k :=
    lt_of_lt_of_le hf.2 (Nat.pow_le_pow_right (by norm_num) (not_lt.mp hge) : 2 ^ 8 ≤ 2 ^ k)
  simp [Nat.testBit_lt_two_pow hlt] at hk

theorem mem_decodeField (hf : InWidth f) :
    n ∈ decodeField f ↔ n = ⟨f.frameId, f.packetId⟩ ∨
      f.packetId ≠ kAllPacketsLost ∧
        ∃ k, f.bitVector.testBit k ∧ n = ⟨f.frameId, (f.packetId + k + 1) % 0x10000⟩ := by
  unfold decodeField
  rw [List.mem_cons]
  refine or_congr_right ?_
  split_ifs with hall
  · simp [hall]
  · simp only [List.mem_map, Bitmap.mem_shiftOut, hall, ne_eq, not_false_eq_true, true_and]
    constructor
    · rintro ⟨k, ⟨-, -, hk⟩, rfl⟩
      exact ⟨k, hk, by rw [Nat.add_right_comm]⟩
    · rintro ⟨k, hk, rfl⟩
      have := lt_of_testBit hf hk
      exact ⟨k, ⟨by omega, by omega, hk⟩, by rw [Nat.add_right_comm]⟩

theorem packetId_of_mem_decodeFields (hf : ∀ f ∈ fields, InWidth f) (hn : n ∈ decodeFields fields) :
    n.packetId ≤ 0xffff := by
  obtain ⟨f, hfm, hn⟩ := List.mem_flatMap.mp hn
  rcases (mem_decodeField (hf f hfm)).mp hn with rfl | ⟨-, k, -, rfl⟩
  · exact (hf f hfm).1
  · dsimp only
    omega

/-- A loss field is decoded to NACKs for the packets that it reports. -/
theorem reports_of_loss (hf : ∀ f ∈ fields, InWidth f) (hmem : f ∈ fields) {frameId : ℤ}
    {packetId : ℕ} (hpacket : packetId < kAllPacketsLost) (h : f.Reports frameId packetId) :
    ∃ n ∈ decodeFields fields, n.Reports frameId packetId := by
  have hdecode : ∀ n ∈ decodeField f, n ∈ decodeFields fields := fun n hn =>
    List.mem_flatMap.mpr ⟨f, hmem, hn⟩
  obtain ⟨hframe, hall | hself | ⟨k, hk, hbit⟩⟩ := h
  · exact ⟨_, hdecode _ ((mem_decodeField (hf f hmem)).mpr (.inl rfl)), hframe, .inl hall⟩
  · exact ⟨_, hdecode _ ((mem_decodeField (hf f hmem)).mpr (.inl rfl)), hframe, .inr hself⟩
  · have hne : f.packetId ≠ kAllPacketsLost := by omega
    refine ⟨_, hdecode _ ((mem_decodeField (hf f hmem)).mpr (.inr ⟨hne, k, hk, rfl⟩)), hframe,
      .inr ?_⟩
    simp only [kAllPacketsLost] at hpacket
    simp only
    omega

/-- The frames that are decoded as lost, when no bit runs into the sentinel. -/
theorem frame_of_decoded (hf : ∀ f ∈ fields, InWidth f) (hwrap : Unwrapped fields)
    (hn : n ∈ decodeFields fields) (hall : n.packetId = kAllPacketsLost) :
    ∃ f ∈ fields, f.frameId = n.frameId ∧ f.packetId = kAllPacketsLost := by
  obtain ⟨f, hmem, hn⟩ := List.mem_flatMap.mp hn
  rcases (mem_decodeField (hf f hmem)).mp hn with rfl | ⟨hne, k, hk, rfl⟩
  · exact ⟨f, hmem, rfl, hall⟩
  · refine (hwrap f hmem hne k hk).1 ?_
    have := lt_of_testBit (hf f hmem) hk
    have := (hf f hmem).1
    simp only [kAllPacketsLost] at hall hne ⊢
    omega

/-- The packets that are decoded as lost, when no bit runs past the sentinel. -/
theorem loss_of_reports (hf : ∀ f ∈ fields, InWidth f) (hwrap : Unwrapped fields)
    (hn : n ∈ decodeFields fields) {frameId : ℤ} {packetId : ℕ} (h : n.Reports frameId packetId) :
    ∃ f ∈ fields, f.Reports frameId packetId := by
  obtain ⟨rfl, hall | rfl⟩ := h
  · obtain ⟨f, hmem, hframe, hall⟩ := frame_of_decoded hf hwrap hn hall
    exact ⟨f, hmem, hframe, .inl hall⟩
  · obtain ⟨f, hmem, hn⟩ := List.mem_flatMap.mp hn
    rcases (mem_decodeField (hf f hmem)).mp hn with rfl | ⟨hne, k, hk, rfl⟩
    · exact ⟨f, hmem, rfl, .inr (.inl rfl)⟩
    · have hk8 := lt_of_testBit (hf f hmem) hk
      have hid := (hf f hmem).1
      simp only [kAllPacketsLost] at hne
      by_cases hlt : kAllPacketsLost < f.packetId + k + 1
      · have hmod : (f.packetId + k + 1) % 0x10000 = f.packetId + k + 1 - 0x10000 := by
          simp only [kAllPacketsLost] at hlt
          omega
        rw [hmod]
        exact (hwrap f hmem hne k hk).2 hlt
      · have hmod : (f.packetId + k + 1) % 0x10000 = f.packetId + k + 1 := by
          simp only [kAllPacketsLost] at hlt
          omega
        exact ⟨f, hmem, rfl, .inr (.inr ⟨k, hk, hmod⟩)⟩

/-- The canonical list of the decoded loss fields says what the fields say exactly when no bit
is taken for something else. -/
theorem means_canonical_iff (hf : ∀ f ∈ fields, InWidth f) :
    Means fields (canonicalizePacketNackVector (decodeFields fields)) ↔ Unwrapped fields := by
  have hid : ∀ n ∈ decodeFields fields, n.packetId ≤ 0xffff := fun n hn =>
    packetId_of_mem_decodeFields hf hn
  constructor
  · intro h f hmem hne k hk
    have hk8 := lt_of_testBit (hf f hmem) hk
    have hid' := (hf f hmem).1
    have hn : ⟨f.frameId, (f.packetId + k + 1) % 0x10000⟩ ∈ decodeFields fields :=
      List.mem_flatMap.mpr ⟨f, hmem, (mem_decodeField (hf f hmem)).mpr (.inr ⟨hne, k, hk, rfl⟩)⟩
    constructor
    · intro hall
      refine (h.frames f.frameId).mp ((mem_canonical_frame_iff hid f.frameId).mpr ⟨_, hn, rfl, ?_⟩)
      simp only [kAllPacketsLost] at hall ⊢
      omega
    · intro hpast
      simp only [kAllPacketsLost] at hpast hne
      have hmod : (f.packetId + k + 1) % 0x10000 = f.packetId + k + 1 - 0x10000 := by omega
      refine (h.packets f.frameId _ ?_).mp ((reports_canonical_iff hid f.frameId _).mpr
        ⟨_, hn, rfl, .inr hmod⟩)
      simp only [kAllPacketsLost]
      omega
  · intro hwrap
    obtain ⟨hlist, -, -⟩ := canonicalizePacketNackVector_spec hid
    refine ⟨hlist.sorted, hlist.allLost, fun frameId => ?_, fun frameId packetId hpacket => ?_⟩
    · rw [mem_canonical_frame_iff hid]
      constructor
      · rintro ⟨n, hn, rfl, hall⟩
        exact frame_of_decoded hf hwrap hn hall
      · rintro ⟨f, hmem, hframe, hall⟩
        have hn : ⟨f.frameId, f.packetId⟩ ∈ decodeFields fields :=
          List.mem_flatMap.mpr ⟨f, hmem, (mem_decodeField (hf f hmem)).mpr (.inl rfl)⟩
        exact ⟨_, hn, hframe, hall⟩
    · rw [reports_canonical_iff hid]
      constructor
      · rintro ⟨n, hn, h⟩
        exact loss_of_reports hf hwrap hn h
      · rintro ⟨f, hmem, h⟩
        exact reports_of_loss hf hmem hpacket h

/-! ### The loss fields of a datagram -/

/-- The loss fields at the front of `payload`, read as the wire format has them. -/
def wireLossFields (feedbackFrameId : ℤ) : ℕ → ByteView → List LossField
  | 0, _ => []
  | n + 1, payload =>
    { frameId := expandGreaterThan 8 feedbackFrameId (BigEndian.decode (payload.take 1))
      packetId := BigEndian.decode ((payload.drop 1).take 2)
      bitVector := BigEndian.decode ((payload.drop 3).take 1) } ::
      wireLossFields feedbackFrameId n (payload.drop 4)

variable {session : RtcpSession} {p p' : CompoundRtcpParser} {r r' : RtcpParseResults}
  {payload buffer : ByteView} {max : ℤ}

theorem inWidth_wireLossFields {c : ℤ} {n : ℕ} (hf : f ∈ wireLossFields c n payload) :
    InWidth f := by
  induction n generalizing payload with
  | zero => cases hf
  | succ n ih =>
    rcases List.mem_cons.mp hf with rfl | hf
    · have h₁ := BigEndian.decode_lt ((payload.drop 1).take 2)
      have h₂ := BigEndian.decode_lt ((payload.drop 3).take 1)
      have hp₁ : 256 ^ ((payload.drop 1).take 2).length ≤ 256 ^ 2 :=
        Nat.pow_le_pow_right (by norm_num) (by simp)
      have hp₂ : 256 ^ ((payload.drop 3).take 1).length ≤ 256 ^ 1 :=
        Nat.pow_le_pow_right (by norm_num) (by simp)
      exact ⟨by dsimp only; omega, by dsimp only; omega⟩
    · exact ih hf

theorem parseLossFields_eq {c : ℤ} {n : ℕ} (h : 4 * n ≤ payload.length) :
    parseLossFields c n payload =
      .ok (decodeFields (wireLossFields c n payload), payload.drop (4 * n)) := by
  induction n generalizing payload with
  | zero => rfl
  | succ n ih =>
    have hrest : 4 * n ≤ (payload.drop 4).length := by
      simp
      omega
    have hdrop : 4 + 4 * n = 4 * (n + 1) := by ring
    unfold parseLossFields
    rw [consumeField_of_le (by omega), ok_bind]
    dsimp only
    rw [consumeField_of_le (by simp; omega), ok_bind]
    dsimp only
    rw [consumeField_of_le (by simp; omega), ok_bind]
    simp only [List.drop_drop, Nat.reduceAdd, ih hrest, ok_bind, hdrop]
    rfl

/-- The checkpoint and the loss fields of a sub-packet: only a Cast feedback from the receiver
of the session to its sender has any. -/
def SubPacket.feedback? (session : RtcpSession) (maxFeedbackFrameId : ℤ) (s : SubPacket) :
    Option (ℤ × List LossField) :=
  if s.header.packetType = .payloadSpecific ∧ s.header.subtype = .feedback ∧
      BigEndian.decode (s.payload.take 4) = session.receiverSsrc.toNat ∧
      BigEndian.decode ((s.payload.drop 4).take 4) = session.senderSsrc.toNat then
    let checkpoint := expandLessThanOrEqual 8 maxFeedbackFrameId
      (BigEndian.decode ((s.payload.drop 12).take 1))
    some (checkpoint, wireLossFields checkpoint (BigEndian.decode ((s.payload.drop 13).take 1))
      (s.payload.drop 16))
  else none

/-- A feedback replaces an earlier one of the same datagram unless it moves the checkpoint
back. -/
def replaceFeedback (o : Option (ℤ × List LossField)) : Option (ℤ × List LossField) →
    Option (ℤ × List LossField)
  | none => o
  | some f => if o.any fun g => decide (f.1 < g.1) then o else some f

/-- The loss fields of a datagram: those of the feedback that counts. -/
def datagramLossFields (session : RtcpSession) (p : CompoundRtcpParser) (buffer : ByteView)
    (maxFeedbackFrameId : ℤ) : List LossField :=
  (((handedOver session maxFeedbackFrameId buffer.length buffer p {}).map
    (SubPacket.feedback? session maxFeedbackFrameId)).foldl replaceFeedback none).elim [] Prod.snd

theorem foldl_replaceFeedback (l : List (Option (ℤ × List LossField)))
    (o : Option (ℤ × List LossField)) :
    l.foldl replaceFeedback o = o ∨ l.foldl replaceFeedback o ∈ l := by
  induction l generalizing o with
  | nil => exact .inl rfl
  | cons a l ih =>
    rw [List.foldl_cons]
    rcases ih (replaceFeedback o a) with h | h
    · rw [h]
      cases a with
      | none => exact .inl rfl
      | some f =>
        simp only [replaceFeedback]
        split_ifs
        · exact .inl rfl
        · exact .inr List.mem_cons_self
    · exact .inr (List.mem_cons_of_mem a h)

theorem inWidth_datagramLossFields (hf : f ∈ datagramLossFields session p buffer max) :
    InWidth f := by
  unfold datagramLossFields at hf
  rcases foldl_replaceFeedback ((handedOver session max buffer.length buffer p {}).map
    (SubPacket.feedback? session max)) none with h | h
  · rw [h] at hf
    cases hf
  · obtain ⟨s, -, hs⟩ := List.mem_map.mp h
    rw [← hs, SubPacket.feedback?] at hf
    split_ifs at hf
    · exact inWidth_wireLossFields hf
    · cases hf

/-- The results hold the checkpoint and the NACKs of a feedback. -/
def Holds (o : Option (ℤ × List LossField)) (r : RtcpParseResults) : Prop :=
  r.checkpointFrameId = o.map Prod.fst ∧ r.packetNacks = decodeFields (o.elim [] Prod.snd)

variable {o : Option (ℤ × List LossField)}

theorem Holds.congr (h : Holds o r) (hr : feedback r' = feedback r) : Holds o r' := by
  simp only [feedback, Prod.mk.injEq] at hr
  exact ⟨hr.1.trans h.1, hr.2.2.2.trans h.2⟩

/-- A feedback that is parsed is the one that counts from then on, unless it is older. -/
theorem parseFeedback_holds {s : SubPacket}
    (hs : s.header.packetType = .payloadSpecific ∧ s.header.subtype = .feedback)
    (h : Holds o r) :
    Checked.Outcome
      (fun q => ∀ r' ∈ q, Holds (replaceFeedback o (s.feedback? session max)) r') (fun _ => True)
      (parseFeedback session s.payload max r) := by
  have hsame : s.feedback? session max = none → Checked.Outcome
      (fun q => ∀ r' ∈ q, Holds (replaceFeedback o (s.feedback? session max)) r') (fun _ => True)
      (pure (some r) : Except SpanFault (Option RtcpParseResults)) := by
    intro hnone
    rw [hnone]
    simpa [replaceFeedback] using h
  unfold parseFeedback
  by_cases hsize : s.payload.length < kRtcpFeedbackHeaderSize
  · rw [if_pos hsize]
    simp
  have hsize' : 16 ≤ s.payload.length := by simpa using hsize
  rw [if_neg hsize, consumeField_of_le (by omega), ok_bind]
  dsimp only
  by_cases hreceiver : BigEndian.decode (s.payload.take 4) = session.receiverSsrc.toNat
  swap
  · rw [if_pos hreceiver]
    exact hsame (if_neg fun hc => hreceiver hc.2.2.1)
  rw [if_neg (not_not.mpr hreceiver), consumeField_of_le (by simp; omega), ok_bind]
  dsimp only
  by_cases hsender : BigEndian.decode ((s.payload.drop 4).take 4) = session.senderSsrc.toNat
  swap
  · rw [if_pos hsender]
    exact hsame (if_neg fun hc => hsender hc.2.2.2)
  have hfeedback : s.feedback? session max = _ := if_pos ⟨hs.1, hs.2, hreceiver, hsender⟩
  rw [if_neg (not_not.mpr hsender), consumeField_of_le (by simp; omega), ok_bind]
  dsimp only
  split_ifs
  · simp
  · rw [consumeField_of_le (by simp; omega), ok_bind]
    dsimp only
    rw [consumeField_of_le (by simp; omega), ok_bind]
    dsimp only
    rw [consumeField_of_le (by simp; omega), ok_bind]
    simp only [List.drop_drop, Nat.reduceAdd]
    rw [hfeedback, replaceFeedback, h.1]
    simp only [Option.any_map]
    split_ifs with hback hcount
    · simpa using h
    · simp
    · rw [parseLossFields_eq (by simpa using hcount), ok_bind]
      refine outcome_true.bind fun acks _ => ?_
      cases acks with
      | none => simp
      | some frames =>
        rintro _ ⟨⟩
        exact ⟨rfl, rfl⟩

theorem parsePart_holds {s : SubPacket} (h : Holds o r) : Checked.Outcome
      (fun q => ∀ r' ∈ q.1, Holds (replaceFeedback o (s.feedback? session max)) r')
      (fun _ => True) (parsePart session max s.header s.payload p r) := by
  by_cases hs : s.header.packetType = .payloadSpecific ∧ s.header.subtype = .feedback
  · simp only [parsePart, hs]
    exact (parseFeedback_holds hs h).bind fun q hq => hq
  · have hnone : s.feedback? session max = none := if_neg fun hc => hs ⟨hc.1, hc.2.1⟩
    rw [hnone]
    exact (parsePart_keepsFeedback hs).mono (fun q hq r' hr' => h.congr (hq r' hr')) fun _ => id

/-- At the end of a datagram the results hold the feedback that counts. -/
theorem parseParts_holds {fuel : ℕ} (h : Holds o r)
    (hparts : parseParts session max fuel buffer p r = .ok (some r', p')) :
    Holds (((handedOver session max fuel buffer p r).map
      (SubPacket.feedback? session max)).foldl replaceFeedback o) r' := by
  induction fuel generalizing buffer p r o with
  | zero =>
    cases hparts
    exact h
  | succ fuel ih =>
    rw [parseParts_succ] at hparts
    rw [handedOver]
    cases hfirst : firstSubPacket buffer with
    | none =>
      rw [hfirst] at hparts
      dsimp only at hparts
      split_ifs at hparts
      · cases hparts
        exact h
      · cases hparts
    | some a =>
      obtain ⟨s, rest⟩ := a
      rw [hfirst] at hparts
      dsimp only at hparts ⊢
      rw [List.map_cons, List.foldl_cons]
      rcases hres : parsePart session max s.header s.payload p r with e | ⟨_ | r₁, p₁⟩
      · rw [hres] at hparts
        cases hparts
      · rw [hres] at hparts
        cases hparts
      · rw [hres] at hparts
        exact ih ((parsePart_holds h).of_ok hres r₁ rfl) hparts

theorem packetNacks_of_dispatch (h : p.dispatch r = (.dispatched r', p')) :
    r'.packetNacks = canonicalizePacketNackVector r.packetNacks := by
  unfold dispatch at h
  dsimp only at h
  split at h
  · cases h
    rfl
  · split_ifs at h
    · cases h
    · cases h
      rfl
  · cases h
    rfl

/-- The client is told the canonical form of the NACKs of the feedback that counts. -/
theorem packetNacks_eq (h : p.parse session buffer max = .ok (.dispatched r, p')) :
    r.packetNacks =
      canonicalizePacketNackVector (decodeFields (datagramLossFields session p buffer max)) := by
  rw [parse, bind_eq_ok] at h
  obtain ⟨⟨_ | results, q⟩, hparts, h⟩ := h
  · cases h
  · have hholds := parseParts_holds (o := none) ⟨rfl, rfl⟩ hparts
    rw [packetNacks_of_dispatch (Except.ok.inj h), hholds.2]
    rfl

/-- **The NACK list that the client is told means what the loss fields of the datagram say
exactly when no bit of theirs stands for a packet id after `0xfffe`, save for what is lost
anyway.** -/
theorem means_packetNacks_iff (h : p.parse session buffer max = .ok (.dispatched r, p')) :
    Means (datagramLossFields session p buffer max) r.packetNacks ↔
      Unwrapped (datagramLossFields session p buffer max) := by
  rw [packetNacks_eq h]
  exact means_canonical_iff fun f hf => inWidth_datagramLossFields hf

/-- A datagram of the example session with a Cast feedback for checkpoint 0 and one loss field
for a packet of frame 1. -/
def oneLossField (packetId bits : ℕ) : ByteView :=
  RtcpCommonHeader.bytes .payloadSpecific 15 20 ++
    fieldBytes [(4, 2), (4, 1), (4, kRtcpCastIdentifierWord), (1, 0), (1, 1), (2, 400),
      (1, 1), (2, packetId), (1, bits)]

/-- What the client is told for `oneLossField`, with the NACKs of its loss field. -/
def oneLossFieldResults (packetNacks : List PacketNack) : RtcpParseResults :=
  { checkpointFrameId := some 0, targetPlayoutDelay := 400, packetNacks }

/-- The last packet id of a frame is reached by a bit. -/
theorem means_lastPacketId :
    ∃ r p', parse exampleSession {} (oneLossField 0xfffd 1) 10 = .ok (.dispatched r, p') ∧
      r.packetNacks = [⟨1, 0xfffd⟩, ⟨1, 0xfffe⟩] ∧
      Means (datagramLossFields exampleSession {} (oneLossField 0xfffd 1) 10) r.packetNacks := by
  have h : parse exampleSession {} (oneLossField 0xfffd 1) 10 =
      .ok (.dispatched (oneLossFieldResults [⟨1, 0xfffd⟩, ⟨1, 0xfffe⟩]), {}) := by decide +kernel
  have hfields : datagramLossFields exampleSession {} (oneLossField 0xfffd 1) 10 =
      [⟨1, 0xfffd, 1⟩] := by decide +kernel
  refine ⟨_, _, h, rfl, (means_packetNacks_iff h).mpr ?_⟩
  rw [hfields]
  intro f hf _ k hk
  obtain rfl := List.mem_singleton.mp hf
  have hk0 : k = 0 := by
    by_contra hne
    rw [Nat.testBit_lt_two_pow (Nat.one_lt_two_pow hne)] at hk
    cases hk
  subst hk0
  simp [kAllPacketsLost]

/-- A bit after packet `0xfffe` is told to the client as the loss of the whole frame. -/
theorem not_means_bitAfterLastPacketId :
    ∃ r p', parse exampleSession {} (oneLossField 0xfffe 1) 10 = .ok (.dispatched r, p') ∧
      r.packetNacks = [⟨1, kAllPacketsLost⟩] ∧
      datagramLossFields exampleSession {} (oneLossField 0xfffe 1) 10 = [⟨1, 0xfffe, 1⟩] ∧
      ¬Means (datagramLossFields exampleSession {} (oneLossField 0xfffe 1) 10) r.packetNacks := by
  have h : parse exampleSession {} (oneLossField 0xfffe 1) 10 =
      .ok (.dispatched (oneLossFieldResults [⟨1, kAllPacketsLost⟩]), {}) := by decide +kernel
  have hfields : datagramLossFields exampleSession {} (oneLossField 0xfffe 1) 10 =
      [⟨1, 0xfffe, 1⟩] := by decide +kernel
  refine ⟨_, _, h, rfl, hfields, fun hmeans => ?_⟩
  rw [hfields] at hmeans
  obtain ⟨f, hf, -, hall⟩ := (hmeans.frames 1).mp ⟨_, List.mem_singleton_self _, rfl, rfl⟩
  obtain rfl := List.mem_singleton.mp hf
  simp [kAllPacketsLost] at hall

end CompoundRtcpParser

end StreamerPlus
