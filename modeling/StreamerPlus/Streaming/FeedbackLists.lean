import StreamerPlus.Streaming.CompoundRtcpParser

/-!
# NACK lists on the wire

The builder run-length encodes a sorted NACK list into loss fields, and the parser expands them
again. `NackList` is what a receiver may report, and `decodeFields` what loss fields stand for.
-/

namespace StreamerPlus

open Checked ExpandedValue CompoundRtcpBuilder CompoundRtcpParser

/-- The order on NACKs, `PacketNack::operator<`. -/
def NackLT (a b : PacketNack) : Prop :=
  a.frameId < b.frameId ∨ a.frameId = b.frameId ∧ a.packetId < b.packetId

instance : DecidableRel NackLT := fun _ _ => inferInstanceAs (Decidable (_ ∨ _))

/-- A NACK list that the receiver may report: sorted and unique, and an entry for all packets of
a frame is the only one of its frame. -/
structure NackList (nacks : List PacketNack) : Prop where
  sorted : nacks.Pairwise NackLT
  packetId : ∀ n ∈ nacks, n.packetId ≤ 0xffff
  allLost : ∀ n ∈ nacks, n.packetId = kAllPacketsLost →
    ∀ m ∈ nacks, m.frameId = n.frameId → m = n

theorem NackList.sublist {l₁ l₂ : List PacketNack} (h : NackList l₂) (hs : l₁.Sublist l₂) :
    NackList l₁ where
  sorted := h.sorted.sublist hs
  packetId n hn := h.packetId n (hs.subset hn)
  allLost n hn ha m hm hf := h.allLost n (hs.subset hn) ha m (hs.subset hm) hf

/-- The NACKs of one loss field. -/
def decodeField (f : LossField) : List PacketNack :=
  ⟨f.frameId, f.packetId⟩ ::
    if f.packetId = kAllPacketsLost then []
    else (Bitmap.shiftOut 8 0 f.bitVector).map fun k => ⟨f.frameId, (f.packetId + 1 + k) % 0x10000⟩

/-- The NACKs of a list of loss fields. -/
def decodeFields (fields : List LossField) : List PacketNack := fields.flatMap decodeField

end StreamerPlus
