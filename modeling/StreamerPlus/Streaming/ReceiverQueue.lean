import StreamerPlus.Streaming.ReceiverChanges

/-!
# The frame queue of a receiver

The known frames that are not consumed yet own their slots of the ring, and the history says what
the slots hold: the packets that their collectors have collected, and their capture times. A slot
keeps the capture time of a consumed frame until the next frame in it becomes known.

`QueueChange` says what a change of the receiver can do to all of this; there are six cases, and
every invariant below is proved by going through them.

Main results:

* `Ring.step`: the order of the counters, the owners of the slots, and that all frames up to the
  checkpoint are complete;
* `Packets.step`: a collector holds exactly the packets that the history says were collected;
* `Captures.step`: a capture time is known once packet 0 was collected.
-/

namespace StreamerPlus

open Checked TransitionSystem ReceiverView

/-- The event is the arrival of a packet. -/
def ReceiverEvent.isArrival : ReceiverEvent → Bool
  | .collected .. | .firstPacket .. => true
  | _ => false

namespace ReceiverView

variable {c : ReceiverConfig} {v w : ReceiverView} {f g : ℤ} {entry : PendingFrame}

@[simp]
theorem getQueueEntry_setQueueEntry_self : (v.setQueueEntry f entry).getQueueEntry f = entry := by
  simp [setQueueEntry, FrameQueue.getQueueEntry]

theorem getQueueEntry_setQueueEntry_of_ne (h : slotIndex g ≠ slotIndex f) :
    (v.setQueueEntry f entry).getQueueEntry g = v.getQueueEntry g := by
  simp [setQueueEntry, FrameQueue.getQueueEntry, Function.update_of_ne h]

theorem setQueueEntry_getQueueEntry : v.setQueueEntry f (v.getQueueEntry f) = v := by
  simp [setQueueEntry, FrameQueue.getQueueEntry]

@[simp]
theorem latestFrameExpected_expectNextFrame :
    v.expectNextFrame.latestFrameExpected = v.latestFrameExpected + 1 := rfl

@[simp]
theorem lastFrameConsumed_expectNextFrame :
    v.expectNextFrame.lastFrameConsumed = v.lastFrameConsumed := rfl

/-! ### What a change does to the queue -/

/-- What a change does to the queue, to the checkpoint and to the packets of the history. -/
inductive QueueChange (v : ReceiverView) : ReceiverView → Prop
  | quiet {w : ReceiverView} (new : List ReceiverEvent) : w.toFrameQueue = v.toFrameQueue →
      w.checkpointFrame = v.checkpointFrame → w.playoutDelayChanges = v.playoutDelayChanges →
      w.events = v.events ++ new → (∀ e ∈ new, e.isArrival = false) → QueueChange v w
  | expect : v.latestFrameExpected < v.lastFrameConsumed + kMaxUnackedFrames →
      QueueChange v v.expectNextFrame
  | collect {part : ParseResult} {collector : FrameCollector} : v.Collectable part →
      (v.getQueueEntry part.frameId).collector.collectRtpPacket part = .ok (true, collector) →
      (part.packetId = 0 → v.isCaptured part.frameId) →
      QueueChange v ((v.setQueueEntry part.frameId
        { v.getQueueEntry part.frameId with collector }).emit (collectedEvent part))
  | collectFirst {part : ParseResult} {collector : FrameCollector} (captureTime : ℤ) :
      v.Collectable part →
      (v.getQueueEntry part.frameId).collector.collectRtpPacket part = .ok (true, collector) →
      part.packetId = 0 → v.isCaptured part.frameId = false →
      QueueChange v { v.setQueueEntry part.frameId
          ⟨collector, some captureTime, some part.rtpTimestamp⟩ with
        playoutDelayChanges := v.delayChangesWith part
        events := v.events ++
          [collectedEvent part, .firstPacket part.frameId part.newPlayoutDelay captureTime] }
  | move {checkpoint : ℤ} : v.checkpointFrame < checkpoint → checkpoint ≤ v.latestFrameExpected →
      (∀ g, v.checkpointFrame < g → g ≤ checkpoint → v.isComplete g) →
      QueueChange v { v with checkpointFrame := checkpoint }
  | advance {first checkpoint : ℤ} {pendingFrames : Fin 120 → PendingFrame} {e : ReceiverEvent} :
      v.lastFrameConsumed + 1 < first → first ≤ checkpoint + 1 →
      v.checkpointFrame ≤ checkpoint →
      (checkpoint = v.checkpointFrame ∨ checkpoint ≤ v.latestFrameExpected) →
      (∀ g, v.lastFrameConsumed < g → g < first → v.isCaptured g) →
      (∀ g, v.checkpointFrame < g → first ≤ g → g ≤ checkpoint → v.isComplete g) →
      Resets (v.lastFrameConsumed + 1) first v.toFrameQueue pendingFrames → e.isArrival = false →
      QueueChange v { v with
        pendingFrames
        lastFrameConsumed := first - 1
        checkpointFrame := checkpoint
        events := v.events ++ [e] }

/-- Capture times are not reset. -/
theorem Resets.estimatedCaptureTime {first last : ℤ} {q : FrameQueue}
    {pendingFrames : Fin 120 → PendingFrame} (h : Resets first last q pendingFrames) (i : Fin 120) :
    (pendingFrames i).estimatedCaptureTime = (q.pendingFrames i).estimatedCaptureTime := by
  by_cases hreset : ∃ g, first ≤ g ∧ g < last ∧ slotIndex g = i
  · obtain ⟨g, hg, hg', rfl⟩ := hreset
    rw [h.inside g hg hg']
    rfl
  · simp only [not_exists, not_and] at hreset
    rw [h.outside i hreset]

/-- A complete collector has not been reset. -/
theorem Resets.isComplete {first last : ℤ} {q : FrameQueue}
    {pendingFrames : Fin 120 → PendingFrame} (h : Resets first last q pendingFrames)
    (hcomplete : (pendingFrames (slotIndex g)).collector.isComplete) : q.isComplete g := by
  have hne : ∀ g', first ≤ g' → g' < last → slotIndex g' ≠ slotIndex g := by
    intro g' h₁ h₂ heq
    rw [← heq, h.inside g' h₁ h₂] at hcomplete
    simp at hcomplete
  rw [h.outside _ hne] at hcomplete
  exact hcomplete

/-- Packet 0 always finds the clock offset, once there is a report. -/
theorem Changes.queueChange (h : Changes c v w) (hoffset : v.hasReport → v.hasOffset) :
    QueueChange v w := by
  cases h with
  | report => exact .quiet [] rfl rfl rfl (by simp) (by simp)
  | expect hlt => exact .expect hlt
  | reject hs hcollect =>
    rw [FrameCollector.eq_of_collectRtpPacket_false hcollect hs.packetId_le]
    rw [setQueueEntry_getQueueEntry]
    exact .quiet [] rfl rfl rfl (by simp) (by simp)
  | collect hs hcollect hcaptured => exact .collect hs hcollect hcaptured
  | collectFirst captureTime hs hcollect hzero hcaptured =>
    exact .collectFirst captureTime hs hcollect hzero hcaptured
  | collectUntimed hs hcollect hreport hnone => simp [hoffset hreport] at hnone
  | complete rtpTimestamp hlt hcomplete =>
    exact .quiet [_] rfl rfl rfl rfl (by simp [ReceiverEvent.isArrival])
  | moveCheckpoint hlt hle hall => exact .move hlt hle hall
  | resolve hs hforce =>
    exact .quiet [_] rfl rfl rfl rfl (by simp [resolvedEvent, ReceiverEvent.isArrival])
  | send sendTime packet hfeedback =>
    exact .quiet [_] rfl rfl rfl rfl (by simp [ReceiverEvent.isArrival])
  | passOver hlt hle hcapture hresolved hdue =>
    exact .quiet [_] rfl rfl rfl rfl (by simp [ReceiverEvent.isArrival])
  | consume hacked hcomplete hcaptured hresets =>
    have hchange := @QueueChange.advance _ _ v.checkpointFrame _
      (.consumed (v.lastFrameConsumed + 1)
        (v.getQueueEntry (v.lastFrameConsumed + 1)).collector.frame.dependency)
      (by omega) (by omega) le_rfl (Or.inl rfl) (fun g hg hg' => ?_)
      (fun g hg _ hg' => absurd hg (not_lt.mpr hg')) hresets rfl
    · rw [add_sub_cancel_right] at hchange
      exact hchange
    · obtain rfl : g = v.lastFrameConsumed + 1 := by omega
      exact hcaptured
  | skip hdrop hacked hge hle hpassed hall hdependency hcomplete hresets =>
    refine .advance hdrop (by omega) (by omega) (Or.inr hle)
      (fun g hg hg' => (hpassed g hg hg').1) (fun g hg hg' hg'' => ?_) hresets rfl
    rcases eq_or_lt_of_le hg' with rfl | hlt
    · exact hcomplete
    · exact hresets.isComplete (hall g hlt hg'')
  | framesReady size => exact .quiet [_] rfl rfl rfl rfl (by simp [ReceiverEvent.isArrival])

end ReceiverView

/-! ### The ring -/

namespace FrameQueue

/-- The invariant of the ring: the order of the counters, the owners of the slots, and that all
frames up to the checkpoint are complete. -/
structure Ring (q : FrameQueue) (checkpoint : ℤ) : Prop where
  leader_le : -1 ≤ q.lastFrameConsumed
  consumed_le : q.lastFrameConsumed ≤ checkpoint
  checkpoint_le : checkpoint ≤ q.latestFrameExpected
  latest_le : q.latestFrameExpected ≤ q.lastFrameConsumed + 120
  owned : ∀ g, q.lastFrameConsumed < g → g ≤ q.latestFrameExpected →
    (q.getQueueEntry g).collector.frame.frameId = some g
  free : ∀ i, (∀ g, q.lastFrameConsumed < g → g ≤ q.latestFrameExpected → slotIndex g ≠ i) →
    (q.pendingFrames i).collector = .new
  complete : ∀ g, q.lastFrameConsumed < g → g ≤ checkpoint → q.isComplete g

namespace Ring

variable {q : FrameQueue} {checkpoint : ℤ} {v w : ReceiverView} {f g : ℤ}

/-- Frames of the window do not share a slot. -/
theorem slotIndex_ne (h : Ring q checkpoint) (hf : q.lastFrameConsumed < f)
    (hf' : f ≤ q.lastFrameConsumed + 120) (hg : q.lastFrameConsumed < g)
    (hg' : g ≤ q.lastFrameConsumed + 120) (hne : g ≠ f) : slotIndex g ≠ slotIndex f :=
  fun heq => hne (slotIndex_inj h.leader_le hg hg' hf hf' heq)

/-- The entries of the other frames of the window stay. -/
theorem getQueueEntry_setQueueEntry (h : v.Ring v.checkpointFrame)
    {entry : PendingFrame} (hf : v.lastFrameConsumed < f) (hf' : f ≤ v.lastFrameConsumed + 120)
    (hg : v.lastFrameConsumed < g) (hg' : g ≤ v.lastFrameConsumed + 120) (hne : g ≠ f) :
    (v.setQueueEntry f entry).getQueueEntry g = v.getQueueEntry g :=
  getQueueEntry_setQueueEntry_of_ne (h.slotIndex_ne hf hf' hg hg' hne)

/-- The entries of the frames that are kept are not reset. -/
theorem getQueueEntry_resets (h : Ring q checkpoint) {first : ℤ}
    {pendingFrames : Fin 120 → PendingFrame}
    (hresets : ReceiverView.Resets (q.lastFrameConsumed + 1) first q pendingFrames)
    (hg : first ≤ g) (hlt : q.lastFrameConsumed < g) (hg' : g ≤ q.latestFrameExpected) :
    pendingFrames (slotIndex g) = q.getQueueEntry g := by
  have hle := h.latest_le
  exact hresets.outside _ fun g' h₁ h₂ =>
    h.slotIndex_ne hlt (by omega) (by omega) (by omega) (by omega)

/-- One more frame becomes known, in a slot that is free. -/
theorem expectNextFrame (h : v.Ring v.checkpointFrame)
    (hlt : v.latestFrameExpected < v.lastFrameConsumed + 120) :
    Ring v.expectNextFrame.toFrameQueue v.checkpointFrame := by
  have hconsumed := h.consumed_le
  have hcheckpoint := h.checkpoint_le
  have hold : ∀ g, v.lastFrameConsumed < g → g ≤ v.latestFrameExpected →
      v.expectNextFrame.getQueueEntry g = v.getQueueEntry g := fun g hg hg' =>
    h.getQueueEntry_setQueueEntry (by omega) (by omega) hg (by omega) (by omega)
  refine ⟨h.leader_le, hconsumed, ?_, ?_, fun g hg hg' => ?_, fun i hi => ?_, fun g hg hg' => ?_⟩
  · rw [latestFrameExpected_expectNextFrame]
    omega
  · rw [latestFrameExpected_expectNextFrame,
      lastFrameConsumed_expectNextFrame]
    omega
  · by_cases hnew : g = v.latestFrameExpected + 1
    · rw [hnew]
      exact congrArg (·.collector.frame.frameId) getQueueEntry_setQueueEntry_self
    · have hle : g ≤ v.latestFrameExpected + 1 := hg'
      rw [hold g hg (by omega)]
      exact h.owned g hg (by omega)
  · rw [latestFrameExpected_expectNextFrame,
      lastFrameConsumed_expectNextFrame] at hi
    have hnew : i ≠ slotIndex (v.latestFrameExpected + 1) := fun heq =>
      hi (v.latestFrameExpected + 1) (by omega) le_rfl heq.symm
    have hfree := h.free i fun g hg hg' => hi g hg (by omega)
    simp only [ReceiverView.expectNextFrame, ReceiverView.setQueueEntry,
      Function.update_of_ne hnew]
    exact hfree
  · have hcomplete := h.complete g hg hg'
    unfold isComplete
    rw [hold g hg (by omega)]
    exact hcomplete

/-- Only the entry of a frame after the checkpoint changes. -/
theorem setQueueEntry (h : v.Ring v.checkpointFrame) {entry : PendingFrame}
    (hf : v.checkpointFrame < f) (hf' : f ≤ v.latestFrameExpected)
    (hid : entry.collector.frame.frameId = some f) :
    Ring (v.setQueueEntry f entry).toFrameQueue v.checkpointFrame := by
  have hconsumed := h.consumed_le
  have hlatest := h.latest_le
  have hcheckpoint := h.checkpoint_le
  have hold : ∀ g, v.lastFrameConsumed < g → g ≤ v.latestFrameExpected → g ≠ f →
      (v.setQueueEntry f entry).getQueueEntry g = v.getQueueEntry g := fun g hg hg' hne =>
    h.getQueueEntry_setQueueEntry (by omega) (by omega) hg (by omega) hne
  refine ⟨h.leader_le, hconsumed, hcheckpoint, hlatest, fun g hg hg' => ?_, fun i hi => ?_,
    fun g hg hg' => ?_⟩
  · by_cases hgf : g = f
    · rw [hgf, getQueueEntry_setQueueEntry_self]
      exact hid
    · rw [hold g hg hg' hgf]
      exact h.owned g hg hg'
  · have hne : i ≠ slotIndex f := fun heq => hi f (lt_of_le_of_lt hconsumed hf) hf' heq.symm
    simp only [ReceiverView.setQueueEntry, Function.update_of_ne hne]
    exact h.free i hi
  · unfold isComplete
    rw [hold g hg (by omega) (by omega)]
    exact h.complete g hg hg'

/-- A packet is collected, in whatever entry it leaves. -/
theorem collect (h : v.Ring v.checkpointFrame) {part : ParseResult} {entry : PendingFrame}
    (hs : v.Collectable part) (hcollect : (v.getQueueEntry part.frameId).collector.collectRtpPacket
      part = .ok (true, entry.collector)) :
    (v.setQueueEntry part.frameId entry).Ring v.checkpointFrame := by
  refine h.setQueueEntry hs.checkpoint_lt hs.le_latest ?_
  rw [(FrameCollector.collectRtpPacket_true hcollect).2.2.1]
  exact h.owned _ (lt_of_le_of_lt h.consumed_le hs.checkpoint_lt) hs.le_latest

/-- Frames are consumed or skipped. -/
theorem advance (h : Ring q checkpoint) {first newCheckpoint : ℤ}
    {pendingFrames : Fin 120 → PendingFrame} (hfirst : q.lastFrameConsumed + 1 < first)
    (hnew : first ≤ newCheckpoint + 1)
    (hle : newCheckpoint = checkpoint ∨ newCheckpoint ≤ q.latestFrameExpected)
    (hcomplete : ∀ g, checkpoint < g → first ≤ g → g ≤ newCheckpoint → q.isComplete g)
    (hresets : ReceiverView.Resets (q.lastFrameConsumed + 1) first q pendingFrames) :
    Ring { q with pendingFrames, lastFrameConsumed := first - 1 } newCheckpoint := by
  have hleader := h.leader_le
  have hcheckpoint := h.checkpoint_le
  have hlatest := h.latest_le
  have hle' : newCheckpoint ≤ q.latestFrameExpected := by omega
  have hkept : ∀ g, first - 1 < g → g ≤ q.latestFrameExpected →
      pendingFrames (slotIndex g) = q.getQueueEntry g := fun g hg hg' =>
    h.getQueueEntry_resets hresets (by omega) (by omega) hg'
  refine ⟨by dsimp only; omega, by dsimp only; omega, hle', by dsimp only; omega,
    fun g hg hg' => ?_, fun i hi => ?_, fun g hg hg' => ?_⟩
  · have howned := h.owned g (by dsimp only at hg; omega) hg'
    rw [← hkept g hg hg'] at howned
    exact howned
  · by_cases hreset : ∃ g, q.lastFrameConsumed + 1 ≤ g ∧ g < first ∧ slotIndex g = i
    · obtain ⟨g, hg, hg', rfl⟩ := hreset
      dsimp only
      rw [hresets.inside g hg hg']
    · simp only [not_exists, not_and] at hreset
      dsimp only
      rw [hresets.outside i hreset]
      refine h.free i fun g hg hg' => ?_
      by_cases hlt : g < first
      · exact hreset g (by omega) hlt
      · exact hi g (by dsimp only; omega) hg'
  · dsimp only at hg
    unfold isComplete getQueueEntry
    dsimp only
    rw [hkept g hg (by omega)]
    by_cases hold : g ≤ checkpoint
    · exact h.complete g (by omega) hold
    · exact hcomplete g (by omega) (by omega) hg'

/-- **Every change keeps the ring.** -/
theorem step (h : v.Ring v.checkpointFrame) (hvw : v.QueueChange w) :
    w.Ring w.checkpointFrame := by
  cases hvw with
  | quiet new hqueue hcheckpoint =>
    rw [hqueue, hcheckpoint]
    exact h
  | expect hlt => exact h.expectNextFrame hlt
  | collect hs hcollect => exact h.collect hs hcollect
  | collectFirst captureTime hs hcollect => exact h.collect hs hcollect
  | move hlt hle hall =>
    refine ⟨h.leader_le, h.consumed_le.trans hlt.le, hle, h.latest_le, h.owned, h.free,
      fun g hg hg' => ?_⟩
    by_cases hold : g ≤ v.checkpointFrame
    · exact h.complete g hg hold
    · exact hall g (not_le.mp hold) hg'
  | advance hfirst hnew hge hle hcaptured hcomplete hresets =>
    exact h.advance hfirst hnew hle hcomplete hresets

end Ring

end FrameQueue

/-! ### The packets of the history -/

/-- The id of a collected packet of frame `g`, and the last packet id of that frame. -/
def ReceiverEvent.packet? (g : ℤ) : ReceiverEvent → Option (ℕ × ℕ)
  | .collected frameId packetId maxPacketId =>
    if frameId = g then some (packetId, maxPacketId) else none
  | _ => none

/-- The collected packets of frame `g`. -/
def packetsOf (events : List ReceiverEvent) (g : ℤ) : List (ℕ × ℕ) :=
  events.filterMap (·.packet? g)

section

variable {events new : List ReceiverEvent} {g : ℤ}

@[simp]
theorem packetsOf_nil : packetsOf [] g = [] := rfl

@[simp]
theorem packetsOf_append : packetsOf (events ++ new) g = packetsOf events g ++ packetsOf new g :=
  List.filterMap_append

@[simp]
theorem packetsOf_cons_firstPacket {f d t : ℤ} :
    packetsOf (.firstPacket f d t :: new) g = packetsOf new g := rfl

theorem packetsOf_eq_nil (h : ∀ e ∈ new, e.isArrival = false) : packetsOf new g = [] := by
  refine List.filterMap_eq_nil_iff.mpr fun e he => ?_
  have harrival := h e he
  cases e with
  | collected => simp [ReceiverEvent.isArrival] at harrival
  | _ => rfl

theorem packetsOf_append_of_quiet (h : ∀ e ∈ new, e.isArrival = false) :
    packetsOf (events ++ new) g = packetsOf events g := by
  rw [packetsOf_append, packetsOf_eq_nil h, List.append_nil]

theorem firstPacket_mem_append_of_quiet (h : ∀ e ∈ new, e.isArrival = false) {d t : ℤ} :
    .firstPacket g d t ∈ events ++ new ↔ .firstPacket g d t ∈ events := by
  rw [List.mem_append, or_iff_left]
  intro hmem
  cases h _ hmem

theorem packetsOf_collectedEvent {part : ParseResult} (h : part.frameId = g) :
    packetsOf (collectedEvent part :: new) g =
      (part.packetId.toNat, part.maxPacketId.toNat) :: packetsOf new g :=
  List.filterMap_cons_some (by
    simp [collectedEvent, ReceiverEvent.packet?, h])

theorem packetsOf_collectedEvent_of_ne {part : ParseResult} (h : part.frameId ≠ g) :
    packetsOf (collectedEvent part :: new) g = packetsOf new g :=
  List.filterMap_cons_none (by
    simp [collectedEvent, ReceiverEvent.packet?, h])

end

/-- The collector holds exactly these packets of its frame. -/
structure FrameCollector.Holds (c : FrameCollector) (packets : List (ℕ × ℕ)) : Prop where
  nil_iff : packets = [] ↔ c.chunks = []
  length : ∀ p ∈ packets, c.chunks.length = p.2 + 1
  le : ∀ p ∈ packets, p.1 ≤ p.2
  lt : ∀ p ∈ packets, p.2 < kAllPacketsLost
  missing : ∀ i < c.chunks.length, c.chunks[i]? = some none ↔ i ∉ packets.map Prod.fst

namespace FrameCollector.Holds

variable {c c' : FrameCollector} {packets : List (ℕ × ℕ)} {part : ParseResult}

theorem nil (h : c.chunks = []) : c.Holds [] :=
  ⟨by simp [h], by simp, by simp, by simp, by simp [h]⟩

theorem collectRtpPacket (h : c.Holds packets)
    (hcollect : c.collectRtpPacket part = .ok (true, c'))
    (hle : part.packetId.toNat ≤ part.maxPacketId.toNat)
    (hlt : part.maxPacketId.toNat < kAllPacketsLost) :
    c'.Holds (packets ++ [(part.packetId.toNat, part.maxPacketId.toNat)]) := by
  obtain ⟨hlength, hbefore, -, hmissing⟩ := collectRtpPacket_true hcollect
  refine ⟨?_, List.forall_mem_append.mpr ⟨fun p hp => ?_, List.forall_mem_singleton.mpr hlength⟩,
    List.forall_mem_append.mpr ⟨h.le, List.forall_mem_singleton.mpr hle⟩,
    List.forall_mem_append.mpr ⟨h.lt, List.forall_mem_singleton.mpr hlt⟩, fun i hi => ?_⟩
  · have hne : c'.chunks ≠ [] := List.ne_nil_of_length_pos (by omega)
    simp [hne]
  · have hne : c.chunks ≠ [] := fun hnil => List.ne_nil_of_mem hp (h.nil_iff.mpr hnil)
    rw [hlength, ← hbefore.resolve_left hne]
    exact h.length p hp
  · rw [hmissing i (by omega), List.map_append, List.mem_append, not_or, and_comm]
    refine and_congr ?_ (by simp)
    by_cases hnil : c.chunks = []
    · simp [hnil, h.nil_iff.mpr hnil]
    · have hi' : i < c.chunks.length := by
        have := hbefore.resolve_left hnil
        omega
      simp only [hnil, false_or]
      exact h.missing i hi'

end FrameCollector.Holds

namespace FrameQueue

/-- The collectors of the known frames hold the packets of the history. -/
structure Packets (q : FrameQueue) (events : List ReceiverEvent) : Prop where
  holds : ∀ g, q.lastFrameConsumed < g → g ≤ q.latestFrameExpected →
    (q.getQueueEntry g).collector.Holds (packetsOf events g)
  unknown : ∀ g, q.latestFrameExpected < g → packetsOf events g = []

namespace Packets

variable {v w : ReceiverView} {g : ℤ}

/-- A packet is collected, in whatever entry it leaves. -/
theorem collect (h : v.Packets v.events)
    (hring : v.Ring v.checkpointFrame) {part : ParseResult} {entry : PendingFrame}
    {new : List ReceiverEvent} (hs : v.Collectable part)
    (hcollect : (v.getQueueEntry part.frameId).collector.collectRtpPacket part =
      .ok (true, entry.collector))
    (hnew : ∀ g, packetsOf new g = []) :
    Packets (v.setQueueEntry part.frameId entry).toFrameQueue
      (v.events ++ collectedEvent part :: new) := by
  have hconsumed := hring.consumed_le
  have hlatest := hring.latest_le
  have hlt := hs.checkpoint_lt
  have hle := hs.le_latest
  refine ⟨fun g hg hg' => ?_, fun g hg => ?_⟩
  · replace hg : v.lastFrameConsumed < g := hg
    replace hg' : g ≤ v.latestFrameExpected := hg'
    by_cases hgf : part.frameId = g
    · rw [packetsOf_append, packetsOf_collectedEvent hgf, hnew, ← hgf,
        getQueueEntry_setQueueEntry_self]
      exact (h.holds part.frameId (by omega) hle).collectRtpPacket hcollect hs.packetId_le
        hs.maxPacketId_lt
    · rw [packetsOf_append, packetsOf_collectedEvent_of_ne hgf, hnew, List.append_nil,
        hring.getQueueEntry_setQueueEntry (by omega) (by omega) hg (by omega) (Ne.symm hgf)]
      exact h.holds g hg hg'
  · have hg' : v.latestFrameExpected < g := hg
    rw [packetsOf_append, packetsOf_collectedEvent_of_ne (by omega), hnew, List.append_nil]
    exact h.unknown g hg

/-- **Every change keeps the packets.** -/
theorem step (h : v.Packets v.events)
    (hring : v.Ring v.checkpointFrame) (hvw : v.QueueChange w) :
    w.Packets w.events := by
  have hlatest := hring.latest_le
  cases hvw with
  | quiet new hqueue hcheckpoint hdelays hevents hquiet =>
    rw [hqueue, hevents]
    refine ⟨fun g hg hg' => ?_, fun g hg => ?_⟩
    · rw [packetsOf_append_of_quiet hquiet]
      exact h.holds g hg hg'
    · rw [packetsOf_append_of_quiet hquiet]
      exact h.unknown g hg
  | expect hlt =>
    have hlt' : v.latestFrameExpected < v.lastFrameConsumed + 120 := hlt
    have hconsumed := hring.consumed_le
    have hcheckpoint := hring.checkpoint_le
    refine ⟨fun g hg hg' => ?_, fun g hg => h.unknown g ?_⟩
    · rw [lastFrameConsumed_expectNextFrame] at hg
      rw [latestFrameExpected_expectNextFrame] at hg'
      by_cases hgf : g = v.latestFrameExpected + 1
      · -- the slot of the new frame was free
        have hfree := hring.free (slotIndex g) fun g' h₁ h₂ =>
          hring.slotIndex_ne (by omega) (by omega) h₁ (by omega) (by omega)
        have hentry : (v.expectNextFrame.getQueueEntry g).collector =
            (v.pendingFrames (slotIndex g)).collector.setFrameId g := by
          rw [hgf]
          exact congrArg (·.collector) getQueueEntry_setQueueEntry_self
        have hevents : v.expectNextFrame.events = v.events := rfl
        rw [hentry, hfree, hevents, h.unknown g (by omega)]
        exact .nil rfl
      · have hentry : v.expectNextFrame.getQueueEntry g = v.getQueueEntry g :=
          hring.getQueueEntry_setQueueEntry (by omega) (by omega) hg (by omega) hgf
        rw [hentry]
        exact h.holds g hg (by omega)
    · rw [latestFrameExpected_expectNextFrame] at hg
      omega
  | collect hs hcollect => exact h.collect hring hs hcollect fun g => rfl
  | collectFirst captureTime hs hcollect => exact h.collect hring hs hcollect fun g => rfl
  | move => exact h
  | @advance first checkpoint pendingFrames e hfirst hnew hge hle hcaptured hcomplete hresets
      hquiet =>
    have hpackets : ∀ g, packetsOf (v.events ++ [e]) g = packetsOf v.events g := fun g =>
      packetsOf_append_of_quiet (by simpa using hquiet)
    refine ⟨fun g hg hg' => ?_, fun g hg => ?_⟩
    · dsimp only at hg
      unfold getQueueEntry
      dsimp only
      rw [hpackets, hring.getQueueEntry_resets hresets (by omega) (by omega) hg']
      exact h.holds g (by omega) hg'
    · rw [hpackets]
      exact h.unknown g hg

end Packets

/-! ### Capture times -/

/-- The capture times of the last 120 known frames are in their slots, and that of a frame is
known once its packet 0 was collected. -/
structure Captures (q : FrameQueue) (events : List ReceiverEvent) : Prop where
  captured : ∀ g t, 0 ≤ g → q.latestFrameExpected - 120 < g → g ≤ q.latestFrameExpected →
    ((q.getQueueEntry g).estimatedCaptureTime = some t ↔ ∃ d, .firstPacket g d t ∈ events)
  consumed : ∀ g, 0 ≤ g → g ≤ q.lastFrameConsumed → ∃ d t, .firstPacket g d t ∈ events
  known : ∀ g d t, .firstPacket g d t ∈ events → 0 ≤ g ∧ g ≤ q.latestFrameExpected
  unique : ∀ g d t d' t', .firstPacket g d t ∈ events → .firstPacket g d' t' ∈ events →
    d = d' ∧ t = t'
  zero : ∀ g, q.lastFrameConsumed < g → g ≤ q.latestFrameExpected →
    0 ∈ (packetsOf events g).map Prod.fst → q.isCaptured g

namespace Captures

variable {q q' : FrameQueue} {events events' : List ReceiverEvent} {v w : ReceiverView} {f g : ℤ}

theorem isCaptured_iff (h : Captures q events) (hg : 0 ≤ g)
    (hlt : q.latestFrameExpected - 120 < g) (hle : g ≤ q.latestFrameExpected) :
    q.isCaptured g ↔ ∃ d t, .firstPacket g d t ∈ events := by
  unfold isCaptured
  rw [Option.isSome_iff_exists]
  constructor
  · rintro ⟨t, ht⟩
    obtain ⟨d, hd⟩ := (h.captured g t hg hlt hle).mp ht
    exact ⟨d, t, hd⟩
  · rintro ⟨d, t, hd⟩
    exact ⟨t, (h.captured g t hg hlt hle).mpr ⟨d, hd⟩⟩

/-- The last 120 known frames do not share a slot. -/
theorem slotIndex_ne (latest : ℤ) (hf : 0 ≤ f) (hf' : latest - 120 < f) (hfl : f ≤ latest)
    (hg : 0 ≤ g) (hg' : latest - 120 < g) (hgl : g ≤ latest) (hne : g ≠ f) :
    slotIndex g ≠ slotIndex f := fun heq =>
  hne (@slotIndex_inj (max (latest - 120) (-1)) g f (by omega) (by omega) (by omega) (by omega)
    (by omega) heq)

/-- Capture times and first packets stay as they are. -/
theorem of_same (h : Captures q events) (hlatest : q'.latestFrameExpected = q.latestFrameExpected)
    (htime : ∀ i, (q'.pendingFrames i).estimatedCaptureTime =
      (q.pendingFrames i).estimatedCaptureTime)
    (hevents : ∀ g d t, .firstPacket g d t ∈ events' ↔ .firstPacket g d t ∈ events)
    (hconsumed : ∀ g, 0 ≤ g → g ≤ q'.lastFrameConsumed → ∃ d t, .firstPacket g d t ∈ events)
    (hzero : ∀ g, q'.lastFrameConsumed < g → g ≤ q.latestFrameExpected →
      0 ∈ (packetsOf events' g).map Prod.fst → q.isCaptured g) : Captures q' events' where
  captured g t hg hlt hle := by
    rw [hlatest] at hlt hle
    simp only [getQueueEntry, htime, hevents]
    exact h.captured g t hg hlt hle
  consumed g hg hle := by
    simp only [hevents]
    exact hconsumed g hg hle
  known g d t hmem := by
    rw [hlatest]
    exact h.known g d t ((hevents g d t).mp hmem)
  unique g d t d' t' hmem hmem' :=
    h.unique g d t d' t' ((hevents g d t).mp hmem) ((hevents g d' t').mp hmem')
  zero g hg hle hmem := by
    rw [hlatest] at hle
    simp only [isCaptured, getQueueEntry, htime]
    exact hzero g hg hle hmem

/-- A frame becomes known, and nothing is known of its packet 0. -/
theorem expectNextFrame (h : v.Captures v.events)
    (hring : v.Ring v.checkpointFrame)
    (hpackets : v.Packets v.events)
    (hlt : v.latestFrameExpected < v.lastFrameConsumed + 120) :
    Captures v.expectNextFrame.toFrameQueue v.events := by
  have hleader := hring.leader_le
  have hconsumed := hring.consumed_le
  have hcheckpoint := hring.checkpoint_le
  have hnew : (v.expectNextFrame.getQueueEntry (v.latestFrameExpected + 1)).estimatedCaptureTime =
      none :=
    congrArg (·.estimatedCaptureTime) getQueueEntry_setQueueEntry_self
  have hold : ∀ g, 0 ≤ g → v.latestFrameExpected + 1 - 120 < g → g ≤ v.latestFrameExpected →
      v.expectNextFrame.getQueueEntry g = v.getQueueEntry g := fun g hg hg' hle =>
    getQueueEntry_setQueueEntry_of_ne
      (slotIndex_ne (v.latestFrameExpected + 1) (by omega) (by omega) le_rfl hg hg'
        (by omega) (by omega))
  refine ⟨fun g t hg hg' hle => ?_, h.consumed, fun g d t hmem => ?_, h.unique,
    fun g hg hle hmem => ?_⟩
  · rw [latestFrameExpected_expectNextFrame] at hg' hle
    by_cases hgf : g = v.latestFrameExpected + 1
    · rw [hgf, hnew]
      refine iff_of_false (by simp) ?_
      rintro ⟨d, hd⟩
      have := (h.known _ d t hd).2
      omega
    · rw [hold g hg hg' (by omega)]
      exact h.captured g t hg (by omega) (by omega)
  · obtain ⟨hg, hle⟩ := h.known g d t hmem
    exact ⟨hg, hle.trans (by rw [latestFrameExpected_expectNextFrame]; omega)⟩
  · rw [lastFrameConsumed_expectNextFrame] at hg
    rw [latestFrameExpected_expectNextFrame] at hle
    by_cases hgf : g = v.latestFrameExpected + 1
    · rw [hpackets.unknown g (by omega)] at hmem
      simp at hmem
    · have hcaptured := h.zero g hg (by omega) hmem
      unfold isCaptured
      rw [hold g (by omega) (by omega) (by omega)]
      exact hcaptured

/-- Packet 0 of a frame is collected for the first time. -/
theorem collectFirst (h : v.Captures v.events)
    (hring : v.Ring v.checkpointFrame) {part : ParseResult} {entry : PendingFrame}
    {d t : ℤ} (hs : v.Collectable part) (hcaptured : v.isCaptured part.frameId = false)
    (hentry : entry.estimatedCaptureTime = some t) :
    Captures (v.setQueueEntry part.frameId entry).toFrameQueue
      (v.events ++ [collectedEvent part, .firstPacket part.frameId d t]) := by
  have hleader := hring.leader_le
  have hconsumed := hring.consumed_le
  have hlatest := hring.latest_le
  have hcheckpoint := hs.checkpoint_lt
  have hle := hs.le_latest
  have hnone : ∀ d' t', .firstPacket part.frameId d' t' ∉ v.events := by
    intro d' t' hmem
    rw [Bool.eq_false_iff] at hcaptured
    exact hcaptured ((h.isCaptured_iff (by omega) (by omega) hle).mpr ⟨d', t', hmem⟩)
  have hmem : ∀ g d' t', .firstPacket g d' t' ∈
      v.events ++ [collectedEvent part, .firstPacket part.frameId d t] ↔
      .firstPacket g d' t' ∈ v.events ∨ g = part.frameId ∧ d' = d ∧ t' = t := by
    simp [collectedEvent]
  have hself : ((v.setQueueEntry part.frameId entry).getQueueEntry
      part.frameId).estimatedCaptureTime = some t := by
    rw [getQueueEntry_setQueueEntry_self, hentry]
  have hold : ∀ g, 0 ≤ g → v.latestFrameExpected - 120 < g → g ≤ v.latestFrameExpected →
      g ≠ part.frameId → (v.setQueueEntry part.frameId entry).getQueueEntry g =
        v.getQueueEntry g := fun g hg hg' hle' hne =>
    getQueueEntry_setQueueEntry_of_ne
      (slotIndex_ne v.latestFrameExpected (by omega) (by omega) hle hg hg' hle' hne)
  refine ⟨fun g t' hg hg' hle' => ?_, fun g hg hg' => ?_, fun g d' t' hg => ?_,
    fun g d₁ t₁ d₂ t₂ h₁ h₂ => ?_, fun g hg hg' hzero => ?_⟩
  · simp only [hmem]
    by_cases hgf : g = part.frameId
    · rw [hgf, hself]
      simp [hnone, eq_comm]
    · rw [hold g hg hg' hle' hgf, h.captured g t' hg hg' hle']
      simp [hgf]
  · obtain ⟨d', t', hmem'⟩ := h.consumed g hg hg'
    exact ⟨d', t', (hmem g d' t').mpr (Or.inl hmem')⟩
  · rcases (hmem g d' t').mp hg with hg | ⟨rfl, -, -⟩
    · exact h.known g d' t' hg
    · exact ⟨by omega, hle⟩
  · rcases (hmem g d₁ t₁).mp h₁ with h₁ | ⟨rfl, rfl, rfl⟩
    · rcases (hmem g d₂ t₂).mp h₂ with h₂ | ⟨rfl, -, -⟩
      · exact h.unique g d₁ t₁ d₂ t₂ h₁ h₂
      · exact absurd h₁ (hnone _ _)
    · rcases (hmem _ d₂ t₂).mp h₂ with h₂ | ⟨-, rfl, rfl⟩
      · exact absurd h₂ (hnone _ _)
      · exact ⟨rfl, rfl⟩
  · unfold isCaptured
    by_cases hgf : g = part.frameId
    · rw [hgf, hself]
      rfl
    · replace hg : v.lastFrameConsumed < g := hg
      rw [packetsOf_append, packetsOf_collectedEvent_of_ne (Ne.symm hgf)] at hzero
      rw [hold g (by omega) (by omega) hg' hgf]
      exact h.zero g hg hg' (by simpa using hzero)

/-- **Every change keeps the capture times.** -/
theorem step (h : v.Captures v.events)
    (hring : v.Ring v.checkpointFrame)
    (hpackets : v.Packets v.events) (hvw : v.QueueChange w) :
    w.Captures w.events := by
  cases hvw with
  | quiet new hqueue hcheckpoint hdelays hevents hquiet =>
    rw [hqueue, hevents]
    refine h.of_same rfl (fun _ => rfl) (fun g d t => firstPacket_mem_append_of_quiet hquiet)
      h.consumed fun g hg hle hmem => ?_
    rw [packetsOf_append_of_quiet hquiet] at hmem
    exact h.zero g hg hle hmem
  | expect hlt => exact h.expectNextFrame hring hpackets hlt
  | @collect part collector hs hcollect hfirst =>
    refine h.of_same rfl (fun i => ?_) (fun g d t => ?_) h.consumed fun g hg hle hmem => ?_
    · simp only [ReceiverView.emit, ReceiverView.setQueueEntry, Function.update_apply]
      split_ifs with heq
      · rw [heq]
        rfl
      · rfl
    · simp [ReceiverView.emit, ReceiverView.setQueueEntry, collectedEvent]
    · replace hmem : 0 ∈ (packetsOf (v.events ++ [collectedEvent part]) g).map
        Prod.fst := hmem
      by_cases hgf : part.frameId = g
      · rw [packetsOf_append, packetsOf_collectedEvent hgf, List.map_append,
          List.mem_append] at hmem
        rcases hmem with hmem | hmem
        · exact h.zero g hg hle hmem
        · have hzero : 0 = part.packetId.toNat := by simpa using hmem
          rw [← hgf]
          exact hfirst (UInt16.toNat_inj.mp hzero.symm)
      · rw [packetsOf_append, packetsOf_collectedEvent_of_ne hgf] at hmem
        exact h.zero g hg hle (by simpa using hmem)
  | collectFirst captureTime hs hcollect hzero hcaptured =>
    exact h.collectFirst hring hs hcaptured rfl
  | move => exact h
  | @advance first checkpoint pendingFrames e hfirst hnew hge hle hcaptured hcomplete hresets
      hquiet =>
    have hcheckpoint := hring.checkpoint_le
    have hlatest := hring.latest_le
    have hquiet' : ∀ e' ∈ [e], e'.isArrival = false := by simpa using hquiet
    refine h.of_same rfl hresets.estimatedCaptureTime
      (fun g d t => firstPacket_mem_append_of_quiet hquiet') (fun g hg hg' => ?_)
      fun g hg hg' hmem => ?_
    · dsimp only at hg'
      by_cases hold : g ≤ v.lastFrameConsumed
      · exact h.consumed g hg hold
      · exact (h.isCaptured_iff hg (by omega) (by omega)).mp (hcaptured g (by omega) (by omega))
    · dsimp only at hg
      rw [packetsOf_append_of_quiet hquiet'] at hmem
      exact h.zero g (by omega) hg' hmem

/-- The capture time of a complete frame is known. -/
theorem isCaptured_of_isComplete (h : Captures q events) (hpackets : Packets q events)
    (hg : q.lastFrameConsumed < g) (hle : g ≤ q.latestFrameExpected) (hcomplete : q.isComplete g) :
    q.isCaptured g := by
  have hholds := hpackets.holds g hg hle
  obtain ⟨hne, hall⟩ := (FrameCollector.isComplete_iff _).mp hcomplete
  have hpos := List.length_pos_of_ne_nil hne
  refine h.zero g hg hle (not_not.mp fun hzero => ?_)
  have hmissing := (hholds.missing 0 hpos).mpr hzero
  rw [List.getElem?_eq_getElem hpos] at hmissing
  have := hall _ (List.getElem_mem hpos)
  rw [Option.some.inj hmissing] at this
  cases this

end Captures

end FrameQueue

end StreamerPlus
