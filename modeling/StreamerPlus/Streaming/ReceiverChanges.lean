import Mathlib.Logic.Relation
import StreamerPlus.Lib.Run
import StreamerPlus.Streaming.Receiver

/-!
# The changes of a receiver

What a call of the receiver does, taken apart: a frame becomes known, a packet is collected, the
checkpoint moves, feedback is sent, a playout delay is resolved, frames are consumed or skipped.
Changes are stated about a `ReceiverView`, the part of the receiver that they depend on, so that
alarms, parsers, logs and statistics drop out of every later proof.

Skipping frames and moving the checkpoint past them is one change, and so are collecting packet 0
of a frame and processing its timing: the receiver never sends feedback or resolves a delay
between the two.

Main result:

* `Receiver.Step.reaches`: the view after a call is reached from the one before it by changes.
-/

namespace StreamerPlus

open Checked TransitionSystem

/-- The part of a receiver that its changes depend on. -/
structure ReceiverView extends FrameQueue where
  checkpointFrame : ℤ
  playoutDelayChanges : List (ℤ × ℤ)
  pendingFrameAcks : List ℤ
  hasReport : Bool
  hasOffset : Bool
  events : List ReceiverEvent

namespace ReceiverView

variable (v : ReceiverView)

/-- Add to the history. -/
def emit (event : ReceiverEvent) : ReceiverView :=
  { v with events := v.events ++ [event] }

/-- Replace the entry of a frame. -/
def setQueueEntry (frameId : ℤ) (entry : PendingFrame) : ReceiverView :=
  { v with pendingFrames := Function.update v.pendingFrames (slotIndex frameId) entry }

/-- One more frame is known. -/
def expectNextFrame : ReceiverView :=
  { v.setQueueEntry (v.latestFrameExpected + 1)
      { v.getQueueEntry (v.latestFrameExpected + 1) with
        estimatedCaptureTime := none
        collector := (v.getQueueEntry (v.latestFrameExpected + 1)).collector.setFrameId
          (v.latestFrameExpected + 1) } with
    latestFrameExpected := v.latestFrameExpected + 1 }

/-- The packet is one that the parser accepts, of a known frame after the checkpoint that is not
complete. -/
structure Collectable (part : ParseResult) : Prop where
  checkpoint_lt : v.checkpointFrame < part.frameId
  le_latest : part.frameId ≤ v.latestFrameExpected
  incomplete : v.isComplete part.frameId = false
  packetId_le : part.packetId.toNat ≤ part.maxPacketId.toNat
  maxPacketId_lt : part.maxPacketId.toNat < kAllPacketsLost

/-- The event for a packet that is collected. -/
def collectedEvent (part : ParseResult) : ReceiverEvent :=
  .collected part.frameId part.packetId.toNat part.maxPacketId.toNat

/-- The changes of the playout delay, with that of a first packet. -/
def delayChangesWith (part : ParseResult) : List (ℤ × ℤ) :=
  if 0 < part.newPlayoutDelay then
    ChangeLog.insert part.frameId part.newPlayoutDelay
      (ChangeLog.prune (v.lastFrameConsumed - kMaxUnackedFrames + 1) v.playoutDelayChanges)
  else v.playoutDelayChanges

/-- The delay of the frame is resolved at the checkpoint, or before it, or once all frames up to
this one have a capture time. -/
def Resolvable (frameId : ℤ) : Prop :=
  frameId = v.checkpointFrame ∨ v.lastFrameConsumed < frameId ∧
    (frameId ≤ v.checkpointFrame ∨ frameId ≤ v.latestFrameExpected ∧
      ∀ g, v.lastFrameConsumed < g → g ≤ frameId → v.isCaptured g)

/-- What resolving the delay of a frame adds to the history. -/
def resolvedEvent (frameId delay : ℤ) : ReceiverEvent :=
  .resolved
    { lastFrameConsumed := v.lastFrameConsumed
      latestFrameExpected := v.latestFrameExpected
      frameId
      delay
      allKnown :=
        (Int.range (FrameQueue.firstPossible v.lastFrameConsumed) (frameId + 1)).all v.isCaptured }

variable (c : ReceiverConfig)

/-- The feedback about the frames after the checkpoint. -/
def collectFeedback (v : ReceiverView) : Except ReceiverFault Receiver.Feedback :=
  (Int.range (v.checkpointFrame + 1) (v.latestFrameExpected + 1)).foldlM
    (Receiver.examineFrame c v.toFrameQueue) { pendingFrameAcks := v.pendingFrameAcks }

/-- The feedback has been sent. -/
def send (v : ReceiverView) (feedback : Receiver.Feedback) (sendTime : ℤ)
    (packet : ByteView) : ReceiverView :=
  let pendingFrameAcks := if c.areReceiverEventLogsEnabled then [] else feedback.pendingFrameAcks
  { v with
    pendingFrameAcks
    events := v.events ++ [.sentRtcp
      { sendTime
        checkpointFrame := v.checkpointFrame
        latestFrameExpected := v.latestFrameExpected
        packetNacks := feedback.packetNacks
        frameAcks := feedback.frameAcks
        pendingFrameAcks
        packet }] }

/-- The frame was passed over, when its playout was due. -/
def PassedOver (frameId : ℤ) : Prop :=
  ∃ captureTime delay playerProcessingTime now,
    captureTime + toDuration delay - playerProcessingTime ≤ now ∧
    .passedOver frameId captureTime delay playerProcessingTime now ∈ v.events

/-- The entries after the collectors of the frames between `first` and `last` are reset. -/
structure Resets (first last : ℤ) (q : FrameQueue) (pendingFrames : Fin 120 → PendingFrame) :
    Prop where
  inside : ∀ g, first ≤ g → g < last → pendingFrames (slotIndex g) =
    { q.getQueueEntry g with collector := .new }
  outside : ∀ i, (∀ g, first ≤ g → g < last → slotIndex g ≠ i) → pendingFrames i = q.pendingFrames i

/-- The changes of a receiver. -/
inductive Changes (c : ReceiverConfig) : ReceiverView → ReceiverView → Prop
  | report {v : ReceiverView} : Changes c v { v with hasReport := true, hasOffset := true }
  | expect {v : ReceiverView} : v.latestFrameExpected < v.lastFrameConsumed + kMaxUnackedFrames →
      Changes c v v.expectNextFrame
  | reject {v : ReceiverView} {part : ParseResult} {collector : FrameCollector} :
      v.Collectable part →
      (v.getQueueEntry part.frameId).collector.collectRtpPacket part = .ok (false, collector) →
      Changes c v (v.setQueueEntry part.frameId { v.getQueueEntry part.frameId with collector })
  | collect {v : ReceiverView} {part : ParseResult} {collector : FrameCollector} :
      v.Collectable part →
      (v.getQueueEntry part.frameId).collector.collectRtpPacket part = .ok (true, collector) →
      (part.packetId = 0 → v.isCaptured part.frameId) →
      Changes c v ((v.setQueueEntry part.frameId
        { v.getQueueEntry part.frameId with collector }).emit (collectedEvent part))
  | collectFirst {v : ReceiverView} {part : ParseResult} {collector : FrameCollector}
      (captureTime : ℤ) :
      v.Collectable part →
      (v.getQueueEntry part.frameId).collector.collectRtpPacket part = .ok (true, collector) →
      part.packetId = 0 → v.isCaptured part.frameId = false →
      Changes c v { v.setQueueEntry part.frameId
          ⟨collector, some captureTime, some part.rtpTimestamp⟩ with
        playoutDelayChanges := v.delayChangesWith part
        events := v.events ++
          [collectedEvent part, .firstPacket part.frameId part.newPlayoutDelay captureTime] }
  | collectUntimed {v : ReceiverView} {part : ParseResult} {collector : FrameCollector} :
      v.Collectable part →
      (v.getQueueEntry part.frameId).collector.collectRtpPacket part = .ok (true, collector) →
      v.hasReport = true → v.hasOffset = false →
      Changes c v ((v.setQueueEntry part.frameId
        { v.getQueueEntry part.frameId with
          collector
          rtpTimestamp := some part.rtpTimestamp }).emit (collectedEvent part))
  | complete {v : ReceiverView} {frameId : ℤ} (rtpTimestamp : ℤ) : v.checkpointFrame < frameId →
      v.isComplete frameId →
      Changes c v { v with
        pendingFrameAcks := v.pendingFrameAcks ++
          if frameId = v.checkpointFrame + 1 then [rtpTimestamp] else []
        events := v.events ++ [.completed frameId v.checkpointFrame] }
  | moveCheckpoint {v : ReceiverView} {checkpoint : ℤ} : v.checkpointFrame < checkpoint →
      checkpoint ≤ v.latestFrameExpected →
      (∀ g, v.checkpointFrame < g → g ≤ checkpoint → v.isComplete g) →
      Changes c v { v with checkpointFrame := checkpoint }
  | resolve {v : ReceiverView} {frameId key delay : ℤ} : v.Resolvable frameId →
      ChangeLog.inForce v.playoutDelayChanges frameId = some (key, delay) →
      Changes c v (v.emit (v.resolvedEvent frameId delay))
  | send {v : ReceiverView} {feedback : Receiver.Feedback} (sendTime : ℤ) (packet : ByteView) :
      v.collectFeedback c = .ok feedback → Changes c v (v.send c feedback sendTime packet)
  | passOver {v : ReceiverView} {frameId captureTime delay playerProcessingTime now : ℤ} :
      v.lastFrameConsumed < frameId → frameId ≤ v.latestFrameExpected →
      (v.getQueueEntry frameId).estimatedCaptureTime = some captureTime →
      (∃ r, .resolved r ∈ v.events ∧ r.frameId = frameId ∧ r.delay = delay) →
      captureTime + toDuration delay - playerProcessingTime ≤ now →
      Changes c v (v.emit (.passedOver frameId captureTime delay playerProcessingTime now))
  | consume {v : ReceiverView} {pendingFrames : Fin 120 → PendingFrame} :
      v.lastFrameConsumed + 1 ≤ v.checkpointFrame → v.isComplete (v.lastFrameConsumed + 1) →
      v.isCaptured (v.lastFrameConsumed + 1) →
      Resets (v.lastFrameConsumed + 1) (v.lastFrameConsumed + 1 + 1) v.toFrameQueue pendingFrames →
      Changes c v { v with
        pendingFrames
        lastFrameConsumed := v.lastFrameConsumed + 1
        events := v.events ++ [.consumed (v.lastFrameConsumed + 1)
          (v.getQueueEntry (v.lastFrameConsumed + 1)).collector.frame.dependency] }
  | skip {v : ReceiverView} {frameId checkpoint : ℤ} {pendingFrames : Fin 120 → PendingFrame} :
      v.lastFrameConsumed + 1 < frameId → v.checkpointFrame < frameId → frameId ≤ checkpoint →
      checkpoint ≤ v.latestFrameExpected →
      (∀ g, v.lastFrameConsumed < g → g < frameId → v.isCaptured g ∧ v.PassedOver g) →
      (∀ g, frameId < g → g ≤ checkpoint →
        (pendingFrames (slotIndex g)).collector.isComplete) →
      (v.getQueueEntry frameId).collector.frame.dependency ≠ .dependent →
      v.isComplete frameId →
      Resets (v.lastFrameConsumed + 1) frameId v.toFrameQueue pendingFrames →
      Changes c v { v with
        pendingFrames
        lastFrameConsumed := frameId - 1
        checkpointFrame := checkpoint
        events := v.events ++ [.skippedTo frameId] }
  | framesReady {v : ReceiverView} (size : ℕ) : Changes c v (v.emit (.onFramesReady size))

/-- Changes lead from `v` to `w`. -/
def Reaches : ReceiverView → ReceiverView → Prop :=
  Relation.ReflTransGen (Changes c)

variable {c : ReceiverConfig} {v w : ReceiverView}

/-- **The invariant rule.** -/
theorem Reaches.invariant {P : ReceiverView → Prop} (hstep : ∀ v w, P v → Changes c v w → P w)
    (h : Reaches c v w) (hv : P v) : P w := by
  induction h with
  | refl => exact hv
  | tail _ hchange ih => exact hstep _ _ ih hchange

end ReceiverView

namespace Receiver

open ReceiverView

variable {c : ReceiverConfig} {now : ℤ} {s t : Receiver}

/-- What the changes see of a receiver. -/
def view (s : Receiver) : ReceiverView where
  toFrameQueue := s.toFrameQueue
  checkpointFrame := s.checkpointFrame
  playoutDelayChanges := s.playoutDelayChanges
  pendingFrameAcks := s.pendingFrameAcks
  hasReport := s.lastSenderReport.isSome
  hasOffset := !s.smoothedClockOffset.updates.isEmpty
  events := s.events

/-! ### Feedback -/

variable {packet : ByteView}

/-- The computation leaves the checkpoint of the builder alone. -/
def KeepsCheckpoint {α : Type} (b : CompoundRtcpBuilder) :
    Except RtcpFault (α × CompoundRtcpBuilder) → Prop :=
  Outcome (fun r => r.2.checkpointFrameId = b.checkpointFrameId) (fun _ => True)

variable {session : RtcpSession} {b b' : CompoundRtcpBuilder} {buffer : ByteBuffer}

theorem keepsCheckpoint_appendCastFeedbackPacket :
    KeepsCheckpoint b (b.appendCastFeedbackPacket session buffer) := by
  have hacks : ∀ payload, KeepsCheckpoint b (b.appendCastFeedbackAckFields payload) := by
    intro payload
    unfold CompoundRtcpBuilder.appendCastFeedbackAckFields
    split_ifs
    · rfl
    · exact Outcome.require_bind (fun _ => trivial) fun _ => outcome_true.bind fun _ _ => rfl
  refine Outcome.require_bind (fun _ => trivial) fun _ => Outcome.require_bind (fun _ => trivial)
    fun _ => Outcome.require_bind (fun _ => trivial) fun _ => ?_
  exact outcome_true.bind fun _ _ => outcome_true.bind fun payload _ => (hacks payload).bind
    fun _ hr => outcome_true.bind fun _ _ => hr

theorem keepsCheckpoint_appendReceiverLogPacket :
    KeepsCheckpoint b (b.appendReceiverLogPacket session buffer) := by
  unfold CompoundRtcpBuilder.appendReceiverLogPacket
  split_ifs
  · rfl
  · exact Outcome.require_bind (fun _ => trivial) fun _ => outcome_true.bind fun _ _ =>
      outcome_true.bind fun _ _ => outcome_true.bind fun _ _ => rfl

/-- Building a packet leaves the checkpoint alone. -/
theorem checkpointFrameId_of_buildPacket {sendTime : ℤ} {size : ℕ}
    (h : b.buildPacket session sendTime size = .ok (packet, b')) :
    b'.checkpointFrameId = b.checkpointFrameId := by
  have hout : KeepsCheckpoint b (b.buildPacket session sendTime size) :=
    Outcome.require_bind (fun _ => trivial) fun _ => outcome_true.bind fun _ _ =>
      keepsCheckpoint_appendCastFeedbackPacket.bind fun _ h₁ =>
        keepsCheckpoint_appendReceiverLogPacket.bind fun _ h₂ => h₂.trans h₁
  exact hout.of_ok h

/-- Sending feedback changes nothing but the pending ACKs and the history. -/
theorem sendRtcp_view (h : s.sendRtcp c now = .ok t) :
    ∃ feedback packet, s.view.collectFeedback c = .ok feedback ∧
      t.view = s.view.send c feedback now packet := by
  unfold sendRtcp at h
  obtain ⟨feedback, hfeedback, h⟩ := bind_eq_ok.mp h
  obtain ⟨⟨packet, rtcpBuilder⟩, hbuild, h⟩ := bind_eq_ok.mp h
  cases h
  have hcheckpoint := checkpointFrameId_of_buildPacket (mapError_eq_ok.mp hbuild)
  refine ⟨feedback, packet, hfeedback, ?_⟩
  by_cases hlogs : c.areReceiverEventLogsEnabled = true
  · simp only [drainFrameAcks, if_pos hlogs] at hcheckpoint
    simp only [view, ReceiverView.send, checkpointFrame, drainFrameAcks, if_pos hlogs, hcheckpoint]
    rfl
  · simp only [drainFrameAcks, if_neg hlogs] at hcheckpoint
    simp only [view, ReceiverView.send, checkpointFrame, drainFrameAcks, if_neg hlogs, hcheckpoint]
    rfl

theorem sendRtcp_reaches (h : s.sendRtcp c now = .ok t) : Reaches c s.view t.view := by
  obtain ⟨feedback, packet, hfeedback, hview⟩ := sendRtcp_view h
  rw [hview]
  exact .single (.send now packet hfeedback)

/-! ### Playout delays and the checkpoint -/

theorem resolveTargetPlayoutDelay_eq_ok {frameId delay : ℤ}
    (h : s.resolveTargetPlayoutDelay frameId = .ok (delay, t)) :
    (∃ key, ChangeLog.inForce s.playoutDelayChanges frameId = some (key, delay)) ∧
      t = s.emit (s.view.resolvedEvent frameId delay) := by
  unfold resolveTargetPlayoutDelay at h
  rw [require_bind_eq_ok] at h
  obtain ⟨-, h⟩ := h
  cases hforce : ChangeLog.inForce s.playoutDelayChanges frameId with
  | none =>
    rw [hforce] at h
    cases h
  | some e =>
    rw [hforce] at h
    cases h
    exact ⟨⟨e.1, rfl⟩, rfl⟩

theorem resolve_reaches {frameId delay : ℤ}
    (h : s.resolveTargetPlayoutDelay frameId = .ok (delay, t)) (hs : s.view.Resolvable frameId) :
    Reaches c s.view t.view := by
  obtain ⟨⟨key, hkey⟩, rfl⟩ := resolveTargetPlayoutDelay_eq_ok h
  exact .single (.resolve hs hkey)

/-- The loop of `AdvanceCheckpoint` passes over complete frames only. -/
theorem lastCompleteFrom_spec (q : FrameQueue) (n : ℕ) (f : ℤ) :
    f ≤ lastCompleteFrom q n f ∧ lastCompleteFrom q n f ≤ f + n ∧
      ∀ g, f < g → g ≤ lastCompleteFrom q n f → q.isComplete g := by
  induction n generalizing f with
  | zero => exact ⟨le_rfl, by simp [lastCompleteFrom], fun g h h' => absurd h' (not_le.mpr h)⟩
  | succ n ih =>
    unfold lastCompleteFrom
    split_ifs with hcomplete
    · obtain ⟨hle, hle', hall⟩ := ih (f + 1)
      refine ⟨by omega, by push_cast; omega, fun g hg hg' => ?_⟩
      rcases eq_or_lt_of_le (show f + 1 ≤ g from hg) with rfl | hlt
      · exact hcomplete
      · exact hall g hlt hg'
    · exact ⟨le_rfl, by push_cast; omega, fun g h h' => absurd h' (not_le.mpr h)⟩

theorem view_setPlayoutDelay {delay : ℤ} :
    { s with rtcpBuilder := s.rtcpBuilder.setPlayoutDelay delay }.view = s.view := rfl

/-- The checkpoint moves to a frame, and then a delay is resolved and feedback sent. -/
theorem advanceCheckpoint_reaches {newCheckpoint : ℤ}
    (h : s.advanceCheckpoint c now newCheckpoint = .ok t) :
    ∃ checkpoint, s.checkpointFrame < newCheckpoint ∧ newCheckpoint ≤ checkpoint ∧
      checkpoint ≤ s.latestFrameExpected ∧
      (∀ g, newCheckpoint < g → g ≤ checkpoint → s.isComplete g) ∧
      Reaches c { s.view with checkpointFrame := checkpoint } t.view := by
  unfold advanceCheckpoint at h
  simp only [require_bind_eq_ok] at h
  obtain ⟨hnew, hle, h⟩ := h
  obtain ⟨hge, hmax, hcomplete⟩ := lastCompleteFrom_spec s.toFrameQueue
    (s.latestFrameExpected - newCheckpoint).toNat newCheckpoint
  generalize lastCompleteFrom s.toFrameQueue (s.latestFrameExpected - newCheckpoint).toNat
    newCheckpoint = checkpoint at h hge hmax hcomplete
  refine ⟨checkpoint, hnew, hge, by omega, hcomplete, ?_⟩
  obtain ⟨rtcpBuilder, hbuilder, h⟩ := bind_eq_ok.mp h
  obtain ⟨⟨delay, u⟩, hresolve, hsend⟩ := bind_eq_ok.mp h
  rw [mapError_eq_ok] at hbuilder
  unfold CompoundRtcpBuilder.setCheckpointFrame at hbuilder
  rw [require_bind_eq_ok] at hbuilder
  cases hbuilder.2
  have hresolved := resolve_reaches (c := c) hresolve (Or.inl rfl)
  have hsent := sendRtcp_reaches hsend
  rw [view_setPlayoutDelay] at hsent
  exact Relation.ReflTransGen.trans hresolved hsent

/-! ### Skipping and consuming frames -/

theorem resets_refl {first : ℤ} {q : FrameQueue} : Resets first first q q.pendingFrames :=
  ⟨fun _ h h' => absurd h' (not_lt.mpr h), fun _ _ => rfl⟩

/-- The loop of `DropAllFramesBefore`. -/
theorem dropFrames_eq_ok {n : ℕ} {f : ℤ} (h : dropFrames n f s = .ok t) :
    ∃ pendingFrames, t = { s with pendingFrames } ∧
      (∀ g, f ≤ g → g < f + n → s.isCaptured g) ∧
      Resets f (f + n) s.toFrameQueue pendingFrames := by
  induction n generalizing f s with
  | zero =>
    cases h
    refine ⟨_, rfl, fun g hg hg' => absurd hg' (by push_cast; omega), ?_⟩
    simpa using resets_refl
  | succ n ih =>
    unfold dropFrames at h
    rw [require_bind_eq_ok] at h
    obtain ⟨hcaptured, h⟩ := h
    obtain ⟨pendingFrames, rfl, hall, hresets⟩ := ih h
    have hentry : ∀ g, (s.resetCollector f).getQueueEntry g =
        if slotIndex g = slotIndex f then { s.getQueueEntry g with collector := .new }
        else s.getQueueEntry g := by
      intro g
      simp only [resetCollector, setQueueEntry, FrameQueue.getQueueEntry, Function.update_apply]
      split_ifs with heq
      · rw [heq]
      · rfl
    refine ⟨pendingFrames, rfl, fun g hg hg' => ?_, fun g hg hg' => ?_, fun i hi => ?_⟩
    · rcases eq_or_lt_of_le hg with rfl | hlt
      · exact hcaptured
      · have hg := hall g hlt (by push_cast at hg'; omega)
        simp only [FrameQueue.isCaptured, hentry] at hg
        split_ifs at hg
        · exact hg
        · exact hg
    · rcases eq_or_lt_of_le hg with rfl | hlt
      · by_cases hagain : ∃ g', f + 1 ≤ g' ∧ g' < f + 1 + n ∧ slotIndex g' = slotIndex f
        · obtain ⟨g', h₁, h₂, heq⟩ := hagain
          rw [← heq, hresets.inside g' h₁ h₂, hentry, if_pos heq]
          simp only [FrameQueue.getQueueEntry, heq]
        · simp only [not_exists, not_and] at hagain
          rw [hresets.outside _ hagain]
          exact (hentry f).trans (if_pos rfl)
      · rw [hresets.inside g hlt (by push_cast at hg'; omega), hentry]
        split_ifs <;> rfl
    · rw [hresets.outside i fun g hg hg' => hi g (by omega) (by push_cast; omega)]
      have hne : i ≠ slotIndex f := fun heq => hi f le_rfl (by push_cast; omega) heq.symm
      simp only [resetCollector, setQueueEntry, Function.update_of_ne hne]

theorem dropAllFramesBefore_reaches {f : ℤ} (h : s.dropAllFramesBefore c now f = .ok t)
    (hpassed : ∀ g, s.lastFrameConsumed < g → g < f → s.view.PassedOver g)
    (hcomplete : s.isComplete f)
    (hdependency : (s.getQueueEntry f).collector.frame.dependency ≠ .dependent) :
    Reaches c s.view t.view := by
  unfold dropAllFramesBefore at h
  simp only [require_bind_eq_ok] at h
  obtain ⟨hdrop, hacked, hknown, h⟩ := h
  obtain ⟨u, hu, h⟩ := bind_eq_ok.mp h
  obtain ⟨pendingFrames, rfl, hcaptured, hresets⟩ := dropFrames_eq_ok hu
  have hrange : s.lastFrameConsumed + 1 + ((f - (s.lastFrameConsumed + 1)).toNat : ℤ) = f := by
    omega
  rw [hrange] at hcaptured hresets
  obtain ⟨checkpoint, -, hge, hle, hall, hreaches⟩ := advanceCheckpoint_reaches h
  refine Relation.ReflTransGen.head (.skip hdrop hacked hge hle (fun g hg hg' => ?_) hall
    hdependency hcomplete hresets) hreaches
  exact ⟨hcaptured g hg hg', hpassed g hg hg'⟩

/-- Every frame that the loop of `AdvanceToNextFrame` has looked at was passed over. -/
theorem advanceFrom_reaches {n : ℕ} {f : ℤ} {size : Option ℕ}
    (h : advanceFrom c now (s.lastFrameConsumed + 1) n f s = .ok (size, t))
    (hf : s.lastFrameConsumed < f) (hn : f + n ≤ s.latestFrameExpected + 1)
    (hpassed : ∀ g, s.lastFrameConsumed < g → g < f → s.isCaptured g ∧ s.view.PassedOver g) :
    Reaches c s.view t.view := by
  induction n generalizing f s with
  | zero =>
    cases h
    exact .refl
  | succ n ih =>
    unfold advanceFrom at h
    dsimp only at h
    split_ifs at h with hready himmediate
    · -- the frame is ready, and the frames before it are skipped
      obtain ⟨u, hu, h⟩ := bind_eq_ok.mp h
      obtain ⟨k, -, h⟩ := bind_eq_ok.mp h
      cases h
      exact dropAllFramesBefore_reaches hu (fun g hg hg' => (hpassed g hg hg').2) hready.1
        (hready.2.resolve_left himmediate)
    · obtain ⟨u, hu, h⟩ := bind_eq_ok.mp h
      obtain ⟨k, -, h⟩ := bind_eq_ok.mp h
      cases hu
      cases h
      exact .refl
    · cases hcapture : (s.getQueueEntry f).estimatedCaptureTime with
      | none =>
        rw [hcapture] at h
        cases h
        exact .refl
      | some captureTime =>
        rw [hcapture] at h
        obtain ⟨⟨delay, u⟩, hresolve, h⟩ := bind_eq_ok.mp h
        have hcaptured : ∀ g, s.lastFrameConsumed < g → g ≤ f → s.isCaptured g := by
          intro g hg hg'
          rcases eq_or_lt_of_le hg' with rfl | hlt
          · simp [FrameQueue.isCaptured, hcapture]
          · exact (hpassed g hg hlt).1
        have hresolved := resolve_reaches (c := c) hresolve
          (Or.inr ⟨hf, Or.inr ⟨by push_cast at hn; simp only [view]; omega, hcaptured⟩⟩)
        obtain ⟨-, rfl⟩ := resolveTargetPlayoutDelay_eq_ok hresolve
        dsimp only at h
        split_ifs at h with hdue
        · cases h
          exact hresolved
        · -- the frame is late, and the loop goes on after it
          obtain ⟨r, hr, hid, hdelay⟩ : ∃ r, s.view.resolvedEvent f delay = .resolved r ∧
              r.frameId = f ∧ r.delay = delay := ⟨_, rfl, rfl, rfl⟩
          rw [hr] at h hresolved
          have hpass : Changes c (s.emit (.resolved r)).view ((s.emit (.resolved r)).emit
              (.passedOver f captureTime delay s.playerProcessingTime now)).view :=
            .passOver hf (by push_cast at hn; simp only [view, emit]; omega) hcapture
              ⟨r, by simp [view, emit], hid, hdelay⟩ (not_lt.mp hdue)
          have hnext : Reaches c ((s.emit (.resolved r)).emit
              (.passedOver f captureTime delay s.playerProcessingTime now)).view t.view := by
            refine ih h (by simp only [emit]; omega) (by push_cast at hn; simp only [emit]; omega)
              fun g hg hg' => ?_
            rcases eq_or_lt_of_le (Int.lt_add_one_iff.mp hg') with rfl | hlt
            · refine ⟨by simp [FrameQueue.isCaptured, emit, hcapture], captureTime, delay,
                s.playerProcessingTime, now, not_lt.mp hdue, by simp [view, emit]⟩
            · obtain ⟨hcap, t', d', p', n', hle, hmem⟩ := hpassed g hg hlt
              have hmem' : ReceiverEvent.passedOver g t' d' p' n' ∈ s.events := hmem
              exact ⟨hcap, t', d', p', n', hle, by simp [view, emit, hmem']⟩
          exact hresolved.trans (.head hpass hnext)

theorem advanceToNextFrame_reaches {size : Option ℕ}
    (h : s.advanceToNextFrame c now = .ok (size, t)) : Reaches c s.view t.view := by
  by_cases hle : s.lastFrameConsumed ≤ s.latestFrameExpected
  · exact advanceFrom_reaches h (by omega) (by omega) fun g hg hg' => absurd hg (by omega)
  · have hzero : (s.latestFrameExpected - s.lastFrameConsumed).toNat = 0 := by omega
    unfold advanceToNextFrame at h
    rw [hzero] at h
    cases h
    exact .refl

theorem resets_setQueueEntry (f : ℤ) :
    Resets f (f + 1) s.toFrameQueue (s.resetCollector f).pendingFrames where
  inside g hg hg' := by
    obtain rfl : g = f := by omega
    simp [resetCollector, setQueueEntry]
  outside i hi := by
    have hne : i ≠ slotIndex f := fun heq => hi f le_rfl (by omega) heq.symm
    simp only [resetCollector, setQueueEntry, Function.update_of_ne hne]

/-- What `ConsumeNextFrame` has found when it returns a frame, and what it leaves. -/
theorem consumeNextFrame_eq_ok {bufferSize : ℕ} {frame : ConsumedFrame}
    (h : s.consumeNextFrame c now bufferSize = .ok (frame, t)) :
    s.lastFrameConsumed + 1 ≤ s.checkpointFrame ∧
      (s.getQueueEntry (s.lastFrameConsumed + 1)).collector.isComplete = true ∧
      (s.getQueueEntry (s.lastFrameConsumed + 1)).estimatedCaptureTime.isSome = true ∧
      frame.toFrameMetadata = (s.getQueueEntry (s.lastFrameConsumed + 1)).collector.frame ∧
      ∃ delay u, s.resolveTargetPlayoutDelay (s.lastFrameConsumed + 1) = .ok (delay, u) ∧
        t = ({ u.resetCollector (s.lastFrameConsumed + 1) with
          lastFrameConsumed := s.lastFrameConsumed + 1 }.emit
            (.consumed (s.lastFrameConsumed + 1) frame.dependency)).scheduleFrameReadyCheck now
              kImmediately := by
  unfold consumeNextFrame at h
  simp only [require_bind_eq_ok] at h
  obtain ⟨hacked, hcomplete, h⟩ := h
  cases hcapture : (s.getQueueEntry (s.lastFrameConsumed + 1)).estimatedCaptureTime with
  | none =>
    rw [hcapture] at h
    cases h
  | some captureTime =>
    rw [hcapture] at h
    obtain ⟨metadata, hmetadata, h⟩ := bind_eq_ok.mp h
    obtain ⟨chunks, -, h⟩ := bind_eq_ok.mp h
    rw [mapError_eq_ok, FrameCollector.peekFrameMetadata, require_bind_eq_ok] at hmetadata
    cases hmetadata.2
    cases hid : (s.getQueueEntry (s.lastFrameConsumed + 1)).collector.frame.frameId with
    | none =>
      rw [hid] at h
      cases h
    | some id =>
      rw [hid, require_bind_eq_ok] at h
      obtain ⟨⟨delay, u⟩, hresolve, h⟩ := bind_eq_ok.mp h.2
      cases h
      exact ⟨hacked, hcomplete, rfl, rfl, delay, u, hresolve, rfl⟩

theorem consumeNextFrame_reaches {bufferSize : ℕ} {frame : ConsumedFrame}
    (h : s.consumeNextFrame c now bufferSize = .ok (frame, t)) : Reaches c s.view t.view := by
  obtain ⟨hacked, hcomplete, hcapture, hframe, delay, u, hresolve, rfl⟩ := consumeNextFrame_eq_ok h
  have hresolved := resolve_reaches (c := c) hresolve
    (Or.inr ⟨by simp only [view]; omega, Or.inl hacked⟩)
  obtain ⟨-, rfl⟩ := resolveTargetPlayoutDelay_eq_ok hresolve
  generalize s.view.resolvedEvent (s.lastFrameConsumed + 1) delay = event at hresolved ⊢
  rw [show frame.dependency = _ from congrArg (·.dependency) hframe]
  exact hresolved.tail
    (.consume hacked hcomplete hcapture (resets_setQueueEntry (s := s.emit event) _))

/-! ### Receiving packets -/

theorem expectFrames_reaches {n : ℕ}
    (hn : n = 0 ∨ s.latestFrameExpected + n ≤ s.lastFrameConsumed + kMaxUnackedFrames) :
    Reaches c s.view (expectFrames n s).view := by
  induction n generalizing s with
  | zero => exact .refl
  | succ n ih =>
    replace hn := hn.resolve_left n.succ_ne_zero
    push_cast at hn
    replace hn : s.latestFrameExpected + 1 + n ≤ s.lastFrameConsumed + kMaxUnackedFrames := by
      omega
    have hnext : Changes c s.view s.expectNextFrame.view := .expect (by simp only [view]; omega)
    exact .head hnext (ih (Or.inr hn))

variable {part : ParseResult} {arrivalTime : ℤ}

theorem view_logPacketReceived : (s.logPacketReceived c arrivalTime part).view = s.view := by
  unfold logPacketReceived
  split_ifs <;> rfl

theorem view_completeFrame {frameId : ℤ} {dependency : Dependency} :
    (s.completeFrame frameId dependency).view =
      s.view.emit (.completed frameId s.checkpointFrame) := by
  unfold completeFrame
  split_ifs <;> rfl

theorem view_appendFrameAck {ack : ℤ} :
    { s with pendingFrameAcks := s.pendingFrameAcks ++ [ack] }.view =
      { s.view with pendingFrameAcks := s.view.pendingFrameAcks ++ [ack] } := rfl

/-- The checkpoint moves to the first frame after it. -/
theorem advanceCheckpoint_succ_reaches
    (h : s.advanceCheckpoint c now (s.checkpointFrame + 1) = .ok t)
    (hcomplete : s.isComplete (s.checkpointFrame + 1)) : Reaches c s.view t.view := by
  obtain ⟨checkpoint, hlt, hge, hle, hall, hreaches⟩ := advanceCheckpoint_reaches h
  refine .head (.moveCheckpoint (lt_of_lt_of_le hlt hge) hle fun g hg hg' => ?_) hreaches
  rcases eq_or_lt_of_le (show s.checkpointFrame + 1 ≤ g from hg) with rfl | hlt
  · exact hcomplete
  · exact hall g hlt hg'

/-- Once the packet is collected, its frame may be complete, and the checkpoint may move. -/
theorem finishPacket_reaches
    (h : s.finishPacket c now arrivalTime part = .ok t) (hnew : s.checkpointFrame < part.frameId) :
    Reaches c s.view t.view := by
  have hview : (s.logPacketReceived c arrivalTime part).view = s.view := view_logPacketReceived
  unfold finishPacket at h
  rw [← hview]
  replace hnew : (s.logPacketReceived c arrivalTime part).view.checkpointFrame < part.frameId := by
    rw [hview]
    exact hnew
  generalize s.logPacketReceived c arrivalTime part = u at h hnew
  dsimp only at h
  split_ifs at h with hincomplete
  · cases h
    exact .refl
  have hcomplete : u.isComplete part.frameId := by
    simpa [FrameQueue.isComplete] using hincomplete
  obtain ⟨metadata, -, h⟩ := bind_eq_ok.mp h
  have hdone : (u.completeFrame part.frameId metadata.dependency).view =
    u.view.emit (.completed part.frameId u.checkpointFrame) := view_completeFrame
  generalize u.completeFrame part.frameId metadata.dependency = w at h hdone
  have hcheckpoint : w.checkpointFrame = u.checkpointFrame := congrArg (·.checkpointFrame) hdone
  obtain ⟨x, hx, h⟩ := bind_eq_ok.mp h
  cases h
  have hchange := Changes.complete (c := c) part.rtpTimestamp hnew hcomplete
  split_ifs at hx with hnext
  · -- the checkpoint moves to this frame at least
    rw [hnext] at hx
    have hnext' : part.frameId = u.view.checkpointFrame + 1 :=
      hnext.trans (by rw [hcheckpoint]; rfl)
    rw [if_pos hnext'] at hchange
    have hmoved := advanceCheckpoint_succ_reaches hx (by
      have hqueue : w.toFrameQueue = u.toFrameQueue := congrArg (·.toFrameQueue) hdone
      change w.isComplete (w.checkpointFrame + 1) = true
      rw [← hnext, hqueue]
      exact hcomplete)
    rw [view_appendFrameAck, hdone] at hmoved
    exact .head hchange hmoved
  · cases hx
    have hnext' : part.frameId ≠ u.view.checkpointFrame + 1 := fun heq =>
      hnext (heq.trans (by rw [hcheckpoint]; rfl))
    rw [if_neg hnext', List.append_nil] at hchange
    refine .single ?_
    change Changes c u.view w.view
    rw [hdone]
    exact hchange

/-- The change of the playout delay is not too old, since the frame is after the checkpoint. -/
theorem exists_processFirstPacket (hnew : s.checkpointFrame < part.frameId)
    (c : ReceiverConfig) (now offset : ℤ) (report : SenderReportParser.SenderReportWithId) :
    ∃ t, s.processFirstPacket c now part report offset = .ok t := by
  unfold processFirstPacket recordNewTargetPlayoutDelay
  dsimp only
  split_ifs
  · rw [require_of (by exact hnew)]
    exact ⟨_, rfl⟩
  · exact ⟨_, rfl⟩

/-- Processing the timing of packet 0 sets the capture time and may add a delay. -/
theorem processFirstPacket_view {offset : ℤ} {report : SenderReportParser.SenderReportWithId}
    (h : s.processFirstPacket c now part report offset = .ok t) :
    ∃ captureTime, t.view = { s.view.setQueueEntry part.frameId
        { s.getQueueEntry part.frameId with estimatedCaptureTime := some captureTime } with
      playoutDelayChanges := s.view.delayChangesWith part
      events := s.events ++
        [.firstPacket part.frameId part.newPlayoutDelay captureTime] } := by
  unfold processFirstPacket at h
  obtain ⟨u, hu, h⟩ := bind_eq_ok.mp h
  cases h
  refine ⟨report.referenceTime + offset +
    c.rtpTimebase.toDuration (part.rtpTimestamp - report.rtpTimestamp), ?_⟩
  split_ifs at hu with hdelay
  · unfold recordNewTargetPlayoutDelay at hu
    rw [require_bind_eq_ok] at hu
    cases hu.2
    rw [delayChangesWith, if_pos hdelay]
    rfl
  · cases hu
    rw [delayChangesWith, if_neg hdelay]
    rfl

theorem hasOffset_eq_false (h : s.smoothedClockOffset.current c = none) :
    s.view.hasOffset = false := by
  unfold ClockDriftSmoother.current at h
  split_ifs at h with hempty
  simpa [view] using hempty

/-- The packet is in the collector of its frame. -/
abbrev collected (s : Receiver) (part : ParseResult) (collector : FrameCollector) : Receiver :=
  (s.setQueueEntry part.frameId { s.getQueueEntry part.frameId with collector }).emit
    (collectedEvent part)

/-- The packet is in the collector of its frame, whose RTP timestamp is known. -/
abbrev stamped (s : Receiver) (part : ParseResult) (collector : FrameCollector) : Receiver :=
  (s.setQueueEntry part.frameId { s.getQueueEntry part.frameId with
    collector
    rtpTimestamp := some part.rtpTimestamp }).emit (collectedEvent part)

/-- What follows once the packet is in the collector: its timing is processed, unless the clock
offset is not known, and then its frame may be complete. -/
theorem onCollected_cases {collector : FrameCollector}
    (c : ReceiverConfig) (now arrivalTime : ℤ) (hs : s.view.Collectable part)
    (hcollect : (s.getQueueEntry part.frameId).collector.collectRtpPacket part =
      .ok (true, collector))
    (hpart : ¬(s.lastSenderReport = none ∧ part.packetId = 0)) :
    (∃ (w : Receiver) (entry : PendingFrame),
      (s.collected part collector).onCollected c now arrivalTime part =
        w.finishPacket c now arrivalTime part ∧ Changes c s.view w.view ∧
      w.toFrameQueue = (s.setQueueEntry part.frameId entry).toFrameQueue ∧
      w.checkpointFrame = s.checkpointFrame) ∨
    s.view.hasReport = true ∧ s.view.hasOffset = false ∧
      ∃ t, (s.collected part collector).onCollected c now arrivalTime part = .ok t ∧
        Changes c s.view t.view := by
  have hreport : part.packetId = 0 → s.view.hasReport = true := by
    intro hzero
    simp only [hzero, and_true] at hpart
    exact Option.isSome_iff_ne_none.mpr hpart
  have hentry : (s.collected part collector).getQueueEntry part.frameId =
      { s.getQueueEntry part.frameId with collector } := by
    simp [setQueueEntry, emit, FrameQueue.getQueueEntry]
  unfold onCollected
  dsimp only
  rw [hentry]
  by_cases hfirst : part.packetId = 0 ∧
    (s.getQueueEntry part.frameId).estimatedCaptureTime = none
  · -- packet 0, whose timing is processed if the clock offset is known
    rw [if_pos hfirst]
    have hupdate : (s.collected part collector).setQueueEntry part.frameId
        { s.getQueueEntry part.frameId with
          collector
          rtpTimestamp := some part.rtpTimestamp } = s.stamped part collector := by
      simp [setQueueEntry, emit]
    dsimp only at hupdate
    rw [hupdate]
    cases hoffset : s.smoothedClockOffset.current c with
    | none =>
      have hchange := Changes.collectUntimed (c := c) hs hcollect (hreport hfirst.1)
        (hasOffset_eq_false hoffset)
      refine .inr ⟨hreport hfirst.1, hasOffset_eq_false hoffset, s.stamped part collector, ?_,
        hchange⟩
      simp only [setQueueEntry, emit, hoffset]
    | some offset =>
      obtain ⟨report, hlast⟩ := Option.isSome_iff_exists.mp (hreport hfirst.1)
      generalize hw : s.stamped part collector = w
      have hoffset' : w.smoothedClockOffset.current c = some offset := by rw [← hw]; exact hoffset
      have hlast' : w.lastSenderReport = some report := by rw [← hw]; exact hlast
      have hnew : w.checkpointFrame < part.frameId := by rw [← hw]; exact hs.checkpoint_lt
      obtain ⟨u, hu⟩ := exists_processFirstPacket hnew c now offset report
      obtain ⟨captureTime, hview⟩ := processFirstPacket_view hu
      rw [hoffset', hlast']
      have hchange := Changes.collectFirst (c := c) captureTime hs hcollect hfirst.1
        (Option.isSome_eq_false_iff.mpr (Option.isNone_iff_eq_none.mpr hfirst.2))
      have hcheckpoint : u.checkpointFrame = s.checkpointFrame :=
        (congrArg (·.checkpointFrame) hview).trans (by rw [← hw]; rfl)
      refine .inl ⟨u, ⟨collector, some captureTime, some part.rtpTimestamp⟩, ?_, ?_, ?_,
        hcheckpoint⟩
      · dsimp only
        rw [hu]
        rfl
      · rw [hview]
        convert hchange using 1
        simp [← hw, view, setQueueEntry, ReceiverView.setQueueEntry, emit, checkpointFrame,
          FrameQueue.getQueueEntry, delayChangesWith]
      · refine (congrArg (·.toFrameQueue) hview).trans ?_
        simp [← hw, view, setQueueEntry, ReceiverView.setQueueEntry, emit,
          FrameQueue.getQueueEntry]
  · rw [if_neg hfirst]
    refine .inl ⟨_, _, rfl, Changes.collect (c := c) hs hcollect fun hzero => ?_, rfl, rfl⟩
    simp only [hzero, true_and] at hfirst
    exact Option.isSome_iff_ne_none.mpr hfirst

/-- A packet of a known frame after the checkpoint. -/
theorem collectPart_reaches
    (h : s.collectPart c now arrivalTime part = .ok t) (hnew : s.checkpointFrame < part.frameId)
    (hle : part.frameId ≤ s.latestFrameExpected)
    (hpart : part.packetId.toNat ≤ part.maxPacketId.toNat ∧
      part.maxPacketId.toNat < kAllPacketsLost) : Reaches c s.view t.view := by
  unfold collectPart at h
  split_ifs at h with hreport
  · cases h
    exact .refl
  dsimp only at h
  split_ifs at h with hcomplete
  · cases h
    exact .refl
  have hs : s.view.Collectable part :=
    ⟨hnew, hle, Bool.eq_false_iff.mpr hcomplete, hpart.1, hpart.2⟩
  obtain ⟨⟨accepted, collector⟩, hcollect, h⟩ := bind_eq_ok.mp h
  rw [mapError_eq_ok] at hcollect
  cases accepted with
  | false =>
    cases h
    exact .single (.reject hs hcollect)
  | true =>
    replace h : (s.collected part collector).onCollected c now arrivalTime part = .ok t := h
    rcases onCollected_cases c now arrivalTime hs hcollect hreport
      with ⟨w, entry, heq, hchange, -, hcheckpoint⟩ | ⟨-, -, u, heq, hchange⟩
    · rw [heq] at h
      exact .head hchange (finishPacket_reaches h (hcheckpoint ▸ hnew))
    · rw [heq] at h
      cases h
      exact .single hchange

theorem expectFrames_eq (n : ℕ) (s : Receiver) :
    (expectFrames n s).checkpointFrame = s.checkpointFrame ∧
      (expectFrames n s).latestFrameExpected = s.latestFrameExpected + n := by
  induction n generalizing s with
  | zero => simp [expectFrames]
  | succ n ih =>
    obtain ⟨hcheckpoint, hlatest⟩ := ih s.expectNextFrame
    refine ⟨hcheckpoint, hlatest.trans ?_⟩
    simp only [expectNextFrame, setQueueEntry]
    push_cast
    omega

theorem onReceivedRtpPacket_reaches (h : s.onReceivedRtpPacket c now arrivalTime packet = .ok t) :
    Reaches c s.view t.view := by
  unfold onReceivedRtpPacket at h
  obtain ⟨⟨part, rtpParser⟩, hparse, h⟩ := bind_eq_ok.mp h
  rw [mapError_eq_ok] at hparse
  cases part with
  | none =>
    cases h
    exact .refl
  | some part =>
    dsimp only at h
    split_ifs at h with hold hfar
    · cases h
      exact .refl
    · cases h
      exact .refl
    generalize hw : { s with
      rtpParser
      statsTracker := s.statsTracker.onReceivedValidRtpPacket c.rtpTimebase part.sequenceNumber
        part.rtpTimestamp arrivalTime } = w at h
    have hview : w.view = s.view := by rw [← hw]; rfl
    have hcheckpoint : w.checkpointFrame = s.checkpointFrame := congrArg (·.checkpointFrame) hview
    have hlatest : w.latestFrameExpected = s.latestFrameExpected :=
      congrArg (·.latestFrameExpected) hview
    have hconsumed : w.lastFrameConsumed = s.lastFrameConsumed :=
      congrArg (·.lastFrameConsumed) hview
    replace hold : ¬part.frameId ≤ s.checkpointFrame := hold
    obtain ⟨hcheckpoint', hlatest'⟩ :=
      expectFrames_eq (part.frameId - s.latestFrameExpected).toNat w
    have hexpect := expectFrames_reaches (c := c) (s := w)
      (n := (part.frameId - s.latestFrameExpected).toNat) (by omega)
    rw [hview] at hexpect
    exact hexpect.trans (collectPart_reaches h (by omega) (by omega)
      (RtpPacketParser.packetId_le_of_parse hparse))

theorem onReceivedRtcpPacket_reaches
    (h : s.onReceivedRtcpPacket c now arrivalTime packet = .ok t) : Reaches c s.view t.view := by
  unfold onReceivedRtcpPacket at h
  obtain ⟨⟨report, rtcpParser⟩, -, h⟩ := bind_eq_ok.mp h
  cases report with
  | none =>
    cases h
    exact .refl
  | some report =>
    obtain ⟨smoothedClockOffset, hupdate, h⟩ := bind_eq_ok.mp h
    unfold ClockDriftSmoother.update at hupdate
    simp only [require_bind_eq_ok] at hupdate
    cases hupdate.2.2
    refine .head ?_ (sendRtcp_reaches h)
    convert Changes.report (c := c) (v := s.view) using 1
    simp [view, checkpointFrame, CompoundRtcpBuilder.includeReceiverReportInNextPacket]

/-! ### The other calls -/

theorem view_setPictureLossIndicator {pictureIsLost : Bool} :
    { s with rtcpBuilder := s.rtcpBuilder.setPictureLossIndicator pictureIsLost }.view = s.view :=
  rfl

theorem onConsumptionAlarm_reaches (h : s.onConsumptionAlarm c now = .ok t) :
    Reaches c s.view t.view := by
  unfold onConsumptionAlarm at h
  dsimp only at h
  split_ifs at h
  · obtain ⟨⟨size, u⟩, hadvance, h⟩ := bind_eq_ok.mp h
    have hreaches := advanceToNextFrame_reaches (s := { s with consumptionAlarm := none }) hadvance
    cases size with
    | none =>
      cases h
      exact hreaches
    | some size =>
      cases h
      exact hreaches.tail (.framesReady size)
  · cases h
    exact .refl
  · cases h
    exact .refl

/-- **A call changes the view by changes only.** -/
theorem Step.reaches {a : ℤ × ReceiverOp × ReceiverOutput} (h : Step c s a t) :
    Reaches c s.view t.view := by
  obtain ⟨now, op, out⟩ := a
  unfold Step step at h
  cases op with
  | setConsumer hasConsumer =>
    cases h
    exact .refl
  | setPlayerProcessingTime neededTime =>
    cases h
    exact .refl
  | reportPlayoutEvent frameId rtpTimestamp playoutTime =>
    obtain ⟨⟨error, u⟩, hreport, h⟩ := bind_eq_ok.mp h
    cases h
    unfold reportPlayoutEvent at hreport
    split_ifs at hreport
    · cases hreport
      exact .refl
    · cases hreport
      exact .refl
    · cases hcapture : (s.getQueueEntry frameId).estimatedCaptureTime with
      | none =>
        rw [hcapture] at hreport
        cases hreport
      | some captureTime =>
        rw [hcapture] at hreport
        cases hreport
        exact .refl
  | requestKeyFrame =>
    obtain ⟨u, hrequest, h⟩ := bind_eq_ok.mp h
    cases h
    unfold requestKeyFrame at hrequest
    split_ifs at hrequest
    · have hreaches := sendRtcp_reaches hrequest
      rw [view_setPictureLossIndicator] at hreaches
      exact hreaches
    · cases hrequest
      exact .refl
  | advanceToNextFrame =>
    obtain ⟨⟨size, u⟩, hadvance, h⟩ := bind_eq_ok.mp h
    cases h
    exact advanceToNextFrame_reaches hadvance
  | consumeNextFrame bufferSize =>
    obtain ⟨⟨frame, u⟩, hconsume, h⟩ := bind_eq_ok.mp h
    cases h
    exact consumeNextFrame_reaches hconsume
  | onReceivedRtpPacket arrivalTime packet =>
    obtain ⟨u, hreceive, h⟩ := bind_eq_ok.mp h
    cases h
    exact onReceivedRtpPacket_reaches hreceive
  | onReceivedRtcpPacket arrivalTime packet =>
    obtain ⟨u, hreceive, h⟩ := bind_eq_ok.mp h
    cases h
    exact onReceivedRtcpPacket_reaches hreceive
  | onRtcpAlarm =>
    obtain ⟨u, halarm, h⟩ := bind_eq_ok.mp h
    cases h
    unfold onRtcpAlarm at halarm
    split_ifs at halarm
    · exact sendRtcp_reaches (s := { s with rtcpAlarm := none }) halarm
    · cases halarm
      exact .refl
  | onConsumptionAlarm =>
    obtain ⟨u, halarm, h⟩ := bind_eq_ok.mp h
    cases h
    exact onConsumptionAlarm_reaches halarm

/-- So do all calls of a run. -/
theorem reaches_of_run {as : List (ℤ × ReceiverOp × ReceiverOutput)} (h : Run (Step c) s as t) :
    Reaches c s.view t.view := by
  induction h with
  | nil => exact .refl
  | snoc _ hstep ih => exact ih.trans hstep.reaches

end Receiver

end StreamerPlus
