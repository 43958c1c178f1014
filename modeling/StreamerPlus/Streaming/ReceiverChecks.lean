import StreamerPlus.Streaming.ReceiverHistory

/-!
# The checks of a receiver

The queue of a receiver is what its functions rely on: the frames up to the checkpoint are complete
and have capture times, the one after it is not complete, and each frame between the last consumed
and the latest one owns its slot of the ring. So the checks of `ConsumeNextFrame`,
`AdvanceCheckpoint`, `DropAllFramesBefore`, `RecordNewTargetPlayoutDelay` and
`ResolveTargetPlayoutDelay` hold, if a frame is consumed only right after `AdvanceToNextFrame` has
returned its size. The checks of the parsers, of the RTCP builder, of the decryption and of the
clock smoother are not among them.

That the frame after the checkpoint is not complete does not hold in the middle of a call, so it is
carried along the functions (`Settled`), and the other parts come from the changes of a run.

## Main results

* `outcome_advanceFrom`, `outcome_consumeNextFrame`, `outcome_onReceivedRtpPacket`: the checks of a
  call hold, and the frame after the checkpoint is not complete when it returns.
* `queue_of_run`: the invariant of the queue, and what follows from it in every run.
-/

namespace StreamerPlus

open Checked TransitionSystem

/-- The checks that rest on the state of the queue. -/
def ReceiverFault.isOfQueue : ReceiverFault → Bool
  | .nothingToConsume | .incompleteFrame | .captureTimeUnknown | .nullFrameId | .noSenderReport
  | .delayChangeTooOld | .frameTooOld | .delayUnknown | .checkpointNotNew
  | .checkpointNotExpected | .nothingToDrop | .keptFrameAcked | .keptFrameUnknown => true
  | _ => false

/-- Another check failed. -/
def ReceiverFault.IsOther (e : ReceiverFault) : Prop := e.isOfQueue = false

/-- The call is one of `ConsumeNextFrame`. -/
def ReceiverOp.isConsume : ReceiverOp → Bool
  | .consumeNextFrame _ => true
  | _ => false

/-- The call is one of `ReportPlayoutEvent`. -/
def ReceiverOp.isReport : ReceiverOp → Bool
  | .reportPlayoutEvent .. => true
  | _ => false

/-- `AdvanceToNextFrame` returned a size. -/
def ReceiverOutput.isSize : ReceiverOutput → Bool
  | .nextFrameSize (some _) => true
  | _ => false

namespace ReceiverView

variable {c : ReceiverConfig} {v : ReceiverView}

/-- Events that are no arrivals do not touch the invariant. -/
theorem Invariant.emit (h : v.Invariant c) {e : ReceiverEvent} (he : e.isArrival = false) :
    (v.emit e).Invariant c := by
  have hquiet : v.QueueChange (v.emit e) := .quiet [e] rfl rfl rfl rfl (by simpa using he)
  exact ⟨h.ring.step hquiet, h.packets.step h.ring hquiet, h.captures.step h.ring h.packets hquiet,
    h.delays.step h.ring h.captures hquiet, h.offset⟩

/-- There is a delay for every frame from the last consumed one on. -/
theorem Delays.exists_inForce (h : v.Delays c) {f : ℤ} (hf : v.lastFrameConsumed ≤ f)
    (hleader : FrameId.leader ≤ f) :
    ∃ e, ChangeLog.inForce v.playoutDelayChanges f = some e := by
  obtain ⟨e, he, hle⟩ : ∃ e ∈ v.playoutDelayChanges, e.1 ≤ f := by
    by_cases hmem : (FrameId.leader, c.targetPlayoutDelay) ∈ v.playoutDelayChanges
    · exact ⟨_, hmem, hleader⟩
    · obtain ⟨e, he, -, hle⟩ := h.replaced _ (Set.mem_insert _ _) hmem
      exact ⟨e, he, hle.trans hf⟩
  refine Option.isSome_iff_exists.mp (List.find?_isSome.mpr ⟨e, List.mem_reverse.mpr he, ?_⟩)
  exact decide_eq_true hle

end ReceiverView

namespace Receiver

open ReceiverView
open ReceiverFault (IsOther)

variable {c : ReceiverConfig} {now : ℤ} {s t : Receiver} {f : ℤ}

/-- The frame after the checkpoint is not complete. -/
def Settled (s : Receiver) : Prop :=
  s.checkpointFrame < s.latestFrameExpected → s.isComplete (s.checkpointFrame + 1) = false

/-- The frame after the last consumed one can be consumed. -/
def Ready (s : Receiver) : Prop := s.lastFrameConsumed + 1 ≤ s.checkpointFrame

theorem Settled.congr (h : s.Settled) (hqueue : t.toFrameQueue = s.toFrameQueue)
    (hcheckpoint : t.checkpointFrame = s.checkpointFrame) : t.Settled := by
  unfold Settled
  rw [hqueue, hcheckpoint]
  exact h

/-- The entry of the frame after the checkpoint is not that of another frame of the window. -/
theorem getQueueEntry_checkpoint_succ (hs : s.view.Invariant c) (hf : s.lastFrameConsumed < f)
    (hf' : f ≤ s.lastFrameConsumed + 120) (hle : s.checkpointFrame + 1 ≤ s.lastFrameConsumed + 120)
    (hne : s.checkpointFrame + 1 ≠ f) (entry : PendingFrame) :
    (s.setQueueEntry f entry).getQueueEntry (s.checkpointFrame + 1) =
      s.getQueueEntry (s.checkpointFrame + 1) :=
  hs.ring.getQueueEntry_setQueueEntry hf hf' (Int.lt_add_one_iff.mpr hs.ring.consumed_le) hle hne

/-! ### The checkpoint -/

theorem outcome_collector {α : Type} {x : Except FrameCollector.Fault α} :
    Outcome (fun a => x = .ok a) IsOther (x.mapError .collector) :=
  outcome_mapError fun _ => rfl

theorem outcome_rtcp {α : Type} {x : Except RtcpFault α} :
    Outcome (fun a => x = .ok a) IsOther (x.mapError .rtcp) :=
  outcome_mapError fun _ => rfl

theorem outcome_span {α : Type} {x : Except SpanFault α} :
    Outcome (fun a => x = .ok a) IsOther (x.mapError .span) :=
  outcome_mapError fun _ => rfl

theorem outcome_sendRtcp :
    Outcome (fun t => t.toFrameQueue = s.toFrameQueue ∧ t.checkpointFrame = s.checkpointFrame)
      IsOther (s.sendRtcp c now) := by
  have hchecks : Outcome (fun _ => True) IsOther (s.sendRtcp c now) := by
    have hfeedback : Outcome (fun _ => True) IsOther (s.collectFeedback c) := by
      refine Outcome.foldlM trivial fun feedback f _ _ => ?_
      unfold examineFrame
      dsimp only
      split
      · trivial
      · refine outcome_collector.bind fun missing _ => ?_
        trivial
    unfold sendRtcp
    refine hfeedback.bind fun feedback _ => ?_
    refine outcome_rtcp.bind fun built _ => ?_
    trivial
  cases h : s.sendRtcp c now with
  | ok t =>
    obtain ⟨feedback, packet, -, hview⟩ := sendRtcp_view h
    exact ⟨congrArg (·.toFrameQueue) hview, congrArg (·.checkpointFrame) hview⟩
  | error e => exact hchecks.of_error h

/-- A delay can be resolved for every frame after the last consumed one. -/
theorem exists_resolve (hdelays : s.view.Delays c) (hlast : s.lastFrameConsumed ≤ f)
    (hf : 0 ≤ f) :
    ∃ delay, s.resolveTargetPlayoutDelay f =
      .ok (delay, s.emit (s.view.resolvedEvent f delay)) := by
  have hfirst : FrameQueue.firstPossible s.lastFrameConsumed ≤ f := by
    unfold FrameQueue.firstPossible
    simp only [FrameId.first, kMaxUnackedFrames]
    split_ifs <;> omega
  obtain ⟨⟨key, delay⟩, hforce⟩ := hdelays.exists_inForce hlast
    (show FrameId.leader ≤ f by simp only [FrameId.leader]; omega)
  replace hforce : ChangeLog.inForce s.playoutDelayChanges f = some (key, delay) := hforce
  refine ⟨delay, ?_⟩
  unfold resolveTargetPlayoutDelay
  dsimp only
  rw [require_of hfirst]
  simp only [ok_bind, hforce]
  rfl

/-- The loop of `AdvanceCheckpoint` stops at a frame that is not complete, or at the last one. -/
theorem lastCompleteFrom_max (q : FrameQueue) (n : ℕ) (f : ℤ) :
    lastCompleteFrom q n f = f + n ∨ q.isComplete (lastCompleteFrom q n f + 1) = false := by
  induction n generalizing f with
  | zero => exact .inl (by simp [lastCompleteFrom])
  | succ n ih =>
    unfold lastCompleteFrom
    split_ifs with hcomplete
    · refine (ih (f + 1)).imp_left fun h => ?_
      rw [h]
      push_cast
      ring
    · exact .inr (Bool.eq_false_iff.mpr hcomplete)

theorem outcome_advanceCheckpoint (hdelays : s.view.Delays c) (hnew : s.checkpointFrame < f)
    (hle : f ≤ s.latestFrameExpected) (hlast : s.lastFrameConsumed ≤ f) (hf : 0 ≤ f) :
    Outcome (fun t => t.Settled ∧ f ≤ t.checkpointFrame ∧
        t.lastFrameConsumed = s.lastFrameConsumed) IsOther (s.advanceCheckpoint c now f) := by
  unfold advanceCheckpoint
  rw [require_of hnew, require_of hle]
  simp only [ok_bind]
  obtain ⟨hge, -, -⟩ := lastCompleteFrom_spec s.toFrameQueue
    (s.latestFrameExpected - f).toNat f
  have hmax := lastCompleteFrom_max s.toFrameQueue (s.latestFrameExpected - f).toNat f
  generalize lastCompleteFrom s.toFrameQueue (s.latestFrameExpected - f).toNat f = checkpoint
    at hge hmax ⊢
  refine outcome_rtcp.bind fun rtcpBuilder hbuilder => ?_
  unfold CompoundRtcpBuilder.setCheckpointFrame at hbuilder
  rw [require_bind_eq_ok] at hbuilder
  cases hbuilder.2
  obtain ⟨delay, hresolve⟩ := exists_resolve (c := c) (s := { s with
    rtcpBuilder := { s.rtcpBuilder with checkpointFrameId := checkpoint } }) hdelays
    (hlast.trans hge) (hf.trans hge)
  rw [hresolve, ok_bind]
  refine outcome_sendRtcp.mono (fun t ht => ?_) fun _ => id
  obtain ⟨hqueue, hcheckpoint⟩ := ht
  replace hqueue : t.toFrameQueue = s.toFrameQueue := hqueue
  replace hcheckpoint : t.checkpointFrame = checkpoint := hcheckpoint
  refine ⟨fun hlt => ?_, hcheckpoint ▸ hge, congrArg (·.lastFrameConsumed) hqueue⟩
  rw [hqueue, hcheckpoint] at hlt ⊢
  exact hmax.resolve_left (by omega)

/-! ### Skipping and consuming frames -/

theorem isCaptured_resetCollector (g : ℤ) : (s.resetCollector f).isCaptured g = s.isCaptured g := by
  simp only [FrameQueue.isCaptured, FrameQueue.getQueueEntry, resetCollector, setQueueEntry,
    Function.update_apply]
  split_ifs with heq
  · rw [heq]
  · rfl

theorem exists_dropFrames {n : ℕ} (h : ∀ g, f ≤ g → g < f + n → s.isCaptured g) :
    ∃ t, dropFrames n f s = .ok t := by
  induction n generalizing f s with
  | zero => exact ⟨s, rfl⟩
  | succ n ih =>
    unfold dropFrames
    rw [require_of (h f le_rfl (by push_cast; omega))]
    refine ih fun g hg hg' => ?_
    rw [isCaptured_resetCollector]
    exact h g (by omega) (by push_cast; omega)

theorem outcome_dropAllFramesBefore (hs : s.view.Invariant c) (hdrop : s.lastFrameConsumed + 1 < f)
    (hacked : s.checkpointFrame < f) (hle : f ≤ s.latestFrameExpected)
    (hcaptured : ∀ g, s.lastFrameConsumed < g → g < f → s.isCaptured g) :
    Outcome (fun t => t.Settled ∧ t.Ready) IsOther (s.dropAllFramesBefore c now f) := by
  have hleader : -1 ≤ s.lastFrameConsumed := hs.ring.leader_le
  obtain ⟨u, hu⟩ := exists_dropFrames (s := s) (f := s.lastFrameConsumed + 1)
    (n := (f - (s.lastFrameConsumed + 1)).toNat) fun g hg hg' => hcaptured g hg (by omega)
  unfold dropAllFramesBefore
  simp only [require_of hdrop, require_of hacked, require_of hle, ok_bind, hu]
  obtain ⟨pendingFrames, rfl, -, -⟩ := dropFrames_eq_ok hu
  have hdelays : ChangeLog.Records (delayChanges c (s.events ++ [.skippedTo f])) (f - 1)
      s.playoutDelayChanges := by
    rw [delayChanges_append_of_quiet (by simp [ReceiverEvent.isArrival])]
    exact ChangeLog.Records.mono hs.delays (by simp only [view]; omega)
  refine Outcome.mono (outcome_advanceCheckpoint ?_ hacked hle ?_ ?_) (fun t ht => ⟨ht.1, ?_⟩)
    fun _ => id
  · exact hdelays
  · simp only [emit]
    omega
  · omega
  · have hlast : t.lastFrameConsumed = f - 1 := ht.2.2
    have hge := ht.2.1
    unfold Ready
    omega

/-- The loop of `AdvanceToNextFrame`, of which the first frame is not complete. -/
theorem outcome_advanceFrom {n : ℕ} (hs : s.view.Invariant c) (hsettled : s.Settled)
    (hf : s.lastFrameConsumed < f) (hn : f + n ≤ s.latestFrameExpected + 1)
    (hcaptured : ∀ g, s.lastFrameConsumed < g → g < f → s.isCaptured g)
    (hfirst : f ≠ s.lastFrameConsumed + 1 → s.isComplete (s.lastFrameConsumed + 1) = false) :
    Outcome (fun r => r.2.Settled ∧ (r.1.isSome → r.2.Ready)) IsOther
      (advanceFrom c now (s.lastFrameConsumed + 1) n f s) := by
  induction n generalizing f s with
  | zero => exact ⟨hsettled, by simp⟩
  | succ n ih =>
    push_cast at hn
    have hleader : -1 ≤ s.lastFrameConsumed := hs.ring.leader_le
    have hconsumed : s.lastFrameConsumed ≤ s.checkpointFrame := hs.ring.consumed_le
    unfold advanceFrom
    dsimp only
    split_ifs with hready himmediate
    · -- the frame is after the checkpoint, since the immediate next one is not complete
      have hincomplete := hfirst himmediate
      have hacked : s.checkpointFrame < f := by
        by_contra hle
        have hcomplete : s.isComplete (s.lastFrameConsumed + 1) :=
          hs.ring.complete _ (lt_add_one s.lastFrameConsumed)
            (show s.lastFrameConsumed + 1 ≤ s.checkpointFrame by omega)
        rw [hincomplete] at hcomplete
        cases hcomplete
      refine (outcome_dropAllFramesBefore hs (by omega) hacked (by omega) hcaptured).bind
        fun u hu => outcome_collector.bind fun size _ => ?_
      exact ⟨hu.1, fun _ => hu.2⟩
    · refine outcome_collector.bind fun size _ => ⟨hsettled, fun _ => ?_⟩
      rw [not_not] at himmediate
      change s.lastFrameConsumed + 1 ≤ s.checkpointFrame
      by_contra hnot
      have heq : s.checkpointFrame = s.lastFrameConsumed := by omega
      have hincomplete := hsettled (by omega)
      rw [heq, ← himmediate] at hincomplete
      rw [FrameQueue.isComplete, hready.1] at hincomplete
      cases hincomplete
    · cases hcapture : (s.getQueueEntry f).estimatedCaptureTime with
      | none => exact ⟨hsettled, by simp⟩
      | some captureTime =>
        obtain ⟨delay, hresolve⟩ := exists_resolve (c := c) hs.delays hf.le (by omega)
        simp only [hresolve, ok_bind]
        split_ifs with hdue
        · exact ⟨hsettled.congr rfl rfl, by simp⟩
        · -- the frame is late, and the loop goes on after it
          refine ih (s := (s.emit (s.view.resolvedEvent f delay)).emit _)
            ((hs.emit rfl).emit rfl) (hsettled.congr rfl rfl) (by simp only [emit]; omega)
            (by simp only [emit]; omega) (fun g hg hg' => ?_) fun _ => ?_
          · rcases eq_or_lt_of_le (Int.lt_add_one_iff.mp hg') with rfl | hlt
            · simp only [FrameQueue.isCaptured, emit]
              exact Option.isSome_iff_exists.mpr ⟨captureTime, hcapture⟩
            · exact hcaptured g hg hlt
          · by_cases himmediate : f = s.lastFrameConsumed + 1
            · rw [not_and_or] at hready
              have hincomplete := hready.resolve_right (not_not.mpr (.inl himmediate))
              rw [himmediate] at hincomplete
              exact Bool.eq_false_iff.mpr hincomplete
            · exact hfirst himmediate

theorem outcome_advanceToNextFrame (hs : s.view.Invariant c) (hsettled : s.Settled) :
    Outcome (fun r => r.2.Settled ∧ (r.1.isSome → r.2.Ready)) IsOther
      (s.advanceToNextFrame c now) := by
  have hconsumed : s.lastFrameConsumed ≤ s.checkpointFrame := hs.ring.consumed_le
  have hcheckpoint : s.checkpointFrame ≤ s.latestFrameExpected := hs.ring.checkpoint_le
  exact outcome_advanceFrom hs hsettled (lt_add_one _) (by omega)
    (fun g hg hg' => absurd hg (by omega)) fun hne => absurd rfl hne

theorem outcome_consumeNextFrame {bufferSize : ℕ} (hs : s.view.Invariant c) (hsettled : s.Settled)
    (hready : s.Ready) :
    Outcome (fun r => r.2.Settled) IsOther (s.consumeNextFrame c now bufferSize) := by
  have hleader : -1 ≤ s.lastFrameConsumed := hs.ring.leader_le
  have hcheckpoint : s.checkpointFrame ≤ s.latestFrameExpected := hs.ring.checkpoint_le
  have hlatest : s.latestFrameExpected ≤ s.lastFrameConsumed + 120 := hs.ring.latest_le
  have hlt := lt_add_one s.lastFrameConsumed
  unfold Ready at hready
  have hcomplete : s.isComplete (s.lastFrameConsumed + 1) := hs.ring.complete _ hlt hready
  have hle : s.lastFrameConsumed + 1 ≤ s.latestFrameExpected := hready.trans hcheckpoint
  obtain ⟨captureTime, hcapture⟩ := Option.isSome_iff_exists.mp
    (hs.captures.isCaptured_of_isComplete hs.packets hlt hle hcomplete)
  replace hcapture : (s.getQueueEntry (s.lastFrameConsumed + 1)).estimatedCaptureTime =
    some captureTime := hcapture
  have hid : (s.getQueueEntry (s.lastFrameConsumed + 1)).collector.frame.frameId =
    some (s.lastFrameConsumed + 1) := hs.ring.owned _ hlt hle
  unfold consumeNextFrame
  have hcomplete' : (s.getQueueEntry (s.lastFrameConsumed + 1)).collector.isComplete = true :=
    hcomplete
  simp only [require_of hready, require_of hcomplete', ok_bind, hcapture]
  refine outcome_collector.bind fun metadata hmetadata =>
    outcome_collector.bind fun chunks _ => ?_
  rw [FrameCollector.peekFrameMetadata, require_bind_eq_ok] at hmetadata
  cases hmetadata.2
  simp only [hid]
  refine Outcome.require_bind (fun _ => rfl) fun _ => ?_
  obtain ⟨delay, hresolve⟩ := exists_resolve (c := c) (f := s.lastFrameConsumed + 1) hs.delays
    hlt.le (by omega)
  rw [hresolve, ok_bind]
  intro hbefore
  replace hbefore : s.checkpointFrame < s.latestFrameExpected := hbefore
  change ((s.setQueueEntry (s.lastFrameConsumed + 1) _).getQueueEntry
    (s.checkpointFrame + 1)).collector.isComplete = false
  rw [getQueueEntry_checkpoint_succ hs hlt (by omega) (by omega) (by omega)]
  exact hsettled hbefore

/-! ### Receiving packets -/

variable {arrivalTime : ℤ}

/-- Once the packet is collected, only its own frame may be complete after the checkpoint. -/
theorem outcome_finishPacket {part : ParseResult} (hs : s.view.Invariant c)
    (hnew : s.checkpointFrame < part.frameId) (hle : part.frameId ≤ s.latestFrameExpected)
    (hothers : s.checkpointFrame + 1 ≠ part.frameId → s.Settled) :
    Outcome Settled IsOther (s.finishPacket c now arrivalTime part) := by
  have hview : (s.logPacketReceived c arrivalTime part).view = s.view := view_logPacketReceived
  unfold finishPacket
  dsimp only
  rw [← hview] at hs
  replace hnew : (s.logPacketReceived c arrivalTime part).checkpointFrame < part.frameId :=
    (congrArg (·.checkpointFrame) hview).trans_lt hnew
  replace hle : part.frameId ≤ (s.logPacketReceived c arrivalTime part).latestFrameExpected :=
    hle.trans_eq (congrArg (·.latestFrameExpected) hview.symm)
  replace hothers : (s.logPacketReceived c arrivalTime part).checkpointFrame + 1 ≠ part.frameId →
      (s.logPacketReceived c arrivalTime part).Settled := fun hne =>
    (hothers fun heq => hne (by rw [← heq]; exact congrArg (·.checkpointFrame + 1) hview)).congr
      (congrArg (·.toFrameQueue) hview) (congrArg (·.checkpointFrame) hview)
  generalize s.logPacketReceived c arrivalTime part = u at hs hnew hle hothers
  split_ifs with hincomplete
  · by_cases hnext : u.checkpointFrame + 1 = part.frameId
    · intro _
      rw [hnext]
      simpa [FrameQueue.isComplete] using hincomplete
    · exact hothers hnext
  refine outcome_collector.bind fun metadata _ => ?_
  have hdone : (u.completeFrame part.frameId metadata.dependency).view =
    u.view.emit (.completed part.frameId u.checkpointFrame) := view_completeFrame
  have hs' := hs.emit (e := .completed part.frameId u.checkpointFrame) rfl
  rw [← hdone] at hs'
  generalize u.completeFrame part.frameId metadata.dependency = w at hdone hs'
  have hqueue : w.toFrameQueue = u.toFrameQueue := congrArg (·.toFrameQueue) hdone
  have hcheckpoint : w.checkpointFrame = u.checkpointFrame := congrArg (·.checkpointFrame) hdone
  have hconsumed : w.lastFrameConsumed ≤ w.checkpointFrame := hs'.ring.consumed_le
  have hleader : -1 ≤ w.lastFrameConsumed := hs'.ring.leader_le
  split_ifs with hnext
  · have hle' : part.frameId ≤ w.latestFrameExpected := by
      rw [hqueue]
      exact hle
    refine Outcome.bind (outcome_advanceCheckpoint ?_ ?_ hle' ?_ (by omega)) fun x hx => ?_
    · exact hs'.delays
    · exact hcheckpoint ▸ hnew
    · change w.lastFrameConsumed ≤ part.frameId
      omega
    · exact hx.1.congr rfl rfl
  · rw [ok_bind]
    exact (hothers (fun heq => hnext (by rw [hcheckpoint, heq]))).congr hqueue hcheckpoint

theorem outcome_collectPart {part : ParseResult} (hs : s.view.Invariant c)
    (hsettled : s.Settled) (hnew : s.checkpointFrame < part.frameId)
    (hle : part.frameId ≤ s.latestFrameExpected)
    (hpart : part.packetId.toNat ≤ part.maxPacketId.toNat ∧
      part.maxPacketId.toNat < kAllPacketsLost) :
    Outcome Settled IsOther (s.collectPart c now arrivalTime part) := by
  have hconsumed : s.lastFrameConsumed ≤ s.checkpointFrame := hs.ring.consumed_le
  have hlatest : s.latestFrameExpected ≤ s.lastFrameConsumed + 120 := hs.ring.latest_le
  -- a new entry of the frame leaves the frame after the checkpoint alone, if that is another one
  have hother : ∀ entry, s.checkpointFrame + 1 ≠ part.frameId →
      ∀ u : Receiver, u.toFrameQueue = (s.setQueueEntry part.frameId entry).toFrameQueue →
      u.checkpointFrame = s.checkpointFrame → u.Settled := by
    intro entry hne u hqueue hcheckpoint hlt
    rw [hqueue, hcheckpoint] at hlt
    replace hlt : s.checkpointFrame < s.latestFrameExpected := hlt
    rw [hqueue, hcheckpoint, FrameQueue.isComplete,
      getQueueEntry_checkpoint_succ hs (by omega) (by omega) (by omega) hne]
    exact hsettled hlt
  unfold collectPart
  split_ifs with hreport
  · exact hsettled
  dsimp only
  split_ifs with hcomplete
  · exact hsettled
  have hcollectable : s.view.Collectable part :=
    ⟨hnew, hle, Bool.eq_false_iff.mpr hcomplete, hpart.1, hpart.2⟩
  refine outcome_collector.bind ?_
  rintro ⟨accepted, collector⟩ hcollect
  cases accepted with
  | false =>
    have hsame := FrameCollector.eq_of_collectRtpPacket_false hcollect hpart.1
    refine hsettled.congr ?_ rfl
    rw [hsame]
    simp [setQueueEntry, FrameQueue.getQueueEntry]
  | true =>
    change Outcome _ _ ((s.collected part collector).onCollected c now arrivalTime part)
    rcases onCollected_cases c now arrivalTime hcollectable hcollect hreport
      with ⟨w, entry, heq, hchange, hqueue, hcheckpoint⟩ | ⟨hreport, hnone, -⟩
    · rw [heq]
      have hlatest' : w.latestFrameExpected = s.latestFrameExpected :=
        congrArg (·.latestFrameExpected) hqueue
      exact outcome_finishPacket (hs.step hchange) (hcheckpoint ▸ hnew) (hlatest' ▸ hle)
        fun hne => hother entry (hcheckpoint ▸ hne) w hqueue hcheckpoint
    · rw [hs.offset hreport] at hnone
      cases hnone

/-- The frames that become known are not complete. -/
theorem settled_expectFrames {n : ℕ} (hs : s.view.Invariant c) (hsettled : s.Settled)
    (hn : n = 0 ∨ s.latestFrameExpected + n ≤ s.lastFrameConsumed + kMaxUnackedFrames) :
    (expectFrames n s).Settled := by
  induction n generalizing s with
  | zero => exact hsettled
  | succ n ih =>
    replace hn := hn.resolve_left n.succ_ne_zero
    push_cast at hn
    simp only [kMaxUnackedFrames] at hn
    have hconsumed : s.lastFrameConsumed ≤ s.checkpointFrame := hs.ring.consumed_le
    have hcheckpoint : s.checkpointFrame ≤ s.latestFrameExpected := hs.ring.checkpoint_le
    have hchange : Changes c s.view s.expectNextFrame.view :=
      .expect (by simp only [view, kMaxUnackedFrames]; omega)
    refine ih (hs.step hchange) (fun _ => ?_) (.inr ?_)
    · change (s.expectNextFrame.getQueueEntry (s.checkpointFrame + 1)).collector.isComplete = false
      by_cases hnew : s.checkpointFrame = s.latestFrameExpected
      · rw [hnew]
        have hfree : (s.getQueueEntry (s.latestFrameExpected + 1)).collector = .new :=
          hs.ring.free _ fun g (hg : s.lastFrameConsumed < g) (hg' : g ≤ s.latestFrameExpected) =>
            hs.ring.slotIndex_ne (show s.lastFrameConsumed < s.latestFrameExpected + 1 by omega)
              (show s.latestFrameExpected + 1 ≤ s.lastFrameConsumed + 120 by omega) hg
              (show g ≤ s.lastFrameConsumed + 120 by omega) (by omega)
        simp only [expectNextFrame, setQueueEntry, FrameQueue.getQueueEntry,
          Function.update_self] at hfree ⊢
        rw [hfree]
        rfl
      · have hsame : s.expectNextFrame.getQueueEntry (s.checkpointFrame + 1) =
            s.getQueueEntry (s.checkpointFrame + 1) :=
          getQueueEntry_checkpoint_succ hs (by omega) (by omega) (by omega) (by omega) _
        rw [hsame]
        exact hsettled (by omega)
    · simp only [expectNextFrame, setQueueEntry, kMaxUnackedFrames]
      omega

theorem outcome_onReceivedRtpPacket {packet : ByteView}
    (hs : s.view.Invariant c) (hsettled : s.Settled) :
    Outcome Settled IsOther (s.onReceivedRtpPacket c now arrivalTime packet) := by
  unfold onReceivedRtpPacket
  refine Outcome.bind (Q := fun r => s.rtpParser.parse packet = .ok r)
    outcome_span fun ⟨part, rtpParser⟩ hparse => ?_
  cases part with
  | none => exact hsettled.congr rfl rfl
  | some part =>
    dsimp only
    split_ifs with hold hfar
    · exact hsettled.congr rfl rfl
    · exact hsettled.congr rfl rfl
    generalize hw : { s with
      rtpParser
      statsTracker := s.statsTracker.onReceivedValidRtpPacket c.rtpTimebase part.sequenceNumber
        part.rtpTimestamp arrivalTime } = w
    have hview : w.view = s.view := by rw [← hw]; rfl
    have hqueue : w.toFrameQueue = s.toFrameQueue := congrArg (·.toFrameQueue) hview
    have hcheckpoint : w.checkpointFrame = s.checkpointFrame := congrArg (·.checkpointFrame) hview
    replace hold : ¬part.frameId ≤ s.checkpointFrame := hold
    have hn : (part.frameId - s.latestFrameExpected).toNat = 0 ∨
        w.latestFrameExpected + ((part.frameId - s.latestFrameExpected).toNat : ℤ) ≤
          w.lastFrameConsumed + kMaxUnackedFrames := by
      rw [hqueue]
      omega
    obtain ⟨hcheckpoint', hlatest'⟩ :=
      expectFrames_eq (part.frameId - s.latestFrameExpected).toNat w
    rw [hqueue] at hlatest'
    rw [← hview] at hs
    exact outcome_collectPart ((expectFrames_reaches hn).invariant (fun _ _ hv => hv.step) hs)
      (settled_expectFrames hs (hsettled.congr hqueue hcheckpoint) hn) (by omega) (by omega)
      (RtpPacketParser.packetId_le_of_parse hparse)

/-! ### Calls -/

theorem outcome_onReceivedRtcpPacket {packet : ByteView} (hsettled : s.Settled) :
    Outcome Settled IsOther (s.onReceivedRtcpPacket c now arrivalTime packet) := by
  unfold onReceivedRtcpPacket
  refine Outcome.bind outcome_span fun ⟨report, rtcpParser⟩ _ => ?_
  cases report with
  | none => exact hsettled.congr rfl rfl
  | some report =>
    unfold ClockDriftSmoother.update
    refine Outcome.bind (Q := fun _ => True) (Outcome.require_bind (fun _ => rfl) fun _ =>
      Outcome.require_bind (fun _ => rfl) fun _ => trivial) fun smoothedClockOffset _ => ?_
    exact outcome_sendRtcp.mono (fun t ht => hsettled.congr ht.1 ht.2) fun _ => id

theorem outcome_onConsumptionAlarm (hs : s.view.Invariant c) (hsettled : s.Settled) :
    Outcome Settled IsOther (s.onConsumptionAlarm c now) := by
  unfold onConsumptionAlarm
  dsimp only
  split_ifs
  · refine Outcome.bind (outcome_advanceToNextFrame (s := { s with consumptionAlarm := none }) hs
      (hsettled.congr rfl rfl)) fun ⟨size, t⟩ ht => ?_
    cases size with
    | none => exact ht.1
    | some size => exact ht.1.congr rfl rfl
  · exact hsettled.congr rfl rfl
  · exact hsettled

/-- **The checks of a call hold.** After it, the frame after the checkpoint is not complete, and the
next frame can be consumed if its size was returned. -/
theorem outcome_step {op : ReceiverOp} (hs : s.view.Invariant c) (hsettled : s.Settled)
    (hready : op.isConsume → s.Ready) :
    Outcome (fun r => r.2.Settled ∧ (r.1.isSize → r.2.Ready))
      (fun e => op.isReport = false → e.IsOther) (s.step c now op) := by
  have hnone : ∀ {x : Except ReceiverFault Receiver}, Outcome Settled IsOther x →
      Outcome (fun r => r.2.Settled ∧ (r.1.isSize → r.2.Ready))
        (fun e => op.isReport = false → e.IsOther) (do return (ReceiverOutput.none, ← x)) :=
    fun hx => (hx.mono (fun _ => id) fun _ he _ => he).bind fun t ht =>
      ⟨ht, fun h => by cases h⟩
  cases op with
  | setConsumer hasConsumer => exact ⟨hsettled.congr rfl rfl, fun h => by cases h⟩
  | setPlayerProcessingTime neededTime => exact ⟨hsettled.congr rfl rfl, fun h => by cases h⟩
  | reportPlayoutEvent frameId rtpTimestamp playoutTime =>
    refine Outcome.bind (Q := fun r => r.2.Settled) ?_ fun r hr => ⟨hr, fun h => by cases h⟩
    unfold reportPlayoutEvent
    split_ifs
    · exact hsettled
    · exact hsettled
    · split
      · exact fun h => by cases h
      · exact hsettled.congr rfl rfl
  | requestKeyFrame =>
    refine hnone ?_
    unfold requestKeyFrame
    split_ifs
    · exact outcome_sendRtcp.mono (fun t ht => hsettled.congr ht.1 ht.2) fun _ => id
    · exact hsettled
  | advanceToNextFrame =>
    refine ((outcome_advanceToNextFrame hs hsettled).mono (fun _ => id) fun _ he _ => he).bind
      fun ⟨size, t⟩ ht => ⟨ht.1, fun hsize => ht.2 ?_⟩
    cases size with
    | none => cases hsize
    | some size => rfl
  | consumeNextFrame bufferSize =>
    exact ((outcome_consumeNextFrame hs hsettled (hready rfl)).mono (fun _ => id)
      fun _ he _ => he).bind fun r hr => ⟨hr, fun h => by cases h⟩
  | onReceivedRtpPacket arrivalTime packet => exact hnone (outcome_onReceivedRtpPacket hs hsettled)
  | onReceivedRtcpPacket arrivalTime packet => exact hnone (outcome_onReceivedRtcpPacket hsettled)
  | onRtcpAlarm =>
    refine hnone ?_
    unfold onRtcpAlarm
    split_ifs
    · exact outcome_sendRtcp.mono (fun t ht => hsettled.congr ht.1 ht.2) fun _ => id
    · exact hsettled
  | onConsumptionAlarm => exact hnone (outcome_onConsumptionAlarm hs hsettled)

/-! ### Runs -/

variable {as : List (ℤ × ReceiverOp × ReceiverOutput)}

/-- `ConsumeNextFrame` is called only right after an `AdvanceToNextFrame` that returned a size. -/
def ConsumesReady (as : List (ℤ × ReceiverOp × ReceiverOutput)) : Prop :=
  (as.head?.all fun a => !a.2.1.isConsume) ∧
    as.IsChain fun a b => b.2.1.isConsume → a.2.2.isSize

theorem ConsumesReady.of_append {a : ℤ × ReceiverOp × ReceiverOutput}
    (h : ConsumesReady (as ++ [a])) :
    ConsumesReady as ∧ (a.2.1.isConsume → ∃ b ∈ as.getLast?, b.2.2.isSize) := by
  obtain ⟨hhead, hchain⟩ := h
  obtain ⟨hchain, -, hlast⟩ := List.isChain_append.mp hchain
  rcases List.eq_nil_or_concat as with rfl | ⟨as, b, rfl⟩
  · refine ⟨⟨rfl, hchain⟩, fun hconsume => ?_⟩
    simp [hconsume] at hhead
  · rw [List.concat_eq_append] at *
    refine ⟨⟨?_, hchain⟩, fun hconsume => ⟨b, by simp, hlast b (by simp) a (by simp) hconsume⟩⟩
    cases as <;> simpa using hhead

/-- Every call of a run leaves the frame after the checkpoint incomplete. -/
theorem settled_of_run (h : Run (Step c) (new c) as s) (has : ConsumesReady as) :
    s.Settled ∧ ∀ a ∈ as.getLast?, a.2.2.isSize → s.Ready := by
  induction h with
  | nil => exact ⟨fun hlt => absurd hlt (lt_irrefl _), by simp⟩
  | @snoc s t as a hrun hstep ih =>
    obtain ⟨has, hconsume⟩ := has.of_append
    obtain ⟨hsettled, hready⟩ := ih has
    have hstep' := (outcome_step (invariant_of_run hrun) hsettled fun h => by
      obtain ⟨b, hb, hsize⟩ := hconsume h
      exact hready b hb hsize).of_ok hstep
    refine ⟨hstep'.1, fun b hb hsize => hstep'.2 ?_⟩
    cases (by simpa using hb : a = b)
    exact hsize

/-- The queue of a receiver between two calls. -/
structure QueueInvariant (s : Receiver) : Prop where
  consumed_le : s.lastFrameConsumed ≤ s.checkpointFrame
  checkpoint_le : s.checkpointFrame ≤ s.latestFrameExpected
  latest_le : s.latestFrameExpected ≤ s.lastFrameConsumed + kMaxUnackedFrames
  complete : ∀ g, s.lastFrameConsumed < g → g ≤ s.checkpointFrame →
    s.isComplete g ∧ s.isCaptured g
  incomplete : s.checkpointFrame + 1 ≤ s.latestFrameExpected →
    s.isComplete (s.checkpointFrame + 1) = false
  owned : ∀ g, s.lastFrameConsumed < g → g ≤ s.latestFrameExpected →
    (s.getQueueEntry g).collector.frame.frameId = some g
  free : ∀ i, (∀ g, s.lastFrameConsumed < g → g ≤ s.latestFrameExpected → slotIndex g ≠ i) →
    (s.pendingFrames i).collector = .new

/-- A playout event of a consumed frame is about its own capture time. -/
theorem reportPlayoutEvent_of_consumed (hs : s.view.Invariant c)
    (hlogs : c.areReceiverEventLogsEnabled = true) (hf : 0 ≤ f) (hle : f ≤ s.lastFrameConsumed)
    (rtpTimestamp playoutTime : ℤ) :
    s.reportPlayoutEvent c f rtpTimestamp playoutTime = .ok (.parameterOutOfRange, s) ∨
      ∃ d captureTime, .firstPacket f d captureTime ∈ s.events ∧
        s.reportPlayoutEvent c f rtpTimestamp playoutTime =
          .ok (.none, s.logPlayedOut rtpTimestamp playoutTime captureTime) := by
  have hconsumed : s.lastFrameConsumed ≤ s.checkpointFrame := hs.ring.consumed_le
  have hcheckpoint : s.checkpointFrame ≤ s.latestFrameExpected := hs.ring.checkpoint_le
  unfold reportPlayoutEvent
  rw [if_neg (by simp [hlogs])]
  by_cases hold : f ≤ s.latestFrameExpected - kMaxUnackedFrames
  · rw [if_pos hold]
    exact .inl rfl
  · rw [if_neg hold]
    simp only [kMaxUnackedFrames] at hold
    obtain ⟨d, captureTime, hmem⟩ := hs.captures.consumed f hf hle
    have hcapture : (s.getQueueEntry f).estimatedCaptureTime = some captureTime :=
      (hs.captures.captured f captureTime hf
        (show s.latestFrameExpected - 120 < f by push_cast at hold; omega)
        (show f ≤ s.latestFrameExpected by omega)).mpr ⟨d, hmem⟩
    rw [hcapture]
    exact .inr ⟨d, captureTime, hmem, rfl⟩

/-- **The queue in every run**, if frames are consumed only when `AdvanceToNextFrame` has just
returned a size: its invariant holds, no check that rests on it fails in the next call, and a
playout event of a frame that was consumed is out of range or uses the capture time of that
frame. -/
theorem queue_of_run (h : Run (Step c) (new c) as s) (has : ConsumesReady as) :
    s.QueueInvariant ∧
      (∀ now op e, (op.isConsume → ∃ a ∈ as.getLast?, a.2.2.isSize) → op.isReport = false →
        s.step c now op = .error e → e.isOfQueue = false) ∧
      ∀ f rtpTimestamp playoutTime, 0 ≤ f → f ≤ s.lastFrameConsumed →
        c.areReceiverEventLogsEnabled = true →
        s.reportPlayoutEvent c f rtpTimestamp playoutTime = .ok (.parameterOutOfRange, s) ∨
          ∃ d captureTime, .firstPacket f d captureTime ∈ s.events ∧
            s.reportPlayoutEvent c f rtpTimestamp playoutTime =
              .ok (.none, s.logPlayedOut rtpTimestamp playoutTime captureTime) := by
  have hs := invariant_of_run h
  obtain ⟨hsettled, hready⟩ := settled_of_run h has
  refine ⟨⟨hs.ring.consumed_le, hs.ring.checkpoint_le, hs.ring.latest_le, fun g hg hle => ?_,
    hsettled, hs.ring.owned, hs.ring.free⟩, fun now op e hconsume hreport herror => ?_,
    fun f rtpTimestamp playoutTime hf hle hlogs =>
      reportPlayoutEvent_of_consumed hs hlogs hf hle rtpTimestamp playoutTime⟩
  · have hcomplete := hs.ring.complete g hg hle
    exact ⟨hcomplete, hs.captures.isCaptured_of_isComplete hs.packets hg
      (hle.trans hs.ring.checkpoint_le) hcomplete⟩
  · refine (outcome_step hs hsettled fun h => ?_).of_error herror hreport
    obtain ⟨a, ha, hsize⟩ := hconsume h
    exact hready a ha hsize

/-- Two frames arrive, and the first one is consumed. -/
def exampleConsume : List (ℤ × ReceiverOp) :=
  [exampleReport 1000, examplePacket 2000 0 0 0, examplePacket 3000 1 0 0,
    (4000, .advanceToNextFrame), (4000, .consumeNextFrame 1)]

theorem outcome_exampleConsume :
    Outcome (fun r => ConsumesReady r.1 ∧ r.2.lastFrameConsumed = 0 ∧ r.2.checkpointFrame = 1)
      (fun _ => False) (runOps (exampleConfig true) (new (exampleConfig true)) exampleConsume) := by
  unfold ConsumesReady
  decide +kernel

/-- The other frame is complete and waits, and a playout event of the first one is logged. -/
theorem queue_exampleConsume :
    ∃ s as, Run (Step (exampleConfig true)) (new (exampleConfig true)) as s ∧
      ConsumesReady as ∧ s.QueueInvariant ∧ s.isComplete 1 ∧
      ∃ error t, s.reportPlayoutEvent (exampleConfig true) 0 0 5000 = .ok (error, t) := by
  obtain ⟨⟨as, s⟩, hrun, has, hlast, hcheckpoint⟩ := outcome_exampleConsume.exists_ok
  obtain ⟨hqueue, -, hreport⟩ := queue_of_run (run_of_runOps hrun) has
  refine ⟨s, as, run_of_runOps hrun, has, hqueue, (hqueue.complete 1 ?_ ?_).1, ?_⟩
  · rw [hlast]
    decide
  · rw [hcheckpoint]
  · rcases hreport 0 0 5000 le_rfl hlast.ge rfl with heq | ⟨d, captureTime, -, heq⟩
    · exact ⟨_, _, heq⟩
    · exact ⟨_, _, heq⟩

end Receiver

end StreamerPlus
