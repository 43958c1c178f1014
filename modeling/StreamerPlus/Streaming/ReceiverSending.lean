import StreamerPlus.Streaming.ReceiverHistory

/-!
# What `SendRtcp` leaves behind

Two things that a call of `SendRtcp` leaves for later: the ACKs of `pending_frame_acks_` that still
wait to be logged, and the alarm for the next call.

Without receiver event logs nothing ever takes the ACKs out of `pending_frame_acks_`. And the alarm
is always scheduled for `kRtcpReportInterval`, since the NACKs have been moved into the builder by
the time that their number is looked at.

Main results:

* `Receiver.pendingFrameAcks_iff_of_run`: when nothing is left in `pending_frame_acks_`;
* `Receiver.rtcpAlarm_iff_of_sendRtcp`: when the alarm is scheduled as the frames need it.
-/

namespace StreamerPlus

open Checked TransitionSystem

/-! ### Completed frames -/

/-- A frame became complete. -/
def ReceiverEvent.isCompletion : ReceiverEvent → Bool
  | .completed .. => true
  | _ => false

/-- The first frame after the checkpoint became complete. -/
def ReceiverEvent.isNextCompletion : ReceiverEvent → Bool
  | .completed frameId checkpointFrame => frameId == checkpointFrame + 1
  | _ => false

/-- The number of frames that were completed after the last `SendRtcp`. -/
def completionsSinceSend (events : List ReceiverEvent) : ℕ :=
  (events.reverse.takeWhile fun e => e.sent? = none).countP ReceiverEvent.isCompletion

section

variable {events new : List ReceiverEvent}

theorem completionsSinceSend_append (h : ∀ e ∈ new, e.sent? = none) :
    completionsSinceSend (events ++ new) =
      completionsSinceSend events + new.countP ReceiverEvent.isCompletion := by
  unfold completionsSinceSend
  rw [List.reverse_append, List.takeWhile_append_of_pos (by simpa using h), List.countP_append,
    List.countP_reverse, add_comm]

/-- No completion of the first frame after the checkpoint is in the history. -/
theorem countP_isNextCompletion_eq_zero_iff :
    events.countP ReceiverEvent.isNextCompletion = 0 ↔
      ∀ frameId checkpointFrame, .completed frameId checkpointFrame ∈ events →
        frameId ≠ checkpointFrame + 1 := by
  rw [List.countP_eq_zero]
  constructor
  · intro h frameId checkpointFrame hmem heq
    exact h _ hmem (by simp [ReceiverEvent.isNextCompletion, heq])
  · intro h e hmem he
    cases e with
    | completed frameId checkpointFrame =>
      exact h frameId checkpointFrame hmem (by simpa [ReceiverEvent.isNextCompletion] using he)
    | _ => cases he

end

namespace ReceiverView

variable {c : ReceiverConfig} {v w : ReceiverView}

/-- Without logs the loop of `SendRtcp` leaves the pending ACKs alone. -/
theorem pendingFrameAcks_of_foldlM {q : FrameQueue} {l : List ℤ}
    {feedback result : Receiver.Feedback} (hlogs : c.areReceiverEventLogsEnabled = false)
    (h : l.foldlM (Receiver.examineFrame c q) feedback = .ok result) :
    result.pendingFrameAcks = feedback.pendingFrameAcks := by
  induction l generalizing feedback with
  | nil =>
    cases h
    rfl
  | cons g l ih =>
    rw [List.foldlM_cons] at h
    obtain ⟨next, hexamine, h⟩ := bind_eq_ok.mp h
    rw [ih h]
    unfold Receiver.examineFrame at hexamine
    dsimp only at hexamine
    by_cases hcomplete : (q.getQueueEntry g).collector.isComplete = true
    · rw [if_pos hcomplete] at hexamine
      cases hexamine
      simp [hlogs]
    · rw [if_neg hcomplete] at hexamine
      obtain ⟨missing, -, hexamine⟩ := bind_eq_ok.mp hexamine
      cases hexamine
      rfl

/-- The pending ACKs are those of all completed frames, without logs, or they are no more than the
frames that were completed since the last call of `SendRtcp`. -/
structure PendingAcks (c : ReceiverConfig) (v : ReceiverView) : Prop where
  kept : c.areReceiverEventLogsEnabled = false →
    v.pendingFrameAcks.length = v.events.countP ReceiverEvent.isNextCompletion
  drained : c.areReceiverEventLogsEnabled = true →
    v.pendingFrameAcks.length ≤ completionsSinceSend v.events

/-- Events other than completions and calls of `SendRtcp` do not matter. -/
theorem PendingAcks.append (h : v.PendingAcks c) (hacks : w.pendingFrameAcks = v.pendingFrameAcks)
    {new : List ReceiverEvent} (hevents : w.events = v.events ++ new)
    (hnew : ∀ e ∈ new, e.sent? = none ∧ e.isNextCompletion = false) : w.PendingAcks c where
  kept hlogs := by
    have hnone : new.countP ReceiverEvent.isNextCompletion = 0 :=
      List.countP_eq_zero.mpr fun e he => Bool.eq_false_iff.mp (hnew e he).2
    rw [hacks, hevents, List.countP_append, hnone, add_zero]
    exact h.kept hlogs
  drained hlogs := by
    rw [hacks, hevents, completionsSinceSend_append fun e he => (hnew e he).1]
    exact (h.drained hlogs).trans (Nat.le_add_right _ _)

/-- **Every change keeps the pending ACKs accounted for.** -/
theorem PendingAcks.step (h : v.PendingAcks c) (hvw : Changes c v w) : w.PendingAcks c := by
  cases hvw with
  | report => exact ⟨h.kept, h.drained⟩
  | expect => exact ⟨h.kept, h.drained⟩
  | reject => exact ⟨h.kept, h.drained⟩
  | moveCheckpoint => exact ⟨h.kept, h.drained⟩
  | @complete f rtpTimestamp hlt hcomplete =>
    refine ⟨fun hlogs => ?_, fun hlogs => ?_⟩
    · rw [List.length_append, List.countP_append, h.kept hlogs, List.countP_singleton]
      by_cases hnext : f = v.checkpointFrame + 1
      · simp [ReceiverEvent.isNextCompletion, hnext]
      · simp [ReceiverEvent.isNextCompletion, hnext]
    · rw [List.length_append, completionsSinceSend_append (by simp [ReceiverEvent.sent?]),
        List.countP_singleton]
      refine add_le_add (h.drained hlogs) ?_
      rw [if_pos (show (ReceiverEvent.completed f v.checkpointFrame).isCompletion = true from rfl)]
      split_ifs <;> simp
  | send sendTime packet hfeedback =>
    refine ⟨fun hlogs => ?_, fun hlogs => ?_⟩
    · have hkept := pendingFrameAcks_of_foldlM hlogs hfeedback
      simp only [send, hlogs, Bool.false_eq_true, if_false, hkept, List.countP_append,
        List.countP_singleton, ReceiverEvent.isNextCompletion, add_zero]
      exact h.kept hlogs
    · simp [send, hlogs]
  | resolve =>
    exact h.append rfl rfl (by simp [resolvedEvent, ReceiverEvent.sent?,
      ReceiverEvent.isNextCompletion])
  | consume =>
    exact h.append rfl rfl (by simp [ReceiverEvent.sent?, ReceiverEvent.isNextCompletion])
  | skip => exact h.append rfl rfl (by simp [ReceiverEvent.sent?, ReceiverEvent.isNextCompletion])
  | _ => exact h.append rfl rfl (by
      simp [collectedEvent, ReceiverEvent.sent?, ReceiverEvent.isNextCompletion])

end ReceiverView

namespace Receiver

open ReceiverView

variable {c : ReceiverConfig} {now : ℤ} {s t : Receiver}
  {as : List (ℤ × ReceiverOp × ReceiverOutput)}

/-! ### Pending ACKs -/

theorem pendingAcks_new (c : ReceiverConfig) : (new c).view.PendingAcks c :=
  ⟨fun _ => rfl, fun _ => le_rfl⟩

/-- **Pending ACKs**: a call of `SendRtcp` leaves none exactly if the events are logged, or if no
frame right after the checkpoint has been completed before. Under that condition there are never
more of them than frames completed since the last call; without logs there are as many as such
frames have been completed in the whole session. -/
theorem pendingFrameAcks_iff_of_run (h : Run (Step c) (new c) as s) :
    (∀ pre sent post, s.events = pre ++ .sentRtcp sent :: post →
      (sent.pendingFrameAcks = [] ↔ c.areReceiverEventLogsEnabled = true ∨
        ∀ frameId checkpointFrame, .completed frameId checkpointFrame ∈ pre →
          frameId ≠ checkpointFrame + 1)) ∧
    ((c.areReceiverEventLogsEnabled = true ∨
        ∀ frameId checkpointFrame, .completed frameId checkpointFrame ∈ s.events →
          frameId ≠ checkpointFrame + 1) →
      s.pendingFrameAcks.length ≤ completionsSinceSend s.events) ∧
    (c.areReceiverEventLogsEnabled = false →
      s.pendingFrameAcks.length = s.events.countP ReceiverEvent.isNextCompletion) := by
  have hreaches := reaches_of_run h
  have hs : s.view.PendingAcks c :=
    hreaches.invariant (fun _ _ hv hchange => hv.step hchange) (pendingAcks_new c)
  refine ⟨fun pre sent post heq => ?_, fun hcond => ?_, hs.kept⟩
  · refine hreaches.emitted (I := PendingAcks c) (Q := fun pre => sent.pendingFrameAcks = [] ↔
      c.areReceiverEventLogsEnabled = true ∨ ∀ frameId checkpointFrame,
        .completed frameId checkpointFrame ∈ pre → frameId ≠ checkpointFrame + 1) rfl
      (fun _ _ hv hchange => hv.step hchange) (fun v hv he => ?_) (pendingAcks_new c) rfl heq
    cases he with
    | sentRtcp sendTime packet hfeedback =>
      dsimp only
      cases hlogs : c.areReceiverEventLogsEnabled with
      | true => simp
      | false =>
        have hkept := pendingFrameAcks_of_foldlM hlogs hfeedback
        simp only [Bool.false_eq_true, if_false, false_or, hkept]
        rw [← countP_isNextCompletion_eq_zero_iff, ← hv.kept hlogs, List.length_eq_zero_iff]
  · cases hlogs : c.areReceiverEventLogsEnabled with
    | true => exact hs.drained hlogs
    | false =>
      rw [hlogs] at hcond
      have hnone := countP_isNextCompletion_eq_zero_iff.mpr (hcond.resolve_left (by simp))
      have hkept := hs.kept hlogs
      rw [show s.view.events = s.events from rfl, hnone] at hkept
      exact hkept.le.trans (Nat.zero_le _)

theorem outcome_exampleAcks (logs : Bool) :
    Outcome (fun r => (r.2.events.getLast?.bind ReceiverEvent.sent?).map
        SentRtcp.pendingFrameAcks = some (if logs then [] else [0])) (fun _ => False)
      (runOps (exampleConfig logs) (new (exampleConfig logs))
        [exampleReport 1000, examplePacket 2000 0 0 0, exampleReport 3000]) := by
  revert logs
  decide +kernel

theorem exists_exampleAcks (logs : Bool) :
    ∃ s as pre sent, Run (Step (exampleConfig logs)) (new (exampleConfig logs)) as s ∧
      s.events = pre ++ [.sentRtcp sent] ∧ sent.pendingFrameAcks = if logs then [] else [0] := by
  obtain ⟨⟨as, s⟩, hrun, hlast⟩ := (outcome_exampleAcks logs).exists_ok
  obtain ⟨pre, sent, hpre, hacks⟩ := exists_sentRtcp_of_getLast? hlast
  exact ⟨s, as, pre, sent, run_of_runOps hrun, hpre, hacks⟩

/-- Without logs, the ACK of frame 0 stays after the second report of the session. -/
theorem pendingFrameAcks_keptWithoutLogs :
    ∃ s as pre sent, Run (Step (exampleConfig false)) (new (exampleConfig false)) as s ∧
      s.events = pre ++ [.sentRtcp sent] ∧ sent.pendingFrameAcks = [0] :=
  exists_exampleAcks false

/-- With logs, it is gone. -/
theorem pendingFrameAcks_drainedWithLogs :
    ∃ s as pre sent, Run (Step (exampleConfig true)) (new (exampleConfig true)) as s ∧
      s.events = pre ++ [.sentRtcp sent] ∧ sent.pendingFrameAcks = [] := by
  obtain ⟨s, as, pre, sent, hrun, hpre, -⟩ := exists_exampleAcks true
  exact ⟨s, as, pre, sent, hrun, hpre,
    ((pendingFrameAcks_iff_of_run hrun).1 pre sent [] hpre).mpr (Or.inl rfl)⟩

/-! ### The alarm -/

/-- The interval that the frames after the checkpoint need: NACKs are repeated soon. -/
def feedbackInterval (s : Receiver) : ℤ :=
  if (Int.range (s.checkpointFrame + 1) (s.latestFrameExpected + 1)).all s.isComplete then
    kRtcpReportInterval
  else kNackFeedbackInterval

/-- **The alarm**: it is scheduled for the interval that is needed exactly if all frames after the
checkpoint are complete. -/
theorem rtcpAlarm_iff_of_sendRtcp (h : s.sendRtcp c now = .ok t) :
    t.rtcpAlarm = some (now + s.feedbackInterval) ↔
      ∀ g, s.checkpointFrame < g → g ≤ s.latestFrameExpected → s.isComplete g := by
  have halarm : t.rtcpAlarm = some (now + kRtcpReportInterval) := by
    unfold sendRtcp at h
    obtain ⟨feedback, -, h⟩ := bind_eq_ok.mp h
    obtain ⟨⟨packet, rtcpBuilder⟩, -, h⟩ := bind_eq_ok.mp h
    cases h
    simp [kRtcpReportInterval]
  have hall : (Int.range (s.checkpointFrame + 1) (s.latestFrameExpected + 1)).all s.isComplete ↔
      ∀ g, s.checkpointFrame < g → g ≤ s.latestFrameExpected → s.isComplete g := by
    simp only [List.all_eq_true, Int.mem_range_iff, and_imp]
    exact forall_congr' fun g => ⟨fun hg h₁ h₂ => hg (by omega) (by omega),
      fun hg h₁ h₂ => hg (by omega) (by omega)⟩
  rw [halarm, ← hall, feedbackInterval]
  split_ifs with hcomplete
  · simp [hcomplete]
  · simp [hcomplete, kRtcpReportInterval, kNackFeedbackInterval]

theorem outcome_exampleAlarm :
    Outcome (fun r => r.2.rtcpAlarm = some (3000 + kRtcpReportInterval) ∧
        (r.2.events.getLast?.bind ReceiverEvent.sent?).map (fun sent =>
          (sent.sendTime, sent.packetNacks)) = some (3000, [⟨0, 1⟩])) (fun _ => False)
      (runOps (exampleConfig false) (new (exampleConfig false))
        [exampleReport 1000, examplePacket 2000 0 0 1, exampleReport 3000]) := by
  decide +kernel

/-- Packet 1 of frame 0 is NACKed, and the next NACK is due half a second later. -/
theorem rtcpAlarm_afterNack :
    ∃ s as pre sent, Run (Step (exampleConfig false)) (new (exampleConfig false)) as s ∧
      s.events = pre ++ [.sentRtcp sent] ∧ sent.sendTime = 3000 ∧
      sent.packetNacks = [⟨0, 1⟩] ∧ s.rtcpAlarm = some (3000 + kRtcpReportInterval) := by
  obtain ⟨⟨as, s⟩, hrun, halarm, hlast⟩ := outcome_exampleAlarm.exists_ok
  obtain ⟨pre, sent, hpre, hfields⟩ := exists_sentRtcp_of_getLast? hlast
  simp only [Prod.mk.injEq] at hfields
  exact ⟨s, as, pre, sent, run_of_runOps hrun, hpre, hfields.1, hfields.2, halarm⟩

theorem outcome_exampleConsumed :
    Outcome (fun r => r.2.lastFrameConsumed = 1 ∧ r.2.latestFrameExpected = r.2.checkpointFrame ∧
        Outcome (fun _ => True) (fun _ => False) (r.2.sendRtcp (exampleConfig false) 4000))
      (fun _ => False)
      (runOps (exampleConfig false) (new (exampleConfig false))
        [exampleReport 1000, examplePacket 2000 0 0 0, (2000, .consumeNextFrame 1),
          examplePacket 3000 1 0 0, (3000, .consumeNextFrame 1)]) := by
  decide +kernel

/-- Two frames came and were consumed: with none to wait for, the alarm is scheduled as needed. -/
theorem rtcpAlarm_afterConsuming :
    ∃ s as t, Run (Step (exampleConfig false)) (new (exampleConfig false)) as s ∧
      s.lastFrameConsumed = 1 ∧ s.sendRtcp (exampleConfig false) 4000 = .ok t ∧
      t.rtcpAlarm = some (4000 + s.feedbackInterval) := by
  obtain ⟨⟨as, s⟩, hrun, hconsumed, hlatest, hsend⟩ := outcome_exampleConsumed.exists_ok
  obtain ⟨t, ht, -⟩ := hsend.exists_ok
  refine ⟨s, as, t, run_of_runOps hrun, hconsumed, ht, ?_⟩
  exact (rtcpAlarm_iff_of_sendRtcp ht).mpr fun g hg hg' => absurd hg (by rw [← hlatest]; omega)

end Receiver

end StreamerPlus
