import Mathlib
import StreamerPlus.Streaming.ReceiverQueue

/-!
# Histories of a receiver

A view that is reached from that of a new receiver keeps the invariants of the queue, and its
playout delay changes are a log of the first packets of the history. So what a receiver does at
some point of a run can be compared with what has happened before.

Main results:

* `ReceiverView.Invariant.step`: every change keeps the invariant;
* `Receiver.invariant_of_run`: so does every run;
* `Receiver.emitted_of_run`: before each event of a run the history is as the invariant says it is
  when the event is emitted.
-/

namespace StreamerPlus

open Checked TransitionSystem

/-- What `SendRtcp` did, if the event is one of it. -/
def ReceiverEvent.sent? : ReceiverEvent → Option SentRtcp
  | .sentRtcp sent => some sent
  | _ => none

theorem ReceiverEvent.sent?_eq_some_iff {e : ReceiverEvent} {sent : SentRtcp} :
    e.sent? = some sent ↔ e = .sentRtcp sent := by
  cases e <;> simp [sent?]

/-- The history ends with a call of `SendRtcp`. -/
theorem exists_sentRtcp_of_getLast? {α : Type} {events : List ReceiverEvent} {f : SentRtcp → α}
    {a : α} (h : (events.getLast?.bind ReceiverEvent.sent?).map f = some a) :
    ∃ pre sent, events = pre ++ [.sentRtcp sent] ∧ f sent = a := by
  obtain ⟨sent, hsent, ha⟩ := Option.map_eq_some_iff.mp h
  obtain ⟨e, he, hsent⟩ := Option.bind_eq_some_iff.mp hsent
  obtain ⟨pre, hpre⟩ := List.getLast?_eq_some_iff.mp he
  rw [ReceiverEvent.sent?_eq_some_iff.mp hsent] at hpre
  exact ⟨pre, sent, hpre, ha⟩

/-! ### Playout delay changes -/

/-- The change of the playout delay that a first packet carries. -/
def ReceiverEvent.delay? : ReceiverEvent → Option (ℤ × ℤ)
  | .firstPacket frameId newPlayoutDelay _ =>
    if 0 < newPlayoutDelay then some (frameId, newPlayoutDelay) else none
  | _ => none

/-- The changes of the playout delay that the first packets of the history carry. -/
def delaysOf (events : List ReceiverEvent) : List (ℤ × ℤ) := events.filterMap (·.delay?)

/-- These changes, and the initial delay, which is in force from the leader on. -/
def delayChanges (c : ReceiverConfig) (events : List ReceiverEvent) : Set (ℤ × ℤ) :=
  Insert.insert (FrameId.leader, c.targetPlayoutDelay) { e | e ∈ delaysOf events }

theorem mem_delaysOf {events : List ReceiverEvent} {e : ℤ × ℤ} :
    e ∈ delaysOf events ↔ 0 < e.2 ∧ ∃ t, .firstPacket e.1 e.2 t ∈ events := by
  unfold delaysOf
  rw [List.mem_filterMap]
  constructor
  · rintro ⟨event, hmem, hevent⟩
    cases event with
    | firstPacket f d t =>
      simp only [ReceiverEvent.delay?] at hevent
      split_ifs at hevent with hpos
      cases hevent
      exact ⟨hpos, t, hmem⟩
    | _ => cases hevent
  · rintro ⟨hpos, t, hmem⟩
    exact ⟨_, hmem, by simp [ReceiverEvent.delay?, hpos]⟩

namespace ReceiverView

variable {c : ReceiverConfig} {v w : ReceiverView}

/-- The receiver keeps a log of the changes, from the last consumed frame on. -/
def Delays (c : ReceiverConfig) (v : ReceiverView) : Prop :=
  ChangeLog.Records (delayChanges c v.events) v.lastFrameConsumed v.playoutDelayChanges

theorem delayChanges_append_of_quiet {events new : List ReceiverEvent}
    (h : ∀ e ∈ new, e.isArrival = false) :
    delayChanges c (events ++ new) = delayChanges c events := by
  ext e
  simp only [delayChanges, Set.mem_insert_iff, Set.mem_ofPred_eq, mem_delaysOf,
    firstPacket_mem_append_of_quiet h]

/-- A first packet adds its own change, if it carries one. -/
theorem Delays.collectFirst (h : v.Delays c) (hring : v.Ring v.checkpointFrame)
    (hcaptures : v.Captures v.events) {part : ParseResult} {t : ℤ} (hs : v.Collectable part)
    (hcaptured : v.isCaptured part.frameId = false) :
    ChangeLog.Records (delayChanges c (v.events ++
      [collectedEvent part, .firstPacket part.frameId part.newPlayoutDelay t]))
      v.lastFrameConsumed (v.delayChangesWith part) := by
  have hleader := hring.leader_le
  have hconsumed := hring.consumed_le
  have hlatest := hring.latest_le
  have hcheckpoint := hs.checkpoint_lt
  have hle := hs.le_latest
  have hmem : ∀ e : ℤ × ℤ, e ∈ delayChanges c (v.events ++
      [collectedEvent part, .firstPacket part.frameId part.newPlayoutDelay t]) ↔
      e ∈ delayChanges c v.events ∨
        0 < part.newPlayoutDelay ∧ e = (part.frameId, part.newPlayoutDelay) := by
    rintro ⟨f, d⟩
    simp only [delayChanges, Set.mem_insert_iff, Set.mem_ofPred_eq, mem_delaysOf, List.mem_append,
      collectedEvent, List.mem_cons, List.not_mem_nil, reduceCtorEq, or_false, false_or,
      ReceiverEvent.firstPacket.injEq, Prod.mk.injEq, exists_or]
    grind
  unfold delayChangesWith
  split_ifs with hpos
  · have hall : delayChanges c (v.events ++
        [collectedEvent part, .firstPacket part.frameId part.newPlayoutDelay t]) =
        Insert.insert (part.frameId, part.newPlayoutDelay) (delayChanges c v.events) := by
      ext e
      rw [hmem, Set.mem_insert_iff, or_comm]
      simp [hpos]
    rw [hall]
    refine (ChangeLog.Records.prune h (by simp)).insert fun e he heq => ?_
    -- the frame has no change yet, since its capture time is not known
    rcases Set.mem_insert_iff.mp he with rfl | he
    · simp only [FrameId.leader] at heq
      omega
    · obtain ⟨-, t', hmem'⟩ := mem_delaysOf.mp he
      rw [heq] at hmem'
      rw [Bool.eq_false_iff] at hcaptured
      exact hcaptured ((hcaptures.isCaptured_iff (by omega) (by omega) hle).mpr ⟨_, t', hmem'⟩)
  · have hall : delayChanges c (v.events ++
        [collectedEvent part, .firstPacket part.frameId part.newPlayoutDelay t]) =
        delayChanges c v.events := by
      ext e
      rw [hmem]
      simp [hpos]
    rw [hall]
    exact h

/-- **Every change keeps the log.** -/
theorem Delays.step (h : v.Delays c) (hring : v.Ring v.checkpointFrame)
    (hcaptures : v.Captures v.events) (hvw : v.QueueChange w) : w.Delays c := by
  cases hvw with
  | quiet new hqueue hcheckpoint hdelays hevents hquiet =>
    unfold Delays
    rw [hqueue, hdelays, hevents, delayChanges_append_of_quiet hquiet]
    exact h
  | expect => exact h
  | @collect part collector hs hcollect hfirst =>
    have hall : delayChanges c (v.events ++ [collectedEvent part]) = delayChanges c v.events := by
      ext e
      simp [delayChanges, mem_delaysOf, collectedEvent]
    unfold Delays
    exact hall ▸ h
  | collectFirst captureTime hs hcollect hzero hcaptured =>
    exact h.collectFirst hring hcaptures hs hcaptured
  | move => exact h
  | @advance first checkpoint pendingFrames e hfirst hnew hge hle hcaptured hcomplete hresets
      hquiet =>
    unfold Delays
    dsimp only
    rw [delayChanges_append_of_quiet (by simpa using hquiet)]
    exact ChangeLog.Records.mono h (by omega)

/-! ### The invariant -/

/-- What holds of a view in every run. -/
structure Invariant (c : ReceiverConfig) (v : ReceiverView) : Prop where
  ring : v.Ring v.checkpointFrame
  packets : v.Packets v.events
  captures : v.Captures v.events
  delays : v.Delays c
  offset : v.hasReport → v.hasOffset

theorem offset_step (h : v.hasReport → v.hasOffset) (hvw : Changes c v w) :
    w.hasReport → w.hasOffset := by
  cases hvw with
  | report => exact fun _ => rfl
  | _ => exact h

/-- **Every change keeps the invariant.** -/
theorem Invariant.step (h : v.Invariant c) (hvw : Changes c v w) : w.Invariant c :=
  have hqueue := hvw.queueChange h.offset
  ⟨h.ring.step hqueue, h.packets.step h.ring hqueue, h.captures.step h.ring h.packets hqueue,
    h.delays.step h.ring h.captures hqueue, offset_step h.offset hvw⟩

/-! ### What is known when an event happens -/

/-- The event for feedback that is sent. -/
def sentEvent (c : ReceiverConfig) (v : ReceiverView) (feedback : Receiver.Feedback) (sendTime : ℤ)
    (packet : ByteView) : ReceiverEvent :=
  .sentRtcp
    { sendTime
      checkpointFrame := v.checkpointFrame
      latestFrameExpected := v.latestFrameExpected
      packetNacks := feedback.packetNacks
      frameAcks := feedback.frameAcks
      pendingFrameAcks :=
        if c.areReceiverEventLogsEnabled then [] else feedback.pendingFrameAcks
      packet }

/-- The events of a view, other than arrivals, with what a receiver knows when it adds them. -/
inductive Emits (c : ReceiverConfig) (v : ReceiverView) : ReceiverEvent → Prop
  | completed {frameId : ℤ} : v.checkpointFrame < frameId → v.isComplete frameId →
      Emits c v (.completed frameId v.checkpointFrame)
  | sentRtcp {feedback : Receiver.Feedback} (sendTime : ℤ) (packet : ByteView) :
      v.collectFeedback c = .ok feedback → Emits c v (v.sentEvent c feedback sendTime packet)
  | resolved {frameId key delay : ℤ} : v.Resolvable frameId →
      ChangeLog.inForce v.playoutDelayChanges frameId = some (key, delay) →
      Emits c v (v.resolvedEvent frameId delay)
  | passedOver {frameId captureTime delay playerProcessingTime now : ℤ} :
      v.lastFrameConsumed < frameId → frameId ≤ v.latestFrameExpected →
      (v.getQueueEntry frameId).estimatedCaptureTime = some captureTime →
      (∃ r, .resolved r ∈ v.events ∧ r.frameId = frameId ∧ r.delay = delay) →
      captureTime + toDuration delay - playerProcessingTime ≤ now →
      Emits c v (.passedOver frameId captureTime delay playerProcessingTime now)
  | skippedTo {frameId : ℤ} : v.lastFrameConsumed + 1 < frameId → v.checkpointFrame < frameId →
      (∀ g, v.lastFrameConsumed < g → g < frameId → v.isCaptured g ∧ v.PassedOver g) →
      (v.getQueueEntry frameId).collector.frame.dependency ≠ .dependent →
      v.isComplete frameId → Emits c v (.skippedTo frameId)
  | consumed : v.lastFrameConsumed + 1 ≤ v.checkpointFrame →
      Emits c v (.consumed (v.lastFrameConsumed + 1)
        (v.getQueueEntry (v.lastFrameConsumed + 1)).collector.frame.dependency)
  | onFramesReady (size : ℕ) : Emits c v (.onFramesReady size)

/-- A change adds arrivals to the history, or one other event. -/
theorem Changes.events_eq (h : Changes c v w) :
    (∃ new, w.events = v.events ++ new ∧ ∀ e ∈ new, e.isArrival) ∨
      ∃ e, w.events = v.events ++ [e] ∧ Emits c v e := by
  cases h with
  | report => exact Or.inl ⟨[], by simp, by simp⟩
  | expect => exact Or.inl ⟨[], by simp [expectNextFrame, setQueueEntry], by simp⟩
  | reject => exact Or.inl ⟨[], by simp [setQueueEntry], by simp⟩
  | collect => exact Or.inl ⟨[_], rfl, by simp [collectedEvent, ReceiverEvent.isArrival]⟩
  | collectFirst => exact Or.inl ⟨[_, _], rfl, by simp [collectedEvent, ReceiverEvent.isArrival]⟩
  | collectUntimed => exact Or.inl ⟨[_], rfl, by simp [collectedEvent, ReceiverEvent.isArrival]⟩
  | complete rtpTimestamp hlt hcomplete => exact Or.inr ⟨_, rfl, .completed hlt hcomplete⟩
  | moveCheckpoint => exact Or.inl ⟨[], by simp, by simp⟩
  | resolve hs hforce => exact Or.inr ⟨_, rfl, .resolved hs hforce⟩
  | send sendTime packet hfeedback => exact Or.inr ⟨_, rfl, .sentRtcp sendTime packet hfeedback⟩
  | passOver hlt hle hcapture hresolved hdue =>
    exact Or.inr ⟨_, rfl, .passedOver hlt hle hcapture hresolved hdue⟩
  | consume hacked => exact Or.inr ⟨_, rfl, .consumed hacked⟩
  | skip hdrop hacked hge hle hpassed hall hdependency hcomplete =>
    exact Or.inr ⟨_, rfl, .skippedTo hdrop hacked hpassed hdependency hcomplete⟩
  | framesReady size => exact Or.inr ⟨_, rfl, .onFramesReady size⟩

variable {P : List ReceiverEvent → ReceiverEvent → Prop}

theorem Changes.explained (h : Changes c v w) (harrival : ∀ pre e, e.isArrival → P pre e)
    (hemits : ∀ e, Emits c v e → P v.events e) (hev : Explained P v.events) :
    Explained P w.events := by
  rcases h.events_eq with ⟨new, hnew, harr⟩ | ⟨e, hnew, he⟩
  · rw [hnew]
    exact hev.append_of_forall fun e he pre => harrival pre e (harr e he)
  · rw [hnew]
    exact explained_append_singleton.mpr ⟨hev, hemits e he⟩

/-- **The history rule.** Events that an invariant explains when they happen are explained. -/
theorem Reaches.explained {I : ReceiverView → Prop} (hI : ∀ v w, I v → Changes c v w → I w)
    (harrival : ∀ pre e, e.isArrival → P pre e)
    (hemits : ∀ v e, I v → Emits c v e → P v.events e) (h : Reaches c v w) (hv : I v)
    (hev : Explained P v.events) : Explained P w.events :=
  (h.invariant (P := fun v => I v ∧ Explained P v.events) (fun v w ⟨hv, hev⟩ hchange =>
    ⟨hI v w hv hchange, hchange.explained harrival (fun e => hemits v e hv) hev⟩) ⟨hv, hev⟩).2

/-- The rule for one event: what is true of the history whenever it is emitted. -/
theorem Reaches.emitted {I : ReceiverView → Prop} {Q : List ReceiverEvent → Prop}
    {e : ReceiverEvent} (he : e.isArrival = false) (hI : ∀ v w, I v → Changes c v w → I w)
    (hemits : ∀ v, I v → Emits c v e → Q v.events) (h : Reaches c v w) (hv : I v)
    (hnil : v.events = []) {pre post : List ReceiverEvent} (heq : w.events = pre ++ e :: post) :
    Q pre := by
  have hexplained := h.explained (P := fun pre e' => e' = e → Q pre) hI
    (fun _ _ harrival heq => by simp [← heq, harrival] at he)
    (fun v _ hv hemit heq => hemits v hv (heq ▸ hemit)) hv (hnil ▸ explained_nil)
  exact hexplained pre e post heq rfl

end ReceiverView

/-! ### Runs -/

namespace Receiver

open ReceiverView

variable {c : ReceiverConfig} {s : Receiver} {as : List (ℤ × ReceiverOp × ReceiverOutput)}

theorem invariant_new (c : ReceiverConfig) : (new c).view.Invariant c where
  ring := ⟨le_rfl, le_rfl, le_rfl, by simp [view, new], fun g hg hg' => absurd hg (not_lt.mpr hg'),
    fun _ _ => rfl, fun g hg hg' => absurd hg (not_lt.mpr hg')⟩
  packets := ⟨fun g hg hg' => absurd hg (not_lt.mpr hg'), fun _ _ => rfl⟩
  captures := ⟨fun g t hg _ hle => absurd (hg.trans hle) (show ¬(0 : ℤ) ≤ -1 by decide),
    fun g hg hle => absurd (hg.trans hle) (show ¬(0 : ℤ) ≤ -1 by decide),
    fun g d t h => absurd h List.not_mem_nil, fun g d t _ _ h => absurd h List.not_mem_nil,
    fun g hg hg' => absurd hg (not_lt.mpr hg')⟩
  delays := ⟨List.pairwise_singleton _ _, fun e he => Or.inl (List.mem_singleton.mp he),
    fun e he hne => hne (List.mem_singleton.mpr (he.resolve_right List.not_mem_nil)) |>.elim⟩
  offset := nofun

/-- **The invariant holds in every run.** -/
theorem invariant_of_run (h : Run (Step c) (new c) as s) : s.view.Invariant c :=
  (reaches_of_run h).invariant (fun _ _ hv hchange => hv.step hchange) (invariant_new c)

/-- **Events of runs** come after what the invariant says of the history when they are emitted. -/
theorem emitted_of_run {Q : List ReceiverEvent → Prop} {e : ReceiverEvent}
    (he : e.isArrival = false) (hemits : ∀ v, v.Invariant c → Emits c v e → Q v.events)
    (h : Run (Step c) (new c) as s) {pre post : List ReceiverEvent}
    (heq : s.events = pre ++ e :: post) : Q pre :=
  (reaches_of_run h).emitted he (fun _ _ hv hchange => hv.step hchange) hemits (invariant_new c)
    rfl heq

/-- Calls that succeed one after the other are a run. -/
theorem run_of_runOps {ops : List (ℤ × ReceiverOp)} {t : Receiver}
    (h : runOps c s ops = .ok (as, t)) : Run (Step c) s as t := by
  induction ops generalizing s as with
  | nil =>
    cases h
    exact .nil
  | cons op ops ih =>
    obtain ⟨⟨out, u⟩, hstep, h⟩ := bind_eq_ok.mp h
    obtain ⟨⟨labels, u'⟩, hrun, h⟩ := bind_eq_ok.mp h
    cases h
    have hfirst : Step c s (op.1, op.2, out) u := hstep
    exact (Run.single hfirst).append (ih hrun)

/-! ### A small session -/

/-- A session with a playout delay of 400 ms, whose clock offset is the last one measured. -/
def exampleConfig (areReceiverEventLogsEnabled : Bool) : ReceiverConfig where
  toSessionConfig := exampleSessionConfig areReceiverEventLogsEnabled
  maxPacketSize := 1472
  estimatedOffset updates := (updates.getLast?.map Prod.snd).getD 0
  maxPacketSize_pos := by decide

/-- A sender report arrives. -/
def exampleReport (time : ℤ) : ℤ × ReceiverOp :=
  (time, .onReceivedRtcpPacket time [0x80, 200, 0, 6, 0, 0, 0, 1, 0x83, 0xaa, 0x7e, 0x82,
    0, 0, 0, 0, 0, 0, 0, 0, 0, 0, 0, 0, 0, 0, 0, 0])

/-- A packet with one byte of a key frame arrives. -/
def examplePacket (time : ℤ) (frameId packetId maxPacketId : UInt8) : ℤ × ReceiverOp :=
  (time, .onReceivedRtpPacket time [0x80, 100, 0, frameId, 0, 0, 0, frameId, 0, 0, 0, 1, 0x80,
    frameId, 0, packetId, 0, maxPacketId, 0xaa])

end Receiver

end StreamerPlus
