import Mathlib
import StreamerPlus.Streaming.SenderPackets

/-!
# Steps and runs of the sender

The operations that the slots see only through what they remove, flag or send. Each rule below
reduces what an operation keeps to what it does to the frames in flight, so that an invariant
is checked against a handful of changes and never against the code of an operation.
-/

namespace StreamerPlus

open Checked FrameWindow

/-- Packets are sent at times that the clock can show. -/
def SenderOp.Timely : SenderOp → Prop
  | .getRtpPacketForImmediateSend sendTime _ => sendTime < kNever
  | _ => True

instance : DecidablePred SenderOp.Timely
  | .getRtpPacketForImmediateSend sendTime _ => inferInstanceAs (Decidable (sendTime < kNever))
  | .setObserver _ | .enqueueFrame _ | .cancelInFlightData _ | .onReceivedRtcpPacket _ _ _
  | .getRtcpPacketForImmediateSend _ _ | .getRtpResumeTime => .isTrue trivial

namespace Sender

variable {c : SessionConfig} {s t : Sender} {P Q : Sender → Prop} {E : SenderFault → Prop}

/-- One step of a sender: a call and what it returns. -/
def Step (c : SessionConfig) (s : Sender) (a : SenderOp × SenderOutput) (t : Sender) : Prop :=
  a.1.Timely ∧ s.step c a.1 = .ok (a.2, t)

/-- The senders that the constructor builds. -/
def IsNew (c : SessionConfig) (s : Sender) : Prop := ∃ packetizer, s = Sender.new c packetizer

/-- The calls `ops`, one after the other: what they return, and the state after them. -/
def runOps (c : SessionConfig) :
    Sender → List SenderOp → Except SenderFault (List (SenderOp × SenderOutput) × Sender)
  | s, [] => .ok ([], s)
  | s, op :: ops => do
    let (out, s) ← s.step c op
    let (labels, s) ← runOps c s ops
    return ((op, out) :: labels, s)

/-- Calls that succeed are a first one and the others. -/
theorem runOps_cons_eq_ok {op : SenderOp} {ops : List SenderOp}
    {labels : List (SenderOp × SenderOutput)} (h : runOps c s (op :: ops) = .ok (labels, t)) :
    ∃ out u labels', s.step c op = .ok (out, u) ∧ runOps c u ops = .ok (labels', t) ∧
      labels = (op, out) :: labels' := by
  rw [runOps, bind_eq_ok] at h
  obtain ⟨⟨out, u⟩, hstep, h⟩ := h
  rw [bind_eq_ok] at h
  obtain ⟨⟨labels', t'⟩, hrest, h⟩ := h
  cases h
  exact ⟨out, u, labels', hstep, hrest, rfl⟩

theorem run_of_runOps {ops : List SenderOp} {labels : List (SenderOp × SenderOutput)}
    (h : runOps c s ops = .ok (labels, t)) (htimely : ∀ op ∈ ops, op.Timely) :
    TransitionSystem.Run (Step c) s labels t := by
  induction ops generalizing s labels with
  | nil =>
    cases h
    exact .nil
  | cons op ops ih =>
    obtain ⟨out, u, labels', hstep, hrest, rfl⟩ := runOps_cons_eq_ok h
    have hfirst : Step c s (op, out) u := ⟨htimely op List.mem_cons_self, hstep⟩
    exact (TransitionSystem.Run.single hfirst).append
      (ih hrest fun op' hop => htimely op' (List.mem_cons_of_mem _ hop))

/-- A configuration for streams of frames without data. -/
def exampleConfig : SessionConfig := exampleSessionConfig false

/-- A packetizer for packets of 1472 bytes. -/
def examplePacketizer : RtpPacketizer := RtpPacketizer.vp8Packetizer

/-- The `id`-th frame of a stream of key frames without data, one millisecond apart. -/
def exampleFrame (id : ℤ) : EncodedFrame := ⟨.keyFrame, id, id, 90 * id, 1000 * id, 0, []⟩

/-! ### Feedback -/

/-- No ACK of a sorted list is later than its last one. -/
theorem ack_le_last {acks : List ℤ} (hsorted : acks.Pairwise (· < ·)) {last id : ℤ}
    (hlast : last ∈ acks.getLast?) (hid : id ∈ acks) : id ≤ last := by
  obtain ⟨-, rfl⟩ := List.mem_getLast?_eq_getLast hlast
  exact (hsorted.imp le_of_lt).rel_getLast hid

theorem outcome_onReceiverReport (report : RtcpReportBlock)
    (h : ∀ roundTripTime, P { s with roundTripTime }) (hE : E .arrivalTimeNever) :
    Outcome P E (s.onReceiverReport c report) := by
  unfold onReceiverReport
  exact Outcome.require_bind (fun _ => hE) fun _ => h _

/-- The frames up to `checkpoint` are removed. -/
abbrev Advances (wasAcked : Bool) (checkpoint : ℤ) : Sender → Sender → Prop :=
  Removes wasAcked (· ≤ checkpoint) checkpoint

/-- The receiver knows of the frame. -/
abbrev expect (t : Sender) (frameId : ℤ) : Sender :=
  { t with latestExpectedFrameId := max t.latestExpectedFrameId frameId }

/-- A checkpoint that the sender could not have sent is ignored; another removes the frames up
to it, before the observer is told. -/
theorem outcome_onReceiverCheckpoint {frameId playoutDelay : ℤ} (h : s.Accounted)
    (hignored : s.lastEnqueuedFrameId < frameId → P s)
    (hmoved : ∀ t, frameId ≤ s.lastEnqueuedFrameId →
      Advances true (max s.checkpointFrameId frameId) s t → Q (t.expect frameId))
    (hdispatch : ∀ t, Q t → Outcome P E (t.dispatchCancellations c))
    (hE : E .playoutDelayNegative) :
    Outcome P E (s.onReceiverCheckpoint c frameId playoutDelay) := by
  unfold onReceiverCheckpoint
  split_ifs with hlast
  · exact hignored hlast
  · refine Outcome.require_bind (fun _ => hE) fun _ => ?_
    obtain ⟨t, ht, hadvances⟩ := exists_advanceCheckpoint true
      (n := (frameId - s.checkpointFrameId).toNat) h (by have := h.le_last; omega)
    have hmax : s.checkpointFrameId + ((frameId - s.checkpointFrameId).toNat : ℤ) =
        max s.checkpointFrameId frameId := by omega
    rw [hmax] at hadvances
    rw [ht, ok_bind]
    exact hdispatch _ (hmoved t (not_lt.mp hlast) hadvances)

/-- ACKs that the sender could not have earned are ignored; others remove their frames. -/
theorem outcome_onReceiverHasFrames {acks : List ℤ} {last : ℤ} (h : s.Accounted)
    (hignored : s.lastEnqueuedFrameId < last → P s)
    (hmoved : ∀ t, last ≤ s.lastEnqueuedFrameId →
      Removes true (· ∈ acks) s.checkpointFrameId s t → Q (t.expect last))
    (hdispatch : ∀ t, Q t → Outcome P E (t.dispatchCancellations c)) :
    Outcome P E (s.onReceiverHasFrames c acks last) := by
  unfold onReceiverHasFrames
  split_ifs with hlast
  · exact hignored hlast
  · obtain ⟨t, ht, hremoves⟩ := exists_ackFrames h acks
    rw [ht, ok_bind]
    exact hdispatch _ (hmoved t (not_lt.mp hlast) hremoves)

/-- `CancelInFlightData` removes every frame. -/
theorem outcome_cancelInFlightData (h : s.Accounted)
    (hmoved : ∀ t, Advances false s.lastEnqueuedFrameId s t → Q t)
    (hdispatch : ∀ t, Q t → Outcome P E (t.dispatchCancellations c)) :
    Outcome P E (s.cancelInFlightData c) := by
  unfold cancelInFlightData
  have hle := h.le_last
  obtain ⟨t, ht, hadvances⟩ := exists_advanceCheckpoint false
    (n := (s.lastEnqueuedFrameId - s.checkpointFrameId).toNat) h (by omega)
  rw [show s.checkpointFrameId + ((s.lastEnqueuedFrameId - s.checkpointFrameId).toNat : ℤ) =
    s.lastEnqueuedFrameId by omega] at hadvances
  rw [ht, ok_bind]
  exact hdispatch _ (hmoved t hadvances)

variable {r : RtcpParseResults}

/-- The checkpoint leads from `A` to `B`, the ACKs to `D`, and the NACKs, if any, to `P`. -/
structure FeedbackRules (c : SessionConfig) (r : RtcpParseResults) (A B D P : Sender → Prop)
    (E : SenderFault → Prop) : Prop where
  none : r.checkpointFrameId = none → ∀ s, A s → B s
  checkpoint : ∀ frameId ∈ r.checkpointFrameId, ∀ s, A s →
    Outcome B E (s.onReceiverCheckpoint c frameId r.targetPlayoutDelay)
  nil : r.receivedFrames = [] → ∀ s, B s → D s
  acks : ∀ last ∈ r.receivedFrames.getLast?, ∀ s, B s →
    Outcome D E (s.onReceiverHasFrames c r.receivedFrames last)
  empty : r.packetNacks = [] → ∀ s, D s → P s

variable {A B D : Sender → Prop}

/-- The calls of `CompoundRtcpParser::Parse`, one after the other. -/
theorem outcome_onParsed
    (hs : A s) (hreport : ∀ report ∈ r.receiverReport, Outcome A E (s.onReceiverReport c report))
    (k : FeedbackRules c r A B D P E)
    (hnacks : ∀ s, D s → Outcome P E (s.onReceiverIsMissingPackets r.packetNacks))
    (hloss : ∀ s, P s → Outcome P E (s.onReceiverIndicatesPictureLoss c)) :
    Outcome P E (s.onParsed c r) := by
  unfold onParsed
  refine Outcome.bind (Q := A) ?_ fun s₁ h₁ => Outcome.bind (Q := B) ?_ fun s₂ h₂ =>
    Outcome.bind (Q := D) ?_ fun s₃ h₃ => Outcome.bind (Q := P) ?_ fun s₄ h₄ => ?_
  · cases hr : r.receiverReport with
    | none => exact hs
    | some report => exact hreport report hr
  · cases hr : r.checkpointFrameId with
    | none => exact k.none hr _ h₁
    | some frameId => exact k.checkpoint frameId hr _ h₁
  · cases hr : r.receivedFrames.getLast? with
    | none => exact k.nil (List.getLast?_eq_none_iff.mp hr) _ h₂
    | some last => exact k.acks last hr _ h₂
  · split_ifs with hr
    · exact k.empty (List.isEmpty_iff.mp hr) _ h₃
    · exact hnacks _ h₃
  · split_ifs
    · exact hloss _ h₄
    · exact h₄

/-- An RTCP packet: it may be corrupt, outdated or dispatched. -/
theorem outcome_onReceivedRtcpPacket {arrivalTime : ℤ} {packet : ByteView}
    (hE : ∀ f, E (.span f))
    (hrejected : ∀ rtcpParser,
      s.rtcpParser.parse c.session packet s.lastEnqueuedFrameId = .ok (.rejected, rtcpParser) →
      P { s with rtcpPacketArrivalTime := arrivalTime, rtcpParser })
    (hemit : ∀ (t : Sender) a r, Q t → P (t.emit (.onRtcpReceived a r)))
    (houtdated : ∀ rtcpParser,
      s.rtcpParser.parse c.session packet s.lastEnqueuedFrameId = .ok (.outdated, rtcpParser) →
      Q { s with rtcpPacketArrivalTime := arrivalTime, rtcpParser })
    (hdispatched : ∀ r rtcpParser,
      s.rtcpParser.parse c.session packet s.lastEnqueuedFrameId =
        .ok (.dispatched r, rtcpParser) →
      Outcome Q E
        (onParsed c { s with rtcpPacketArrivalTime := arrivalTime, rtcpParser } r)) :
    Outcome P E (s.onReceivedRtcpPacket c arrivalTime packet) := by
  unfold onReceivedRtcpPacket
  cases hparse : s.rtcpParser.parse c.session packet s.lastEnqueuedFrameId with
  | error f => exact hE f
  | ok r =>
    obtain ⟨outcome, rtcpParser⟩ := r
    cases outcome with
    | rejected => exact hrejected rtcpParser hparse
    | outdated => exact hemit _ _ _ (houtdated rtcpParser hparse)
    | dispatched r =>
      exact (hdispatched r rtcpParser hparse).bind fun t ht => hemit t _ _ ht

/-- A picture loss that is not ignored is noted and told to the observer. -/
theorem outcome_onReceiverIndicatesPictureLoss (h : P s)
    (hlost : P { s with pictureLostAtFrameId := s.checkpointFrameId })
    (hreact : ∀ t, P t → Outcome P E ((t.emit .onPictureLost).react c)) :
    Outcome P E (s.onReceiverIndicatesPictureLoss c) := by
  unfold onReceiverIndicatesPictureLoss
  dsimp only
  split_ifs
  · exact h
  · exact hreact _ hlost
  · exact hlost

/-! ### The rule for a whole step -/

/-- The assertions that are not about the frames in flight. -/
def IsAside : SenderFault → Prop
  | .nothingChosen | .octetCountNegative | .arrivalTimeNever | .playoutDelayNegative
  | .sameObserver | .packetizer _ | .rtcp _ | .span _ => True
  | _ => False

/-- What an invariant `P` has to survive apart from feedback and sending. `Q` is what holds of a
state from which frames have been removed and whose observer has not been told yet; `E` are the
assertions that may fail. -/
structure CallRules (c : SessionConfig) (P Q : Sender → Prop) (E : SenderFault → Prop) : Prop where
  accounted : ∀ s, P s → s.Accounted
  enqueue : ∀ s frame, P s → Outcome (fun r => P r.2) E (s.enqueueFrame c frame)
  dispatch : ∀ s, Q s → Outcome P E (s.dispatchCancellations c)
  pictureLost : ∀ s, P s → Outcome P E ((s.emit .onPictureLost).react c)
  emit : ∀ (s : Sender) arrivalTime roundTripTime, P s →
    P (s.emit (.onRtcpReceived arrivalTime roundTripTime))
  aside : ∀ (s : Sender) rtcpParser rtcpPacketArrivalTime roundTripTime pictureLostAtFrameId
    reactions, P s → P { s with
      rtcpParser, rtcpPacketArrivalTime, roundTripTime, pictureLostAtFrameId, reactions }
  fault : ∀ f, IsAside f → E f

/-- The rules for a property that also survives the calls of the observer. -/
theorem Kept.callRules (k : Kept P E)
    (aside : ∀ (s : Sender) rtcpParser rtcpPacketArrivalTime roundTripTime pictureLostAtFrameId
      reactions, P s → P { s with
        rtcpParser, rtcpPacketArrivalTime, roundTripTime, pictureLostAtFrameId, reactions })
    (fault : ∀ f, IsAside f → E f) : CallRules c P P E where
  accounted := k.accounted
  enqueue _ frame h := k.enqueueFrame h frame
  dispatch _ h := k.dispatchCancellations h
  pictureLost s h := k.react (k.emit s _ rfl rfl h)
  emit s _ _ h := k.emit s _ rfl rfl h
  aside
  fault

/-- The rules for an invariant that survives any feedback and any packet that is sent. -/
structure StepRules (c : SessionConfig) (P Q : Sender → Prop) (E : SenderFault → Prop) : Prop
    extends CallRules c P Q E where
  checkpoint : ∀ s t frameId, P s → frameId ≤ s.lastEnqueuedFrameId →
    Advances true (max s.checkpointFrameId frameId) s t → Q (t.expect frameId)
  acks : ∀ s t (acks : List ℤ) last, P s → acks.Pairwise (· < ·) → last ∈ acks.getLast? →
    last ≤ s.lastEnqueuedFrameId → Removes true (· ∈ acks) s.checkpointFrameId s t →
    Q (t.expect last)
  nacks : ∀ (s : Sender) nacks threshold w events, P s →
    (events = [] ∨ events = [.requestRtpSend]) → Nacked nacks threshold s.toFrameWindow w →
    P { s with toFrameWindow := w, events := s.events ++ events }
  send : ∀ (s : Sender) sendTime chosen frame packetizer size, P s → sendTime < kNever →
    s.Chooses sendTime chosen frame → P (s.recordSend chosen sendTime packetizer size)

theorem CallRules.onParsed (k : CallRules c P Q E) (h : ∀ roundTripTime, A { s with roundTripTime })
    (hfeedback : FeedbackRules c r A B D P E)
    (hnacks : ∀ (s : Sender) w events, D s → (events = [] ∨ events = [.requestRtpSend]) →
      Nacked r.packetNacks (s.rtcpPacketArrivalTime - s.roundTripTime) s.toFrameWindow w →
      P { s with toFrameWindow := w, events := s.events ++ events }) :
    Outcome P E (s.onParsed c r) := by
  refine outcome_onParsed (h s.roundTripTime) (fun report _ => ?_) hfeedback (fun s hs => ?_)
    (fun s hs => ?_)
  · exact outcome_onReceiverReport report h (k.fault _ trivial)
  · refine (outcome_onReceiverIsMissingPackets s r.packetNacks).mono ?_ ?_
    · rintro t ⟨w, events, rfl, hevents, hnacked⟩
      exact hnacks s w events hs hevents hnacked
    · rintro f rfl
      exact k.fault _ trivial
  · exact outcome_onReceiverIndicatesPictureLoss hs (k.aside s _ _ _ _ _ hs) k.pictureLost

theorem StepRules.onParsed (k : StepRules c P Q E) (h : P s)
    (hsorted : r.receivedFrames.Pairwise (· < ·)) : Outcome P E (s.onParsed c r) := by
  refine k.toCallRules.onParsed (fun _ => k.aside s _ _ _ _ _ h) ⟨fun _ _ => id,
      fun frameId _ s hs => ?_, fun _ _ => id, fun last hlast s hs => ?_, fun _ _ => id⟩
    (fun s w events hs => k.nacks s _ _ w events hs)
  · exact outcome_onReceiverCheckpoint (k.accounted s hs) (fun _ => hs)
      (fun t => k.checkpoint s t frameId hs) k.dispatch (k.fault _ trivial)
  · exact outcome_onReceiverHasFrames (k.accounted s hs) (fun _ => hs)
      (fun t => k.acks s t _ last hs hsorted hlast) k.dispatch

/-- The call keeps `P`, but for those that are left to the caller: cancelling everything, feedback,
sending a packet and setting the observer. -/
theorem CallRules.step (k : CallRules c P Q E) (h : P s) {op : SenderOp}
    (hcancel : ∀ reactions, op = .cancelInFlightData reactions → ∀ t,
      Advances false s.lastEnqueuedFrameId { s with reactions } t → Q t)
    (hfeedback : ∀ arrivalTime packet reactions,
      op = .onReceivedRtcpPacket arrivalTime packet reactions →
      ∀ r rtcpParser, s.rtcpParser.parse c.session packet s.lastEnqueuedFrameId =
        .ok (.dispatched r, rtcpParser) →
      Outcome P E (Sender.onParsed c
        { s with reactions, rtcpPacketArrivalTime := arrivalTime, rtcpParser } r))
    (hsend : ∀ sendTime bufferSize, op = .getRtpPacketForImmediateSend sendTime bufferSize →
      ∀ chosen frame packetizer size, s.Chooses sendTime chosen frame →
      P (s.recordSend chosen sendTime packetizer size))
    (hobserver : ∀ observer, op = .setObserver observer → P { s with observer })
    (hkick : ∀ f, s.chooseNextRtpPacketNeedingSend = none → s.KickstartFault f → E f) :
    Outcome (fun r => P r.2) E (s.step c op) := by
  have hacc := k.accounted s h
  cases op with
  | setObserver observer =>
    exact Outcome.bind (Q := P)
      (Outcome.require_bind (fun _ => k.fault _ trivial) fun _ => hobserver observer rfl)
      fun _ ht => ht
  | enqueueFrame frame => exact (k.enqueue s frame h).bind fun _ ht => ht
  | cancelInFlightData reactions =>
    exact Outcome.bind (Q := P)
      (outcome_cancelInFlightData (s := { s with reactions }) hacc (hcancel reactions rfl)
        k.dispatch) fun _ ht => ht
  | onReceivedRtcpPacket arrivalTime packet reactions =>
    exact Outcome.bind (Q := P)
      (outcome_onReceivedRtcpPacket (s := { s with reactions }) (fun _ => k.fault _ trivial)
        (fun _ _ => k.aside s _ _ _ _ _ h) k.emit (fun _ _ => k.aside s _ _ _ _ _ h)
        (hfeedback arrivalTime packet reactions rfl)) fun _ ht => ht
  | getRtcpPacketForImmediateSend sendTime bufferSize =>
    refine Outcome.bind (Q := fun _ => True) ?_ fun _ _ => h
    unfold getRtcpPacketForImmediateSend
    split_ifs
    · trivial
    · refine Outcome.bind (Q := fun _ => True) ?_ fun _ _ => trivial
      cases SenderReportBuilder.buildPacket c.session _ bufferSize with
      | ok r => trivial
      | error f => exact k.fault _ trivial
  | getRtpPacketForImmediateSend sendTime bufferSize =>
    refine Outcome.bind ((outcome_getRtpPacketForImmediateSend hacc sendTime bufferSize).mono
      (fun _ => id) ?_) ?_
    · rintro f (rfl | rfl | ⟨g, rfl⟩ | ⟨hnone, hf⟩)
      · exact k.fault _ trivial
      · exact k.fault _ trivial
      · exact k.fault _ trivial
      · exact hkick f hnone hf
    · rintro r (rfl | ⟨chosen, frame, bytes, packetizer, hchooses, -, rfl⟩)
      · exact h
      · exact hsend sendTime bufferSize rfl chosen frame packetizer _ hchooses
  | getRtpResumeTime =>
    refine Outcome.bind (Q := fun _ => True) ?_ fun _ _ => h
    unfold getRtpResumeTime
    split_ifs with hnext
    · trivial
    · refine Outcome.map
        ((outcome_chooseKickstartPacket hacc).mono (fun _ _ => trivial) fun f hf => ?_)
      exact hkick f (by simpa using hnext) hf

/-- The call keeps `P`, but for two that are left to the caller: cancelling everything and
setting the observer. -/
theorem StepRules.step (k : StepRules c P Q E) (h : P s) {op : SenderOp} (htimely : op.Timely)
    (hcancel : ∀ reactions, op = .cancelInFlightData reactions → ∀ t,
      Advances false s.lastEnqueuedFrameId { s with reactions } t → Q t)
    (hobserver : ∀ observer, op = .setObserver observer → P { s with observer })
    (hkick : ∀ f, s.chooseNextRtpPacketNeedingSend = none → s.KickstartFault f → E f) :
    Outcome (fun r => P r.2) E (s.step c op) :=
  k.toCallRules.step h hcancel
    (fun _ _ _ _ _ _ hparse => k.onParsed (k.aside s _ _ _ _ _ h)
      (CompoundRtcpParser.receivedFrames_sorted hparse))
    (fun sendTime _ hop chosen frame packetizer size => k.send s sendTime chosen frame packetizer
      size h (by rwa [hop] at htimely))
    hobserver hkick

end Sender

end StreamerPlus
