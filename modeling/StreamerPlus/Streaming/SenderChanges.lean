import StreamerPlus.Streaming.SenderRun

/-!
# The changes of a sender

A call of the sender may do several things in a row: an RTCP packet reports a round trip time,
moves the checkpoint and tells of a lost picture, and the observer may enqueue frames while it is
told of any of it. `Changes` are the things that it does one by one, as far as they touch what the
choice of key frames and the round trip time depend on: a frame is enqueued, a receiver report or
a picture loss is processed, or the checkpoint moves on. Everything else is `other`.

A picture loss is a change of a call only if the call is an RTCP packet whose results have the
picture loss indicator, and then it is one change at most: `Reaches` counts them.

Main results:

* `Calls.unfolds`: a call is its receiver report, followed by other changes.
* `exists_unfolded`: so is a run of calls, call by call.
* `shown_of_run`: the history shows the frames and the picture losses in the order of the changes.
-/

namespace StreamerPlus

open Checked TransitionSystem

/-- What a sender does, one by one. `notified` says whether there is an observer to be told. -/
inductive SenderChange
  | enqueue (frame : EncodedFrame)
  | report (block : RtcpReportBlock)
  | pictureLoss (notified : Bool)
  | other
  deriving DecidableEq, Repr

/-- The event of the history that a change is seen by. -/
def SenderChange.event : SenderChange → List SenderEvent
  | .enqueue frame => [.enqueued frame.frameId]
  | .pictureLoss true => [.onPictureLost]
  | .pictureLoss false | .report _ | .other => []

/-- The change is a picture loss. -/
def SenderChange.isPictureLoss : SenderChange → Bool
  | .pictureLoss _ => true
  | _ => false

/-- The change is no receiver report. -/
def SenderChange.Quiet : SenderChange → Prop
  | .report _ => False
  | _ => True

/-- The event is the enqueuing of a frame or a picture loss. -/
def SenderEvent.shows : SenderEvent → Bool
  | .enqueued _ | .onPictureLost => true
  | _ => false

namespace Sender

/-- The history of the frames and the picture losses. -/
def shown (s : Sender) : List SenderEvent := s.events.filter SenderEvent.shows

/-- Nothing that key frames and the round trip time depend on is changed, but for the
checkpoint, which moves on among the enqueued frames. -/
structure Idle (s t : Sender) : Prop where
  lastEnqueuedKeyFrameId : t.lastEnqueuedKeyFrameId = s.lastEnqueuedKeyFrameId
  pictureLostAtFrameId : t.pictureLostAtFrameId = s.pictureLostAtFrameId
  lastEnqueuedFrameId : t.lastEnqueuedFrameId = s.lastEnqueuedFrameId
  roundTripTime : t.roundTripTime = s.roundTripTime
  targetPlayoutDelay : t.targetPlayoutDelay = s.targetPlayoutDelay
  shown : t.shown = s.shown
  le_checkpoint : s.checkpointFrameId ≤ t.checkpointFrameId
  checkpoint_le : t.checkpointFrameId ≤ max s.checkpointFrameId s.lastEnqueuedFrameId

/-- A picture loss that is not ignored, up to the call of the observer. -/
def losePicture (s : Sender) : Sender :=
  let t := { s with pictureLostAtFrameId := s.checkpointFrameId }
  if s.observer.isSome then t.emit .onPictureLost else t

/-- The changes of a sender. -/
inductive Changes (c : SessionConfig) : Sender → SenderChange → Sender → Prop
  | enqueue {s t : Sender} {frame : EncodedFrame} :
      s.enqueueFrame c frame = .ok (.ok, t) → Changes c s (.enqueue frame) t
  | report {s t : Sender} {block : RtcpReportBlock} :
      s.onReceiverReport c block = .ok t → Changes c s (.report block) t
  | pictureLoss {s : Sender} : s.lastEnqueuedKeyFrameId ≤ s.checkpointFrameId →
      Changes c s (.pictureLoss s.observer.isSome) s.losePicture
  | other {s t : Sender} : Idle s t → Changes c s .other t

/-- Changes other than receiver reports, at most `n` of them picture losses, lead from `s` to
`t`. -/
def Reaches (c : SessionConfig) (n : ℕ) (s t : Sender) : Prop :=
  ∃ changes, Run (Changes c) s changes t ∧ (∀ a ∈ changes, a.Quiet) ∧
    changes.countP SenderChange.isPictureLoss ≤ n

variable {c : SessionConfig} {s t u : Sender} {α : Type} {m n : ℕ}

theorem Reaches.refl : Reaches c n s s := ⟨[], .nil, by simp, Nat.zero_le n⟩

theorem Reaches.trans (h : Reaches c m s t) (h' : Reaches c n t u) : Reaches c (m + n) s u := by
  obtain ⟨as, hrun, has, hcount⟩ := h
  obtain ⟨bs, hrun', hbs, hcount'⟩ := h'
  refine ⟨as ++ bs, hrun.append hrun', fun a ha => (List.mem_append.mp ha).elim (has a) (hbs a), ?_⟩
  rw [List.countP_append]
  exact Nat.add_le_add hcount hcount'

/-- Before other changes there may be some without a picture loss. -/
theorem Reaches.before (h : Reaches c 0 s t) (h' : Reaches c n t u) : Reaches c n s u :=
  Nat.zero_add n ▸ h.trans h'

theorem Reaches.of_change {a : SenderChange} (h : Changes c s a t) (ha : a.Quiet) :
    Reaches c (if a.isPictureLoss then 1 else 0) s t :=
  ⟨[a], .single h, by simpa using ha, List.countP_singleton.le⟩

theorem Idle.reaches (h : Idle s t) : Reaches c 0 s t := .of_change (.other h) trivial

/-- A computation whose results are reached from `s`. -/
def ReachesAll (c : SessionConfig) (n : ℕ) (s : Sender) (x : Except SenderFault Sender) : Prop :=
  Outcome (Reaches c n s) (fun _ => True) x

theorem ReachesAll.bind {x : Except SenderFault Sender} {f : Sender → Except SenderFault Sender}
    (hx : ReachesAll c 0 s x) (hf : ∀ t, ReachesAll c n t (f t)) : ReachesAll c n s (x >>= f) :=
  Outcome.bind hx fun t ht => (hf t).mono (fun _ hu => ht.before hu) fun _ => id

theorem ReachesAll.of_idle {x : Except SenderFault Sender} (h : Idle s t)
    (hx : ReachesAll c n t x) : ReachesAll c n s x :=
  Outcome.mono hx (fun _ hu => h.reaches.before hu) fun _ => id

/-- Fields that the changes do not look at, and events that do not show. -/
theorem idle_of_eq (hwindow : t.toFrameWindow = s.toFrameWindow)
    (hkey : t.lastEnqueuedKeyFrameId = s.lastEnqueuedKeyFrameId)
    (hlost : t.pictureLostAtFrameId = s.pictureLostAtFrameId)
    (htime : t.roundTripTime = s.roundTripTime)
    (hdelay : t.targetPlayoutDelay = s.targetPlayoutDelay) (hshown : t.shown = s.shown) :
    Idle s t where
  lastEnqueuedKeyFrameId := hkey
  pictureLostAtFrameId := hlost
  lastEnqueuedFrameId := by rw [hwindow]
  roundTripTime := htime
  targetPlayoutDelay := hdelay
  shown := hshown
  le_checkpoint := by rw [hwindow]
  checkpoint_le := by
    rw [hwindow]
    exact le_max_left _ _

theorem idle_emit {event : SenderEvent} (h : event.shows = false) : Idle s (s.emit event) :=
  idle_of_eq rfl rfl rfl rfl rfl (by simp [Sender.shown, emit, h])

/-! ### The functions of the sender -/

/-- A frame is turned away and nothing changes, or it is the next one and is recorded. -/
theorem enqueueFrame_cases {frame : EncodedFrame} {result : EnqueueFrameResult}
    (h : s.enqueueFrame c frame = .ok (result, t)) :
    result ≠ .ok ∧ t = s ∨ result = .ok ∧ frame.frameId = s.lastEnqueuedFrameId + 1 ∧
      ∃ packetCount, t = s.recordEnqueue (c.encrypt frame) packetCount := by
  unfold enqueueFrame at h
  simp only [require_bind_eq_ok] at h
  obtain ⟨hnext, -, -, h⟩ := h
  -- the conditions are taken one by one: the last one does not depend on the duration
  by_cases hspan : frame.frameId - s.checkpointFrameId > kMaxUnackedFrames
  · rw [if_pos hspan] at h
    cases h
    exact .inl ⟨by rintro ⟨⟩, rfl⟩
  rw [if_neg hspan] at h
  obtain ⟨duration, -, h⟩ := bind_eq_ok.mp h
  by_cases hlong : duration > s.getMaxInFlightMediaDuration
  · rw [if_pos hlong] at h
    cases h
    exact .inl ⟨by rintro ⟨⟩, rfl⟩
  rw [if_neg hlong] at h
  simp only [require_bind_eq_ok, recordEnqueue_setSlot] at h
  obtain ⟨hfree, h⟩ := h
  have hback := setSlot_reset_assign hfree (c.encrypt frame)
  dsimp only at h hback
  rw [hback, rtpPacketizer_setSlot] at h
  by_cases hcount : s.rtpPacketizer.computeNumberOfPackets (c.encrypt frame) ≤ 0
  · rw [if_pos hcount] at h
    cases h
    exact .inl ⟨by rintro ⟨⟩, rfl⟩
  rw [if_neg hcount] at h
  simp only [require_bind_eq_ok] at h
  cases h.2
  exact .inr ⟨rfl, hnext, _, rfl⟩

theorem reachesAll_enqueueFrame (frame : EncodedFrame) :
    ReachesAll c 0 s (Prod.snd <$> s.enqueueFrame c frame) := by
  cases h : s.enqueueFrame c frame with
  | error e => trivial
  | ok r =>
    obtain ⟨result, t⟩ := r
    rcases enqueueFrame_cases h with ⟨-, rfl⟩ | ⟨rfl, -, -⟩
    · exact Reaches.refl
    · exact Reaches.of_change (.enqueue h) trivial

/-- A loop whose rounds are reached one from the other. -/
theorem reachesAll_foldlM {f : Sender → α → Except SenderFault Sender}
    (hf : ∀ s a, ReachesAll c 0 s (f s a)) (l : List α) : ReachesAll c 0 s (l.foldlM f s) := by
  induction l generalizing s with
  | nil => exact Reaches.refl
  | cons a l ih =>
    rw [List.foldlM_cons]
    exact (hf s a).bind fun t => ih

theorem reachesAll_react : ReachesAll c 0 s (s.react c) := by
  unfold react
  split
  · exact Reaches.refl
  · next frames reactions _ =>
    have hidle : Idle s { s with reactions := reactions } :=
      idle_of_eq rfl rfl rfl rfl rfl rfl
    exact .of_idle hidle (reachesAll_foldlM (fun s frame => reachesAll_enqueueFrame frame) _)

theorem reachesAll_dispatchCancellations : ReachesAll c 0 s (s.dispatchCancellations c) := by
  unfold dispatchCancellations
  refine ReachesAll.bind ?_ fun t => ?_
  · split_ifs
    · exact reachesAll_foldlM (fun s id => .of_idle (idle_emit rfl) reachesAll_react) _
    · exact Reaches.refl
  · have hidle : Idle t
        { t with pendingCancellations := [], events := t.events ++ [.dispatched] } :=
      idle_of_eq rfl rfl rfl rfl rfl (by simp [Sender.shown, SenderEvent.shows])
    exact hidle.reaches

theorem shown_release (frame : EncryptedFrame) (wasAcked : Bool) :
    (s.release frame wasAcked).shown = s.shown := by
  cases wasAcked <;> simp [Sender.shown, release, SenderEvent.shows]

/-- A frame that is removed leaves the ids alone. -/
theorem cancelPendingFrame_idle (frameId : ℤ) (wasAcked : Bool) :
    Outcome (fun t => Idle s t ∧ t.checkpointFrameId = s.checkpointFrameId) (fun _ => True)
      (s.cancelPendingFrame frameId wasAcked) := by
  have hsame : Idle s s ∧ s.checkpointFrameId = s.checkpointFrameId :=
    ⟨idle_of_eq rfl rfl rfl rfl rfl rfl, rfl⟩
  unfold cancelPendingFrame
  split
  · exact hsame
  · split_ifs
    · refine Outcome.require_bind (fun _ => trivial) fun _ => ⟨?_, rfl⟩
      exact ⟨rfl, rfl, rfl, rfl, rfl, shown_release _ _, le_rfl, le_max_left _ _⟩
    · exact hsame

theorem Idle.trans (h : Idle s t) (h' : Idle t u) : Idle s u where
  lastEnqueuedKeyFrameId := h'.lastEnqueuedKeyFrameId.trans h.lastEnqueuedKeyFrameId
  pictureLostAtFrameId := h'.pictureLostAtFrameId.trans h.pictureLostAtFrameId
  lastEnqueuedFrameId := h'.lastEnqueuedFrameId.trans h.lastEnqueuedFrameId
  roundTripTime := h'.roundTripTime.trans h.roundTripTime
  targetPlayoutDelay := h'.targetPlayoutDelay.trans h.targetPlayoutDelay
  shown := h'.shown.trans h.shown
  le_checkpoint := h.le_checkpoint.trans h'.le_checkpoint
  checkpoint_le := by
    have h₁ := h.checkpoint_le
    have h₂ := h'.checkpoint_le
    rw [h.lastEnqueuedFrameId] at h₂
    omega

/-- The loop over the checkpoint stays among the enqueued frames. -/
theorem advanceCheckpoint_idle (wasAcked : Bool) {n : ℕ}
    (hn : (n : ℤ) ≤ max 0 (s.lastEnqueuedFrameId - s.checkpointFrameId)) :
    Outcome (Idle s) (fun _ => True) (advanceCheckpoint wasAcked n s) := by
  induction n generalizing s with
  | zero => exact idle_of_eq rfl rfl rfl rfl rfl rfl
  | succ n ih =>
    have hmove : Idle s { s with checkpointFrameId := s.checkpointFrameId + 1 } :=
      ⟨rfl, rfl, rfl, rfl, rfl, rfl, by dsimp only; omega, by dsimp only; omega⟩
    unfold advanceCheckpoint
    refine (cancelPendingFrame_idle _ _).bind fun t ht => ?_
    have hlast : t.lastEnqueuedFrameId = s.lastEnqueuedFrameId := ht.1.lastEnqueuedFrameId
    have hcheckpoint : t.checkpointFrameId = s.checkpointFrameId + 1 := ht.2
    exact (ih (by omega)).mono (fun u hu => (hmove.trans ht.1).trans hu) fun _ => id

theorem reachesAll_cancelInFlightData : ReachesAll c 0 s (s.cancelInFlightData c) := by
  unfold cancelInFlightData
  refine Outcome.bind (advanceCheckpoint_idle false (by omega)) fun t ht => ?_
  exact ReachesAll.of_idle ht reachesAll_dispatchCancellations

theorem reachesAll_onReceiverCheckpoint (frameId playoutDelay : ℤ) :
    ReachesAll c 0 s (s.onReceiverCheckpoint c frameId playoutDelay) := by
  unfold onReceiverCheckpoint
  split_ifs with hlast
  · exact Reaches.refl
  · refine Outcome.require_bind (fun _ => trivial) fun _ => ?_
    refine Outcome.bind (advanceCheckpoint_idle true (by omega)) fun t ht => ?_
    refine ReachesAll.of_idle (ht.trans ?_) reachesAll_dispatchCancellations
    exact ⟨rfl, rfl, rfl, rfl, rfl, rfl, le_rfl, le_max_left _ _⟩

theorem reachesAll_onReceiverHasFrames (acks : List ℤ) (last : ℤ) :
    ReachesAll c 0 s (s.onReceiverHasFrames c acks last) := by
  unfold onReceiverHasFrames
  split_ifs
  · exact Reaches.refl
  · refine ReachesAll.bind (reachesAll_foldlM (fun s frameId => ?_) _) fun t => ?_
    · exact (cancelPendingFrame_idle frameId true).mono (fun _ ht => ht.1.reaches) fun _ => id
    · refine ReachesAll.of_idle ?_ reachesAll_dispatchCancellations
      exact ⟨rfl, rfl, rfl, rfl, rfl, rfl, le_rfl, le_max_left _ _⟩

theorem reachesAll_onReceiverIsMissingPackets (nacks : List PacketNack) :
    ReachesAll c 0 s (s.onReceiverIsMissingPackets nacks) := by
  refine (outcome_onReceiverIsMissingPackets s nacks).mono ?_ fun _ _ => trivial
  rintro t ⟨w, events, rfl, hevents, hnacked⟩
  refine Idle.reaches ⟨rfl, rfl, hnacked.last, rfl, rfl, ?_, hnacked.checkpoint.ge,
    hnacked.checkpoint.le.trans (le_max_left _ _)⟩
  rcases hevents with rfl | rfl <;> simp [Sender.shown, SenderEvent.shows]

theorem reachesAll_onReceiverIndicatesPictureLoss :
    ReachesAll c 1 s (s.onReceiverIndicatesPictureLoss c) := by
  unfold onReceiverIndicatesPictureLoss
  split_ifs with hkey
  · exact Reaches.refl
  · have hloss : Reaches c 1 s s.losePicture := .of_change (.pictureLoss (not_lt.mp hkey)) trivial
    unfold losePicture at hloss
    dsimp only at hloss ⊢
    split_ifs with hobserver
    · rw [if_pos hobserver] at hloss
      exact Outcome.mono reachesAll_react (fun _ hu => hloss.trans hu) fun _ => id
    · rw [if_neg hobserver] at hloss
      exact hloss

/-- Sending a packet touches only its slot, the counters and the packetizer. -/
theorem getRtpPacketForImmediateSend_idle {sendTime : ℤ} {bufferSize : ℕ}
    {packet : Option SentPacket}
    (h : s.getRtpPacketForImmediateSend sendTime bufferSize = .ok (packet, t)) : Idle s t := by
  unfold getRtpPacketForImmediateSend at h
  obtain ⟨choice, -, h⟩ := bind_eq_ok.mp h
  cases choice with
  | none =>
    cases h
    exact ⟨rfl, rfl, rfl, rfl, rfl, rfl, le_rfl, le_max_left _ _⟩
  | some chosen =>
    dsimp only at h
    cases hframe : (s.pendingFrames chosen.slot).frame with
    | none =>
      rw [hframe] at h
      cases h
    | some frame =>
      rw [hframe] at h
      obtain ⟨⟨bytes, rtpPacketizer⟩, -, h⟩ := bind_eq_ok.mp h
      rw [require_bind_eq_ok] at h
      cases h.2
      exact ⟨rfl, rfl, rfl, rfl, rfl, rfl, le_rfl, le_max_left _ _⟩

/-! ### Calls and runs -/

/-- One call and what it returns, at whatever time. -/
def Calls (c : SessionConfig) (s : Sender) (a : SenderOp × SenderOutput) (t : Sender) : Prop :=
  s.step c a.1 = .ok (a.2, t)

/-- The arrival time and the receiver report of an RTCP packet that is dispatched. -/
def reportOf (c : SessionConfig) (s : Sender) : SenderOp → Option (ℤ × RtcpReportBlock)
  | .onReceivedRtcpPacket arrivalTime packet _ =>
    match s.rtcpParser.parse c.session packet s.lastEnqueuedFrameId with
    | .ok (.dispatched r, _) => r.receiverReport.map (arrivalTime, ·)
    | _ => none
  | _ => none

/-- The picture losses that a call may process: one if it is an RTCP packet that is dispatched with
the picture loss indicator. -/
def pictureLossesOf (c : SessionConfig) (s : Sender) : SenderOp → ℕ
  | .onReceivedRtcpPacket _ packet _ =>
    match s.rtcpParser.parse c.session packet s.lastEnqueuedFrameId with
    | .ok (.dispatched r, _) => if r.pictureLossIndicator then 1 else 0
    | _ => 0
  | _ => 0

/-- The sender processes the report that arrives at a time, if there is one. -/
def Reports (c : SessionConfig) (s : Sender) :
    Option (ℤ × RtcpReportBlock) → Sender → Prop
  | none, t => t = s
  | some (arrivalTime, block), t =>
    s.rtcpPacketArrivalTime = arrivalTime ∧ s.onReceiverReport c block = .ok t

/-- What a packet that is dispatched does after its receiver report. -/
theorem exists_onParsed {r : RtcpParseResults} (h : s.onParsed c r = .ok t) :
    ∃ u, Reports c s (r.receiverReport.map (s.rtcpPacketArrivalTime, ·)) u ∧
      Reaches c (if r.pictureLossIndicator then 1 else 0) u t := by
  unfold onParsed at h
  obtain ⟨u, hreport, h⟩ := bind_eq_ok.mp h
  refine ⟨u, ?_, Outcome.of_ok (ReachesAll.bind ?_ fun v => ReachesAll.bind ?_ fun w =>
    ReachesAll.bind ?_ fun x => ?_) h⟩
  · cases hr : r.receiverReport with
    | none =>
      rw [hr] at hreport
      cases hreport
      rfl
    | some block =>
      rw [hr] at hreport
      exact ⟨rfl, hreport⟩
  · cases r.checkpointFrameId with
    | none => exact Reaches.refl
    | some frameId => exact reachesAll_onReceiverCheckpoint frameId _
  · cases r.receivedFrames.getLast? with
    | none => exact Reaches.refl
    | some last => exact reachesAll_onReceiverHasFrames _ last
  · split_ifs
    · exact Reaches.refl
    · exact reachesAll_onReceiverIsMissingPackets _
  · split_ifs
    · exact reachesAll_onReceiverIndicatesPictureLoss
    · exact Reaches.refl

/-- A call first processes its receiver report, and a picture loss only if it is told of one. -/
def Unfolds (c : SessionConfig) (s : Sender) (op : SenderOp) (t : Sender) : Prop :=
  ∃ u v, Idle s u ∧ Reports c u (reportOf c s op) v ∧ Reaches c (pictureLossesOf c s op) v t

theorem Idle.refl : Idle s s := idle_of_eq rfl rfl rfl rfl rfl rfl

/-- A call without a report or a picture loss. -/
theorem Reaches.unfolds {op : SenderOp} (hidle : Idle s u) (h : Reaches c 0 u t)
    (hop : reportOf c s op = none) : Unfolds c s op t := by
  refine ⟨u, u, hidle, ?_, h.before .refl⟩
  rw [hop]
  rfl

theorem unfolds_onReceivedRtcpPacket {arrivalTime : ℤ} {packet : ByteView}
    {reactions : List (List EncodedFrame)}
    (h : onReceivedRtcpPacket c { s with reactions } arrivalTime packet = .ok t) :
    Unfolds c s (.onReceivedRtcpPacket arrivalTime packet reactions) t := by
  unfold onReceivedRtcpPacket at h
  obtain ⟨⟨outcome, rtcpParser⟩, hparse, h⟩ := bind_eq_ok.mp h
  have hparse' : s.rtcpParser.parse c.session packet s.lastEnqueuedFrameId =
      .ok (outcome, rtcpParser) := by
    cases hp : s.rtcpParser.parse c.session packet s.lastEnqueuedFrameId with
    | error f =>
      rw [hp] at hparse
      cases hparse
    | ok r =>
      rw [hp] at hparse
      cases hparse
      rfl
  have hidle : Idle s
      { s with rtcpPacketArrivalTime := arrivalTime, rtcpParser, reactions } :=
    idle_of_eq rfl rfl rfl rfl rfl rfl
  cases outcome with
  | rejected =>
    cases h
    exact Reaches.refl.unfolds hidle (by simp only [reportOf, hparse'])
  | outdated =>
    cases h
    exact (idle_emit rfl).reaches.unfolds hidle (by simp only [reportOf, hparse'])
  | dispatched r =>
    obtain ⟨v, hparsed, h⟩ := bind_eq_ok.mp h
    cases h
    obtain ⟨u, hreport, hreaches⟩ := exists_onParsed hparsed
    refine ⟨_, u, hidle, ?_, ?_⟩
    · simpa only [reportOf, hparse'] using hreport
    · simpa only [pictureLossesOf, hparse', Nat.add_zero] using
        hreaches.trans (idle_emit rfl).reaches

/-- **A call is its receiver report, followed by other changes.** -/
theorem Calls.unfolds {a : SenderOp × SenderOutput} (h : Calls c s a t) : Unfolds c s a.1 t := by
  obtain ⟨op, out⟩ := a
  unfold Calls step at h
  dsimp only at h
  cases op with
  | setObserver observer =>
    obtain ⟨u, hu, h⟩ := bind_eq_ok.mp h
    cases h
    unfold setObserver at hu
    rw [require_bind_eq_ok] at hu
    cases hu.2
    have hidle : Idle s { s with observer } := idle_of_eq rfl rfl rfl rfl rfl rfl
    exact Reaches.refl.unfolds hidle rfl
  | enqueueFrame frame =>
    obtain ⟨⟨result, u⟩, hu, h⟩ := bind_eq_ok.mp h
    cases h
    have hall := @reachesAll_enqueueFrame c s frame
    rw [hu] at hall
    exact Reaches.unfolds Idle.refl hall rfl
  | cancelInFlightData reactions =>
    obtain ⟨u, hu, h⟩ := bind_eq_ok.mp h
    cases h
    have hidle : Idle s { s with reactions } := idle_of_eq rfl rfl rfl rfl rfl rfl
    exact (Outcome.of_ok reachesAll_cancelInFlightData hu).unfolds hidle rfl
  | onReceivedRtcpPacket arrivalTime packet reactions =>
    obtain ⟨u, hu, h⟩ := bind_eq_ok.mp h
    cases h
    exact unfolds_onReceivedRtcpPacket hu
  | getRtcpPacketForImmediateSend sendTime bufferSize =>
    obtain ⟨packet, -, h⟩ := bind_eq_ok.mp h
    cases h
    exact Reaches.refl.unfolds Idle.refl rfl
  | getRtpPacketForImmediateSend sendTime bufferSize =>
    obtain ⟨⟨packet, u⟩, hu, h⟩ := bind_eq_ok.mp h
    cases h
    exact (Idle.reaches (getRtpPacketForImmediateSend_idle hu)).unfolds Idle.refl rfl
  | getRtpResumeTime =>
    obtain ⟨time, -, h⟩ := bind_eq_ok.mp h
    cases h
    exact Reaches.refl.unfolds Idle.refl rfl

/-- A frame that a call enqueues is enqueued by a change. -/
def EnqueuedAmong (changes : List SenderChange) (a : SenderOp × SenderOutput) : Prop :=
  ∀ frame, a = (.enqueueFrame frame, .enqueueResult .ok) → .enqueue frame ∈ changes

/-- The changes of a run of calls, call by call: among those of a call are the frame that it
enqueues, and no more picture losses than it is told of. -/
inductive Unfolded (c : SessionConfig) (s : Sender) :
    List (SenderOp × SenderOutput) → List SenderChange → Sender → Prop
  | nil : Unfolded c s [] [] s
  | snoc {t u : Sender} {calls : List (SenderOp × SenderOutput)} {changes more : List SenderChange}
      {a : SenderOp × SenderOutput} (before : Unfolded c s calls changes t) (call : Calls c t a u)
      (run : Run (Changes c) t more u) (enqueued : EnqueuedAmong more a)
      (losses : more.countP SenderChange.isPictureLoss ≤ pictureLossesOf c t a.1) :
      Unfolded c s (calls ++ [a]) (changes ++ more) u

theorem Calls.run_changes {a : SenderOp × SenderOutput} (h : Calls c s a t) :
    ∃ changes, Run (Changes c) s changes t ∧ EnqueuedAmong changes a ∧
      changes.countP SenderChange.isPictureLoss ≤ pictureLossesOf c s a.1 := by
  by_cases hframe : ∃ frame, a = (.enqueueFrame frame, .enqueueResult .ok)
  · obtain ⟨frame, rfl⟩ := hframe
    have h' : s.step c (.enqueueFrame frame) = .ok (.enqueueResult .ok, t) := h
    unfold step at h'
    obtain ⟨⟨result, u⟩, hu, h'⟩ := bind_eq_ok.mp h'
    cases h'
    exact ⟨[.enqueue frame], .single (.enqueue hu), fun f hf => by cases hf; simp, Nat.zero_le _⟩
  · obtain ⟨u, v, hidle, hreport, more, hmore, -, hlosses⟩ := h.unfolds
    have hcovers : ∀ changes, EnqueuedAmong changes a := fun _ frame ha => absurd ⟨frame, ha⟩ hframe
    have hfirst : Run (Changes c) s [.other] u := .single (.other hidle)
    cases hop : reportOf c s a.1 with
    | none =>
      rw [hop] at hreport
      obtain rfl : v = u := hreport
      exact ⟨_, hfirst.append hmore, hcovers _, by simpa [SenderChange.isPictureLoss] using hlosses⟩
    | some report =>
      rw [hop] at hreport
      exact ⟨_, (hfirst.snoc (.report hreport.2)).append hmore, hcovers _, by
        simpa [SenderChange.isPictureLoss] using hlosses⟩

/-- **A run of calls is a run of changes**, call by call. -/
theorem exists_unfolded {calls : List (SenderOp × SenderOutput)} (h : Run (Calls c) s calls t) :
    ∃ changes, Unfolded c s calls changes t := by
  induction h with
  | nil => exact ⟨[], .nil⟩
  | snoc _ hcall ih =>
    obtain ⟨changes, hchanges⟩ := ih
    obtain ⟨more, hmore, henqueued, hlosses⟩ := hcall.run_changes
    exact ⟨changes ++ more, .snoc hchanges hcall hmore henqueued hlosses⟩

theorem Unfolded.run {calls : List (SenderOp × SenderOutput)} {changes : List SenderChange}
    (h : Unfolded c s calls changes t) : Run (Changes c) s changes t := by
  induction h with
  | nil => exact .nil
  | snoc _ _ hrun _ _ ih => exact ih.append hrun

/-- The history shows the changes of a run in their order. -/
theorem shown_of_run {changes : List SenderChange} (h : Run (Changes c) s changes t) :
    t.shown = s.shown ++ changes.flatMap SenderChange.event := by
  induction h with
  | nil => simp
  | snoc _ hstep ih =>
    rw [List.flatMap_append, ← List.append_assoc, ← ih]
    cases hstep with
    | enqueue henqueue =>
      rcases enqueueFrame_cases henqueue with ⟨hne, -⟩ | ⟨-, -, n, rfl⟩
      · exact absurd rfl hne
      · simp only [Sender.shown, recordEnqueue, List.filter_append]
        split_ifs <;> simp [SenderEvent.shows, SenderChange.event]
    | report hreport =>
      unfold onReceiverReport at hreport
      rw [require_bind_eq_ok] at hreport
      cases hreport.2
      simp [Sender.shown, SenderChange.event]
    | pictureLoss hkey =>
      unfold losePicture
      split_ifs with hobserver <;>
        simp [hobserver, Sender.shown, emit, SenderEvent.shows, SenderChange.event]
    | other hidle => simp [hidle.shown, SenderChange.event]

end Sender

end StreamerPlus
