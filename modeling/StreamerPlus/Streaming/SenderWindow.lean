import StreamerPlus.Streaming.SenderAccounting

/-!
# The start of the sender's window

`GetInFlightMediaDuration`, and with it `EnqueueFrame`, asserts that the frame after the
checkpoint is in flight if any frame is. The ACK bits of a packet count from the checkpoint that
the packet carries, and the sender does not compare them with its own checkpoint: feedback may
remove the frame after the checkpoint and leave later ones. The window starts at an active frame
as long as no packet does that.
-/

namespace StreamerPlus

open Checked FrameWindow

namespace Sender

variable {c : SessionConfig} {s t : Sender} {acks : List ℤ}

variable (w : FrameWindow)

/-- No frame is in flight, or the one after the checkpoint is. -/
def WindowStarts : Prop :=
  w.numFramesInFlight = 0 ∨ w.isInFlight (w.checkpointFrameId + 1)

instance : Decidable (WindowStarts w) := inferInstanceAs (Decidable (_ ∨ _))

/-- The frame after the checkpoint is in flight, or there is none. -/
def StartsActive : Prop :=
  w.checkpointFrameId = w.lastEnqueuedFrameId ∨ w.isInFlight (w.checkpointFrameId + 1)

/-- The window starts at an active frame that is not among `acks`. -/
structure Windowed (acks : List ℤ) (w : FrameWindow) : Prop where
  accounted : w.Accounted
  starts : StartsActive w
  unacked : w.checkpointFrameId + 1 ∉ acks

theorem StartsActive.windowStarts (hstart : StartsActive s.toFrameWindow) (h : s.Accounted) :
    WindowStarts s.toFrameWindow := by
  rcases hstart with heq | hfl
  · refine Or.inl (h.count_eq_zero.mpr fun id hid => ?_)
    have := h.bounds hid
    omega
  · exact Or.inr hfl

/-- A gap after the checkpoint shows once a frame is enqueued. -/
theorem not_windowStarts (h : s.Accounted) (hstart : ¬ StartsActive s.toFrameWindow)
    {frame : EncodedFrame} (henq : s.enqueueFrame c frame = .ok (.ok, t)) :
    ¬ WindowStarts t.toFrameWindow := by
  obtain ⟨hcp, hfl⟩ := not_or.mp hstart
  rcases (outcome_enqueueFrame h frame).of_ok henq with ⟨hno, -⟩ | ⟨-, hid, n, hn, rfl⟩
  · exact absurd rfl hno
  · have hle := h.le_last
    have hid' := hid.eq
    have hacc := accounted_recordEnqueue h hn hid
    have hmem := isInFlight_recordEnqueue (n := n) h hid
    refine not_or.mpr ⟨(hacc.count_pos ((hmem _).mpr (Or.inr rfl))).ne', fun hnext => ?_⟩
    rcases (hmem _).mp hnext with hold | hnew
    · exact hfl hold
    · change s.checkpointFrameId + 1 = _ at hnew
      omega

/-! ### Calls that remove no frame -/

theorem kept_windowed : Kept (fun s => Windowed acks s.toFrameWindow) (· ≠ .oldestSlotInactive)
    where
  accounted _ h := h.accounted
  record s frame n h hn hid := by
    have hmem := isInFlight_recordEnqueue (n := n) h.accounted hid
    refine ⟨accounted_recordEnqueue h.accounted hn hid, Or.inr ?_, h.unacked⟩
    rcases h.starts with heq | hfl
    · refine (hmem _).mpr (Or.inr ?_)
      rw [hid.eq, ← heq]
      rfl
    · exact (hmem _).mpr (Or.inl hfl)
  fault s f h := by
    rintro (rfl | rfl | rfl | ⟨rfl, hnum, hoff⟩)
    · decide
    · decide
    · decide
    · exact ((h.starts.windowStarts h.accounted).elim hnum hoff).elim
  note _ _ _ h := h
  emit _ _ _ _ h := h

theorem callRules_windowed :
    CallRules c (fun s => Windowed [] s.toFrameWindow) (fun s => Windowed [] s.toFrameWindow)
      (· ≠ .oldestSlotInactive) := by
  refine kept_windowed.callRules (fun _ _ _ _ _ _ => id) ?_
  rintro f hf rfl
  exact hf

theorem Windowed.nacked {nacks : List PacketNack} {threshold : ℤ} {w w' : FrameWindow}
    (h : Windowed [] w) (hn : Nacked nacks threshold w w') : Windowed [] w' := by
  refine ⟨FrameWindow.Accounted.nacked h.accounted hn, ?_, List.not_mem_nil⟩
  rw [StartsActive, hn.checkpoint, hn.last, hn.isInFlight]
  exact h.starts

theorem Windowed.recordSend (h : Windowed [] s.toFrameWindow) {sendTime : ℤ}
    {chosen : ChosenPacket} {frame : EncryptedFrame} (hc : s.Chooses sendTime chosen frame)
    (packetizer : RtpPacketizer) (size : ℕ) :
    Windowed [] (s.recordSend chosen sendTime packetizer size).toFrameWindow := by
  refine ⟨accounted_recordSend h.accounted hc.isPacket _ _ _, ?_, List.not_mem_nil⟩
  refine h.starts.imp id fun hfl => ?_
  rw [isInFlight_iff, frames_recordSend hc.isPacket, ← isInFlight_iff]
  exact hfl

/-! ### Feedback -/

/-- The checkpoint after the feedback `r`. -/
def feedbackCheckpoint (r : RtcpParseResults) : ℤ :=
  match r.checkpointFrameId with
  | some frameId =>
    if frameId ≤ w.lastEnqueuedFrameId then max w.checkpointFrameId frameId
    else w.checkpointFrameId
  | none => w.checkpointFrameId

theorem feedbackCheckpoint_of_mem {r : RtcpParseResults} {frameId : ℤ}
    (h : frameId ∈ r.checkpointFrameId) : feedbackCheckpoint w r =
      if frameId ≤ w.lastEnqueuedFrameId then max w.checkpointFrameId frameId
      else w.checkpointFrameId := by
  rw [feedbackCheckpoint, Option.mem_def.mp h]

/-- Feedback after which the window starts at an active frame: the frame after the new checkpoint
is in flight, and it is not acknowledged, unless the sender ignores the ACKs. With an observer
that enqueues frames while it is told of the checkpoint, ACKs that looked too early may count. -/
structure FeedbackFits (reactions : List (List EncodedFrame))
    (r : RtcpParseResults) : Prop where
  starts : feedbackCheckpoint w r = w.lastEnqueuedFrameId ∨
    w.isInFlight (feedbackCheckpoint w r + 1)
  acks : feedbackCheckpoint w r + 1 ∈ r.receivedFrames →
    reactions = [] ∧ ∃ last ∈ r.receivedFrames.getLast?, w.lastEnqueuedFrameId < last

instance (reactions : List (List EncodedFrame)) (r : RtcpParseResults) :
    Decidable (FeedbackFits w reactions r) :=
  decidable_of_iff (_ ∧ (_ → _ ∧ _)) ⟨fun h => ⟨h.1, h.2⟩, fun h => ⟨h.1, h.2⟩⟩

/-- What is left of the frames of `s` after feedback, if the observer enqueues none. -/
structure Left (s : Sender) (checkpoint : ℤ) (gone : ℤ → Prop) (t : Sender) : Prop where
  quiet : t.reactions = []
  accounted : t.Accounted
  last : t.lastEnqueuedFrameId = s.lastEnqueuedFrameId
  checkpoint : t.checkpointFrameId = checkpoint
  inFlight : ∀ id, t.isInFlight id ↔ s.isInFlight id ∧ ¬ gone id

variable {checkpoint checkpoint' : ℤ} {gone gone' : ℤ → Prop} {E : SenderFault → Prop}

theorem Left.of_iff (h : Left s checkpoint gone t) (hgone : ∀ id, gone' id ↔ gone id) :
    Left s checkpoint gone' t :=
  { h with inFlight := fun id => by rw [h.inFlight, hgone] }

/-- More frames are removed. -/
theorem Left.removes {wasAcked : Bool} {u : Sender} (h : Left s checkpoint gone t)
    (hu : Removes wasAcked gone' checkpoint' t u) (latest : ℤ) :
    Left s checkpoint' (fun id => gone id ∨ gone' id) (u.expect latest) where
  quiet := hu.releases.reactions.trans h.quiet
  accounted := hu.accounted.expect _
  last := hu.shrinks.last.trans h.last
  checkpoint := hu.checkpoint
  inFlight id := by
    change u.isInFlight id ↔ _
    rw [hu.shrinks.inFlight, h.inFlight, not_or, and_assoc]

theorem Left.react (h : Left s checkpoint gone t) :
    Outcome (Left s checkpoint gone) E (t.react c) := by
  unfold Sender.react
  rw [h.quiet]
  exact h

theorem Left.dispatchCancellations (h : Left s checkpoint gone t) :
    Outcome (Left s checkpoint gone) E (t.dispatchCancellations c) := by
  unfold Sender.dispatchCancellations
  refine Outcome.bind (Q := Left s checkpoint gone) ?_ fun t ht => ?_
  · split_ifs
    · exact Outcome.foldlM h fun t id _ ht => Left.react { ht with }
    · exact h
  · exact { ht with }

/-- The ACKs that the sender acts upon. -/
def Acked (r : RtcpParseResults) (id : ℤ) : Prop :=
  id ∈ r.receivedFrames ∧ ∀ last ∈ r.receivedFrames.getLast?, last ≤ w.lastEnqueuedFrameId

/-- The frames up to the new checkpoint and the acknowledged ones are gone. -/
abbrev LeftBy (s : Sender) (r : RtcpParseResults) : Sender → Prop :=
  Left s (feedbackCheckpoint s.toFrameWindow r) fun id =>
    id ≤ feedbackCheckpoint s.toFrameWindow r ∨ Acked s.toFrameWindow r id

/-- **Feedback without an observer that enqueues frames**: exactly the frames up to the new
checkpoint and the acknowledged ones are gone. -/
theorem left_onParsed (h : s.Accounted) (hquiet : s.reactions = []) (r : RtcpParseResults) :
    Outcome (LeftBy s r) (· ≠ .oldestSlotInactive) (s.onParsed c r) := by
  have hstart : ∀ roundTripTime, Left s s.checkpointFrameId (· ≤ s.checkpointFrameId)
      { s with roundTripTime } := fun _ =>
    ⟨hquiet, h, rfl, rfl, fun id => ⟨fun hid => ⟨hid, not_le.mpr (h.bounds hid).1⟩, And.left⟩⟩
  refine outcome_onParsed
    (B := Left s (feedbackCheckpoint s.toFrameWindow r)
      (· ≤ feedbackCheckpoint s.toFrameWindow r))
    (hstart s.roundTripTime) (fun report _ => outcome_onReceiverReport report hstart (by decide))
    ⟨?_, ?_, ?_, ?_, fun _ _ => id⟩ ?_ ?_
  · intro hnone t ht
    simpa only [feedbackCheckpoint, hnone] using ht
  · intro frameId hmem t ht
    rw [feedbackCheckpoint_of_mem s.toFrameWindow hmem]
    refine outcome_onReceiverCheckpoint ht.accounted (fun hlast => ?_) (fun u hle hu => ?_)
      (fun u hu => Left.dispatchCancellations hu) (by decide)
    · rw [ht.last] at hlast
      rwa [if_neg (not_le.mpr hlast)]
    · rw [ht.last] at hle
      rw [ht.checkpoint] at hu
      rw [if_pos hle]
      exact (ht.removes hu frameId).of_iff fun id => ⟨.inr, fun hid => by omega⟩
  · intro hnil t ht
    exact ht.of_iff fun id => by simp [Acked, hnil]
  · intro last hlast t ht
    refine outcome_onReceiverHasFrames ht.accounted (fun hlt => ?_) (fun u hle hu => ?_)
      (fun u hu => Left.dispatchCancellations hu)
    · refine ht.of_iff fun id => or_iff_left fun hack => ?_
      rw [ht.last] at hlt
      exact hlt.not_ge (hack.2 last hlast)
    · rw [ht.checkpoint] at hu
      refine (ht.removes hu last).of_iff fun id => or_congr_right ?_
      refine ⟨And.left, fun hid => ⟨hid, fun last' hlast' => ?_⟩⟩
      cases (Option.mem_def.mp hlast).symm.trans hlast'
      exact ht.last ▸ hle
  · intro t ht
    refine (outcome_onReceiverIsMissingPackets t r.packetNacks).mono ?_ ?_
    · rintro u ⟨w, events, rfl, -, hn⟩
      refine ⟨ht.quiet, FrameWindow.Accounted.nacked ht.accounted hn, hn.last.trans ht.last,
        hn.checkpoint.trans ht.checkpoint, fun id => ?_⟩
      change w.isInFlight id ↔ _
      rw [hn.isInFlight]
      exact ht.inFlight id
    · rintro f rfl
      decide
  · intro t ht
    have hsame : ∀ pictureLostAtFrameId events,
        LeftBy s r { t with pictureLostAtFrameId, events } := fun _ _ => { ht with }
    exact outcome_onReceiverIndicatesPictureLoss ht (hsame _ _) fun u hu => Left.react { hu with }

/-- Without an observer that enqueues frames, the condition is exact. -/
theorem LeftBy.startsActive_iff {r : RtcpParseResults}
    (hsorted : r.receivedFrames.Pairwise (· < ·)) (ht : LeftBy s r t) :
    StartsActive t.toFrameWindow ↔ FeedbackFits s.toFrameWindow [] r := by
  have hstarts : StartsActive t.toFrameWindow ↔
      feedbackCheckpoint s.toFrameWindow r = s.lastEnqueuedFrameId ∨
      s.isInFlight (feedbackCheckpoint s.toFrameWindow r + 1) ∧
        ¬ Acked s.toFrameWindow r (feedbackCheckpoint s.toFrameWindow r + 1) := by
    rw [StartsActive, ht.inFlight, ht.checkpoint, ht.last]
    simp
  rw [hstarts]
  constructor
  · intro h
    refine ⟨h.imp_right And.left, fun hmem => ⟨rfl, ?_⟩⟩
    have hlast := List.getLast?_eq_some_getLast (List.ne_nil_of_mem hmem)
    refine ⟨_, hlast, ?_⟩
    rcases h with heq | ⟨-, hack⟩
    · have := ack_le_last hsorted hlast hmem
      omega
    · by_contra hle
      refine hack ⟨hmem, fun last' hlast' => ?_⟩
      cases hlast.symm.trans hlast'
      exact not_lt.mp hle
  · rintro ⟨hstart, hacks⟩
    refine hstart.imp_right fun hfl => ⟨hfl, fun ⟨hmem, hle⟩ => ?_⟩
    obtain ⟨-, last, hlast, hlt⟩ := hacks hmem
    exact absurd (hle last hlast) (not_le.mpr hlt)

/-- Feedback that fits keeps the window. -/
theorem outcome_onParsed_windowed (h : Windowed [] s.toFrameWindow) {r : RtcpParseResults}
    (hsorted : r.receivedFrames.Pairwise (· < ·))
    (hfits : FeedbackFits s.toFrameWindow s.reactions r) :
    Outcome (fun t => Windowed [] t.toFrameWindow) (· ≠ .oldestSlotInactive) (s.onParsed c r) := by
  by_cases hmem : feedbackCheckpoint s.toFrameWindow r + 1 ∈ r.receivedFrames
  · -- the ACKs are ignored: no frame is enqueued while the packet is handled
    obtain ⟨hquiet, hacks⟩ := hfits.acks hmem
    refine (left_onParsed h.accounted hquiet r).mono (fun t ht => ?_) fun _ => id
    exact ⟨ht.accounted, (ht.startsActive_iff hsorted).mpr ⟨hfits.starts, fun _ => ⟨rfl, hacks⟩⟩,
      List.not_mem_nil⟩
  · have hdone : ∀ t : Sender, Windowed r.receivedFrames t.toFrameWindow →
        Windowed [] t.toFrameWindow := fun t ht => ⟨ht.accounted, ht.starts, List.not_mem_nil⟩
    have hsame : feedbackCheckpoint s.toFrameWindow r = s.checkpointFrameId →
        ∀ t : Sender, t.toFrameWindow = s.toFrameWindow →
        Windowed r.receivedFrames t.toFrameWindow := by
      intro heq t ht
      rw [ht]
      exact ⟨h.accounted, h.starts, heq ▸ hmem⟩
    refine callRules_windowed.onParsed (A := fun t => t.toFrameWindow = s.toFrameWindow)
      (B := fun t => Windowed r.receivedFrames t.toFrameWindow)
      (D := fun t => Windowed [] t.toFrameWindow) (fun _ => rfl)
      ⟨fun hnone => hsame (by rw [feedbackCheckpoint, hnone]), ?_, fun _ => hdone, ?_,
        fun _ _ => id⟩ (fun _ _ _ hs _ => hs.nacked)
    · intro frameId hframeId t ht
      have hfcp := feedbackCheckpoint_of_mem s.toFrameWindow hframeId
      have hacc : t.Accounted := by
        rw [ht]
        exact h.accounted
      refine outcome_onReceiverCheckpoint hacc (fun hlast => ?_)
        (fun u hle ⟨hacc', hcp, hs, _⟩ => ?_)
        (fun u hu => kept_windowed.dispatchCancellations hu) (by decide)
      · rw [ht] at hlast
        exact hsame (by rw [hfcp, if_neg (not_le.mpr hlast)]) t ht
      · rw [ht] at hle hcp hs
        rw [if_pos hle, ← hcp] at hfcp
        rw [← hcp] at hs
        refine ⟨hacc'.expect _, ?_, hfcp ▸ hmem⟩
        have hstart := hfits.starts
        rw [hfcp] at hstart
        rcases hstart with heq | hfl
        · exact Or.inl (heq.trans hs.last.symm)
        · exact Or.inr ((hs.inFlight _).mpr ⟨hfl, not_le.mpr (lt_add_one _)⟩)
    · intro last _ t ht
      refine outcome_onReceiverHasFrames ht.accounted (fun _ => hdone t ht)
        (fun u _ ⟨hacc, hcp, hs, _⟩ => ?_) (fun u hu => kept_windowed.dispatchCancellations hu)
      refine ⟨hacc.expect _, ?_, List.not_mem_nil⟩
      rcases ht.starts with heq | hfl
      · exact Or.inl ((hcp.trans heq).trans hs.last.symm)
      · refine Or.inr ((hs.inFlight _).mpr ?_)
        change t.isInFlight (u.checkpointFrameId + 1) ∧ u.checkpointFrameId + 1 ∉ r.receivedFrames
        rw [hcp]
        exact ⟨hfl, ht.unacked⟩

/-! ### Runs -/

/-- A call that is no RTCP packet with feedback that does not fit. -/
def Fits (c : SessionConfig) (s : Sender) : SenderOp → Prop
  | .onReceivedRtcpPacket _ packet reactions =>
    match s.rtcpParser.parse c.session packet s.lastEnqueuedFrameId with
    | .ok (.dispatched r, _) => FeedbackFits s.toFrameWindow reactions r
    | _ => True
  | _ => True

instance (op : SenderOp) : Decidable (Fits c s op) := by
  unfold Fits
  split
  · split <;> infer_instance
  · infer_instance

/-- A step whose feedback, if any, fits. -/
def FittingStep (c : SessionConfig) (s : Sender) (a : SenderOp × SenderOutput) (t : Sender) :
    Prop :=
  Fits c s a.1 ∧ Step c s a t

theorem outcome_step_windowed (h : Windowed [] s.toFrameWindow) {op : SenderOp}
    (hfits : Fits c s op) :
    Outcome (fun r => Windowed [] r.2.toFrameWindow) (· ≠ .oldestSlotInactive) (s.step c op) := by
  refine callRules_windowed.step h (fun _ _ t ⟨hacc, hcp, hs, _⟩ => ?_)
    (fun arrivalTime packet reactions hop r rtcpParser hparse => ?_)
    (fun _ _ _ _ _ packetizer size hc => h.recordSend hc packetizer size) (fun _ _ => h) ?_
  · exact ⟨hacc, Or.inl (hcp.trans hs.last.symm), List.not_mem_nil⟩
  · exact outcome_onParsed_windowed (s := { s with
      reactions, rtcpPacketArrivalTime := arrivalTime, rtcpParser }) h
      (CompoundRtcpParser.receivedFrames_sorted hparse) (by simpa [Fits, hop, hparse] using hfits)
  · rintro f - ⟨-, ⟨rfl, -⟩ | ⟨rfl, -⟩⟩ <;> decide

/-- Feedback that does not fit, with an observer that enqueues no frame, leaves a window that
does not start at an active frame, or that will not once a frame is enqueued. -/
theorem gap_of_not_fits (h : s.Accounted) {arrivalTime : ℤ} {packet : ByteView}
    {out : SenderOutput} (hstep : s.step c (.onReceivedRtcpPacket arrivalTime packet []) =
      .ok (out, t)) (hfits : ¬ Fits c s (.onReceivedRtcpPacket arrivalTime packet [])) :
    ¬ WindowStarts t.toFrameWindow ∨
      t.numFramesInFlight = 0 ∧ ∀ frame u, t.enqueueFrame c frame = .ok (.ok, u) →
        ¬ WindowStarts u.toFrameWindow := by
  obtain ⟨r, rtcpParser, hparse, hno⟩ : ∃ r rtcpParser,
      s.rtcpParser.parse c.session packet s.lastEnqueuedFrameId =
        .ok (.dispatched r, rtcpParser) ∧ ¬ FeedbackFits s.toFrameWindow [] r := by
    unfold Fits at hfits
    dsimp only at hfits
    split at hfits
    · exact ⟨_, _, ‹_›, hfits⟩
    · exact absurd trivial hfits
  have hgap : Outcome (fun t => t.Accounted ∧ ¬ StartsActive t.toFrameWindow) (fun _ => True)
      (onReceivedRtcpPacket c { s with reactions := [] } arrivalTime packet) := by
    refine outcome_onReceivedRtcpPacket
      (Q := fun t => t.Accounted ∧ ¬ StartsActive t.toFrameWindow) (fun _ => trivial)
      (fun _ hrej => ?_) (fun _ _ _ => id) (fun _ hout => ?_) (fun r' _ hparse' => ?_)
    · cases hrej.symm.trans hparse
    · cases hout.symm.trans hparse
    · cases hparse'.symm.trans hparse
      refine (left_onParsed (by exact h) rfl r).mono (fun t ht => ⟨ht.accounted, ?_⟩)
        fun _ _ => trivial
      exact (ht.startsActive_iff (CompoundRtcpParser.receivedFrames_sorted hparse)).not.mpr hno
  have hout : Outcome (fun r => r.2.Accounted ∧ ¬ StartsActive r.2.toFrameWindow) (fun _ => True)
      (s.step c (.onReceivedRtcpPacket arrivalTime packet [])) := hgap.bind fun _ ht => ht
  obtain ⟨hacc, hstart⟩ := hout.of_ok hstep
  by_cases hnum : t.numFramesInFlight = 0
  · exact Or.inr ⟨hnum, fun frame u => not_windowStarts hacc hstart⟩
  · exact Or.inl (not_or.mpr ⟨hnum, (not_or.mp hstart).2⟩)

theorem windowed_new (c : SessionConfig) (packetizer : RtpPacketizer) :
    Windowed [] (Sender.new c packetizer).toFrameWindow :=
  ⟨accounted_new c packetizer, Or.inl rfl, List.not_mem_nil⟩

/-- **The window starts at an active frame** in every state of a run all of whose feedback fits,
and no call with feedback that fits fails the assertion of `GetInFlightMediaDuration`. Feedback
that does not fit breaks this: the window has a gap after the checkpoint, at once or when the
next frame is enqueued. -/
theorem window_starts_active {s₀ : Sender} {labels : List (SenderOp × SenderOutput)}
    (h₀ : IsNew c s₀) (hrun : TransitionSystem.Run (FittingStep c) s₀ labels s) :
    WindowStarts s.toFrameWindow ∧
    (∀ op f, Fits c s op → s.step c op = .error f → f ≠ .oldestSlotInactive) ∧
    ∀ arrivalTime packet out t,
      s.step c (.onReceivedRtcpPacket arrivalTime packet []) = .ok (out, t) →
      ¬ Fits c s (.onReceivedRtcpPacket arrivalTime packet []) →
      ¬ WindowStarts t.toFrameWindow ∨
        t.numFramesInFlight = 0 ∧ ∀ frame u, t.enqueueFrame c frame = .ok (.ok, u) →
          ¬ WindowStarts u.toFrameWindow := by
  obtain ⟨packetizer, rfl⟩ := h₀
  have hinv : Windowed [] s.toFrameWindow :=
    hrun.invariant (P := fun s => Windowed [] s.toFrameWindow)
      (fun s a t hs hst => (outcome_step_windowed hs hst.1).of_ok hst.2.2)
      (windowed_new c packetizer)
  refine ⟨hinv.starts.windowStarts hinv.accounted, fun op f hfits hf => ?_, ?_⟩
  · exact (outcome_step_windowed hinv hfits).of_error hf
  · exact fun _ _ _ _ hstep hno => gap_of_not_fits hinv.accounted hstep hno

/-- A feedback packet with the checkpoint `checkpoint` and the ACK bits `ackBits`. -/
def feedbackPacket (checkpoint ackBits : UInt8) : ByteView :=
  [0x8f, 206, 0, 6, 0, 0, 0, 2, 0, 0, 0, 1, 0x43, 0x41, 0x53, 0x54, checkpoint, 0, 1, 144,
    0x43, 0x53, 0x54, 0x32, 0, 2, ackBits, 0]

theorem outcome_gap :
    Outcome
      (fun r => ¬ WindowStarts r.2.toFrameWindow ∧
        Outcome (fun _ => False) (· = .oldestSlotInactive)
          (r.2.step exampleConfig (.enqueueFrame (exampleFrame 2))))
      (fun _ => False)
      (runOps exampleConfig (Sender.new exampleConfig examplePacketizer)
        [.enqueueFrame (exampleFrame 0), .enqueueFrame (exampleFrame 1),
          .onReceivedRtcpPacket 1000 (feedbackPacket 254 1) []]) := by
  decide +kernel

/-- The checkpoint of the packet is frame -2, two before the first frame, and its first ACK bit
frame 0, the one after the sender's checkpoint: the window of frames 0 and 1 starts with a gap,
and the next frame cannot be enqueued. -/
theorem not_windowStarts_after_ack :
    ∃ s labels, TransitionSystem.Run (Step exampleConfig)
      (Sender.new exampleConfig examplePacketizer) labels s ∧ ¬ WindowStarts s.toFrameWindow ∧
      s.step exampleConfig (.enqueueFrame (exampleFrame 2)) = .error .oldestSlotInactive := by
  obtain ⟨⟨labels, s⟩, hrun, hgap, henq⟩ := outcome_gap.exists_ok
  obtain ⟨_, henq, rfl⟩ := henq.exists_error
  exact ⟨s, labels, run_of_runOps hrun (by decide), hgap, henq⟩

theorem outcome_fitting :
    Outcome (fun r₁ => Outcome
        (fun r₂ => Fits exampleConfig r₂.2 (.onReceivedRtcpPacket 1000 (feedbackPacket 0 0) []) ∧
          Outcome (fun r₃ => r₃.2.checkpointFrameId = 0 ∧ r₃.2.numFramesInFlight ≠ 0)
            (fun _ => False)
            (r₂.2.step exampleConfig (.onReceivedRtcpPacket 1000 (feedbackPacket 0 0) [])))
        (fun _ => False) (r₁.2.step exampleConfig (.enqueueFrame (exampleFrame 1))))
      (fun _ => False)
      ((Sender.new exampleConfig examplePacketizer).step exampleConfig
        (.enqueueFrame (exampleFrame 0))) := by
  decide +kernel

theorem window_starts_active_after_checkpoint :
    ∃ s labels, TransitionSystem.Run (FittingStep exampleConfig)
      (Sender.new exampleConfig examplePacketizer) labels s ∧ s.isInFlight 1 := by
  obtain ⟨⟨_, s₁⟩, h₁, h⟩ := outcome_fitting.exists_ok
  obtain ⟨⟨_, s₂⟩, h₂, hfits, h⟩ := h.exists_ok
  obtain ⟨⟨_, s₃⟩, h₃, hcp, hnum⟩ := h.exists_ok
  have hstep₁ : FittingStep exampleConfig _ (.enqueueFrame (exampleFrame 0), _) s₁ :=
    ⟨trivial, trivial, h₁⟩
  have hstep₂ : FittingStep exampleConfig s₁ (.enqueueFrame (exampleFrame 1), _) s₂ :=
    ⟨trivial, trivial, h₂⟩
  have hstep₃ : FittingStep exampleConfig s₂
      (.onReceivedRtcpPacket 1000 (feedbackPacket 0 0) [], _) s₃ := ⟨hfits, trivial, h₃⟩
  have hrun := ((TransitionSystem.Run.single hstep₁).snoc hstep₂).snoc hstep₃
  have hstart := (window_starts_active ⟨examplePacketizer, rfl⟩ hrun).1.resolve_left hnum
  rw [hcp] at hstart
  exact ⟨s₃, _, hrun, hstart⟩

end Sender

end StreamerPlus
