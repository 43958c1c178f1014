import StreamerPlus.Streaming.SenderAccounting

/-!
# Kickstart packets

When nothing needs sending, the sender may send the last packet of the last enqueued frame
again, so that the receiver learns of that frame. `ChooseKickstartPacket` asserts that this
frame is in flight and that its packet has been sent. It is, unless `CancelInFlightData` has
removed a frame that the receiver does not know of: that operation moves the checkpoint to the
last enqueued frame and leaves the latest expected frame where it was.
-/

namespace StreamerPlus

open Checked FrameWindow

namespace Sender

variable {c : SessionConfig} {s t : Sender} {careful : Prop}

/-- What `ChooseKickstartPacket` relies on when nothing needs sending. -/
def KickstartValid (s : Sender) : Prop :=
  s.chooseNextRtpPacketNeedingSend = none → s.latestExpectedFrameId < s.lastEnqueuedFrameId →
    s.isInFlight s.lastEnqueuedFrameId ∧ s.kickstartLastSent ≠ kNever

/-- Some frame is above the checkpoint, or the receiver knows of all frames. -/
def KickstartReady (w : FrameWindow) : Prop :=
  w.checkpointFrameId < w.lastEnqueuedFrameId ∨ w.lastEnqueuedFrameId ≤ w.latestExpectedFrameId

/-- Every packet of the slot is flagged or has been sent. -/
def FlaggedOrSent (slot : PendingFrameSlot) : Prop :=
  ∀ p < slot.sendFlags.size, slot.sendFlags.isSet p = false →
    slot.packetSentTimes.getD p kNever < kNever

/-- Every packet in flight is flagged or has been sent, and the last enqueued frame is in flight
while the receiver does not know of it and the checkpoint has not passed it. -/
structure Kickable (careful : Prop) (w : FrameWindow) : Prop where
  accounted : w.Accounted
  sent : ∀ i frame, w.frames i = some frame → FlaggedOrSent (w.pendingFrames i)
  newest : w.checkpointFrameId < w.lastEnqueuedFrameId →
    w.latestExpectedFrameId < w.lastEnqueuedFrameId → w.isInFlight w.lastEnqueuedFrameId
  ready : careful → KickstartReady w

/-- The assertions of `ChooseKickstartPacket`. -/
def KickstartCheck (f : SenderFault) : Prop :=
  f = .kickstartSlotInactive ∨ f = .kickstartNeverSent

instance : DecidablePred KickstartCheck := fun _ => inferInstanceAs (Decidable (_ ∨ _))

theorem Kickable.kickstartValid (h : Kickable careful s.toFrameWindow)
    (hready : KickstartReady s.toFrameWindow) : s.KickstartValid := by
  intro hnext hlatest
  have hcp : s.checkpointFrameId < s.lastEnqueuedFrameId :=
    hready.resolve_right (not_le.mpr hlatest)
  have hfl := h.newest hcp hlatest
  obtain ⟨frame, hframe, -⟩ := isInFlight_iff.mp hfl
  have hpos := h.accounted.packets _ _ hframe
  have hlast : s.kickstartPacket.packetId <
      (s.getSlotFor s.lastEnqueuedFrameId).sendFlags.size := Nat.sub_lt hpos Nat.one_pos
  have hclear := chooseFrom_eq_none hnext (by omega) (by omega) hfl _ hlast
  exact ⟨hfl, (h.sent _ _ hframe _ hlast hclear).ne⟩

/-- Without a frame above the checkpoint the last enqueued frame is not in flight. -/
theorem not_kickstartValid (h : s.Accounted) (hready : ¬ KickstartReady s.toFrameWindow) :
    ¬ s.KickstartValid := by
  obtain ⟨hcp, hlatest⟩ := not_or.mp hready
  have hle := h.le_last
  have hnext : s.chooseNextRtpPacketNeedingSend = none := by
    rw [chooseNextRtpPacketNeedingSend,
      show (s.lastEnqueuedFrameId - s.checkpointFrameId).toNat = 0 by omega]
    rfl
  intro hvalid
  have := h.bounds (hvalid hnext (not_le.mp hlatest)).1
  omega

/-! ### The invariant -/

theorem Kickable.recordEnqueue (h : Kickable careful s.toFrameWindow) {frame : EncryptedFrame}
    {n : ℕ} (hn : 0 < n) (hnext : s.IsNext frame.frameId) :
    Kickable careful (s.recordEnqueue frame n).toFrameWindow := by
  have hle := h.accounted.le_last
  have hid := hnext.eq
  have hlt : s.checkpointFrameId < frame.frameId := by omega
  refine ⟨accounted_recordEnqueue h.accounted hn hnext, fun i f hf => ?_, fun _ _ => ?_,
    fun _ => Or.inl hlt⟩
  · rw [frames_recordEnqueue, Function.update_apply] at hf
    show FlaggedOrSent (Function.update s.pendingFrames _ _ i)
    split_ifs at hf with hi
    · rw [hi, Function.update_self]
      intro p hp hclear
      have hset : (BitVector.Backed.resize n true).isSet p = true :=
        BitVector.Backed.isSet_resize true hp
      exact absurd (hset.symm.trans hclear) (by simp)
    · rw [Function.update_of_ne hi]
      exact h.sent i f hf
  · exact (isInFlight_recordEnqueue h.accounted hnext _).mpr (Or.inr rfl)

theorem kept_kickable :
    Kept (fun s => Kickable careful s.toFrameWindow) (fun f => careful → ¬ KickstartCheck f) where
  accounted _ h := h.accounted
  record _ _ _ h := h.recordEnqueue
  fault := by rintro s f - (rfl | rfl | rfl | ⟨rfl, -⟩) _ <;> decide
  note _ _ _ h := h
  emit _ _ _ _ h := h

/-- Frames are removed: what is left was there before. -/
theorem Kickable.shrinks {gone : ℤ → Prop} {w w' : FrameWindow} (h : Kickable careful w)
    (hs : Shrinks gone w w') {i : Fin 120} {frame : EncryptedFrame}
    (hframe : w'.frames i = some frame) : FlaggedOrSent (w'.pendingFrames i) := by
  rcases hs.slot i with heq | hnone
  · rw [heq]
    refine h.sent i frame ?_
    rw [← hframe, FrameWindow.frames, FrameWindow.frames, heq]
  · rw [FrameWindow.frames, hnone] at hframe
    cases hframe

/-- Feedback about frames up to `id`, in which the newest frame is gone only if it is among them. -/
theorem Kickable.feedback {gone : ℤ → Prop} {t : Sender} {checkpoint id : ℤ}
    (h : Kickable careful s.toFrameWindow) (hr : Removes true gone checkpoint s t)
    (hle : s.checkpointFrameId ≤ checkpoint) (hmax : checkpoint ≤ max s.checkpointFrameId id)
    (hgone : id < s.lastEnqueuedFrameId → checkpoint < s.lastEnqueuedFrameId →
      ¬gone s.lastEnqueuedFrameId) : Kickable careful (t.expect id).toFrameWindow := by
  obtain ⟨hacc, hcp, hs, -⟩ := hr
  have hlast := hs.last
  have hlatest := hs.latest
  refine ⟨hacc.expect _, fun i f hf => h.shrinks hs hf, fun h₁ h₂ => ?_, fun hcareful => ?_⟩
  · simp only at h₁ h₂ ⊢
    have hfl := h.newest (by omega) (by omega)
    rw [hlast]
    exact (hs.inFlight _).mpr ⟨hfl, hgone (by omega) (by omega)⟩
  · have hready := h.ready hcareful
    simp only [KickstartReady] at hready ⊢
    omega

theorem stepRules_kickable :
    StepRules c (fun s => Kickable careful s.toFrameWindow)
      (fun s => Kickable careful s.toFrameWindow) (fun f => careful → ¬ KickstartCheck f) where
  toCallRules := kept_kickable.callRules (fun _ _ _ _ _ _ => id) <| by
    rintro f hf - (rfl | rfl) <;> exact hf
  checkpoint _ _ _ h _ hr := h.feedback hr (le_max_left _ _) le_rfl fun _ hlt => not_le.mpr hlt
  acks _ _ _ _ h hsorted hmem _ hr := h.feedback hr le_rfl (le_max_left _ _) fun hlt _ hack =>
    absurd (ack_le_last hsorted hmem hack) (not_le.mpr hlt)
  nacks s nacks threshold w events h _ hn := by
    refine ⟨FrameWindow.Accounted.nacked h.accounted hn, fun i f hf p hp hclear => ?_,
      fun h₁ h₂ => ?_, fun hcareful => ?_⟩
    · rw [hn.frames] at hf
      rw [(hn.slot i).size_eq] at hp
      rw [(hn.slot i).times]
      refine h.sent i f hf p hp ?_
      by_contra hset
      have := (hn.slot i).keeps p (by simpa using hset)
      rw [hclear] at this
      cases this
    · simp only at h₁ h₂ ⊢
      have := hn.latest
      rw [hn.last, hn.isInFlight]
      rw [hn.checkpoint, hn.last] at h₁
      rw [hn.last] at h₂
      exact h.newest h₁ (by omega)
    · have hready := h.ready hcareful
      have := hn.latest
      simp only [KickstartReady] at hready ⊢
      rw [hn.checkpoint, hn.last]
      omega
  send s sendTime chosen frame packetizer size h htime hc := by
    have hframes := frames_recordSend hc.isPacket sendTime packetizer size
    refine ⟨accounted_recordSend h.accounted hc.isPacket _ _ _, fun i f hf => ?_, fun h₁ h₂ => ?_,
      h.ready⟩
    · rw [hframes] at hf
      show FlaggedOrSent (Function.update s.pendingFrames _ _ i)
      by_cases hi : i = chosen.slot
      · subst hi
        obtain ⟨-, htimes, hsize, hflags⟩ :=
          PendingFrameSlot.markSent_spec hc.isPacket.packet sendTime
        have hlen := (s.pendingFrames chosen.slot).size_eq
        rw [Function.update_self]
        intro p hp hclear
        rw [hsize] at hp
        rw [htimes]
        rw [hflags] at hclear
        by_cases hpid : p = chosen.packetId
        · subst hpid
          rw [List.getD_eq_getElem?_getD, List.getElem?_set_self (by omega)]
          exact htime
        · rw [List.getD_eq_getElem?_getD, List.getElem?_set_ne (Ne.symm hpid),
            ← List.getD_eq_getElem?_getD]
          exact h.sent _ f hf p hp (by simpa [hpid] using hclear)
      · rw [Function.update_of_ne hi]
        exact h.sent i f hf
    · rw [isInFlight_iff, hframes, ← isInFlight_iff]
      exact h.newest h₁ h₂

/-! ### Runs -/

/-- A call that is no `CancelInFlightData` while the receiver does not know of every frame. -/
def CancelsKnown (s : Sender) (op : SenderOp) : Prop :=
  ∀ reactions, op = .cancelInFlightData reactions →
    s.lastEnqueuedFrameId ≤ s.latestExpectedFrameId

/-- A step whose call cancels only frames that the receiver knows of. -/
def CarefulStep (c : SessionConfig) (s : Sender) (a : SenderOp × SenderOutput) (t : Sender) :
    Prop :=
  CancelsKnown s a.1 ∧ Step c s a t

theorem outcome_step_kickable (h : Kickable careful s.toFrameWindow) {op : SenderOp}
    (htimely : op.Timely) (hop : careful → CancelsKnown s op) :
    Outcome (fun r => Kickable careful r.2.toFrameWindow) (fun f => careful → ¬ KickstartCheck f)
      (s.step c op) := by
  refine stepRules_kickable.step h htimely (fun reactions hcancel t ⟨hacc, hcp, hs, _⟩ => ?_)
    (fun _ _ => h) ?_
  · have hlast : t.lastEnqueuedFrameId = s.lastEnqueuedFrameId := hs.last
    have hlatest : t.latestExpectedFrameId = s.latestExpectedFrameId := hs.latest
    refine ⟨hacc, fun i f hf => h.shrinks hs hf, fun h₁ _ => by omega, fun hcareful => ?_⟩
    have hknown := hop hcareful reactions hcancel
    exact Or.inr (by omega)
  · rintro f hnone ⟨hlt, hf⟩ hcareful
    obtain ⟨hfl, hsent⟩ := h.kickstartValid (h.ready hcareful) hnone hlt
    rcases hf with ⟨-, hoff⟩ | ⟨-, -, hnever⟩
    · exact absurd hfl hoff
    · exact absurd hnever hsent

theorem kickable_new (c : SessionConfig) (packetizer : RtpPacketizer) :
    Kickable careful (Sender.new c packetizer).toFrameWindow := by
  refine ⟨accounted_new c packetizer, fun i f hf => ?_, fun h _ => ?_, fun _ => Or.inr (le_refl _)⟩
  · cases hf
  · exact absurd h (lt_irrefl _)

/-- **Kickstart selection.** In every reachable state, what `ChooseKickstartPacket` asserts
holds exactly when a frame is above the checkpoint or the receiver knows of all of them. As long
as `CancelInFlightData` is called only when the receiver knows of all frames, that is so in every
state, and no call fails either assertion. -/
theorem kickstart_valid {s₀ : Sender} {labels : List (SenderOp × SenderOutput)} (h₀ : IsNew c s₀)
    (hrun : TransitionSystem.Run (Step c) s₀ labels s) :
    (s.KickstartValid ↔ s.checkpointFrameId < s.lastEnqueuedFrameId ∨
      s.lastEnqueuedFrameId ≤ s.latestExpectedFrameId) ∧
    (TransitionSystem.Run (CarefulStep c) s₀ labels s →
      s.KickstartValid ∧
      ∀ op f, op.Timely → CancelsKnown s op → s.step c op = .error f →
        f ≠ .kickstartSlotInactive ∧ f ≠ .kickstartNeverSent) := by
  obtain ⟨packetizer, rfl⟩ := h₀
  refine ⟨⟨fun hvalid => ?_, fun hready => ?_⟩, fun hcareful => ?_⟩
  · have hacc := accounted_run ⟨packetizer, rfl⟩ hrun
    by_contra hready
    exact not_kickstartValid hacc hready hvalid
  · have hinv : Kickable False s.toFrameWindow :=
      hrun.invariant (P := fun s => Kickable False s.toFrameWindow)
        (fun s a t hs hst => (outcome_step_kickable hs hst.1 False.elim).of_ok hst.2)
        (kickable_new c packetizer)
    exact hinv.kickstartValid hready
  · have hinv : Kickable True s.toFrameWindow :=
      hcareful.invariant (P := fun s => Kickable True s.toFrameWindow)
        (fun s a t hs hst => (outcome_step_kickable hs hst.2.1 fun _ => hst.1).of_ok hst.2.2)
        (kickable_new c packetizer)
    refine ⟨hinv.kickstartValid (hinv.ready trivial), fun op f htimely hknown hf => ?_⟩
    have hno := (outcome_step_kickable hinv htimely fun _ => hknown).of_error hf trivial
    simpa [KickstartCheck] using hno

/-- A frame is enqueued and sent. -/
def sendOneOps : List SenderOp :=
  [.enqueueFrame (exampleFrame 0), .getRtpPacketForImmediateSend 5 1472]

theorem outcome_sendOne :
    Outcome
      (fun r => r.2.latestExpectedFrameId < r.2.lastEnqueuedFrameId ∧
        r.2.checkpointFrameId < r.2.lastEnqueuedFrameId)
      (fun _ => False)
      (runOps exampleConfig (Sender.new exampleConfig examplePacketizer) sendOneOps) := by
  decide +kernel

theorem kickstart_valid_sendOne :
    ∃ s labels, TransitionSystem.Run (Step exampleConfig)
      (Sender.new exampleConfig examplePacketizer) labels s ∧
      s.latestExpectedFrameId < s.lastEnqueuedFrameId ∧ s.KickstartValid := by
  obtain ⟨⟨labels, s⟩, hrun, hlatest, hcp⟩ := outcome_sendOne.exists_ok
  have hrun' := run_of_runOps hrun (by decide)
  exact ⟨s, labels, hrun', hlatest,
    (kickstart_valid ⟨examplePacketizer, rfl⟩ hrun').1.mpr (Or.inl hcp)⟩

/-- The frame that the receiver does not know of is cancelled: the next question for a packet
to send fails. -/
theorem not_kickstartValid_after_cancel :
    ∃ s labels, TransitionSystem.Run (Step exampleConfig)
      (Sender.new exampleConfig examplePacketizer) labels s ∧ ¬ s.KickstartValid ∧
      s.step exampleConfig .getRtpResumeTime = .error .kickstartSlotInactive ∧
      s.step exampleConfig (.getRtpPacketForImmediateSend 5 1472) =
        .error .kickstartSlotInactive := by
  have heval : Outcome
      (fun r => r.2.chooseNextRtpPacketNeedingSend = none ∧
        r.2.latestExpectedFrameId < r.2.lastEnqueuedFrameId ∧
        ¬ r.2.isInFlight r.2.lastEnqueuedFrameId ∧
        Outcome (fun _ => False) (· = .kickstartSlotInactive)
          (r.2.step exampleConfig .getRtpResumeTime) ∧
        Outcome (fun _ => False) (· = .kickstartSlotInactive)
          (r.2.step exampleConfig (.getRtpPacketForImmediateSend 5 1472)))
      (fun _ => False)
      (runOps exampleConfig (Sender.new exampleConfig examplePacketizer)
        [.enqueueFrame (exampleFrame 0), .cancelInFlightData []]) := by
    decide +kernel
  obtain ⟨⟨labels, s⟩, hrun, hnext, hlatest, hoff, hresume, hsend⟩ := heval.exists_ok
  obtain ⟨_, hresume, rfl⟩ := hresume.exists_error
  obtain ⟨_, hsend, rfl⟩ := hsend.exists_error
  exact ⟨s, labels, run_of_runOps hrun (by decide),
    fun hvalid => hoff (hvalid hnext hlatest).1, hresume, hsend⟩

end Sender

end StreamerPlus
