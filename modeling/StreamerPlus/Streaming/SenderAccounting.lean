import StreamerPlus.Streaming.SenderRun

/-!
# Slot accounting over runs of the sender

`FrameWindow.Accounted` holds in every reachable state, the history says which frames are in
flight, and with an observer it is one in which each frame that is removed is reported once.

## Main results

* `slot_accounting`: in every state that a run reaches, the count of frames in flight is the number
  of slots in use; and with an observer from the start, the reports are those of the removed frames.
-/

namespace StreamerPlus

open Checked FrameWindow

namespace Sender

variable {c : SessionConfig} {s t : Sender} {waiting : List ℤ}

/-! ### Accounting -/

/-- The assertions about the slots. -/
def AccountingFault (f : SenderFault) : Prop :=
  f = .slotInUse ∨ f = .tooManyFramesInFlight ∨ f = .noFramesInFlight

instance : DecidablePred AccountingFault := fun _ => inferInstanceAs (Decidable (_ ∨ _ ∨ _))

theorem kept_accounted : Kept (·.Accounted) (¬ AccountingFault ·) where
  accounted _ h := h
  record _ _ _ := accounted_recordEnqueue
  fault := by rintro s f - (rfl | rfl | rfl | ⟨rfl, -⟩) <;> decide
  note _ _ _ h := h
  emit _ _ _ _ h := h

theorem not_accountingFault (f : SenderFault) (h : IsAside f) : ¬ AccountingFault f := by
  rintro (rfl | rfl | rfl) <;> exact h

theorem stepRules_accounted :
    StepRules c (·.Accounted) (·.Accounted) (¬ AccountingFault ·) where
  toCallRules := kept_accounted.callRules (fun _ _ _ _ _ _ => id) not_accountingFault
  checkpoint _ _ _ _ _ h := h.accounted.expect _
  acks _ _ _ _ _ _ _ _ h := h.accounted.expect _
  nacks _ _ _ _ _ h _ hn := FrameWindow.Accounted.nacked h hn
  send _ _ _ _ _ _ h _ hc := accounted_recordSend h hc.isPacket _ _ _

/-- A call keeps slot accounting, and fails none of the assertions about the slots. -/
theorem outcome_step_accounted (h : s.Accounted) {op : SenderOp} (htimely : op.Timely) :
    Outcome (fun r => r.2.Accounted) (¬ AccountingFault ·) (s.step c op) := by
  refine stepRules_accounted.step h htimely (fun _ _ _ h => h.accounted) (fun _ _ => h) ?_
  rintro f - ⟨-, ⟨rfl, -⟩ | ⟨rfl, -⟩⟩ <;> decide

theorem accounted_new (c : SessionConfig) (packetizer : RtpPacketizer) :
    (Sender.new c packetizer).Accounted := by
  have hnone : ∀ i, (Sender.new c packetizer).frames i = none := fun _ => rfl
  refine ⟨?_, fun i f hf => ?_, fun i f hf => ?_, le_refl _, le_refl _, ?_⟩
  · have hempty : SlotRing.occupied (Sender.new c packetizer).frames = ∅ := by
      ext i
      simp [hnone]
    rw [hempty]
    rfl
  · simp [hnone] at hf
  · simp [hnone] at hf
  · simp [Sender.new]

variable {labels : List (SenderOp × SenderOutput)} {s₀ : Sender}

theorem accounted_run (h₀ : IsNew c s₀)
    (h : TransitionSystem.Run (Step c) s₀ labels s) : s.Accounted := by
  obtain ⟨packetizer, rfl⟩ := h₀
  exact h.invariant (P := fun s => s.Accounted)
    (fun s a t hs hst => (outcome_step_accounted hs hst.1).of_ok hst.2) (accounted_new c packetizer)

/-! ### What the history says of the frames -/

/-- The frame was enqueued and is no longer in flight. -/
def HasLeft (s : Sender) (id : ℤ) : Prop :=
  FrameId.first ≤ id ∧ id ≤ s.lastEnqueuedFrameId ∧ ¬ s.isInFlight id

/-- Every frame up to the last one was enqueued, and those that are no longer in flight, and no
others, have been removed once. -/
structure Recorded (s : Sender) : Prop where
  once : ∀ id, s.HasLeft id → (removedIds s.events).count id = 1
  never : ∀ id, ¬ s.HasLeft id → (removedIds s.events).count id = 0
  enqueued : ∀ id, id ∈ enqueuedIds s.events ↔ FrameId.first ≤ id ∧ id ≤ s.lastEnqueuedFrameId

/-- Changes that move no frame. -/
theorem Recorded.congr (h : Recorded s) (hremoved : removedIds t.events = removedIds s.events)
    (henqueued : enqueuedIds t.events = enqueuedIds s.events)
    (hlast : t.lastEnqueuedFrameId = s.lastEnqueuedFrameId) (hframes : t.frames = s.frames) :
    Recorded t := by
  have hleft : ∀ id, t.HasLeft id ↔ s.HasLeft id := by
    intro id
    rw [HasLeft, HasLeft, hlast, isInFlight_iff, isInFlight_iff, hframes]
  refine ⟨fun id hl => ?_, fun id hl => ?_, ?_⟩
  · rw [hremoved]
    exact h.once id ((hleft id).mp hl)
  · rw [hremoved]
    exact h.never id fun h' => hl ((hleft id).mpr h')
  · rw [henqueued, hlast]
    exact h.enqueued

/-- An event that neither removes nor enqueues a frame. -/
theorem Recorded.emit (h : Recorded s) {event : SenderEvent} (hremoved : removedIds [event] = [])
    (henqueued : enqueuedIds [event] = []) : Recorded (s.emit event) := by
  refine h.congr ?_ ?_ rfl rfl
  · show removedIds (s.events ++ [event]) = _
    rw [removedIds_append, hremoved, List.append_nil]
  · show enqueuedIds (s.events ++ [event]) = _
    rw [enqueuedIds_append, henqueued, List.append_nil]

theorem Recorded.release {lo : ℤ} {frame : EncryptedFrame} (h : Recorded s)
    (hacc : s.AccountedAbove lo) (hframe : s.frames (slotIndex frame.frameId) = some frame)
    (wasAcked : Bool) : Recorded (s.release frame wasAcked) := by
  obtain ⟨-, hshrinks⟩ := accountedAbove_release hacc hframe wasAcked
  have hid := isInFlight_iff.mpr ⟨frame, hframe, rfl⟩
  have hbounds := hacc.bounds hid
  have hleader := hacc.leader_le
  have hremoved : removedIds (s.release frame wasAcked).events =
      removedIds s.events ++ [frame.frameId] := by
    cases wasAcked <;> simp [Sender.release, removedIds]
  have henqueued : enqueuedIds (s.release frame wasAcked).events = enqueuedIds s.events := by
    cases wasAcked <;> simp [Sender.release, enqueuedIds]
  have hleft : ∀ id, (s.release frame wasAcked).HasLeft id ↔ s.HasLeft id ∨ id = frame.frameId := by
    intro id
    show _ ∧ id ≤ s.lastEnqueuedFrameId ∧ ¬ (s.release frame wasAcked).isInFlight id ↔ _
    rw [hshrinks.inFlight, HasLeft]
    by_cases he : id = frame.frameId
    · subst he
      simp only [FrameId.first, FrameId.leader] at hleader ⊢
      simp only [hid, hbounds.2, show 0 ≤ frame.frameId by omega]
      tauto
    · simp [he]
  have hnot : ¬ s.HasLeft frame.frameId := fun hl => hl.2.2 hid
  refine ⟨fun id hl => ?_, fun id hl => ?_, fun id => henqueued ▸ h.enqueued id⟩
  · rw [hremoved, List.count_append]
    rcases (hleft id).mp hl with hl | rfl
    · have hne : frame.frameId ≠ id := fun he => hnot (he ▸ hl)
      simp [h.once id hl, hne]
    · simp [h.never _ hnot]
  · obtain ⟨hl', hne⟩ := not_or.mp fun h' => hl ((hleft id).mpr h')
    rw [hremoved, List.count_append, h.never id hl']
    simp [Ne.symm hne]

variable {wasAcked : Bool} {gone : ℤ → Prop}

theorem Recorded.releases (h : Recorded s) (hr : Releases wasAcked gone s t) : Recorded t := by
  induction hr with
  | refl => exact h
  | release _ hacc hframe _ ih => exact ih.release hacc hframe wasAcked
  | checkpoint _ ih => exact ⟨ih.1, ih.2, ih.3⟩

/-- The events of an accepted frame. -/
theorem events_recordEnqueue (s : Sender) (frame : EncryptedFrame) (n : ℕ) :
    ∃ requests, (s.recordEnqueue frame n).events =
        s.events ++ [.enqueued frame.frameId] ++ requests ∧
      (requests = [.requestRtcpSend, .requestRtpSend] ∨ requests = [.requestRtpSend]) := by
  refine ⟨(if s.roundTripTime = 0 then [.requestRtcpSend] else []) ++ [.requestRtpSend], ?_, ?_⟩
  · rw [← List.append_assoc]
    rfl
  · split_ifs
    · exact Or.inl rfl
    · exact Or.inr rfl

theorem Recorded.recordEnqueue (h : Recorded s) (hacc : s.Accounted) {frame : EncryptedFrame}
    {n : ℕ} (hnext : s.IsNext frame.frameId) : Recorded (s.recordEnqueue frame n) := by
  have hid := hnext.eq
  have hle := hacc.le_last
  have hleader := hacc.leader_le
  obtain ⟨requests, hevents, hrequests⟩ := events_recordEnqueue s frame n
  have hremoved : removedIds (s.recordEnqueue frame n).events = removedIds s.events := by
    rcases hrequests with rfl | rfl <;> simp [hevents, removedIds]
  have henqueued : enqueuedIds (s.recordEnqueue frame n).events =
      enqueuedIds s.events ++ [frame.frameId] := by
    rcases hrequests with rfl | rfl <;> simp [hevents, enqueuedIds]
  have hlast : (s.recordEnqueue frame n).lastEnqueuedFrameId = frame.frameId := rfl
  have hleft : ∀ id, (s.recordEnqueue frame n).HasLeft id ↔ s.HasLeft id := by
    intro id
    rw [HasLeft, HasLeft, hlast, isInFlight_recordEnqueue hacc hnext]
    by_cases he : id = frame.frameId
    · simp [he, hid]
    · simp only [he, or_false]
      refine and_congr_right fun _ => and_congr_left fun _ => ?_
      omega
  refine ⟨fun id hl => ?_, fun id hl => ?_, fun id => ?_⟩
  · rw [hremoved]
    exact h.once id ((hleft id).mp hl)
  · rw [hremoved]
    exact h.never id fun h' => hl ((hleft id).mpr h')
  · rw [henqueued, hlast, List.mem_append, h.enqueued, List.mem_singleton]
    simp only [FrameId.first, FrameId.leader] at hleader ⊢
    omega

theorem kept_recorded : Kept (fun s => s.Accounted ∧ s.Recorded) (fun _ => True) where
  accounted _ h := h.1
  record _ _ _ h hn hnext := ⟨accounted_recordEnqueue h.1 hn hnext, h.2.recordEnqueue h.1 hnext⟩
  fault _ _ _ _ := trivial
  note _ _ _ h := ⟨h.1, h.2.congr rfl rfl rfl rfl⟩
  emit _ _ hremoved henqueued h := ⟨h.1, h.2.emit hremoved henqueued⟩

theorem stepRules_recorded :
    StepRules c (fun s => s.Accounted ∧ s.Recorded) (fun s => s.Accounted ∧ s.Recorded)
      (fun _ => True) where
  toCallRules := kept_recorded.callRules
    (fun _ _ _ _ _ _ h => ⟨h.1, h.2.congr rfl rfl rfl rfl⟩) fun _ _ => trivial
  checkpoint _ _ _ h _ hr :=
    ⟨hr.accounted.expect _, (h.2.releases hr.releases).congr rfl rfl rfl rfl⟩
  acks _ _ _ _ h _ _ _ hr :=
    ⟨hr.accounted.expect _, (h.2.releases hr.releases).congr rfl rfl rfl rfl⟩
  nacks s _ _ _ events h hevents hn := by
    refine ⟨FrameWindow.Accounted.nacked h.1 hn, h.2.congr ?_ ?_ hn.last hn.frames⟩ <;>
      rcases hevents with rfl | rfl <;> simp [removedIds, enqueuedIds]
  send _ _ _ _ _ _ h _ hc := ⟨accounted_recordSend h.1 hc.isPacket _ _ _,
    h.2.congr rfl rfl rfl (frames_recordSend hc.isPacket _ _ _)⟩

/-- **The history of a run** says which frames are in flight. -/
theorem recorded_run (h₀ : IsNew c s₀)
    (h : TransitionSystem.Run (Step c) s₀ labels s) : s.Recorded := by
  obtain ⟨packetizer, rfl⟩ := h₀
  refine (h.invariant (P := fun s => s.Accounted ∧ s.Recorded) (fun s a t hs hst => ?_)
    ⟨accounted_new c packetizer, fun id hid => ?_, fun _ _ => rfl, fun id => ?_⟩).2
  · refine (stepRules_recorded.step hs hst.1 (fun reactions _ t hr => ?_) (fun _ _ => ?_)
      fun _ _ _ => trivial).of_ok hst.2
    · have hs' : Recorded { s with reactions } := hs.2.congr rfl rfl rfl rfl
      exact ⟨hr.accounted, hs'.releases hr.releases⟩
    · exact ⟨hs.1, hs.2.congr rfl rfl rfl rfl⟩
  · obtain ⟨h₁, h₂, -⟩ := hid
    simp only [Sender.new, FrameId.first, FrameId.leader] at h₁ h₂
    omega
  · simp only [Sender.new, enqueuedIds, FrameId.first, FrameId.leader, List.filterMap_nil,
      List.not_mem_nil, false_iff]
    omega

/-! ### Reports to the observer -/

/-- An observer is set, and the frames of `waiting` are those that have been removed and not
reported. -/
structure Reporting (waiting : List ℤ) (s : Sender) : Prop where
  observed : s.observer.isSome
  reports : Reports s.events waiting

theorem Reporting.releases
    (h : Reporting s.pendingCancellations s) (hr : Releases wasAcked gone s t) :
    Reporting t.pendingCancellations t := by
  induction hr with
  | refl => exact h
  | @release t _ frame _ _ _ _ ih =>
    have hpending : (t.release frame wasAcked).pendingCancellations =
        t.pendingCancellations ++ [frame.frameId] := if_pos ih.observed
    refine ⟨ih.observed, hpending ▸ Reports.removed _ _ ?_⟩
    cases wasAcked with
    | false => simpa using ih.reports
    | true => exact ih.reports.other _ rfl rfl (by simp)
  | checkpoint _ ih => exact ⟨ih.1, ih.2⟩

theorem Reporting.recordEnqueue (h : Reporting waiting s) (frame : EncryptedFrame) (n : ℕ) :
    Reporting waiting (s.recordEnqueue frame n) := by
  obtain ⟨requests, hevents, hrequests⟩ := events_recordEnqueue s frame n
  have hfirst := h.reports.other (.enqueued frame.frameId) rfl rfl (by simp)
  refine ⟨h.observed, hevents ▸ ?_⟩
  rcases hrequests with rfl | rfl
  · have := (hfirst.other .requestRtcpSend rfl rfl (by simp)).other .requestRtpSend rfl rfl
      (by simp)
    rwa [List.append_assoc] at this
  · exact hfirst.other .requestRtpSend rfl rfl (by simp)

/-- Slots and reports together, with the cancellations that are pending. -/
structure Observed (waiting pending : List ℤ) (s : Sender) : Prop where
  accounted : s.Accounted
  reporting : Reporting waiting s
  pending : s.pendingCancellations = pending

variable {pending : List ℤ}

theorem Observed.enqueueFrame (h : Observed waiting pending s) (frame : EncodedFrame) :
    Outcome (fun r => Observed waiting pending r.2) (¬ AccountingFault ·)
      (s.enqueueFrame c frame) := by
  refine (outcome_enqueueFrame h.accounted frame).mono ?_ fun f =>
    kept_accounted.fault s f h.accounted
  rintro ⟨r, t⟩ (⟨-, rfl⟩ | ⟨-, hnext, n, hn, rfl⟩)
  · exact h
  · exact ⟨accounted_recordEnqueue h.accounted hn hnext, h.reporting.recordEnqueue _ n, h.pending⟩

theorem Observed.react (h : Observed waiting pending s) :
    Outcome (Observed waiting pending) (¬ AccountingFault ·) (s.react c) := by
  unfold Sender.react
  split
  · exact h
  · rename_i frames reactions _
    have h' : Observed waiting pending { s with reactions } :=
      ⟨h.accounted, ⟨h.reporting.1, h.reporting.2⟩, h.pending⟩
    exact Outcome.foldlM h' fun s frame _ hs => (hs.enqueueFrame frame).map

/-- The dispatch reports the pending cancellations, one after the other. -/
theorem Observed.dispatchCancellations (h : Observed pending pending s) :
    Outcome (Observed [] []) (¬ AccountingFault ·) (s.dispatchCancellations c) := by
  unfold Sender.dispatchCancellations
  rw [if_pos h.reporting.observed, h.pending]
  refine Outcome.bind (Q := Observed [] pending) ?_ fun t ht => ?_
  · refine Outcome.foldlM_rest (P := fun rest s => Observed rest pending s) h fun id rest t ht => ?_
    exact Observed.react ⟨ht.accounted,
      ⟨ht.reporting.observed, ht.reporting.reports.reported id⟩, ht.pending⟩
  · exact ⟨ht.accounted, ⟨ht.reporting.observed, ht.reporting.reports.dispatched⟩, rfl⟩

/-- An event that is none of the grammar's own. -/
theorem Observed.emit (h : Observed waiting pending s) {event : SenderEvent}
    (hremoved : removedIds [event] = []) (hreported : reportedIds [event] = [])
    (hdispatched : event ≠ .dispatched) : Observed waiting pending (s.emit event) :=
  ⟨h.accounted, ⟨h.reporting.observed, h.reporting.reports.other event hremoved hreported
    hdispatched⟩, h.pending⟩

variable {checkpoint : ℤ}

theorem Observed.removes (h : Observed [] [] s) (hr : Removes wasAcked gone checkpoint s t) :
    Observed t.pendingCancellations t.pendingCancellations t :=
  ⟨hr.accounted, Reporting.releases (h.pending ▸ h.reporting) hr.releases, rfl⟩

theorem Observed.expect (h : Observed waiting pending s) (frameId : ℤ) :
    Observed waiting pending (s.expect frameId) :=
  ⟨h.accounted.expect _, ⟨h.reporting.1, h.reporting.2⟩, h.pending⟩

theorem stepRules_observed :
    StepRules c (Observed [] []) (fun s => Observed s.pendingCancellations s.pendingCancellations s)
      (¬ AccountingFault ·) where
  accounted _ h := h.accounted
  enqueue _ frame h := h.enqueueFrame frame
  dispatch _ h := h.dispatchCancellations
  pictureLost s h := (h.emit rfl rfl (by simp)).react
  checkpoint _ _ frameId h _ hr := (h.removes hr).expect frameId
  acks _ _ _ last h _ _ _ hr := (h.removes hr).expect last
  nacks s _ _ w events h hevents hn := by
    refine ⟨FrameWindow.Accounted.nacked h.accounted hn, ⟨h.reporting.observed, ?_⟩, h.pending⟩
    rcases hevents with rfl | rfl
    · exact (List.append_nil s.events).symm ▸ h.reporting.reports
    · exact h.reporting.reports.other .requestRtpSend rfl rfl (by simp)
  send s sendTime chosen frame packetizer size h _ hc :=
    ⟨accounted_recordSend h.accounted hc.isPacket _ _ _, ⟨h.reporting.1, h.reporting.2⟩, h.pending⟩
  emit s _ _ h := h.emit rfl rfl (by simp)
  aside _ _ _ _ _ _ h := ⟨h.accounted, ⟨h.reporting.1, h.reporting.2⟩, h.pending⟩
  fault := not_accountingFault

/-- A call other than `SetObserver` keeps the reports in order. -/
theorem Observed.step (h : Observed [] [] s) {op : SenderOp} (htimely : op.Timely)
    (hop : ∀ observer, op ≠ .setObserver observer) :
    Outcome (fun r => Observed [] [] r.2) (¬ AccountingFault ·) (s.step c op) := by
  refine stepRules_observed.step h htimely ?_ (fun o ho => absurd ho (hop o)) ?_
  · intro reactions _ t hr
    have hs : Observed [] [] { s with reactions } :=
      ⟨h.accounted, ⟨h.reporting.1, h.reporting.2⟩, h.pending⟩
    exact hs.removes hr
  · rintro f - ⟨-, ⟨rfl, -⟩ | ⟨rfl, -⟩⟩ <;> decide

/-- An observer is set by the first call, and no later call sets another. -/
def ObservedThroughout (labels : List (SenderOp × SenderOutput)) : Prop :=
  ∃ observer rest, labels = (.setObserver (some observer), .none) :: rest ∧
    ∀ label ∈ rest, ∀ o, label.1 ≠ .setObserver o

theorem observed_run {packetizer : RtpPacketizer}
    (h : TransitionSystem.Run (Step c) (Sender.new c packetizer) labels s)
    (hobs : ObservedThroughout labels) : Observed [] [] s := by
  obtain ⟨observer, rest, rfl, hrest⟩ := hobs
  obtain ⟨t, ⟨-, hfirst⟩, hrun⟩ := h.uncons
  cases hfirst
  refine hrun.invariant_of_forall (P := Observed [] [])
    (fun s a t ha hs hst => (hs.step hst.1 ha).of_ok hst.2) hrest ?_
  exact ⟨accounted_new c packetizer, ⟨rfl, .nil⟩, rfl⟩

/-- **Slot accounting.** In every state that a run reaches, the count is the number of slots
that hold a frame, each held frame is in the window and in its slot, and no assertion about the
slots can fail. With one observer throughout, each frame is reported once, when it has been
removed and by the dispatch that follows. -/
theorem slot_accounting (h₀ : IsNew c s₀) (hrun : TransitionSystem.Run (Step c) s₀ labels s) :
    (s.numFramesInFlight = (Finset.univ.filter fun i => (s.pendingFrames i).frame.isSome).card ∧
      (∀ i frame, (s.pendingFrames i).frame = some frame →
        s.checkpointFrameId < frame.frameId ∧ frame.frameId ≤ s.lastEnqueuedFrameId ∧
          ((i : ℕ) : ℤ) = (frame.frameId - FrameId.first) % 120) ∧
      s.lastEnqueuedFrameId - s.checkpointFrameId ≤ 120) ∧
    (∀ op f, op.Timely → s.step c op = .error f →
      f ≠ .slotInUse ∧ f ≠ .tooManyFramesInFlight ∧ f ≠ .noFramesInFlight) ∧
    (ObservedThroughout labels →
      (∀ id ∈ enqueuedIds s.events,
        (s.isInFlight id → (reportedIds s.events).count id = 0) ∧
        (¬ s.isInFlight id → (reportedIds s.events).count id = 1)) ∧
      reportedIds s.events = removedIds s.events ∧
      (∀ pre, pre <+: s.events → reportedIds pre <+: removedIds pre) ∧
      ∀ pre, pre ++ [.dispatched] <+: s.events → reportedIds pre = removedIds pre) := by
  have hacc := accounted_run h₀ hrun
  refine ⟨⟨hacc.count, fun i frame hframe => ?_, hacc.span⟩, fun op f htimely hf => ?_,
    fun hobs => ?_⟩
  · obtain ⟨h₁, h₂, h₃⟩ := hacc.held i frame hframe
    have hleader := hacc.leader_le
    simp only [FrameId.leader] at hleader
    refine ⟨h₁, h₂, ?_⟩
    rw [h₃, cast_slotIndex (by omega), FrameId.first, sub_zero]
  · have hno := (outcome_step_accounted hacc htimely).of_error hf
    simpa [AccountingFault] using hno
  · have hrec := recorded_run h₀ hrun
    obtain ⟨packetizer, rfl⟩ := h₀
    have hrep := (observed_run hrun hobs).reporting
    have heq : reportedIds s.events = removedIds s.events := by
      rw [hrep.reports.removedIds_eq, List.append_nil]
    refine ⟨fun id hid => ?_, heq, fun pre hpre => ?_, fun pre hpre => ?_⟩
    · obtain ⟨h₁, h₂⟩ := (hrec.enqueued id).mp hid
      rw [heq]
      exact ⟨fun hfl => hrec.never id fun hl => hl.2.2 hfl, fun hfl => hrec.once id ⟨h₁, h₂, hfl⟩⟩
    · obtain ⟨waiting, hpre'⟩ := hrep.reports.reported_of_pre hpre
      exact ⟨waiting, hpre'.removedIds_eq.symm⟩
    · exact hrep.reports.reportedIds_of_dispatched hpre

/-- Two frames are cancelled, and the observer enqueues a third while it is told of the first. -/
def cancelTwoOps : List SenderOp :=
  [.setObserver (some 0), .enqueueFrame (exampleFrame 0), .enqueueFrame (exampleFrame 1),
    .cancelInFlightData [[exampleFrame 2]]]

theorem slot_accounting_cancelTwo :
    ∃ s labels, TransitionSystem.Run (Step exampleConfig)
        (Sender.new exampleConfig examplePacketizer) labels s ∧
      ObservedThroughout labels ∧ s.isInFlight 2 ∧ (reportedIds s.events).count 1 = 1 := by
  have heval : Outcome
      (fun r => r.1 = [(.setObserver (some 0), .none),
          (.enqueueFrame (exampleFrame 0), .enqueueResult .ok),
          (.enqueueFrame (exampleFrame 1), .enqueueResult .ok),
          (.cancelInFlightData [[exampleFrame 2]], .none)] ∧
        r.2.isInFlight 2 ∧ ¬ r.2.isInFlight 1 ∧ 1 ∈ enqueuedIds r.2.events)
      (fun _ => False)
      (runOps exampleConfig (Sender.new exampleConfig examplePacketizer) cancelTwoOps) := by
    decide +kernel
  obtain ⟨⟨labels, s⟩, hrun, hlabels, htwo, hone, henq⟩ := heval.exists_ok
  dsimp only at hlabels htwo hone henq
  have hrun' := run_of_runOps hrun (by decide)
  have hobs : ObservedThroughout labels := by
    rw [hlabels]
    exact ⟨0, _, rfl, by simp⟩
  have hacc := slot_accounting ⟨examplePacketizer, rfl⟩ hrun'
  exact ⟨s, labels, hrun', hobs, htwo, ((hacc.2.2 hobs).1 1 henq).2 hone⟩

end Sender

end StreamerPlus
