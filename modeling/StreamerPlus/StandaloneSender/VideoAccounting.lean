import StreamerPlus.StandaloneSender.DesktopMediaSender

/-!
# The frame counters of the desktop sender

Every frame that `PollCapture` offers should be counted once: as submitted, as dropped for its
timestamp, as rejected before encoding, as dropped while pending, or as the frame that is held.
Each try does count its frame in exactly one counter. But a frame that has to wait for the encoder
is counted as dropped when it is put into the slot, whether or not it replaces another one, and
is tried and counted again when the encoder is free; a retry that the encoder rejects is counted a
third time, since the frame is then still in the slot.

`Even` and `Uneven` are the states before and after the first frame had to wait, and
`accounted_iff` says that the counters add up exactly before it.
-/

namespace StreamerPlus

namespace DesktopMediaSender

variable {view : SenderView} {s t : DesktopMediaSender} {frame : VideoFrame} {event : Event}

/-- The frames that the four counters count. -/
def counted (s : DesktopMediaSender) : ℕ :=
  s.counters.videoSubmitted + s.counters.videoTimestampDropped +
    s.counters.videoPreencodeRejected + s.counters.videoPendingDropped

/-- The frames that were offered are the counted ones and the one that is held. -/
def Accounted (s : DesktopMediaSender) : Prop :=
  s.history.offered = s.counted + if s.pendingVideo.isSome then 1 else 0

instance : Decidable s.Accounted := inferInstanceAs (Decidable (_ = _))

/-- The frame has usable timestamps, but another one is being encoded. -/
def MustWait (s : DesktopMediaSender) (frame : VideoFrame) : Prop :=
  s.videoState = .encoding ∧ (s.refTime frame).isSome

/-- The event offers a frame that has to wait for the encoder. -/
def Parks (s : DesktopMediaSender) (event : Event) : Prop :=
  ∃ poll video, event = .poll poll ∧ poll.runtimeError = false ∧ poll.video = some video ∧
    s.anchorState = .anchored ∧ s.MustWait video

/-- Every try counts its frame in one counter. -/
theorem Tried.counted_eq {r : DesktopMediaSender × Bool} (htried : Tried view s frame r)
    (henc : s.videoEncoder.isSome) : r.1.counted = s.counted + 1 := by
  cases htried with
  | ignored hnone => simp [hnone] at henc
  | _ =>
    simp only [counted, dropForTimestamp, park, reject, pass, submit]
    omega

/-- A frame is put into the slot only when it is parked. -/
theorem Tried.pendingVideo_or {r : DesktopMediaSender × Bool} (htried : Tried view s frame r)
    (henc : s.videoEncoder.isSome) : ¬ s.MustWait frame ∧ r.1.pendingVideo = s.pendingVideo ∨
      s.MustWait frame ∧ r.1.pendingVideo = some frame := by
  cases htried with
  | ignored hnone => simp [hnone] at henc
  | parked href hstate => exact .inr ⟨⟨hstate, href⟩, rfl⟩
  | dropped href => exact .inl ⟨by simp [MustWait, href], rfl⟩
  | malformed hidle => exact .inl ⟨by simp [MustWait, hidle], rfl⟩
  | submitted _ _ hidle => exact .inl ⟨by simp [MustWait, hidle], rfl⟩
  | rejected _ _ hidle => exact .inl ⟨by simp [MustWait, hidle], rfl⟩

/-- A retry counts its frame, and once more if the encoder rejects it. -/
theorem counted_onVideoEncoded (view : SenderView) (stats : StreamingVpxEncoder.Stats)
    (henc : s.videoEncoder.isSome) (h : s.pendingVideo = some frame) :
    s.counted < (s.onVideoEncoded view stats).counted ∧
      (s.onVideoEncoded view stats).pendingVideo = none := by
  have hcount : (tryOnce view (s.finish stats) frame).1.counted = s.counted + 1 :=
    (tried_tryOnce view (s.finish stats) frame).counted_eq henc
  rw [onVideoEncoded_pending h]
  split_ifs
  · refine ⟨?_, rfl⟩
    simp only [counted, dropForTimestamp] at hcount ⊢
    omega
  · refine ⟨?_, rfl⟩
    simp only [counted] at hcount ⊢
    omega

theorem sameBeside_onVideoEncoded (s : DesktopMediaSender) (view : SenderView)
    (stats : StreamingVpxEncoder.Stats) :
    (s.onVideoEncoded view stats).anchorState = s.anchorState ∧
      (s.onVideoEncoded view stats).history.offered = s.history.offered ∧
      (s.onVideoEncoded view stats).videoEncoder.isSome = s.videoEncoder.isSome := by
  cases hpending : s.pendingVideo with
  | none =>
    rw [onVideoEncoded_nothing hpending]
    exact ⟨rfl, rfl, rfl⟩
  | some pending =>
    have hsame := (tried_tryOnce view (s.finish stats) pending).sameBeside
    rw [onVideoEncoded_pending hpending]
    split_ifs
    · exact ⟨hsame.anchorState, hsame.offered, hsame.isSome_videoEncoder⟩
    · exact ⟨hsame.anchorState, hsame.offered, hsame.isSome_videoEncoder⟩

/-- No frame has had to wait: every offered frame is counted once. -/
structure Even (s : DesktopMediaSender) : Prop where
  isSome_videoEncoder : s.videoEncoder.isSome
  offered_eq : s.history.offered = s.counted
  pendingVideo_eq : s.anchorState = .anchored → s.pendingVideo = none

/-- A frame has had to wait: it is held, or was counted twice. -/
structure Uneven (s : DesktopMediaSender) : Prop where
  isSome_videoEncoder : s.videoEncoder.isSome
  anchored : s.anchorState = .anchored
  offered_le : s.history.offered ≤ s.counted
  held_or_lt : s.pendingVideo.isSome ∨ s.history.offered < s.counted

/-- What an offer does to the accounts. -/
theorem offer_accounts (view : SenderView) (frame : VideoFrame) (henc : s.videoEncoder.isSome)
    (hpending : s.videoState = .idle → s.pendingVideo = none) :
    (s.offer view frame).videoEncoder.isSome ∧
      (s.offer view frame).anchorState = s.anchorState ∧
      (s.offer view frame).history.offered = s.history.offered + 1 ∧
      (s.offer view frame).counted = s.counted + 1 ∧
      (¬ s.MustWait frame ∧ (s.offer view frame).pendingVideo = s.pendingVideo ∨
        s.MustWait frame ∧ (s.offer view frame).pendingVideo = some frame) := by
  have htried := tried_tryOnce view s.countOffer frame
  have hsame := htried.sameBeside
  rw [offer_eq hpending]
  exact ⟨hsame.isSome_videoEncoder.trans henc, hsame.anchorState, hsame.offered,
    htried.counted_eq henc, htried.pendingVideo_or henc⟩

theorem Even.polled {poll : Poll} (h : s.Even) (hsettled : s.Settled) (hpolled : Polled s poll t) :
    ¬ s.Parks (.poll poll) ∧ t.Even ∨ s.Parks (.poll poll) ∧ t.Uneven := by
  cases hpolled with
  | failed herror =>
    refine .inl ⟨?_, h.isSome_videoEncoder, h.offered_eq, h.pendingVideo_eq⟩
    rintro ⟨_, _, ⟨⟩, hnone, -⟩
    simp [herror] at hnone
  | waiting _ _ hwaiting =>
    refine .inl ⟨?_, h.isSome_videoEncoder, h.offered_eq,
      fun hanchored => absurd (hwaiting.symm.trans hanchored) (by simp)⟩
    rintro ⟨_, _, -, -, -, hanchored, -⟩
    exact absurd (hwaiting.symm.trans hanchored) (by simp)
  | anchored video audio hwaiting =>
    have hidle : (s.anchor poll.now video audio).videoState = .idle :=
      hsettled.idle_of_waiting hwaiting
    obtain ⟨henc, hanchor, hoffered, hcounted, ⟨-, hpending⟩ | ⟨hwait, -⟩⟩ :=
      offer_accounts (s := s.anchor poll.now video audio) poll.view video
        h.isSome_videoEncoder fun _ => rfl
    · refine .inl ⟨?_, henc, ?_, fun _ => hpending⟩
      · rintro ⟨_, _, -, -, -, hanchored, -⟩
        exact absurd (hwaiting.symm.trans hanchored) (by simp)
      · rw [hoffered, hcounted]
        exact congrArg (· + 1) h.offered_eq
    · exact absurd (hidle.symm.trans hwait.1) (by simp)
  | offered video hanchored herror hvideo =>
    obtain ⟨henc, hanchor, hoffered, hcounted, hpending⟩ :=
      offer_accounts poll.view video h.isSome_videoEncoder
        (hsettled.pendingVideo_eq hanchored)
    have heq : (s.offer poll.view video).history.offered =
        (s.offer poll.view video).counted := by
      rw [hoffered, hcounted, h.offered_eq]
    rcases hpending with ⟨hwait, hpending⟩ | ⟨hwait, hpending⟩
    · refine .inl ⟨?_, henc, heq, fun _ => hpending.trans (h.pendingVideo_eq hanchored)⟩
      rintro ⟨_, _, ⟨⟩, -, hvideo', -, hwait'⟩
      obtain rfl := Option.some.inj (hvideo.symm.trans hvideo')
      exact hwait hwait'
    · exact .inr ⟨⟨poll, video, rfl, herror, hvideo, hanchored, hwait⟩, henc,
        hanchor.trans hanchored, heq.le, .inl (by simp [hpending])⟩
  | nothing hvideo =>
    refine .inl ⟨?_, h⟩
    rintro ⟨_, _, ⟨⟩, -, hsome, -⟩
    simp [hvideo] at hsome

/-- The accounts get out of step exactly when a frame is parked. -/
theorem Even.step (h : s.Even) (hsettled : s.Settled) (hstep : s.step event = some t) :
    ¬ s.Parks event ∧ t.Even ∨ s.Parks event ∧ t.Uneven := by
  cases stepped_of_step hstep with
  | poll hrunning hpolled => exact h.polled hsettled hpolled
  | popWorkUnit => exact .inl ⟨by simp [Parks], rfl, h.offered_eq, h.pendingVideo_eq⟩
  | encodeFrame => exact .inl ⟨by simp [Parks], rfl, h.offered_eq, h.pendingVideo_eq⟩
  | sendEncodedFrame => exact .inl ⟨by simp [Parks], rfl, h.offered_eq, h.pendingVideo_eq⟩
  | onVideoEncoded hrunning =>
    have hanchor := hsettled.anchored_of_running hrunning
    rw [onVideoEncoded_nothing (h.pendingVideo_eq hanchor)]
    exact .inl ⟨by simp [Parks], h.isSome_videoEncoder, h.offered_eq, h.pendingVideo_eq⟩

/-- A frame that was counted twice stays so. -/
theorem Uneven.step (h : s.Uneven) (hsettled : s.Settled) (hstep : s.step event = some t) :
    t.Uneven := by
  cases stepped_of_step hstep with
  | poll hrunning hpolled =>
    cases hpolled with
    | failed => exact { h with }
    | waiting _ _ hwaiting => exact absurd (hwaiting.symm.trans h.anchored) (by simp)
    | anchored _ _ hwaiting => exact absurd (hwaiting.symm.trans h.anchored) (by simp)
    | @offered video hanchored =>
      obtain ⟨henc, hanchor, hoffered, hcounted, hpending⟩ :=
        offer_accounts _ video h.isSome_videoEncoder (hsettled.pendingVideo_eq hanchored)
      refine ⟨henc, hanchor.trans hanchored, ?_, ?_⟩
      · rw [hoffered, hcounted]
        exact Nat.succ_le_succ h.offered_le
      · rcases hpending with ⟨-, hpending⟩ | ⟨-, hpending⟩
        · rw [hpending, hoffered, hcounted]
          exact h.held_or_lt.imp id Nat.succ_lt_succ
        · exact .inl (by simp [hpending])
    | nothing => exact h
  | popWorkUnit => exact ⟨rfl, h.anchored, h.offered_le, h.held_or_lt⟩
  | encodeFrame => exact ⟨rfl, h.anchored, h.offered_le, h.held_or_lt⟩
  | sendEncodedFrame => exact ⟨rfl, h.anchored, h.offered_le, h.held_or_lt⟩
  | @onVideoEncoded view stats hrunning =>
    obtain ⟨hanchor, hoffered, henc⟩ := sameBeside_onVideoEncoded s view stats
    cases hpending : s.pendingVideo with
    | none =>
      rw [onVideoEncoded_nothing hpending]
      exact { h with }
    | some pending =>
      -- the retried frame was counted when it was parked, and is counted again
      obtain ⟨hlt, -⟩ := counted_onVideoEncoded view stats h.isSome_videoEncoder hpending
      have hlt' := h.offered_le.trans_lt hlt
      rw [← hoffered] at hlt'
      exact ⟨henc.trans h.isSome_videoEncoder, hanchor.trans h.anchored, hlt'.le, .inr hlt'⟩

theorem Even.accounted (h : s.Even) (hanchor : s.anchorState = .anchored) : s.Accounted := by
  simp [Accounted, h.pendingVideo_eq hanchor, h.offered_eq]

theorem Uneven.not_accounted (h : s.Uneven) : ¬ s.Accounted := by
  intro haccounted
  have hle := h.offered_le
  unfold Accounted at haccounted
  rcases h.held_or_lt with hheld | hlt
  · rw [if_pos hheld] at haccounted
    omega
  · split_ifs at haccounted <;> omega

theorem even_new (rtpTimebase : RtpTimebase) (fps : ℤ) : (new (some rtpTimebase) fps).Even :=
  ⟨rfl, rfl, by simp [new]⟩

open TransitionSystem in
/-- A run is one in which no frame had to wait, or it ends with the accounts out of step. -/
theorem run_even_or_uneven {rtpTimebase : RtpTimebase} {fps : ℤ} {events : List Event}
    (h : Run (fun s e t => step s e = some t) (new (some rtpTimebase) fps) events s) :
    Run (fun s e t => step s e = some t ∧ ¬ s.Parks e) (new (some rtpTimebase) fps) events s ∧
        s.Even ∨
      s.Uneven := by
  induction h with
  | nil => exact .inl ⟨.nil, even_new rtpTimebase fps⟩
  | snoc hrun hstep ih =>
    have hsettled := settled_of_run hrun
    rcases ih with ⟨hquiet, heven⟩ | huneven
    · rcases heven.step hsettled hstep with ⟨hparks, heven'⟩ | ⟨-, huneven⟩
      · exact .inl ⟨hquiet.snoc ⟨hstep, hparks⟩, heven'⟩
      · exact .inr huneven
    · exact .inr (huneven.step hsettled hstep)

open TransitionSystem in
/-- **When the counters add up.** In every run of a sender with a video encoder, once the
timestamps are anchored, every offered frame is counted once exactly if no frame of the run had to
wait for the encoder. -/
theorem accounted_iff {rtpTimebase : RtpTimebase} {fps : ℤ} {events : List Event}
    (h : Run (fun s e t => step s e = some t) (new (some rtpTimebase) fps) events s)
    (hanchor : s.anchorState = .anchored) :
    s.Accounted ↔ Run (fun s e t => step s e = some t ∧ ¬ s.Parks e)
      (new (some rtpTimebase) fps) events s := by
  constructor
  · intro haccounted
    rcases run_even_or_uneven h with ⟨hquiet, -⟩ | huneven
    · exact hquiet
    · exact absurd haccounted huneven.not_accounted
  · intro hquiet
    obtain ⟨heven, -⟩ : s.Even ∧ s.Settled := by
      refine hquiet.invariant (P := fun s => s.Even ∧ s.Settled) ?_
        ⟨even_new rtpTimebase fps, settled_new _ fps⟩
      rintro s event t ⟨heven, hsettled⟩ ⟨hstep, hparks⟩
      rcases heven.step hsettled hstep with ⟨-, heven'⟩ | ⟨hparks', -⟩
      · exact ⟨heven', hsettled.step hstep⟩
      · exact absurd hparks' hparks
    exact heven.accounted hanchor

open TransitionSystem in
/-- The counters of the two frames that came one after the other add up. -/
theorem accounted_iff_twoFrames :
    ∃ s, Run (fun s e t => step s e = some t) (new (some plainTimebase) 30) twoFrames s ∧
      s.history.offered = 2 ∧ s.Accounted ∧
      Run (fun s e t => step s e = some t ∧ ¬ s.Parks e) (new (some plainTimebase) 30)
        twoFrames s := by
  have hend : (twoFrames.foldlM step (new (some plainTimebase) 30)).any (fun s =>
      decide (s.anchorState = .anchored ∧ s.history.offered = 2 ∧ s.Accounted)) = true := by
    decide +kernel
  obtain ⟨s, hfold, hend⟩ := (Option.any_eq_true _ _).mp hend
  obtain ⟨hanchor, hoffered, haccounted⟩ := of_decide_eq_true hend
  have hrun := Run.of_foldlM hfold
  exact ⟨s, hrun, hoffered, haccounted, (accounted_iff hrun hanchor).mp haccounted⟩

/-- The first pair is polled, and a second frame while the first is being encoded. -/
def twoFramesAtOnce : List Event :=
  [.poll { now := 0, audio := some ⟨0⟩, video := some (smallFrame 0), view := roomySender },
    .poll { now := 1000, video := some (smallFrame 1000000), view := roomySender }]

open TransitionSystem in
/-- **A frame that waits is counted twice.** Two frames are offered, of which one is submitted, one
is counted as dropped, and the same one is still held. -/
theorem not_accounted_twoFramesAtOnce :
    ∃ s, Run (fun s e t => step s e = some t) (new (some plainTimebase) 30) twoFramesAtOnce s ∧
      s.anchorState = .anchored ∧ s.history.offered = 2 ∧ s.counters.videoSubmitted = 1 ∧
      s.counters.videoPendingDropped = 1 ∧ s.pendingVideo.isSome ∧ ¬ s.Accounted := by
  have hend : (twoFramesAtOnce.foldlM step (new (some plainTimebase) 30)).any (fun s =>
      decide (s.anchorState = .anchored ∧ s.history.offered = 2 ∧ s.counters.videoSubmitted = 1 ∧
        s.counters.videoPendingDropped = 1 ∧ s.pendingVideo.isSome ∧ ¬ s.Accounted)) = true := by
    decide +kernel
  obtain ⟨s, hfold, hend⟩ := (Option.any_eq_true _ _).mp hend
  exact ⟨s, Run.of_foldlM hfold, of_decide_eq_true hend⟩

end DesktopMediaSender

end StreamerPlus
