import StreamerPlus.StandaloneSender.DesktopMediaSender

/-!
# The watchdog of the desktop sender

`PollCapture` ends with `CheckWatchdog` (`streamer_plus/desktop_media_sender.cc`), which asks for
shutdown when a track has not moved for too long. `WatchedSender` puts the audio path and the
watchdog around the video path. `last_video_submit_` is set where a frame is counted as submitted,
so a change of that counter tells when. The times are what `env_.now()` returns at each place.

`videoAccepted`, `audioOffered` and `audioSubmitted` record what the source does not store: whether
a track had a frame at all, and which audio buffer was the last to reach the encoder.

A track that never had a frame has no time to be measured from, and the watchdog passes it over.
And the latch is tested only at the start of `CheckWatchdog`: two tracks that are late together, or
a capture error after a time-out, call the callback twice.

## Main results

* `WatchedSender.caught_iff`: which stalls a poll catches.
* `WatchedSender.shutdowns_le_one_iff`: when shutdown is requested at most once.

What the callback does is left out, and so are the counters of the audio path.
-/

namespace StreamerPlus

open TransitionSystem

/-- An `AudioFrame`, with `num_samples` as `interleaved_samples.size() / channels` gives it. -/
structure AudioBuffer extends AudioFrame where
  numSamples : ℤ
  deriving DecidableEq, Repr

/-- `DesktopMediaSender`, with the audio path and the watchdog. -/
structure WatchedSender where
  sender : DesktopMediaSender
  hasAudioEncoder : Bool
  streamingStart : ℤ
  pendingAudio : Option AudioBuffer := none
  lastAudioPtsNs : UInt64 := 0
  haveLastAudioPts : Bool := false
  lastAudioSubmit : ℤ := 0
  lastVideoSubmit : ℤ := 0
  watchdogFailed : Bool := false
  lastError : String := ""
  shutdowns : ℕ := 0
  videoAccepted : Option ℤ := none
  audioOffered : Option ℤ := none
  audioSubmitted : Option ℤ := none

namespace WatchedSender

@[simp] def kInitialPairDeadline : ℤ := toDuration 2000
@[simp] def kAudioWatchdogDeadline : ℤ := toDuration 1000
@[simp] def kVideoWatchdogDeadline : ℤ := toDuration 2000

variable (s : WatchedSender)

/-- `last_error_ = error; watchdog_failed_ = true; shutdown_callback_();` -/
def fail (error : String) : WatchedSender :=
  { s with lastError := error, watchdogFailed := true, shutdowns := s.shutdowns + 1 }

/-- The audio watchdog expires. -/
def AudioLate (now : ℤ) : Prop :=
  s.hasAudioEncoder = true ∧ s.lastAudioSubmit ≠ 0 ∧
    now - s.lastAudioSubmit > kAudioWatchdogDeadline

/-- The video watchdog expires. -/
def VideoLate (now : ℤ) : Prop :=
  s.sender.videoEncoder.isSome = true ∧ s.lastVideoSubmit ≠ 0 ∧
    now - s.lastVideoSubmit > kVideoWatchdogDeadline

instance (now : ℤ) : Decidable (s.AudioLate now) :=
  inferInstanceAs (Decidable (_ ∧ _ ∧ _))

instance (now : ℤ) : Decidable (s.VideoLate now) :=
  inferInstanceAs (Decidable (_ ∧ _ ∧ _))

/-- `CheckWatchdog()` at the time `now`. -/
def checkWatchdog (now : ℤ) : WatchedSender :=
  if s.watchdogFailed then s
  else if s.sender.anchorState ≠ .anchored then
    if now - s.streamingStart > kInitialPairDeadline then
      s.fail "watchdog: initial A/V pair not received within deadline"
    else s
  else
    let failed :=
      if s.AudioLate now then s.fail "watchdog: no audio submitted within deadline" else s
    if s.VideoLate now then failed.fail "watchdog: no video submitted within deadline" else failed

/-- `SubmitAudio(frame)` at the time `now`. A buffer without samples counts as submitted for the
watchdog, but is not passed to the encoder. -/
def submitAudio (frame : AudioBuffer) (now : ℤ) : WatchedSender :=
  if !s.hasAudioEncoder then s
  else if s.haveLastAudioPts && frame.timestampNs ≤ s.lastAudioPtsNs then s
  else
    match mapCaptureTimestamp s.sender.anchorPtsNs s.sender.anchorClock frame.timestampNs with
    | none => s
    | some _ =>
      { s with
        lastAudioPtsNs := frame.timestampNs
        haveLastAudioPts := true
        lastAudioSubmit := now
        audioOffered := some now
        audioSubmitted := if frame.numSamples ≤ 0 then s.audioSubmitted else some now }

/-- The video path has moved on; a frame that it has submitted was accepted at the time `now`. -/
def moveVideo (sender : DesktopMediaSender) (now : ℤ) : WatchedSender :=
  if sender.counters.videoSubmitted = s.sender.counters.videoSubmitted then { s with sender }
  else { s with sender, lastVideoSubmit := now, videoAccepted := some now }

/-- What one `PollCapture()` finds, with the times at which the tracks are submitted and the
watchdog is checked. -/
structure Poll where
  now : ℤ
  runtimeError : Option String := none
  audio : Option AudioBuffer := none
  video : Option VideoFrame := none
  view : SenderView
  audioTime : ℤ := now
  videoTime : ℤ := now
  checkTime : ℤ := now

/-- The poll as the video path sees it. -/
def Poll.toVideo (poll : Poll) : DesktopMediaSender.Poll where
  now := poll.now
  runtimeError := poll.runtimeError.isSome
  audio := poll.audio.map AudioBuffer.toAudioFrame
  video := poll.video
  view := poll.view

/-- The audio buffer that a poll submits, and the one that it keeps until there is a pair. -/
def takeAudio (poll : Poll) : Option AudioBuffer × Option AudioBuffer :=
  match s.sender.anchorState with
  | .anchored => (poll.audio, s.pendingAudio)
  | .waitingForFirstPair =>
    match poll.video.or s.sender.pendingVideo, poll.audio.or s.pendingAudio with
    | some _, some audio => (some audio, none)
    | _, audio => (none, audio)

/-- `PollCapture()` up to the call of `CheckWatchdog`. -/
def submitLatest (poll : Poll) : WatchedSender :=
  let moved := { s with pendingAudio := (s.takeAudio poll).2 }.moveVideo
    (s.sender.pollCapture poll.toVideo) poll.videoTime
  match (s.takeAudio poll).1 with
  | none => moved
  | some audio => moved.submitAudio audio poll.audioTime

/-- `PollCapture()`. -/
def pollCapture (s : WatchedSender) (poll : Poll) : WatchedSender :=
  match poll.runtimeError with
  | some error => { s with sender := s.sender.pollCapture poll.toVideo }.fail error
  | none => (s.submitLatest poll).checkWatchdog poll.checkTime

/-- A poll, or another step of the video path that ends at the time `now`. -/
inductive Event
  | poll (poll : Poll)
  | video (event : DesktopMediaSender.Event) (now : ℤ)

def step (s : WatchedSender) : Event → Option WatchedSender
  | .poll poll =>
    if s.sender.running = none ∧ s.sender.isPolling = true then some (s.pollCapture poll) else none
  -- a poll is a step of both paths
  | .video (.poll _) _ => none
  | .video event now => do
    let sender ← s.sender.step event
    return s.moveVideo sender now

/-- The steps of a sender. -/
def Steps (event : Event) (t : WatchedSender) : Prop := s.step event = some t

/-- The constructor at the time `now`. -/
def new (rtpTimebase : Option RtpTimebase) (videoFramesPerSecond : ℤ) (hasAudioEncoder : Bool)
    (now : ℤ) : WatchedSender where
  sender := DesktopMediaSender.new rtpTimebase videoFramesPerSecond
  hasAudioEncoder
  streamingStart := now

/-! ### What a step can do -/

variable {s t : WatchedSender} {poll : Poll} {now : ℤ} {event : Event}

/-- The cases of a step. -/
inductive Stepped (s : WatchedSender) : Event → WatchedSender → Prop
  | failed {poll : Poll} {error : String} : poll.runtimeError = some error →
      Stepped s (.poll poll)
        (fail { s with sender := s.sender.pollCapture poll.toVideo } error)
  | checked {poll : Poll} : poll.runtimeError = none →
      Stepped s (.poll poll) ((s.submitLatest poll).checkWatchdog poll.checkTime)
  | moved {event : DesktopMediaSender.Event} {sender : DesktopMediaSender} {now : ℤ} :
      (∀ poll, event ≠ .poll poll) → s.sender.step event = some sender →
      Stepped s (.video event now) (s.moveVideo sender now)

theorem stepped_of_steps (h : s.Steps event t) : s.Stepped event t := by
  unfold Steps step at h
  split at h
  next poll =>
    split_ifs at h
    cases h
    unfold pollCapture
    split
    next error herror => exact .failed herror
    next herror => exact .checked herror
  next => cases h
  next event now hpoll =>
    obtain ⟨sender, hsender, h⟩ := Option.bind_eq_some_iff.mp h
    cases h
    exact .moved (fun poll => hpoll poll) hsender

/-- `SubmitAudio` does nothing, or moves the times of the audio path. -/
theorem submitAudio_cases (s : WatchedSender) (frame : AudioBuffer) (now : ℤ) :
    s.submitAudio frame now = s ∨ ∃ audioSubmitted, s.submitAudio frame now =
      { s with
        lastAudioPtsNs := frame.timestampNs
        haveLastAudioPts := true
        lastAudioSubmit := now
        audioOffered := some now
        audioSubmitted } := by
  unfold submitAudio
  split
  · exact .inl rfl
  · split
    · exact .inl rfl
    · split
      · exact .inl rfl
      · exact .inr ⟨_, rfl⟩

/-- `CheckWatchdog` fails not at all, once, or twice. -/
theorem checkWatchdog_cases (s : WatchedSender) (now : ℤ) :
    s.checkWatchdog now = s ∨ (∃ error, s.checkWatchdog now = s.fail error) ∨
      ∃ first second, s.checkWatchdog now = (s.fail first).fail second := by
  unfold checkWatchdog
  split_ifs
  · exact .inl rfl
  · exact .inr (.inl ⟨_, rfl⟩)
  · exact .inl rfl
  · exact .inr (.inr ⟨_, _, rfl⟩)
  · exact .inr (.inl ⟨_, rfl⟩)
  · exact .inr (.inl ⟨_, rfl⟩)
  · exact .inl rfl

theorem sameForAudio_trySubmitVideo (view : SenderView) (s : DesktopMediaSender)
    (frame : VideoFrame) : s.SameForAudio (DesktopMediaSender.trySubmitVideo view s frame) := by
  have honce s frame := (DesktopMediaSender.tried_tryOnce view s frame).sameBeside
  -- the retry starts where the first try has ended
  induction s, frame using DesktopMediaSender.trySubmitVideo.induct view with
  | case1 s frame hrejected hpending =>
    rw [DesktopMediaSender.trySubmitVideo, dif_pos hrejected]
    split
    · exact (honce s frame).toSameForAudio
    · simp_all
  | case2 s frame hrejected pending hpending ih =>
    rw [DesktopMediaSender.trySubmitVideo, dif_pos hrejected]
    split
    · simp_all
    · next other hother =>
      obtain rfl : pending = other := Option.some.inj (hpending.symm.trans hother)
      exact ⟨ih.pendingAudio.trans (honce s frame).pendingAudio,
        ih.isSome_videoEncoder.trans (honce s frame).isSome_videoEncoder⟩
  | case3 s frame hrejected =>
    rw [DesktopMediaSender.trySubmitVideo, dif_neg hrejected]
    exact (honce s frame).toSameForAudio

/-- Only a poll touches the pending audio, and no step takes the encoder away. -/
theorem sameForAudio_step {sender sender' : DesktopMediaSender} {event : DesktopMediaSender.Event}
    (hpoll : ∀ poll, event ≠ .poll poll) (h : sender.step event = some sender') :
    sender.SameForAudio sender' := by
  cases DesktopMediaSender.stepped_of_step h with
  | poll => exact absurd rfl (hpoll _)
  | popWorkUnit henc => exact ⟨rfl, by simp [henc]⟩
  | encodeFrame henc => exact ⟨rfl, by simp [henc]⟩
  | sendEncodedFrame _ henc => exact ⟨rfl, by simp [henc]⟩
  | @onVideoEncoded view stats =>
    simp only [DesktopMediaSender.onVideoEncoded]
    split
    next pending _ =>
      have hsame := sameForAudio_trySubmitVideo view (sender.finish stats) pending
      exact ⟨hsame.pendingAudio, hsame.isSome_videoEncoder⟩
    next => exact ⟨rfl, rfl⟩

theorem isSome_videoEncoder_pollCapture (sender : DesktopMediaSender)
    (poll : DesktopMediaSender.Poll) :
    (sender.pollCapture poll).videoEncoder.isSome = sender.videoEncoder.isSome := by
  have hpolled := DesktopMediaSender.polled_pollCapture sender poll
  generalize sender.pollCapture poll = sender' at hpolled ⊢
  cases hpolled with
  | anchored video audio => exact (sameForAudio_trySubmitVideo _ _ video).isSome_videoEncoder
  | offered video => exact (sameForAudio_trySubmitVideo _ _ video).isSome_videoEncoder
  | _ => rfl

/-- Both paths keep the same audio buffer until there is a pair. -/
theorem pendingAudio_pollCapture
    (h : s.sender.pendingAudio = s.pendingAudio.map AudioBuffer.toAudioFrame)
    (herror : poll.runtimeError = none) :
    (s.sender.pollCapture poll.toVideo).pendingAudio =
      (s.takeAudio poll).2.map AudioBuffer.toAudioFrame := by
  have hor : (poll.audio.map AudioBuffer.toAudioFrame).or s.sender.pendingAudio =
      (poll.audio.or s.pendingAudio).map AudioBuffer.toAudioFrame := by
    rw [h]
    cases poll.audio <;> rfl
  simp only [DesktopMediaSender.pollCapture, Poll.toVideo, herror, Option.isSome_none,
    Bool.false_eq_true, if_false, takeAudio]
  cases s.sender.anchorState with
  | waitingForFirstPair =>
    simp only [hor]
    cases poll.video.or s.sender.pendingVideo with
    | none => rfl
    | some video =>
      cases poll.audio.or s.pendingAudio with
      | none => rfl
      | some audio => exact (sameForAudio_trySubmitVideo _ _ video).pendingAudio
  | anchored =>
    cases poll.video with
    | none => exact h
    | some video => exact (sameForAudio_trySubmitVideo _ _ video).pendingAudio.trans h

/-! ### What the watchdog goes by -/

/-- The two paths agree on the pending audio, the times of the watchdog are those of the last
frames, and the latch is set exactly when the callback was called. -/
structure Kept (s : WatchedSender) : Prop where
  pending : s.sender.pendingAudio = s.pendingAudio.map AudioBuffer.toAudioFrame
  video : s.lastVideoSubmit = s.videoAccepted.getD 0
  audio : s.lastAudioSubmit = s.audioOffered.getD 0
  latch : s.watchdogFailed = true ↔ 0 < s.shutdowns

theorem kept_new (rtpTimebase : Option RtpTimebase) (fps : ℤ) (hasAudioEncoder : Bool) (now : ℤ) :
    (new rtpTimebase fps hasAudioEncoder now).Kept :=
  ⟨rfl, rfl, rfl, by simp [new]⟩

theorem Kept.fail (h : s.Kept) (error : String) : (s.fail error).Kept :=
  ⟨h.pending, h.video, h.audio, by simp [WatchedSender.fail]⟩

theorem Kept.moveVideo (h : s.Kept) {sender : DesktopMediaSender}
    (hpending : sender.pendingAudio = s.pendingAudio.map AudioBuffer.toAudioFrame) (now : ℤ) :
    (s.moveVideo sender now).Kept := by
  unfold WatchedSender.moveVideo
  split_ifs
  · exact ⟨hpending, h.video, h.audio, h.latch⟩
  · exact ⟨hpending, rfl, h.audio, h.latch⟩

theorem Kept.submitAudio (h : s.Kept) (frame : AudioBuffer) (now : ℤ) :
    (s.submitAudio frame now).Kept := by
  obtain heq | ⟨_, heq⟩ := submitAudio_cases s frame now
  · rwa [heq]
  · rw [heq]
    exact ⟨h.pending, h.video, rfl, h.latch⟩

theorem Kept.checkWatchdog (h : s.Kept) (now : ℤ) : (s.checkWatchdog now).Kept := by
  obtain heq | ⟨_, heq⟩ | ⟨_, _, heq⟩ := checkWatchdog_cases s now
  · rwa [heq]
  · rw [heq]
    exact h.fail _
  · rw [heq]
    exact (h.fail _).fail _

theorem Kept.submitLatest (h : s.Kept) (herror : poll.runtimeError = none) :
    (s.submitLatest poll).Kept := by
  have htaken : Kept { s with
      sender := s.sender.pollCapture poll.toVideo, pendingAudio := (s.takeAudio poll).2 } :=
    ⟨pendingAudio_pollCapture h.pending herror, h.video, h.audio, h.latch⟩
  have hmoved : (WatchedSender.moveVideo { s with pendingAudio := (s.takeAudio poll).2 }
      (s.sender.pollCapture poll.toVideo) poll.videoTime).Kept := by
    unfold WatchedSender.moveVideo
    split_ifs
    · exact htaken
    · exact ⟨htaken.pending, rfl, htaken.audio, htaken.latch⟩
  unfold WatchedSender.submitLatest
  split
  · exact hmoved
  · exact hmoved.submitAudio _ _

theorem Kept.step (h : s.Kept) (hstep : s.Steps event t) : t.Kept := by
  cases stepped_of_steps hstep with
  | @failed poll error herror =>
    -- a capture error leaves the pending frames where they are
    have hsame : (s.sender.pollCapture poll.toVideo).pendingAudio = s.sender.pendingAudio := by
      simp [DesktopMediaSender.pollCapture, Poll.toVideo, herror]
    have hpolled : Kept { s with sender := s.sender.pollCapture poll.toVideo } :=
      ⟨hsame.trans h.pending, h.video, h.audio, h.latch⟩
    exact hpolled.fail error
  | checked herror => exact (h.submitLatest herror).checkWatchdog _
  | moved hpoll hsender =>
    exact h.moveVideo ((sameForAudio_step hpoll hsender).pendingAudio.trans h.pending) _

variable {events : List Event} {fps start : ℤ}

theorem kept_of_run {rtpTimebase : Option RtpTimebase} {hasAudioEncoder : Bool}
    (h : Run Steps (new rtpTimebase fps hasAudioEncoder start) events s) : s.Kept :=
  h.invariant (fun _ _ _ hs hstep => hs.step hstep) (kept_new _ _ _ _)

/-- The sender has both encoders. -/
structure Equipped (s : WatchedSender) : Prop where
  video : s.sender.videoEncoder.isSome = true
  audio : s.hasAudioEncoder = true

theorem Equipped.moveVideo (h : s.Equipped) {sender : DesktopMediaSender}
    (hencoder : sender.videoEncoder.isSome = s.sender.videoEncoder.isSome) (now : ℤ) :
    (s.moveVideo sender now).Equipped := by
  unfold WatchedSender.moveVideo
  split_ifs
  · exact ⟨hencoder.trans h.video, h.audio⟩
  · exact ⟨hencoder.trans h.video, h.audio⟩

theorem Equipped.submitAudio (h : s.Equipped) (frame : AudioBuffer) (now : ℤ) :
    (s.submitAudio frame now).Equipped := by
  obtain heq | ⟨_, heq⟩ := submitAudio_cases s frame now
  · rwa [heq]
  · rw [heq]
    exact ⟨h.video, h.audio⟩

theorem Equipped.submitLatest (h : s.Equipped) (poll : Poll) : (s.submitLatest poll).Equipped := by
  have htaken : Equipped { s with pendingAudio := (s.takeAudio poll).2 } := ⟨h.video, h.audio⟩
  have hmoved := htaken.moveVideo (isSome_videoEncoder_pollCapture s.sender poll.toVideo)
    poll.videoTime
  unfold WatchedSender.submitLatest
  split
  · exact hmoved
  · exact hmoved.submitAudio _ _

theorem Equipped.checkWatchdog (h : s.Equipped) (now : ℤ) : (s.checkWatchdog now).Equipped := by
  obtain heq | ⟨_, heq⟩ | ⟨_, _, heq⟩ := checkWatchdog_cases s now
  · rwa [heq]
  · rw [heq]
    exact ⟨h.video, h.audio⟩
  · rw [heq]
    exact ⟨h.video, h.audio⟩

theorem Equipped.step (h : s.Equipped) (hstep : s.Steps event t) : t.Equipped := by
  cases stepped_of_steps hstep with
  | failed => exact ⟨(isSome_videoEncoder_pollCapture _ _).trans h.video, h.audio⟩
  | checked => exact (h.submitLatest _).checkWatchdog _
  | moved hpoll hsender => exact h.moveVideo (sameForAudio_step hpoll hsender).isSome_videoEncoder _

theorem equipped_of_run {rtpTimebase : RtpTimebase}
    (h : Run Steps (new (some rtpTimebase) fps true start) events s) : s.Equipped :=
  h.invariant (fun _ _ _ hs hstep => hs.step hstep) ⟨rfl, rfl⟩

/-! ### Which stalls are caught -/

/-- The stream is anchored, and the encoder of a track has got nothing for longer than the deadline
since the anchoring and since the last frame. -/
def Stalled (s : WatchedSender) (now : ℤ) : Prop :=
  s.sender.anchorState = .anchored ∧
    (now - max s.sender.anchorClock (s.videoAccepted.getD s.sender.anchorClock) >
        kVideoWatchdogDeadline ∨
      now - max s.sender.anchorClock (s.audioSubmitted.getD s.sender.anchorClock) >
        kAudioWatchdogDeadline)

instance (s : WatchedSender) (now : ℤ) : Decidable (s.Stalled now) :=
  inferInstanceAs (Decidable (_ ∧ (_ ∨ _)))

/-- A track that had a frame has had none for longer than the deadline. A frame at the epoch of the
clock does not count, and an audio buffer without samples does. -/
def Measured (s : WatchedSender) (now : ℤ) : Prop :=
  (∃ time, s.videoAccepted = some time ∧ time ≠ 0 ∧ now - time > kVideoWatchdogDeadline) ∨
    ∃ time, s.audioOffered = some time ∧ time ≠ 0 ∧ now - time > kAudioWatchdogDeadline

/-- What `CheckWatchdog` finds in an anchored stream. -/
theorem watchdogFailed_checkWatchdog (hanchor : s.sender.anchorState = .anchored) :
    (s.checkWatchdog now).watchdogFailed = true ↔
      s.watchdogFailed = true ∨ s.AudioLate now ∨ s.VideoLate now := by
  unfold checkWatchdog
  simp only [hanchor, ne_eq, not_true_eq_false, if_false]
  split_ifs <;> simp_all [fail]

theorem Kept.late_iff (h : s.Kept) (hequipped : s.Equipped) :
    s.AudioLate now ∨ s.VideoLate now ↔ s.Measured now := by
  rw [AudioLate, VideoLate, Measured, or_comm, h.video, h.audio]
  cases s.videoAccepted <;> cases s.audioOffered <;> simp [hequipped.video, hequipped.audio]

/-- **Which stalls the watchdog catches.** In every run of a sender with both encoders, a poll that
reaches `CheckWatchdog` with a stalled track ends with the latch set and shutdown requested exactly
if the latch was set before, or some track that had a frame is past its deadline. -/
theorem caught_iff {rtpTimebase : RtpTimebase}
    (h : Run Steps (new (some rtpTimebase) fps true start) events s)
    (herror : poll.runtimeError = none) :
    ((s.submitLatest poll).Stalled poll.checkTime → (s.pollCapture poll).watchdogFailed = true ∧
        0 < (s.pollCapture poll).shutdowns) ↔
      ((s.submitLatest poll).Stalled poll.checkTime →
        (s.submitLatest poll).watchdogFailed = true ∨
          (s.submitLatest poll).Measured poll.checkTime) := by
  have hkept := (kept_of_run h).submitLatest herror
  have hequipped := (equipped_of_run h).submitLatest poll
  have hpoll : s.pollCapture poll = (s.submitLatest poll).checkWatchdog poll.checkTime := by
    simp only [pollCapture, herror]
  refine forall_congr' fun hstalled => ?_
  rw [hpoll, ← (hkept.checkWatchdog poll.checkTime).latch, and_self,
    watchdogFailed_checkWatchdog hstalled.1, hkept.late_iff hequipped]

open DesktopMediaSender (plainTimebase roomySender smallFrame)

/-- The first pair, polled one second after the start of the clock. -/
def firstPair (video : VideoFrame) : Poll where
  now := 1000000
  audio := some { timestampNs := 0, numSamples := 480 }
  video := some video
  view := roomySender

/-- A poll that finds nothing, at the time `now`. -/
def emptyPoll (now : ℤ) : Poll where
  now
  view := roomySender

/-- Nothing comes after the first pair, which a poll three seconds later catches. -/
theorem caught_iff_firstPair :
    ∃ s, Run Steps (new (some plainTimebase) 30 true 0) [.poll (firstPair (smallFrame 0))] s ∧
      (s.submitLatest (emptyPoll 4000000)).Stalled 4000000 ∧
      (s.pollCapture (emptyPoll 4000000)).watchdogFailed = true ∧
      0 < (s.pollCapture (emptyPoll 4000000)).shutdowns := by
  have hend : ([Event.poll (firstPair (smallFrame 0))].foldlM step
      (new (some plainTimebase) 30 true 0)).any (fun s =>
        decide ((s.submitLatest (emptyPoll 4000000)).Stalled 4000000 ∧
          (s.submitLatest (emptyPoll 4000000)).videoAccepted = some 1000000)) = true := by
    decide +kernel
  obtain ⟨s, hfold, hend⟩ := (Option.any_eq_true _ _).mp hend
  obtain ⟨hstalled, haccepted⟩ := of_decide_eq_true hend
  have hrun : Run Steps (new (some plainTimebase) 30 true 0) _ s := Run.of_foldlM hfold
  have hmeasured : (s.submitLatest (emptyPoll 4000000)).Measured 4000000 :=
    .inl ⟨1000000, haccepted, by decide, by decide⟩
  exact ⟨s, hrun, hstalled, (caught_iff hrun rfl).mpr (fun _ => .inr hmeasured) hstalled⟩

/-- The first video frame has no pixels and is rejected, and from then on only audio comes. -/
def audioOnly : List Event :=
  [.poll (firstPair ⟨2, 2, [], 0⟩),
    .poll { emptyPoll 4000000 with
      audio := some { timestampNs := 3000000000, numSamples := 480 }
      audioTime := 4000000
      videoTime := 4000000
      checkTime := 4000000 }]

/-- **A track that never starts is not missed.** Three seconds after the anchoring no video frame
has been accepted, and the poll has found nothing wrong. -/
theorem not_caught_audioOnly :
    ∃ s, Run Steps (new (some plainTimebase) 30 true 0) audioOnly s ∧
      s.sender.videoEncoder.isSome = true ∧ s.hasAudioEncoder = true ∧
      s.videoAccepted = none ∧ s.Stalled 4000000 ∧ s.watchdogFailed = false ∧
      s.shutdowns = 0 := by
  have hend : (audioOnly.foldlM step (new (some plainTimebase) 30 true 0)).any (fun s =>
      decide (s.sender.videoEncoder.isSome = true ∧ s.hasAudioEncoder = true ∧
        s.videoAccepted = none ∧ s.Stalled 4000000 ∧ s.watchdogFailed = false ∧
        s.shutdowns = 0)) = true := by
    decide +kernel
  obtain ⟨s, hfold, hend⟩ := (Option.any_eq_true _ _).mp hend
  exact ⟨s, Run.of_foldlM hfold, of_decide_eq_true hend⟩

/-! ### How often shutdown is requested -/

/-- The event calls the callback at most once, and only if it was not called before: no capture
error comes after a failure, and no check finds both tracks late. -/
def Single (s : WatchedSender) : Event → Prop
  | .poll poll =>
    match poll.runtimeError with
    | some _ => s.watchdogFailed = false
    | none =>
      (s.submitLatest poll).watchdogFailed = true ∨
        (s.submitLatest poll).sender.anchorState ≠ .anchored ∨
        ¬ ((s.submitLatest poll).AudioLate poll.checkTime ∧
          (s.submitLatest poll).VideoLate poll.checkTime)
  | .video _ _ => True

theorem shutdowns_moveVideo (s : WatchedSender) (sender : DesktopMediaSender) (now : ℤ) :
    (s.moveVideo sender now).shutdowns = s.shutdowns := by
  unfold moveVideo
  split_ifs <;> rfl

theorem shutdowns_submitAudio (s : WatchedSender) (frame : AudioBuffer) (now : ℤ) :
    (s.submitAudio frame now).shutdowns = s.shutdowns := by
  obtain heq | ⟨_, heq⟩ := submitAudio_cases s frame now
  · rw [heq]
  · rw [heq]

/-- Before the check, a poll requests nothing. -/
theorem shutdowns_submitLatest (s : WatchedSender) (poll : Poll) :
    (s.submitLatest poll).shutdowns = s.shutdowns := by
  unfold submitLatest
  split
  · rw [shutdowns_moveVideo]
  · rw [shutdowns_submitAudio, shutdowns_moveVideo]

/-- How often one check calls the callback. -/
theorem shutdowns_checkWatchdog (h : s.watchdogFailed = true ↔ 0 < s.shutdowns) :
    s.shutdowns ≤ (s.checkWatchdog now).shutdowns ∧ (s.shutdowns ≤ 1 →
      ((s.checkWatchdog now).shutdowns ≤ 1 ↔
        s.watchdogFailed = true ∨ s.sender.anchorState ≠ .anchored ∨
          ¬ (s.AudioLate now ∧ s.VideoLate now))) := by
  unfold checkWatchdog
  split_ifs <;> simp_all [fail]

/-- What a step adds: a run that stays at one call has only single steps. -/
theorem Kept.shutdowns_step (h : s.Kept) (hstep : s.Steps event t) :
    s.shutdowns ≤ t.shutdowns ∧ (s.shutdowns ≤ 1 → (t.shutdowns ≤ 1 ↔ s.Single event)) := by
  cases stepped_of_steps hstep with
  | failed herror =>
    have hlatch := h.latch
    simp only [WatchedSender.fail, Single, herror, ← Bool.not_eq_true, hlatch]
    omega
  | @checked poll herror =>
    have hcheck := @shutdowns_checkWatchdog _ poll.checkTime (h.submitLatest herror).latch
    rw [shutdowns_submitLatest] at hcheck
    simp only [Single, herror]
    exact hcheck
  | moved => simp [shutdowns_moveVideo, Single]

/-- **How often shutdown is requested.** In every run, the callback was called at most once exactly
if no capture error came after a failure, and no check found both tracks late. -/
theorem shutdowns_le_one_iff {rtpTimebase : Option RtpTimebase} {hasAudioEncoder : Bool}
    (h : Run Steps (new rtpTimebase fps hasAudioEncoder start) events s) :
    s.shutdowns ≤ 1 ↔
      Run (fun u event v => u.Steps event v ∧ u.Single event)
        (new rtpTimebase fps hasAudioEncoder start) events s := by
  constructor
  · intro hone
    induction h with
    | nil => exact .nil
    | snoc hrun hstep ih =>
      obtain ⟨hle, hsingle⟩ := (kept_of_run hrun).shutdowns_step hstep
      have hbefore := hle.trans hone
      exact (ih hbefore).snoc ⟨hstep, (hsingle hbefore).mp hone⟩
  · intro hrun
    have hinv := hrun.invariant (P := fun u => u.Kept ∧ u.shutdowns ≤ 1)
      (fun _ _ _ hu hstep =>
        ⟨hu.1.step hstep.1, ((hu.1.shutdowns_step hstep.1).2 hu.2).mpr hstep.2⟩)
      ⟨kept_new _ _ _ _, by simp [new]⟩
    exact hinv.2

/-- No pair comes within the first three seconds, which is one request. -/
theorem shutdowns_le_one_iff_noPair :
    ∃ s, Run Steps (new (some plainTimebase) 30 true 0) [.poll (emptyPoll 3000000)] s ∧
      s.shutdowns = 1 ∧
      Run (fun u event v => u.Steps event v ∧ u.Single event)
        (new (some plainTimebase) 30 true 0) [.poll (emptyPoll 3000000)] s := by
  have hend : ([Event.poll (emptyPoll 3000000)].foldlM step
      (new (some plainTimebase) 30 true 0)).any (fun s => decide (s.shutdowns = 1)) = true := by
    decide +kernel
  obtain ⟨s, hfold, hend⟩ := (Option.any_eq_true _ _).mp hend
  have hone : s.shutdowns = 1 := of_decide_eq_true hend
  have hrun : Run Steps (new (some plainTimebase) 30 true 0) _ s := Run.of_foldlM hfold
  exact ⟨s, hrun, hone, (shutdowns_le_one_iff hrun).mp hone.le⟩

/-- No pair comes in time, and then the capture fails. -/
def errorAfterFailure : List Event :=
  [.poll (emptyPoll 3000000),
    .poll { emptyPoll 3010000 with runtimeError := some "capture failed" }]

/-- Nothing comes after the first pair. -/
def bothLate : List Event :=
  [.poll (firstPair (smallFrame 0)), .poll (emptyPoll 4000000)]

/-- **Shutdown is requested twice**, by a capture error after a failure, and by one poll that finds
both tracks late. -/
theorem shutdowns_eq_two :
    (∃ s, Run Steps (new (some plainTimebase) 30 true 0) errorAfterFailure s ∧
      s.shutdowns = 2) ∧
    ∃ s, Run Steps (new (some plainTimebase) 30 true 0) bothLate s ∧ s.shutdowns = 2 := by
  have hend : ∀ events ∈ [errorAfterFailure, bothLate],
      (events.foldlM step (new (some plainTimebase) 30 true 0)).any
        (fun s => decide (s.shutdowns = 2)) = true := by
    decide +kernel
  have htwice : ∀ events ∈ [errorAfterFailure, bothLate],
      ∃ s, Run Steps (new (some plainTimebase) 30 true 0) events s ∧ s.shutdowns = 2 := by
    intro events hevents
    obtain ⟨s, hfold, htwo⟩ := (Option.any_eq_true _ _).mp (hend events hevents)
    exact ⟨s, Run.of_foldlM hfold, of_decide_eq_true htwo⟩
  exact ⟨htwice _ (by simp), htwice _ (by simp)⟩

end WatchedSender

end StreamerPlus
