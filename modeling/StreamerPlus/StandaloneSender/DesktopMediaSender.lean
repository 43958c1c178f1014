import StreamerPlus.Lib.Run
import StreamerPlus.StandaloneSender.StreamingVpxEncoder

/-!
# The video path of the desktop sender

`DesktopMediaSender` (`streamer_plus/desktop_media_sender.cc`) polls the capture for the latest
frames and offers the video frames to the encoder, one at a time: while a frame is being encoded,
the next one waits in `pending_video_`, where a later one replaces it. The first frame of each
track waits there too, until there is one of both and the timestamps can be anchored.

A step of the system is a poll, one of the steps of the encoder's two threads, or the callback
with which a task of the encoder ends. `History` records what the source does not store and no
function reads: how many frames `PollCapture` has offered, and which frames were passed to
`TryEncodeAndSend`.

## Main results

* `DesktopMediaSender.Gated`: at most one frame is on its way through the encoder, exactly while
  `video_state_` is `kEncoding`; with `StreamingVpxEncoder.Intact` this keeps the reference chain.
* `DesktopMediaSender.run_keeps_chain`: what this gives for every interleaving of the two threads.

The audio path, the watchdog, congestion control and telemetry do not touch the video path and are
left out; of an audio frame only the timestamp is kept.
-/

namespace StreamerPlus

/-- `streamer_plus::VideoFrame`. -/
structure VideoFrame where
  width : UInt32
  height : UInt32
  i420Bytes : List UInt8
  timestampNs : UInt64
  deriving DecidableEq, Repr

/-- The timestamp of a `streamer_plus::AudioFrame`. -/
structure AudioFrame where
  timestampNs : UInt64
  deriving DecidableEq, Repr

/-- `MapCaptureTimestamp(anchor_pts_ns, anchor_clock, pts_ns)`. -/
def mapCaptureTimestamp (anchorPtsNs : UInt64) (anchorClock : ℤ) (ptsNs : UInt64) : Option ℤ :=
  if ptsNs < anchorPtsNs then none
  else
    let deltaNs := ptsNs - anchorPtsNs
    if deltaNs.toNat > 0x7fffffffffffffff then none
    else
      let delta : ℤ := deltaNs.toNat / 1000
      if anchorClock > kNever - delta then none else some (anchorClock + delta)

/-- `IsValidI420FrameSize(width, height, byte_count)`. -/
def isValidI420FrameSize (width height : UInt32) (byteCount : ℕ) : Bool :=
  width % 2 = 0 && height % 2 = 0 &&
    byteCount = width.toNat * height.toNat * 3 % 2 ^ 64 / 2

namespace DesktopMediaSender

inductive AnchorState
  | waitingForFirstPair | anchored
  deriving DecidableEq, Repr

inductive VideoState
  | idle | encoding
  deriving DecidableEq, Repr

/-- The `Counters` of the video path. -/
structure Counters where
  videoSubmitted : ℕ := 0
  videoPendingDropped : ℕ := 0
  videoPreencodeRejected : ℕ := 0
  videoTimestampDropped : ℕ := 0
  videoEncoded : ℕ := 0
  videoBytes : ℕ := 0
  lastVideoEncodeWall : ℤ := 0
  lastVideoQuantizer : ℤ := 0
  deriving DecidableEq, Repr

/-- The frames that `PollCapture` has offered, and those that were passed to the encoder. -/
structure History where
  offered : ℕ := 0
  passed : List VideoFrame := []
  deriving DecidableEq, Repr

end DesktopMediaSender

open DesktopMediaSender in
/-- The video path of `DesktopMediaSender`. `running` is the callback that the running task of the
encoder still has to make, and `isPolling` says whether `poll_alarm_` is scheduled. -/
structure DesktopMediaSender where
  videoEncoder : Option StreamingVpxEncoder
  videoFramesPerSecond : ℤ
  anchorState : AnchorState := .waitingForFirstPair
  anchorPtsNs : UInt64 := 0
  anchorClock : ℤ := 0
  lastVideoPtsNs : UInt64 := 0
  haveLastVideoPts : Bool := false
  videoState : VideoState := .idle
  pendingVideo : Option VideoFrame := none
  pendingAudio : Option AudioFrame := none
  counters : Counters := {}
  isPolling : Bool := true
  running : Option StreamingVpxEncoder.Stats := none
  history : History := {}

namespace DesktopMediaSender

/-! ### Offering a frame to the encoder -/

variable (s : DesktopMediaSender)

/-- The reference time of a frame that passes both timestamp checks of `TrySubmitVideo`: its
timestamp is later than the last one, and `MapTimestamp` can map it. -/
def refTime (frame : VideoFrame) : Option ℤ :=
  if s.haveLastVideoPts && frame.timestampNs ≤ s.lastVideoPtsNs then none
  else mapCaptureTimestamp s.anchorPtsNs s.anchorClock frame.timestampNs

/-- The duration of a frame for the encoder. -/
def frameDuration (frame : VideoFrame) : ℤ :=
  let duration :=
    if s.haveLastVideoPts then
      let ptsDelta := frame.timestampNs.toInt64.toInt - s.lastVideoPtsNs.toInt64.toInt
      if ptsDelta > 0 then ptsDelta / 1000 else toDuration 33
    else if s.videoFramesPerSecond > 0 then toDuration (1000 / s.videoFramesPerSecond)
    else toDuration 33
  max (min duration (toDuration 125)) (toDuration 1)

/-- The frame that is passed to the encoder. -/
def encFrame (frame : VideoFrame) (refTime : ℤ) : EncoderVideoFrame where
  width := frame.width.toInt32.toInt
  height := frame.height.toInt32.toInt
  duration := s.frameDuration frame
  captureBeginTime := refTime
  captureEndTime := refTime + s.frameDuration frame

/-- `counters_.video_timestamp_dropped++`. -/
def dropForTimestamp : DesktopMediaSender :=
  { s with counters.videoTimestampDropped := s.counters.videoTimestampDropped + 1 }

/-- `counters_.video_preencode_rejected++`. -/
def reject : DesktopMediaSender :=
  { s with counters.videoPreencodeRejected := s.counters.videoPreencodeRejected + 1 }

/-- A frame waits until the encoder is free; what waited before is dropped. -/
def park (frame : VideoFrame) : DesktopMediaSender :=
  { s with
    pendingVideo := some frame
    counters.videoPendingDropped := s.counters.videoPendingDropped + 1 }

/-- A frame is passed to the encoder, which is `encoder` afterwards. -/
def pass (frame : VideoFrame) (encoder : StreamingVpxEncoder) : DesktopMediaSender :=
  { s with
    lastVideoPtsNs := frame.timestampNs
    haveLastVideoPts := true
    videoEncoder := some encoder
    history.passed := s.history.passed ++ [frame] }

/-- The encoder has accepted a frame. -/
def submit : DesktopMediaSender :=
  { s with
    videoState := .encoding
    counters.videoSubmitted := s.counters.videoSubmitted + 1 }

variable (view : SenderView)

/-- `TrySubmitVideo(frame)` up to its retry, and whether the encoder rejected the frame. -/
def tryOnce (s : DesktopMediaSender) (frame : VideoFrame) : DesktopMediaSender × Bool :=
  match s.videoEncoder, s.refTime frame with
  | none, _ => (s, false)
  | some _, none => (s.dropForTimestamp, false)
  | some encoder, some refTime =>
    if s.videoState = .encoding then (s.park frame, false)
    else if !isValidI420FrameSize frame.width frame.height frame.i420Bytes.length then
      (s.reject, false)
    else
      let result := encoder.tryEncodeAndSend view (s.encFrame frame refTime) refTime
      if result.1 then ((s.pass frame result.2).submit, false)
      else ((s.pass frame result.2).reject, true)

/-- The cases of `tryOnce`. -/
inductive Tried (view : SenderView) (s : DesktopMediaSender) (frame : VideoFrame) :
    DesktopMediaSender × Bool → Prop
  | ignored : s.videoEncoder = none → Tried view s frame (s, false)
  | dropped : s.refTime frame = none → Tried view s frame (s.dropForTimestamp, false)
  | parked : (s.refTime frame).isSome → s.videoState = .encoding →
      Tried view s frame (s.park frame, false)
  | malformed : s.videoState = .idle → Tried view s frame (s.reject, false)
  | submitted {encoder encoder' : StreamingVpxEncoder} {refTime : ℤ} :
      s.videoEncoder = some encoder → s.refTime frame = some refTime → s.videoState = .idle →
      encoder.tryEncodeAndSend view (s.encFrame frame refTime) refTime = (true, encoder') →
      Tried view s frame ((s.pass frame encoder').submit, false)
  | rejected {encoder encoder' : StreamingVpxEncoder} {refTime : ℤ} :
      s.videoEncoder = some encoder → s.refTime frame = some refTime → s.videoState = .idle →
      encoder.tryEncodeAndSend view (s.encFrame frame refTime) refTime = (false, encoder') →
      Tried view s frame ((s.pass frame encoder').reject, true)

theorem tried_tryOnce (s : DesktopMediaSender) (frame : VideoFrame) :
    Tried view s frame (tryOnce view s frame) := by
  unfold tryOnce
  split
  next _ hnone => exact .ignored hnone
  next hreference => exact .dropped hreference
  next encoder refTime henc hreference =>
    dsimp only
    split_ifs with hstate hsize hresult
    · exact .parked (by simp [hreference]) hstate
    · exact .malformed (by cases h : s.videoState <;> simp_all)
    · exact .submitted henc hreference (by cases h : s.videoState <;> simp_all)
        (Prod.ext hresult rfl)
    · exact .rejected henc hreference (by cases h : s.videoState <;> simp_all)
        (Prod.ext (Bool.eq_false_iff.mpr hresult) rfl)

/-- How often `TrySubmitVideo(frame)` can still come to the encoder: not at all with an old
timestamp, and a second time only with a pending frame that is later. -/
def triesLeft (frame : VideoFrame) : ℕ :=
  if s.haveLastVideoPts && frame.timestampNs ≤ s.lastVideoPtsNs then 0
  else if s.pendingVideo.any (frame.timestampNs < ·.timestampNs) then 2
  else 1

/-- The retry after a rejection has fewer tries left. -/
theorem triesLeft_tryOnce {view : SenderView} {s : DesktopMediaSender} {frame pending : VideoFrame}
    (hrejected : (tryOnce view s frame).2 = true)
    (hpending : (tryOnce view s frame).1.pendingVideo = some pending) :
    triesLeft (tryOnce view s frame).1 pending < triesLeft s frame := by
  have htried := tried_tryOnce view s frame
  generalize tryOnce view s frame = t at *
  cases htried with
  | rejected _ hreference _ hresult =>
    have hlater :
        (s.haveLastVideoPts && decide (frame.timestampNs ≤ s.lastVideoPtsNs)) = false := by
      unfold refTime at hreference
      split at hreference
      · cases hreference
      · exact Bool.eq_false_iff.mpr ‹_›
    simp only [reject, pass] at hpending
    simp only [triesLeft, reject, pass, hpending, hlater, Option.any_some, Bool.true_and]
    by_cases hle : pending.timestampNs ≤ frame.timestampNs
    · simp [hle]
      split <;> omega
    · simp [hle, UInt64.not_le.mp hle, UInt64.lt_irrefl]
  | _ => simp at hrejected

/-- `TrySubmitVideo(frame)`. The pending frame is still in its place while it is retried. -/
def trySubmitVideo (view : SenderView) (s : DesktopMediaSender) (frame : VideoFrame) :
    DesktopMediaSender :=
  if _hrejected : (tryOnce view s frame).2 = true then
    match _hpending : (tryOnce view s frame).1.pendingVideo with
    | none => (tryOnce view s frame).1
    | some pending =>
      { trySubmitVideo view (tryOnce view s frame).1 pending with pendingVideo := none }
  else (tryOnce view s frame).1
termination_by triesLeft s frame
decreasing_by exact triesLeft_tryOnce _hrejected _hpending

/-! ### The steps of the system -/

/-- What one `PollCapture()` finds: the time, whether the capture has failed, the latest frames,
and the answers of the `Sender`. -/
structure Poll where
  now : ℤ
  runtimeError : Bool := false
  audio : Option AudioFrame := none
  video : Option VideoFrame := none
  view : SenderView

/-- One more frame has been offered. -/
def countOffer : DesktopMediaSender :=
  { s with history.offered := s.history.offered + 1 }

/-- `PollCapture` hands a frame to `TrySubmitVideo`. -/
def offer (s : DesktopMediaSender) (frame : VideoFrame) : DesktopMediaSender :=
  trySubmitVideo view s.countOffer frame

/-- The timestamps are anchored at the first pair. -/
def anchor (now : ℤ) (video : VideoFrame) (audio : AudioFrame) : DesktopMediaSender :=
  { s with
    anchorPtsNs :=
      if audio.timestampNs < video.timestampNs then audio.timestampNs else video.timestampNs
    anchorClock := now
    anchorState := .anchored
    pendingVideo := none
    pendingAudio := none }

/-- `PollCapture()`. -/
def pollCapture (poll : Poll) : DesktopMediaSender :=
  if poll.runtimeError then { s with isPolling := false }
  else
    match s.anchorState with
    | .waitingForFirstPair =>
      let pendingAudio := poll.audio.or s.pendingAudio
      let pendingVideo := poll.video.or s.pendingVideo
      match pendingVideo, pendingAudio with
      | some video, some audio => (s.anchor poll.now video audio).offer poll.view video
      | _, _ => { s with pendingAudio, pendingVideo }
    | .anchored =>
      match poll.video with
      | some video => s.offer poll.view video
      | none => s

/-- The encoder is free again, and the callback's task ends with it. -/
def finish (stats : StreamingVpxEncoder.Stats) : DesktopMediaSender :=
  { s with
    videoState := .idle
    running := none
    counters.videoEncoded := s.counters.videoEncoded + 1
    counters.videoBytes := s.counters.videoBytes + stats.encodedSize
    counters.lastVideoEncodeWall := stats.encodeWallTime
    counters.lastVideoQuantizer := stats.quantizer }

/-- `OnVideoEncoded(stats)`. -/
def onVideoEncoded (s : DesktopMediaSender)
    (stats : StreamingVpxEncoder.Stats) : DesktopMediaSender :=
  let s := s.finish stats
  match s.pendingVideo with
  | some pending => { trySubmitVideo view s pending with pendingVideo := none }
  | none => s

/-- The steps of the main task runner and of the encode thread. -/
inductive Event
  | poll (poll : Poll)
  | popWorkUnit
  | encodeFrame (output : VpxOutput)
  | sendEncodedFrame (enqueued : EnqueueFrameResult)
  | onVideoEncoded (view : SenderView)

/-- One step. The main task runner starts no task while one is running. -/
def step : Event → Option DesktopMediaSender
  | .poll poll =>
    if s.running = none ∧ s.isPolling = true then some (s.pollCapture poll) else none
  | .popWorkUnit => do
    let encoder ← (← s.videoEncoder).popWorkUnit
    return { s with videoEncoder := some encoder }
  | .encodeFrame output => do
    let encoder ← (← s.videoEncoder).encodeFrame output
    return { s with videoEncoder := some encoder }
  | .sendEncodedFrame enqueued =>
    if s.running = none then do
      let sent ← (← s.videoEncoder).sendEncodedFrame enqueued
      return { s with running := some sent.1, videoEncoder := some sent.2 }
    else none
  | .onVideoEncoded view => do
    let stats ← s.running
    return s.onVideoEncoded view stats

/-! ### What a step can do -/

variable {view : SenderView} {s t : DesktopMediaSender} {encoder : StreamingVpxEncoder}
  {frame : VideoFrame} {event : Event}

/-- The cases of `PollCapture()`. -/
inductive Polled (s : DesktopMediaSender) (poll : Poll) : DesktopMediaSender → Prop
  | failed : poll.runtimeError = true → Polled s poll { s with isPolling := false }
  | waiting (pendingVideo : Option VideoFrame) (pendingAudio : Option AudioFrame) :
      s.anchorState = .waitingForFirstPair → Polled s poll { s with pendingAudio, pendingVideo }
  | anchored (video : VideoFrame) (audio : AudioFrame) : s.anchorState = .waitingForFirstPair →
      Polled s poll ((s.anchor poll.now video audio).offer poll.view video)
  | offered (video : VideoFrame) : s.anchorState = .anchored → poll.runtimeError = false →
      poll.video = some video → Polled s poll (s.offer poll.view video)
  | nothing : poll.video = none → Polled s poll s

theorem polled_pollCapture (s : DesktopMediaSender) (poll : Poll) :
    Polled s poll (s.pollCapture poll) := by
  cases herror : poll.runtimeError with
  | true =>
    simp only [pollCapture, herror, if_true]
    exact .failed herror
  | false =>
    simp only [pollCapture, herror, Bool.false_eq_true, if_false]
    split
    next hanchor =>
      split
      · exact .anchored _ _ hanchor
      · exact .waiting _ _ hanchor
    next hanchor =>
      split
      next video hvideo => exact .offered video hanchor herror hvideo
      next hvideo => exact .nothing hvideo

/-- The cases of a step. -/
inductive Stepped (s : DesktopMediaSender) : Event → DesktopMediaSender → Prop
  | poll {poll : Poll} {t : DesktopMediaSender} : s.running = none → Polled s poll t →
      Stepped s (.poll poll) t
  | popWorkUnit {encoder encoder' : StreamingVpxEncoder} : s.videoEncoder = some encoder →
      encoder.popWorkUnit = some encoder' →
      Stepped s .popWorkUnit { s with videoEncoder := some encoder' }
  | encodeFrame {encoder encoder' : StreamingVpxEncoder} {output : VpxOutput} :
      s.videoEncoder = some encoder → encoder.encodeFrame output = some encoder' →
      Stepped s (.encodeFrame output) { s with videoEncoder := some encoder' }
  | sendEncodedFrame {encoder encoder' : StreamingVpxEncoder} {enqueued : EnqueueFrameResult}
      {stats : StreamingVpxEncoder.Stats} : s.running = none → s.videoEncoder = some encoder →
      encoder.sendEncodedFrame enqueued = some (stats, encoder') →
      Stepped s (.sendEncodedFrame enqueued)
        { s with running := some stats, videoEncoder := some encoder' }
  | onVideoEncoded {view : SenderView} {stats : StreamingVpxEncoder.Stats} :
      s.running = some stats →
      Stepped s (.onVideoEncoded view) (s.onVideoEncoded view stats)

theorem stepped_of_step (h : s.step event = some t) : Stepped s event t := by
  cases event with
  | poll poll =>
    simp only [step] at h
    split_ifs at h with hrunning
    cases h
    exact .poll hrunning.1 (polled_pollCapture s poll)
  | popWorkUnit =>
    simp only [step, Option.bind_eq_bind, Option.bind_eq_some_iff] at h
    obtain ⟨encoder, henc, encoder', hpop, ht⟩ := h
    cases ht
    exact .popWorkUnit henc hpop
  | encodeFrame output =>
    simp only [step, Option.bind_eq_bind, Option.bind_eq_some_iff] at h
    obtain ⟨encoder, henc, encoder', hencode, ht⟩ := h
    cases ht
    exact .encodeFrame henc hencode
  | sendEncodedFrame enqueued =>
    simp only [step] at h
    split_ifs at h with hrunning
    simp only [Option.bind_eq_bind, Option.bind_eq_some_iff] at h
    obtain ⟨encoder, henc, sent, hsend, ht⟩ := h
    cases ht
    exact .sendEncodedFrame hrunning henc hsend
  | onVideoEncoded view =>
    simp only [step, Option.bind_eq_bind, Option.bind_eq_some_iff] at h
    obtain ⟨stats, hrunning, ht⟩ := h
    cases ht
    exact .onVideoEncoded hrunning

/-- What the video path leaves alone. -/
structure SameForAudio (s t : DesktopMediaSender) : Prop where
  pendingAudio : t.pendingAudio = s.pendingAudio
  isSome_videoEncoder : t.videoEncoder.isSome = s.videoEncoder.isSome

/-- What `TrySubmitVideo` leaves alone while it tries a frame once. -/
structure SameBeside (s t : DesktopMediaSender) : Prop extends SameForAudio s t where
  anchorState : t.anchorState = s.anchorState
  running : t.running = s.running
  offered : t.history.offered = s.history.offered

namespace Tried

variable {r : DesktopMediaSender × Bool} (htried : Tried view s frame r)

include htried

theorem sameBeside : SameBeside s r.1 := by
  cases htried with
  | submitted henc => exact ⟨⟨rfl, by simp [henc, pass, submit]⟩, rfl, rfl, rfl⟩
  | rejected henc => exact ⟨⟨rfl, by simp [henc, pass, reject]⟩, rfl, rfl, rfl⟩
  | _ => exact ⟨⟨rfl, rfl⟩, rfl, rfl, rfl⟩

/-- Only a frame that is parked goes into the slot. -/
theorem pendingVideo_eq (h : s.videoState = .idle) : r.1.pendingVideo = s.pendingVideo := by
  cases htried with
  | parked _ hstate => simp [h] at hstate
  | _ => rfl

theorem idle_of_idle (h : r.1.videoState = .idle) : s.videoState = .idle := by
  cases htried with
  | submitted _ _ hidle => exact hidle
  | _ => exact h

/-- While a frame is being encoded, nothing is passed to the encoder. -/
theorem not_rejected_of_encoding (h : s.videoState = .encoding) : r.2 = false := by
  cases htried with
  | rejected _ _ hstate => simp [h] at hstate
  | _ => rfl

/-- A frame that the encoder has rejected is not later than the last one. -/
theorem refTime_of_rejected (h : r.2 = true) :
    r.1.refTime frame = none ∧ r.1.videoEncoder.isSome := by
  cases htried with
  | rejected => simp [refTime, reject, pass]
  | _ => simp at h

end Tried

theorem tryOnce_of_refTime (henc : s.videoEncoder.isSome) (h : s.refTime frame = none) :
    tryOnce view s frame = (s.dropForTimestamp, false) := by
  obtain ⟨encoder, henc⟩ := Option.isSome_iff_exists.mp henc
  simp only [tryOnce, henc, h]

/-- With nothing in the slot, or while a frame is being encoded, there is no retry. -/
theorem trySubmitVideo_eq_tryOnce (h : s.videoState = .idle → s.pendingVideo = none) :
    trySubmitVideo view s frame = (tryOnce view s frame).1 := by
  rw [trySubmitVideo]
  split_ifs with hrejected
  · have hidle : s.videoState = .idle := by
      cases hstate : s.videoState with
      | idle => rfl
      | encoding =>
        simp [(tried_tryOnce view s frame).not_rejected_of_encoding hstate] at hrejected
    have hnone := ((tried_tryOnce view s frame).pendingVideo_eq hidle).trans (h hidle)
    split
    · rfl
    · simp_all
  · rfl

/-- A pending frame that the encoder rejects is tried again, and dropped for its timestamp. -/
theorem trySubmitVideo_pending (hidle : s.videoState = .idle) (h : s.pendingVideo = some frame) :
    { trySubmitVideo view s frame with pendingVideo := none } =
      if (tryOnce view s frame).2 then
        { (tryOnce view s frame).1.dropForTimestamp with pendingVideo := none }
      else { (tryOnce view s frame).1 with pendingVideo := none } := by
  rw [trySubmitVideo]
  split_ifs with hrejected
  · have htried := tried_tryOnce view s frame
    have hsome := (htried.pendingVideo_eq hidle).trans h
    obtain ⟨href, henc⟩ := htried.refTime_of_rejected hrejected
    have hretry : trySubmitVideo view (tryOnce view s frame).1 frame =
        (tryOnce view s frame).1.dropForTimestamp := by
      rw [trySubmitVideo]
      simp [tryOnce_of_refTime henc href]
    split
    · simp_all
    · next pending hpending =>
      obtain rfl : frame = pending := by simpa [hsome] using hpending
      rw [hretry]
  · rfl

/-! ### One frame at a time -/

/-- How many frames the encoder has accepted whose callback has not run. -/
def inFlight (s : DesktopMediaSender) : ℕ :=
  s.videoEncoder.elim 0 (·.unsent) + s.running.toList.length

/-- The gate before the encoder lets one frame through at a time, in the order of the
timestamps. -/
structure Gated (s : DesktopMediaSender) : Prop where
  intact : ∀ encoder, s.videoEncoder = some encoder → encoder.Intact
  inFlight_eq : s.inFlight = if s.videoState = .encoding then 1 else 0
  submitted_eq : s.counters.videoSubmitted = s.counters.videoEncoded + s.inFlight
  increasing : s.history.passed.Pairwise (·.timestampNs < ·.timestampNs)
  passed_le : ∀ f ∈ s.history.passed,
    s.haveLastVideoPts = true ∧ f.timestampNs ≤ s.lastVideoPtsNs

/-- A frame with a reference time is later than the last one. -/
theorem lt_of_refTime {refTime : ℤ} (h : s.refTime frame = some refTime)
    (hlast : s.haveLastVideoPts = true) : s.lastVideoPtsNs < frame.timestampNs := by
  simp only [DesktopMediaSender.refTime, hlast, Bool.true_and, decide_eq_true_eq] at h
  split_ifs at h with hle
  exact UInt64.not_le.mp hle

theorem Gated.increasing_pass (h : s.Gated) {refTime : ℤ} (href : s.refTime frame = some refTime)
    (encoder : StreamingVpxEncoder) :
    (s.pass frame encoder).history.passed.Pairwise (·.timestampNs < ·.timestampNs) ∧
      ∀ f ∈ (s.pass frame encoder).history.passed,
        (s.pass frame encoder).haveLastVideoPts = true ∧
          f.timestampNs ≤ (s.pass frame encoder).lastVideoPtsNs := by
  have hlt : ∀ f ∈ s.history.passed, f.timestampNs < frame.timestampNs := fun f hf =>
    UInt64.lt_of_le_of_lt (h.passed_le f hf).2 (lt_of_refTime href (h.passed_le f hf).1)
  constructor
  · exact List.pairwise_append.mpr ⟨h.increasing, List.pairwise_singleton _ _,
      fun f hf g hg => List.mem_singleton.mp hg ▸ hlt f hf⟩
  · intro f hf
    refine ⟨rfl, ?_⟩
    rcases List.mem_append.mp hf with hf | hf
    · exact UInt64.le_of_lt (hlt f hf)
    · exact List.mem_singleton.mp hf ▸ UInt64.le_refl _

theorem Gated.tried {r : DesktopMediaSender × Bool} (h : s.Gated) (hrunning : s.running = none)
    (htried : Tried view s frame r) : r.1.Gated := by
  -- the frames in flight are those in the encoder
  have hin : s.inFlight = s.videoEncoder.elim 0 (·.unsent) := by simp [inFlight, hrunning]
  have hunsent := h.inFlight_eq
  have hsubmitted := h.submitted_eq
  rw [hin] at hunsent hsubmitted
  cases htried with
  | @submitted encoder encoder' _ henc href hidle hresult =>
    simp only [henc, Option.elim_some, hidle, reduceCtorEq, if_false] at hunsent hsubmitted
    obtain ⟨hintact, hone⟩ := (h.intact encoder henc).tryEncodeAndSend hunsent hresult
    obtain ⟨hincreasing, hle⟩ := h.increasing_pass href encoder'
    have hin : ((s.pass frame encoder').submit).inFlight = 1 := by
      simp only [inFlight, submit, pass, hrunning, Option.elim_some, hone, Option.toList_none,
        List.length_nil]
    refine ⟨?_, hin, ?_, hincreasing, hle⟩
    · rintro _ ⟨⟩
      exact hintact
    · rw [hin]
      simp only [submit, pass, hsubmitted, hunsent, Nat.add_zero]
  | @rejected encoder encoder' _ henc href hidle hresult =>
    rw [henc, Option.elim_some] at hunsent hsubmitted
    obtain ⟨hintact, hsame⟩ := (h.intact encoder henc).dropped hresult
    obtain ⟨hincreasing, hle⟩ := h.increasing_pass href encoder'
    have hin : ((s.pass frame encoder').reject).inFlight = encoder.unsent := by
      simp only [inFlight, reject, pass, hrunning, Option.elim_some, hsame, Option.toList_none,
        List.length_nil, Nat.add_zero]
    refine ⟨?_, hin.trans hunsent, ?_, hincreasing, hle⟩
    · rintro _ ⟨⟩
      exact hintact
    · rw [hin]
      exact hsubmitted
  | _ => exact { h with }

/-- Between two tasks, a frame is held only while another is being encoded, or before the
timestamps are anchored. -/
structure Settled (s : DesktopMediaSender) : Prop extends Gated s where
  pendingVideo_eq : s.anchorState = .anchored → s.videoState = .idle → s.pendingVideo = none
  idle_of_waiting : s.anchorState = .waitingForFirstPair → s.videoState = .idle

/-- The sender that the constructor builds; it has an encoder when there is a timebase for it. -/
def new (rtpTimebase : Option RtpTimebase) (videoFramesPerSecond : ℤ) : DesktopMediaSender where
  videoEncoder := rtpTimebase.map fun rtpTimebase => { rtpTimebase }
  videoFramesPerSecond

theorem settled_new (rtpTimebase : Option RtpTimebase) (videoFramesPerSecond : ℤ) :
    (new rtpTimebase videoFramesPerSecond).Settled := by
  refine ⟨⟨?_, ?_, ?_, ?_, ?_⟩, ?_, ?_⟩
  · intro encoder hencoder
    obtain ⟨rtpTimebase, rfl, rfl⟩ := Option.map_eq_some_iff.mp hencoder
    exact StreamingVpxEncoder.intact_new rtpTimebase
  · cases rtpTimebase <;> rfl
  · cases rtpTimebase <;> rfl
  · exact List.Pairwise.nil
  · simp [new]
  · simp [new]
  · simp [new]

/-- A poll offers a frame with the slot empty, or while another is being encoded. -/
theorem offer_eq (h : s.videoState = .idle → s.pendingVideo = none) :
    s.offer view frame = (tryOnce view s.countOffer frame).1 :=
  trySubmitVideo_eq_tryOnce (s := s.countOffer) h

theorem Gated.settled_offer (h : s.Gated) (hrunning : s.running = none)
    (hanchor : s.anchorState = .anchored)
    (hpending : s.videoState = .idle → s.pendingVideo = none) :
    (s.offer view frame).Settled := by
  have hcount : s.countOffer.Gated := { h with }
  have htried := tried_tryOnce view s.countOffer frame
  rw [offer_eq hpending]
  refine ⟨hcount.tried hrunning htried, fun _ hidle => ?_, fun hwaiting => ?_⟩
  · have hidle' : s.videoState = .idle := htried.idle_of_idle hidle
    rw [htried.pendingVideo_eq hidle']
    exact hpending hidle'
  · rw [htried.sameBeside.anchorState] at hwaiting
    exact absurd (hanchor.symm.trans hwaiting) (by simp)

theorem Settled.polled {poll : Poll} (h : s.Settled) (hrunning : s.running = none)
    (hpolled : Polled s poll t) : t.Settled := by
  cases hpolled with
  | failed =>
    exact ⟨{ h with }, h.pendingVideo_eq, h.idle_of_waiting⟩
  | waiting _ _ hwaiting =>
    exact ⟨{ h with },
      fun hanchored => absurd (hwaiting.symm.trans hanchored) (by simp), h.idle_of_waiting⟩
  | anchored video audio =>
    have hanchor : (s.anchor poll.now video audio).Gated := { h with }
    exact hanchor.settled_offer hrunning rfl fun _ => rfl
  | offered video hanchor =>
    exact h.toGated.settled_offer hrunning hanchor (h.pendingVideo_eq hanchor)
  | nothing => exact h

variable {stats : StreamingVpxEncoder.Stats}

/-- A running callback is that of the one frame on its way. -/
theorem Gated.encoding_of_running (h : s.Gated) (hrunning : s.running = some stats) :
    s.videoState = .encoding ∧ s.videoEncoder.elim 0 (·.unsent) = 0 := by
  have hin := h.inFlight_eq
  simp only [inFlight, hrunning, Option.toList_some, List.length_singleton] at hin
  split_ifs at hin with hstate
  exact ⟨hstate, by omega⟩

theorem Settled.anchored_of_running (h : s.Settled)
    (hrunning : s.running = some stats) : s.anchorState = .anchored := by
  cases hanchor : s.anchorState with
  | anchored => rfl
  | waitingForFirstPair =>
    have hidle := h.idle_of_waiting hanchor
    simp [(h.encoding_of_running hrunning).1] at hidle

theorem Gated.finish (h : s.Gated)
    (hrunning : s.running = some stats) : (s.finish stats).Gated := by
  obtain ⟨hstate, hunsent⟩ := h.encoding_of_running hrunning
  have hsubmitted := h.submitted_eq
  simp only [inFlight, hrunning, hunsent, Option.toList_some, List.length_singleton] at hsubmitted
  refine ⟨h.intact, ?_, ?_, h.increasing, h.passed_le⟩
  · simp [inFlight, DesktopMediaSender.finish, hunsent]
  · simp only [inFlight, DesktopMediaSender.finish, hunsent, hsubmitted, Option.toList_none,
      List.length_nil]

/-- The callback's retry of the pending frame, and what it leaves. -/
theorem onVideoEncoded_pending (h : s.pendingVideo = some frame) : s.onVideoEncoded view stats =
      if (tryOnce view (s.finish stats) frame).2 then
        { (tryOnce view (s.finish stats) frame).1.dropForTimestamp with pendingVideo := none }
      else { (tryOnce view (s.finish stats) frame).1 with pendingVideo := none } := by
  have hpending : (s.finish stats).pendingVideo = some frame := h
  simp only [onVideoEncoded, hpending]
  exact trySubmitVideo_pending rfl hpending

theorem onVideoEncoded_nothing (h : s.pendingVideo = none) :
    s.onVideoEncoded view stats = s.finish stats := by
  have hpending : (s.finish stats).pendingVideo = none := h
  simp only [onVideoEncoded, hpending]

theorem Settled.onVideoEncoded (h : s.Settled) {stats : StreamingVpxEncoder.Stats}
    (hrunning : s.running = some stats) : (s.onVideoEncoded view stats).Settled := by
  have hfinish := h.toGated.finish hrunning
  have hanchor := h.anchored_of_running hrunning
  cases hpending : s.pendingVideo with
  | none =>
    rw [onVideoEncoded_nothing hpending]
    exact ⟨hfinish, fun _ _ => hpending, fun _ => rfl⟩
  | some pending =>
    rw [onVideoEncoded_pending hpending]
    have htried := tried_tryOnce view (s.finish stats) pending
    have htry := hfinish.tried rfl htried
    have hwaiting := htried.sameBeside.anchorState.trans hanchor
    split_ifs
    · exact ⟨{ htry with }, fun _ _ => rfl, fun hw => absurd (hwaiting.symm.trans hw) (by simp)⟩
    · exact ⟨{ htry with }, fun _ _ => rfl, fun hw => absurd (hwaiting.symm.trans hw) (by simp)⟩

/-- The encode thread moves the frame on, which keeps the gate as it is. -/
theorem Settled.setEncoder {encoder' : StreamingVpxEncoder} (h : s.Settled)
    (henc : s.videoEncoder = some encoder) (hintact : encoder'.Intact)
    (hunsent : encoder'.unsent = encoder.unsent) :
    Settled { s with videoEncoder := some encoder' } := by
  have hin : inFlight { s with videoEncoder := some encoder' } = s.inFlight := by
    simp only [inFlight, henc, Option.elim_some, hunsent]
  refine ⟨⟨?_, hin.trans h.inFlight_eq, ?_, h.increasing, h.passed_le⟩, h.pendingVideo_eq,
    h.idle_of_waiting⟩
  · rintro _ ⟨⟩
    exact hintact
  · rw [hin]
    exact h.submitted_eq

/-- **Every step keeps the gate**, and with it the chain of the encoder. -/
theorem Settled.step (h : s.Settled) (hstep : s.step event = some t) : t.Settled := by
  cases stepped_of_step hstep with
  | poll hrunning hpolled => exact h.polled hrunning hpolled
  | popWorkUnit henc hpop =>
    obtain ⟨hintact, hunsent⟩ := (h.intact _ henc).popWorkUnit hpop
    exact h.setEncoder henc hintact hunsent
  | encodeFrame henc hencode =>
    obtain ⟨hintact, hunsent⟩ := (h.intact _ henc).encodeFrame hencode
    exact h.setEncoder henc hintact hunsent
  | @sendEncodedFrame encoder encoder' _ stats hrunning henc hsend =>
    obtain ⟨hintact, hone, hzero⟩ := (h.intact _ henc).sendEncodedFrame hsend
    -- the frame is no longer unsent, but its callback has still to run
    have hin : inFlight { s with running := some stats, videoEncoder := some encoder' } =
        s.inFlight := by
      simp only [inFlight, henc, hrunning, Option.elim_some, hone, hzero, Option.toList_some,
        Option.toList_none, List.length_singleton, List.length_nil]
    refine ⟨⟨?_, hin.trans h.inFlight_eq, ?_, h.increasing, h.passed_le⟩, h.pendingVideo_eq,
      h.idle_of_waiting⟩
    · rintro _ ⟨⟩
      exact hintact
    · rw [hin]
      exact h.submitted_eq
  | onVideoEncoded hrunning => exact h.onVideoEncoded hrunning

open TransitionSystem in
theorem settled_of_run {rtpTimebase : Option RtpTimebase} {fps : ℤ} {events : List Event}
    (h : Run (fun s e t => step s e = some t) (new rtpTimebase fps) events s) : s.Settled :=
  h.invariant (fun _ _ _ hs hstep => hs.step hstep) (settled_new rtpTimebase fps)

open TransitionSystem in
/-- **The reference chain of the video stays intact.** In every run of the two threads,
`video_state_` is `kEncoding` exactly while one accepted frame has not had its callback; once
anchored and idle, no frame is held; the timestamps of the frames passed to the encoder increase;
and every accepted dependent frame was produced right after the accepted frame with the id before
its own. -/
theorem run_keeps_chain {rtpTimebase : Option RtpTimebase} {fps : ℤ} {events : List Event}
    (h : Run (fun s e t => step s e = some t) (new rtpTimebase fps) events s) :
    (s.videoState = .encoding ↔ s.inFlight = 1) ∧ (s.videoState = .idle ↔ s.inFlight = 0) ∧
      s.counters.videoSubmitted = s.counters.videoEncoded + s.inFlight ∧
      (s.anchorState = .anchored → s.videoState = .idle → s.pendingVideo = none) ∧
      s.history.passed.Pairwise (·.timestampNs < ·.timestampNs) ∧
      ∀ encoder, s.videoEncoder = some encoder →
        ∀ r ∈ encoder.accepted, r.frame.dependency = .dependent →
          ∃ q ∈ encoder.accepted, q.frame.frameId = r.frame.frameId - 1 ∧
            r.production = q.production + 1 := by
  have hsettled := settled_of_run h
  have hin := hsettled.inFlight_eq
  refine ⟨?_, ?_, hsettled.submitted_eq, hsettled.pendingVideo_eq, hsettled.increasing,
    fun encoder henc => (hsettled.intact encoder henc).isChained⟩
  · rw [hin]
    split_ifs with hstate <;> simp [hstate]
  · rw [hin]
    cases s.videoState <;> simp

/-- A timebase of microseconds, a `Sender` with room, and a frame of two by two pixels. -/
def plainTimebase : RtpTimebase := ⟨id, id⟩
def roomySender : SenderView := ⟨fun _ => 0, 1000000, false⟩
def smallFrame (timestampNs : UInt64) : VideoFrame := ⟨2, 2, List.replicate 6 0, timestampNs⟩

/-- A frame is encoded and called back for, after the sender took or rejected it. -/
def throughEncoder (result : EnqueueFrameResult) : List Event :=
  [.popWorkUnit, .encodeFrame ⟨false, [1], 0, 0⟩, .sendEncodedFrame result,
    .onVideoEncoded roomySender]

/-- A frame is polled that was captured after `ms` milliseconds. -/
def pollAt (ms : ℕ) : Event :=
  .poll
    { now := 1000 * ms, video := some (smallFrame (.ofNat (1000000 * ms))), view := roomySender }

/-- The first pair is polled, then a frame one millisecond later. -/
def twoFrames : List Event :=
  [.poll { now := 0, audio := some ⟨0⟩, video := some (smallFrame 0), view := roomySender }] ++
    throughEncoder .ok ++ [pollAt 1] ++ throughEncoder .ok

/-- Two more frames, of which the sender rejects the first. -/
def rejectedFrame : List Event :=
  twoFrames ++ [pollAt 2] ++ throughEncoder .payloadTooLarge ++ [pollAt 3] ++ throughEncoder .ok

open TransitionSystem in
/-- The second frame depends on the first, and the one after the rejected frame on none. -/
theorem run_keeps_chain_rejectedFrame :
    ∃ s encoder, Run (fun s e t => step s e = some t) (new (some plainTimebase) 30)
        rejectedFrame s ∧ s.videoEncoder = some encoder ∧
      encoder.accepted.map (·.frame.dependency) = [.keyFrame, .dependent, .keyFrame] ∧
      ∀ r ∈ encoder.accepted, r.frame.dependency = .dependent →
        ∃ q ∈ encoder.accepted, q.frame.frameId = r.frame.frameId - 1 ∧
          r.production = q.production + 1 := by
  have hdeps : ((rejectedFrame.foldlM step (new (some plainTimebase) 30)).bind
      (·.videoEncoder)).map (fun encoder => encoder.accepted.map (·.frame.dependency)) =
        some [.keyFrame, .dependent, .keyFrame] := by
    decide +kernel
  obtain ⟨encoder, hencoder, hdeps⟩ := Option.map_eq_some_iff.mp hdeps
  obtain ⟨s, hfold, henc⟩ := Option.bind_eq_some_iff.mp hencoder
  have hrun := Run.of_foldlM hfold
  exact ⟨s, encoder, hrun, henc, hdeps, (run_keeps_chain hrun).2.2.2.2.2 encoder henc⟩

end DesktopMediaSender

end StreamerPlus
