import StreamerPlus.Streaming.Sender

/-!
# The VPX encoder and its thread

`StreamingVpxEncoder` (`streaming_vpx_encoder.cc`) takes video frames on the main task runner,
encodes them on a thread of its own and enqueues the results with its `Sender`, again on the main
task runner. The two threads share the queue of work units and `needs_key_frame_`, under one
mutex; what a thread does between two of its critical sections touches nothing of the other's.

A state is what both threads hold: the queue, the unit that the encode thread has popped and the
results it has posted. One step is one critical section with what its thread does around it, so
that a run is an interleaving of the two threads.

libvpx is not translated. It may return a key frame whenever it likes and returns one when it is
forced to or freshly initialised; each output carries the number of the `vpx_codec_encode` call
that produced it, and an output that is not a key frame refers to the output before it. Of the
`Sender`, its answers are arbitrary, and only the ids of the frames it accepts are kept.

**Main result.** `StreamingVpxEncoder.Intact`: with at most one frame on its way through the
encoder, an accepted frame that is no key frame was produced right after the frame that was
accepted before it.
-/

namespace StreamerPlus

/-- `StreamingVideoEncoder::VideoFrame`, without the planes that are copied into the image. -/
structure EncoderVideoFrame where
  width : ℤ
  height : ℤ
  duration : ℤ
  captureBeginTime : ℤ
  captureEndTime : ℤ
  deriving DecidableEq, Repr

/-- The answers of the `Sender` to one `TryEncodeAndSend`. -/
structure SenderView where
  inFlightMediaDuration : ℤ → ℤ
  maxInFlightMediaDuration : ℤ
  needsKeyFrame : Bool

/-- What libvpx decides about one image, and how long it took. -/
structure VpxOutput where
  isKeyFrame : Bool
  payload : List UInt8
  encodeWallTime : ℤ
  quantizer : ℤ
  deriving DecidableEq, Repr

namespace StreamingVpxEncoder

@[simp] def kMinFrameDuration : ℤ := 1000
@[simp] def kMaxFrameDuration : ℤ := 125000

/-- `WorkUnit`, with the size of its image. -/
structure WorkUnit where
  width : ℤ
  height : ℤ
  duration : ℤ
  captureBeginTime : ℤ
  captureEndTime : ℤ
  referenceTime : ℤ
  rtpTimestamp : ℤ
  deriving DecidableEq, Repr

/-- `WorkUnitWithResults`. `production` is the number of frames that were encoded before. -/
structure WorkUnitWithResults extends WorkUnit where
  payload : List UInt8
  isKeyFrame : Bool
  encodeWallTime : ℤ
  quantizer : ℤ
  production : ℕ
  deriving DecidableEq, Repr

/-- The fields of `Stats` that the desktop sender reads. -/
structure Stats where
  frameId : ℤ
  encodedSize : ℕ
  encodeWallTime : ℤ
  quantizer : ℤ
  deriving DecidableEq, Repr

/-- A frame that `EnqueueFrame` accepted, and the number of its production. -/
structure AcceptedFrame where
  frame : EncodedFrame
  production : ℕ
  deriving DecidableEq, Repr

end StreamingVpxEncoder

open StreamingVpxEncoder in
/-- `StreamingVpxEncoder`. `encoding` is the unit that the encode thread has popped, with its
`force_key_frame`; `encoder` the frame size of the initialised codec; `posted` the tasks that wait
in the main task runner; `produced` counts the encoded frames, and `accepted` lists the frames
that the sender took. -/
structure StreamingVpxEncoder where
  rtpTimebase : RtpTimebase
  startTime : ℤ := kImmediately
  lastEnqueuedRtpTimestamp : ℤ := 0
  needsKeyFrame : Bool := true
  encodeQueue : List WorkUnit := []
  encoding : Option (WorkUnit × Bool) := none
  encoder : Option (ℤ × ℤ) := none
  posted : List WorkUnitWithResults := []
  lastEnqueuedFrameId : ℤ := FrameId.leader
  produced : ℕ := 0
  accepted : List AcceptedFrame := []

namespace StreamingVpxEncoder

/-! ### The main task runner -/

variable (e : StreamingVpxEncoder)

/-- The duration that `TryEncodeAndSend` gives a work unit. -/
def workDuration (frame : EncoderVideoFrame)
    (referenceTime rtpTimestamp : ℤ) : ℤ :=
  let frameDuration :=
    if frame.duration ≤ 0 then
      if referenceTime = e.startTime then kMaxFrameDuration
      else e.rtpTimebase.toDuration (rtpTimestamp - e.lastEnqueuedRtpTimestamp)
    else frame.duration
  max (min frameDuration kMaxFrameDuration) kMinFrameDuration

/-- `TryEncodeAndSend(frame, reference_time, …)`: whether the frame was queued. -/
def tryEncodeAndSend (view : SenderView) (frame : EncoderVideoFrame)
    (referenceTime : ℤ) : Bool × StreamingVpxEncoder :=
  let isFirst : Bool := e.startTime = kImmediately
  let rtpTimestamp :=
    if isFirst then 0 else e.rtpTimebase.fromDuration (referenceTime - e.startTime)
  -- the start time is kept even when the first frame is dropped below
  let e := if isFirst then { e with startTime := referenceTime } else e
  if !isFirst && rtpTimestamp ≤ e.lastEnqueuedRtpTimestamp then (false, e)
  else if view.inFlightMediaDuration rtpTimestamp > view.maxInFlightMediaDuration then (false, e)
  else
    (true,
      { e with
        lastEnqueuedRtpTimestamp := rtpTimestamp
        needsKeyFrame := e.needsKeyFrame || view.needsKeyFrame
        encodeQueue := e.encodeQueue ++
          [{ width := frame.width
             height := frame.height
             duration := e.workDuration frame referenceTime rtpTimestamp
             captureBeginTime := frame.captureBeginTime
             captureEndTime := frame.captureEndTime
             referenceTime
             rtpTimestamp }] })

/-- The frame that `SendEncodedFrame(results)` builds. -/
def encodedFrame (results : WorkUnitWithResults) : EncodedFrame where
  dependency := if results.isKeyFrame then .keyFrame else .dependent
  frameId := e.lastEnqueuedFrameId + 1
  referencedFrameId :=
    if results.isKeyFrame then e.lastEnqueuedFrameId + 1 else e.lastEnqueuedFrameId + 1 - 1
  rtpTimestamp := results.rtpTimestamp
  referenceTime := results.referenceTime
  newPlayoutDelay := 0
  data := results.payload

/-- `SendEncodedFrame(results)` for the first posted task, up to its call of `stats_callback` with
the result. `enqueued` is what `EnqueueFrame` answers. -/
def sendEncodedFrame (enqueued : EnqueueFrameResult) : Option (Stats × StreamingVpxEncoder) :=
  match e.posted with
  | [] => none
  | results :: rest =>
    let frame := e.encodedFrame results
    let stats : Stats :=
      { frameId := frame.frameId
        encodedSize := results.payload.length
        encodeWallTime := results.encodeWallTime
        quantizer := results.quantizer }
    let e := { e with posted := rest }
    if enqueued = .ok then
      some (stats, { e with
        lastEnqueuedFrameId := frame.frameId
        accepted := e.accepted ++ [{ frame, production := results.production }] })
    else some (stats, { e with needsKeyFrame := true })

/-! ### The encode thread -/

/-- The critical section of `ProcessWorkUnitsUntilTimeToQuit()`: pop a unit and take
`needs_key_frame_`. -/
def popWorkUnit : Option StreamingVpxEncoder :=
  match e.encoding, e.encodeQueue with
  | none, unit :: rest =>
    some { e with
      encoding := some (unit, e.needsKeyFrame)
      needsKeyFrame := false
      encodeQueue := rest }
  | _, _ => none

/-- The rest of the loop body: `PrepareEncoder`, `EncodeFrame` and `PostTask`. A codec with
another frame size is replaced by a fresh one. -/
def encodeFrame (output : VpxOutput) : Option StreamingVpxEncoder :=
  match e.encoding with
  | none => none
  | some (unit, forceKeyFrame) =>
    let isFresh : Bool := e.encoder ≠ some (unit.width, unit.height)
    some { e with
      encoding := none
      encoder := some (unit.width, unit.height)
      produced := e.produced + 1
      posted := e.posted ++
        [{ unit with
           payload := output.payload
           isKeyFrame := forceKeyFrame || isFresh || output.isKeyFrame
           encodeWallTime := output.encodeWallTime
           quantizer := output.quantizer
           production := e.produced }] }

/-! ### The reference chain -/

variable {e e' : StreamingVpxEncoder} {view : SenderView} {frame : EncoderVideoFrame}
  {referenceTime : ℤ} {output : VpxOutput} {enqueued : EnqueueFrameResult} {stats : Stats}

/-- How many frames are queued, being encoded or posted. -/
def unsent (e : StreamingVpxEncoder) : ℕ :=
  e.encodeQueue.length + e.encoding.toList.length + e.posted.length

/-- The frame with the last id was accepted and produced right before production `n`. -/
def Continues (e : StreamingVpxEncoder) (n : ℕ) : Prop :=
  ∃ q ∈ e.accepted, q.production + 1 = n ∧ q.frame.frameId = e.lastEnqueuedFrameId

/-- An accepted frame that depends on the frame before it was produced right after the accepted
frame with the id before its own. -/
def IsChained (e : StreamingVpxEncoder) : Prop :=
  ∀ r ∈ e.accepted, r.frame.dependency = .dependent →
    ∃ q ∈ e.accepted, q.frame.frameId = r.frame.frameId - 1 ∧ r.production = q.production + 1

/-- The chain is intact, and wherever the one frame on its way is, either it is going to be a key
frame or the frame produced before it was accepted last. -/
structure Intact (e : StreamingVpxEncoder) : Prop where
  unsent_le : e.unsent ≤ 1
  isChained : e.IsChained
  waiting : e.encoding = none → e.posted = [] → e.needsKeyFrame = true ∨ e.Continues e.produced
  encoding : ∀ unit force, e.encoding = some (unit, force) →
    force = true ∨ e.Continues e.produced
  posted : ∀ r ∈ e.posted, r.production + 1 = e.produced ∧
    (r.isKeyFrame = true ∨ e.Continues r.production)

/-- The encoder that the constructor builds. -/
theorem intact_new (rtpTimebase : RtpTimebase) :
    Intact { rtpTimebase := rtpTimebase } where
  unsent_le := by simp [unsent]
  isChained := by simp [IsChained]
  waiting := by simp
  encoding := by simp
  posted := by simp

/-- **A frame is dropped or queued.** A dropped frame leaves all but the start time as it was. -/
theorem tryEncodeAndSend_cases (e : StreamingVpxEncoder) (view : SenderView)
    (frame : EncoderVideoFrame) (referenceTime : ℤ) :
    ∃ startTime,
      e.tryEncodeAndSend view frame referenceTime = (false, { e with startTime }) ∨
      ∃ lastEnqueuedRtpTimestamp unit,
        e.tryEncodeAndSend view frame referenceTime =
          (true, { e with
            startTime
            lastEnqueuedRtpTimestamp
            needsKeyFrame := e.needsKeyFrame || view.needsKeyFrame
            encodeQueue := e.encodeQueue ++ [unit] }) := by
  by_cases hfirst : e.startTime = kImmediately
  · refine ⟨referenceTime, ?_⟩
    simp only [tryEncodeAndSend, hfirst, decide_true, if_true]
    split_ifs
    · exact .inl rfl
    · exact .inl rfl
    · exact .inr ⟨_, _, rfl⟩
  · refine ⟨e.startTime, ?_⟩
    simp only [tryEncodeAndSend, hfirst, decide_false, Bool.false_eq_true, if_false]
    split_ifs
    · exact .inl rfl
    · exact .inl rfl
    · exact .inr ⟨_, _, rfl⟩

/-- With nothing on its way, another frame may enter. -/
theorem Intact.tryEncodeAndSend (h : e.Intact) (hnone : e.unsent = 0)
    (hresult : e.tryEncodeAndSend view frame referenceTime = (true, e')) :
    e'.Intact ∧ e'.unsent = 1 := by
  obtain ⟨startTime, hcase | ⟨ts, unit, hcase⟩⟩ :=
    tryEncodeAndSend_cases e view frame referenceTime
  · simp [hcase] at hresult
  rw [hcase] at hresult
  obtain rfl := (Prod.mk.inj hresult).2
  have hone : unsent { e with
      startTime
      lastEnqueuedRtpTimestamp := ts
      needsKeyFrame := e.needsKeyFrame || view.needsKeyFrame
      encodeQueue := e.encodeQueue ++ [unit] } = 1 := by
    simp only [unsent, List.length_append, List.length_singleton] at hnone ⊢
    omega
  refine ⟨⟨hone.le, h.isChained, fun henc hposted => ?_, h.encoding, h.posted⟩, hone⟩
  rcases h.waiting henc hposted with hkey | hcont
  · exact .inl (by simp [hkey])
  · exact .inr hcont

theorem Intact.dropped (h : e.Intact)
    (hresult : e.tryEncodeAndSend view frame referenceTime = (false, e')) :
    e'.Intact ∧ e'.unsent = e.unsent := by
  obtain ⟨startTime, hcase | ⟨ts, unit, hcase⟩⟩ :=
    tryEncodeAndSend_cases e view frame referenceTime
  · rw [hcase] at hresult
    obtain rfl := (Prod.mk.inj hresult).2
    exact ⟨{ h with }, rfl⟩
  · simp [hcase] at hresult

/-- The popped unit takes over what `needs_key_frame_` knew. -/
theorem Intact.popWorkUnit (h : e.Intact) (hresult : e.popWorkUnit = some e') :
    e'.Intact ∧ e'.unsent = e.unsent := by
  unfold StreamingVpxEncoder.popWorkUnit at hresult
  split at hresult
  next unit rest henc hqueue =>
    cases hresult
    have hle := h.unsent_le
    simp only [unsent, henc, hqueue, List.length_cons, Option.toList_none, List.length_nil] at hle
    have hposted : e.posted = [] := List.eq_nil_of_length_eq_zero (by omega)
    refine ⟨⟨?_, h.isChained, by simp, ?_, h.posted⟩, ?_⟩
    · simp only [unsent, Option.toList_some, List.length_singleton]
      omega
    · rintro _ _ ⟨⟩
      exact h.waiting henc hposted
    · simp only [unsent, henc, hqueue, List.length_cons, Option.toList_some, Option.toList_none,
        List.length_nil]
  next => cases hresult

/-- Encoding makes a frame the latest production. -/
theorem Intact.encodeFrame (h : e.Intact) (hresult : e.encodeFrame output = some e') :
    e'.Intact ∧ e'.unsent = e.unsent := by
  unfold StreamingVpxEncoder.encodeFrame at hresult
  split at hresult
  next => cases hresult
  next unit force henc =>
    cases hresult
    have hle := h.unsent_le
    simp only [unsent, henc, Option.toList_some, List.length_singleton] at hle
    have hposted : e.posted = [] := List.eq_nil_of_length_eq_zero (by omega)
    refine ⟨⟨?_, h.isChained, by simp, by simp, fun r hr => ?_⟩, ?_⟩
    · simp only [unsent, hposted, Option.toList_none, List.length_nil, List.nil_append,
        List.length_singleton]
      omega
    · rw [hposted, List.nil_append, List.mem_singleton] at hr
      subst hr
      refine ⟨rfl, ?_⟩
      rcases h.encoding unit force henc with rfl | hcont
      · exact .inl (by simp)
      · exact .inr hcont
    · simp only [unsent, henc, hposted, Option.toList_none, Option.toList_some, List.length_nil,
        List.nil_append, List.length_singleton]

/-- One more frame in the list keeps the chain when it is a key frame or continues it. -/
theorem IsChained.append (h : e.IsChained) {r : WorkUnitWithResults}
    (hr : r.isKeyFrame = true ∨ e.Continues r.production) {rest : List WorkUnitWithResults} :
    IsChained { e with
      posted := rest
      lastEnqueuedFrameId := (e.encodedFrame r).frameId
      accepted := e.accepted ++ [{ frame := e.encodedFrame r, production := r.production }] } := by
  intro a ha hdep
  simp only [List.mem_append, List.mem_singleton] at ha
  rcases ha with ha | rfl
  · obtain ⟨q, hq, hid, hprod⟩ := h a ha hdep
    exact ⟨q, List.mem_append_left _ hq, hid, hprod⟩
  · rcases hr with hkey | ⟨q, hq, hprod, hid⟩
    · simp [encodedFrame, hkey] at hdep
    · refine ⟨q, List.mem_append_left _ hq, ?_, hprod.symm⟩
      simp only [encodedFrame, hid]
      omega

/-- A frame that is accepted continues the chain; after one that is not, a key frame is due. -/
theorem Intact.sendEncodedFrame (h : e.Intact)
    (hresult : e.sendEncodedFrame enqueued = some (stats, e')) :
    e'.Intact ∧ e.unsent = 1 ∧ e'.unsent = 0 := by
  unfold StreamingVpxEncoder.sendEncodedFrame at hresult
  split at hresult
  next => cases hresult
  next r rest hposted =>
    have hle := h.unsent_le
    simp only [unsent, hposted, List.length_cons] at hle
    have hencoding : e.encoding = none := by
      cases henc : e.encoding with
      | none => rfl
      | some u =>
        simp only [henc, Option.toList_some, List.length_singleton] at hle
        omega
    have hrest : rest = [] := List.eq_nil_of_length_eq_zero (by omega)
    subst hrest
    obtain ⟨hprod, hr⟩ := h.posted r (by simp [hposted])
    have hone : e.unsent = 1 := by
      simp only [unsent, hposted, List.length_cons, List.length_nil] at hle ⊢
      omega
    have hzero : e.encodeQueue.length + e.encoding.toList.length = 0 := by omega
    split at hresult
    · cases hresult
      refine ⟨⟨?_, h.isChained.append hr, fun _ _ => .inr ?_, ?_, by simp⟩, hone, ?_⟩
      · simp only [unsent, List.length_nil]
        omega
      · exact ⟨_, List.mem_append_right _ (List.mem_singleton_self _), hprod, rfl⟩
      · simp [hencoding]
      · simp only [unsent, List.length_nil]
        omega
    · cases hresult
      refine ⟨⟨?_, h.isChained, fun _ _ => .inl rfl, ?_, by simp⟩, hone, ?_⟩
      · simp only [unsent, List.length_nil]
        omega
      · simp [hencoding]
      · simp only [unsent, List.length_nil]
        omega

end StreamingVpxEncoder

end StreamerPlus
