import StreamerPlus.Streaming.SenderChanges

/-!
# Rejected frames

What is left of an `EnqueueFrame` that does not return `OK`. It returns `PAYLOAD_TOO_LARGE` only
after it has put the encrypted frame into its slot, next to the flags and the sent times of the
frame that had the slot before, and has taken it back.

`observe` is what the surroundings of a sender see of a run: what each call returns, the calls to
the packet router and to the observer that it makes, and what the accessors return after it.

## Main results

* `Sender.observe_rejected`: a run with a rejected call is observed as the run without it.
-/

namespace StreamerPlus

open Checked FrameWindow

namespace Sender

variable {c : SessionConfig} {s s₀ t : Sender} {frame : EncodedFrame}
  {result : EnqueueFrameResult}

/-- A rejected call changes nothing. -/
theorem eq_of_rejected (h : s.enqueueFrame c frame = .ok (result, t)) (hr : result ≠ .ok) :
    t = s := by
  rcases enqueueFrame_cases h with ⟨-, hsame⟩ | ⟨hok, -⟩
  · exact hsame
  · exact absurd hok hr

/-! ### What is observed of a run -/

/-- What is seen of one call: what it returns, the calls that it makes, and what the accessors
return after it. -/
structure Observation where
  output : SenderOutput
  calls : List SenderEvent
  needsKeyFrame : Bool
  nextFrameId : ℤ
  inFlightFrameCount : ℕ
  inFlightMediaDuration : ℤ → Except SenderFault ℤ
  maxInFlightMediaDuration : ℤ
  currentRoundTripTime : ℤ

variable (c) in
/-- What is seen of a call that leads from `s` to `t`. -/
def observation (s t : Sender) (output : SenderOutput) : Observation where
  output
  calls := t.events.drop s.events.length
  needsKeyFrame := t.needsKeyFrame
  nextFrameId := t.getNextFrameId
  inFlightFrameCount := t.numFramesInFlight
  inFlightMediaDuration := t.getInFlightMediaDuration c
  maxInFlightMediaDuration := t.getMaxInFlightMediaDuration
  currentRoundTripTime := t.roundTripTime

variable (c) in
/-- What is seen of the calls `ops`, up to the check that stops them, if one does. -/
def observe : Sender → List SenderOp → List Observation × Option SenderFault
  | _, [] => ([], none)
  | s, op :: ops =>
    match s.step c op with
    | .error fault => ([], some fault)
    | .ok (output, t) =>
      (s.observation c t output :: (observe t ops).1, (observe t ops).2)

/-- Calls that are not stopped are seen before those after them. -/
theorem observe_append {ops : List SenderOp} {labels : List (SenderOp × SenderOutput)}
    (h : runOps c s₀ ops = .ok (labels, s)) (after : List SenderOp) :
    observe c s₀ (ops ++ after) =
      ((observe c s₀ ops).1 ++ (observe c s after).1, (observe c s after).2) := by
  induction ops generalizing s₀ labels with
  | nil =>
    cases h
    rfl
  | cons op ops ih =>
    obtain ⟨output, u, labels', hstep, hrest, -⟩ := runOps_cons_eq_ok h
    simp only [List.cons_append, observe, hstep, ih hrest]

theorem length_observe {ops : List SenderOp} {labels : List (SenderOp × SenderOutput)}
    (h : runOps c s₀ ops = .ok (labels, s)) : (observe c s₀ ops).1.length = ops.length := by
  induction ops generalizing s₀ labels with
  | nil => rfl
  | cons op ops ih =>
    obtain ⟨output, u, labels', hstep, hrest, -⟩ := runOps_cons_eq_ok h
    simp only [observe, hstep, List.length_cons, ih hrest]

theorem step_rejected (h : s.enqueueFrame c frame = .ok (result, t)) (hr : result ≠ .ok) :
    s.step c (.enqueueFrame frame) = .ok (.enqueueResult result, s) := by
  obtain rfl := eq_of_rejected h hr
  rw [step, h]
  rfl

/-- Inside a callback, a rejected call is as if it were not made. -/
theorem react_rejected (h : s.enqueueFrame c frame = .ok (result, t)) (hr : result ≠ .ok)
    {u : Sender} {earlier : List EncodedFrame} {reactions : List (List EncodedFrame)}
    (hearlier : react c { u with reactions := earlier :: reactions } = .ok s)
    (later : List EncodedFrame) :
    react c { u with reactions := (earlier ++ frame :: later) :: reactions } =
      react c { u with reactions := (earlier ++ later) :: reactions } := by
  obtain rfl := eq_of_rejected h hr
  simp only [react] at hearlier ⊢
  rw [List.foldlM_append, List.foldlM_append, hearlier, ok_bind, ok_bind, List.foldlM_cons, h]
  rfl

/-- **A rejected `EnqueueFrame` is invisible.** It leaves the sender as it was. Of a run in which
the call is rejected, the calls before it and those after it are observed as in the run without it,
up to the same check if one stops them; and the call itself reaches neither the packet router nor
the observer. Inside a callback of the observer, what the callback does is the same without the
call. -/
theorem observe_rejected (h : s.enqueueFrame c frame = .ok (result, t))
    (hr : result ≠ .ok) :
    t = s ∧
    (∀ s₀ before labels after, runOps c s₀ before = .ok (labels, s) →
      ∃ past own future fault,
        observe c s₀ (before ++ .enqueueFrame frame :: after) =
          (past ++ own :: future, fault) ∧
        observe c s₀ (before ++ after) = (past ++ future, fault) ∧
        own.output = .enqueueResult result ∧ own.calls = [] ∧ past.length = before.length) ∧
    ∀ (u : Sender) earlier later reactions,
      react c { u with reactions := earlier :: reactions } = .ok s →
      react c { u with reactions := (earlier ++ frame :: later) :: reactions } =
        react c { u with reactions := (earlier ++ later) :: reactions } := by
  refine ⟨eq_of_rejected h hr, fun s₀ before labels after hbefore => ?_,
    fun u earlier later reactions hearlier => react_rejected h hr hearlier later⟩
  refine ⟨(observe c s₀ before).1, s.observation c s (.enqueueResult result),
    (observe c s after).1, (observe c s after).2, ?_, observe_append hbefore after, rfl, ?_, ?_⟩
  · rw [observe_append hbefore, observe, step_rejected h hr]
  · simp [observation]
  · exact length_observe hbefore

/-- A frame with more data than 65534 packets can carry. -/
def largeFrame : EncodedFrame := { exampleFrame 0 with data := List.replicate 100000000 0 }

/-- A new sender rejects a first frame that is too large. -/
theorem enqueueFrame_new {packetizer : RtpPacketizer} (hid : frame.frameId = FrameId.first)
    (href : FrameId.first ≤ frame.referencedFrameId)
    (hcount : packetizer.computeNumberOfPackets (c.encrypt frame) ≤ 0) :
    ∃ t, (Sender.new c packetizer).enqueueFrame c frame = .ok (.payloadTooLarge, t) := by
  have hduration : (Sender.new c packetizer).getInFlightMediaDuration c frame.rtpTimestamp =
      .ok 0 := rfl
  have hroom : ¬ (0 : ℤ) > (Sender.new c packetizer).getMaxInFlightMediaDuration := by
    have hmin : (0 : ℤ) ≤ kMinSenderInFlight := by decide
    rw [gt_iff_lt, not_lt]
    exact le_min (le_max_of_le_right hmin) (le_max_of_le_left hmin)
  have hspan : ¬ frame.frameId - (Sender.new c packetizer).checkpointFrameId >
      kMaxUnackedFrames := by
    rw [hid]
    show ¬ FrameId.first - FrameId.leader > kMaxUnackedFrames
    decide
  have hfree : ((Sender.new c packetizer).getSlotFor frame.frameId).frame = none := rfl
  unfold enqueueFrame
  rw [require_of (show frame.frameId = (Sender.new c packetizer).getNextFrameId from hid),
    require_of href, require_of (fun hne => absurd hid hne), ok_bind, ok_bind, ok_bind,
    if_neg hspan, hduration, ok_bind, if_neg hroom, require_of hfree, ok_bind]
  exact ⟨_, if_pos hcount⟩

theorem computeNumberOfPackets_largeFrame :
    examplePacketizer.computeNumberOfPackets (exampleConfig.encrypt largeFrame) = -1 := by
  have hlength : (exampleConfig.encrypt largeFrame).data.length = 100000000 :=
    List.length_replicate
  rw [RtpPacketizer.computeNumberOfPackets, hlength]
  decide

/-- A frame that is too large, before the first frame of a stream. -/
theorem observe_rejected_largeFrame :
    ∃ past own future fault,
      observe exampleConfig (Sender.new exampleConfig examplePacketizer)
        [.enqueueFrame largeFrame, .enqueueFrame (exampleFrame 0), .getRtpResumeTime] =
          (past ++ own :: future, fault) ∧
      observe exampleConfig (Sender.new exampleConfig examplePacketizer)
        [.enqueueFrame (exampleFrame 0), .getRtpResumeTime] = (past ++ future, fault) ∧
      own.output = .enqueueResult .payloadTooLarge ∧ own.calls = [] ∧ past.length = 0 := by
  obtain ⟨t, h⟩ := @enqueueFrame_new exampleConfig largeFrame examplePacketizer rfl le_rfl
    (by rw [computeNumberOfPackets_largeFrame]; decide)
  exact (observe_rejected h nofun).2.1 _ [] [] _ rfl

end Sender

end StreamerPlus
