import StreamerPlus.Streaming.SenderChanges

/-!
# The round trip time of a sender

`OnReceiverReport` turns the report of a receiver into a measurement of the round trip time, caps
it by the target playout delay and smooths it into the estimate. Zero stands for an estimate that
is not known yet.

Main results:

* `smoothRoundTripTime_mem`: the filter stays between the estimate and the measurement.
* `roundTripTime_of_calls`: in every state the estimate is zero, or at least 75 µs and at most the
  largest target playout delay that was in force at a report.
-/

namespace StreamerPlus.Sender

open Checked TransitionSystem

variable {c : SessionConfig} {s t u : Sender}

/-- The measurement of a report that arrives at `arrivalTime`, capped by the target playout
delay in force. -/
def clampedMeasurement (c : SessionConfig) (s : Sender) (arrivalTime : ℤ)
    (report : RtcpReportBlock) : ℤ :=
  let totalDelay := arrivalTime - SenderReportBuilder.getRecentReportTime c.session
    report.lastStatusReportId.toNat arrivalTime
  let nonNetworkDelay := (report.delaySinceLastReport * 1000000).tdiv 65536
  min (max (totalDelay - nonNetworkDelay) kNearZeroRoundTripTime) (toDuration s.targetPlayoutDelay)

/-- The delays that were in force at the receiver reports of the calls `ops`. -/
def reportDelays (c : SessionConfig) : Sender → List SenderOp → List ℤ
  | _, [] => []
  | s, op :: ops =>
    (if (reportOf c s op).isSome then [s.targetPlayoutDelay] else []) ++
      match s.step c op with
      | .ok (_, t) => reportDelays c t ops
      | .error _ => []

/-- **The filter stays between the estimate and the measurement.** -/
theorem smoothRoundTripTime_mem {estimate measurement : ℤ} (he : 0 ≤ estimate)
    (hm : 0 ≤ measurement) :
    min estimate measurement ≤ smoothRoundTripTime estimate measurement ∧
      smoothRoundTripTime estimate measurement ≤ max estimate measurement := by
  unfold smoothRoundTripTime
  split_ifs with hzero hspike
  · omega
  · rw [Int.tdiv_eq_ediv_of_nonneg (by omega)]
    omega
  · rw [Int.tdiv_eq_ediv_of_nonneg (by omega)]
    omega

/-- A known estimate does not become unknown. -/
theorem le_smoothRoundTripTime {estimate measurement : ℤ}
    (he : estimate = 0 ∨ kNearZeroRoundTripTime ≤ estimate)
    (hm : kNearZeroRoundTripTime ≤ measurement) :
    kNearZeroRoundTripTime ≤ smoothRoundTripTime estimate measurement := by
  rcases he with rfl | he
  · simpa [smoothRoundTripTime] using hm
  · have hnear : 0 ≤ kNearZeroRoundTripTime := by decide
    have hmem := smoothRoundTripTime_mem (hnear.trans he) (hnear.trans hm)
    exact (le_min he hm).trans hmem.1

theorem onReceiverReport_eq_ok {report : RtcpReportBlock}
    (h : s.onReceiverReport c report = .ok t) :
    t = { s with
      roundTripTime := smoothRoundTripTime s.roundTripTime
        (s.clampedMeasurement c s.rtcpPacketArrivalTime report) } := by
  unfold onReceiverReport at h
  rw [require_bind_eq_ok] at h
  cases h.2
  rfl

/-- No target playout delay is shorter than the shortest round trip time. -/
theorem near_le_clampedMeasurement (h : 0 < s.targetPlayoutDelay) (arrivalTime : ℤ)
    (report : RtcpReportBlock) :
    kNearZeroRoundTripTime ≤ s.clampedMeasurement c arrivalTime report := by
  refine le_min (le_max_right _ _) ?_
  simp only [kNearZeroRoundTripTime, toDuration]
  omega

/-! ### The estimate -/

/-- The estimate is unknown while `delays` is empty, and in the range that they give then. -/
structure InRange (delays : List ℤ) (s : Sender) : Prop where
  delay_pos : 0 < s.targetPlayoutDelay
  delays_pos : ∀ d ∈ delays, 0 < d
  unknown : delays = [] → s.roundTripTime = 0
  known : delays ≠ [] → kNearZeroRoundTripTime ≤ s.roundTripTime
  le_of_forall : ∀ D, 0 ≤ D → (∀ d ∈ delays, d ≤ D) → s.roundTripTime ≤ toDuration D

theorem inRange_new (packetizer : RtpPacketizer) : InRange [] (Sender.new c packetizer) where
  delay_pos := c.targetPlayoutDelay_pos
  delays_pos := by simp
  unknown _ := rfl
  known h := absurd rfl h
  le_of_forall D hD _ := by
    simp only [Sender.new, toDuration]
    omega

variable {delays : List ℤ}

theorem InRange.zero_or_near (h : InRange delays s) :
    s.roundTripTime = 0 ∨ kNearZeroRoundTripTime ≤ s.roundTripTime := by
  by_cases hnil : delays = []
  · exact .inl (h.unknown hnil)
  · exact .inr (h.known hnil)

theorem InRange.nonneg (h : InRange delays s) : 0 ≤ s.roundTripTime := by
  rcases h.zero_or_near with hzero | hnear
  · exact hzero.ge
  · exact (by decide : (0 : ℤ) ≤ kNearZeroRoundTripTime).trans hnear

/-- Only the delay in force and the estimate matter. -/
theorem InRange.congr (h : InRange delays s)
    (htime : t.roundTripTime = s.roundTripTime) (hpos : 0 < t.targetPlayoutDelay) :
    InRange delays t where
  delay_pos := hpos
  delays_pos := h.delays_pos
  unknown hnil := htime.trans (h.unknown hnil)
  known hne := htime ▸ h.known hne
  le_of_forall D hD hle := htime ▸ h.le_of_forall D hD hle

theorem InRange.idle (h : InRange delays s) (hidle : Idle s t) : InRange delays t :=
  h.congr hidle.roundTripTime (hidle.targetPlayoutDelay ▸ h.delay_pos)

/-- Changes other than reports leave the estimate alone. -/
theorem Changes.quiet {a : SenderChange} (h : Changes c s a t) (ha : a.Quiet)
    (hpos : 0 < s.targetPlayoutDelay) :
    t.roundTripTime = s.roundTripTime ∧ 0 < t.targetPlayoutDelay := by
  cases h with
  | enqueue henqueue =>
    rcases enqueueFrame_cases henqueue with ⟨hne, -⟩ | ⟨-, -, n, rfl⟩
    · exact absurd rfl hne
    · refine ⟨rfl, ?_⟩
      simp only [recordEnqueue]
      split_ifs with hdelay
      · exact hdelay
      · exact hpos
  | report => exact ha.elim
  | pictureLoss =>
    unfold losePicture
    split_ifs
    · exact ⟨rfl, hpos⟩
    · exact ⟨rfl, hpos⟩
  | other hidle => exact ⟨hidle.roundTripTime, hidle.targetPlayoutDelay ▸ hpos⟩

theorem Reaches.roundTripTime {n : ℕ} (h : Reaches c n s t) (hpos : 0 < s.targetPlayoutDelay) :
    t.roundTripTime = s.roundTripTime ∧ 0 < t.targetPlayoutDelay := by
  obtain ⟨changes, hrun, hquiet, -⟩ := h
  refine hrun.invariant_of_forall
    (P := fun u => u.roundTripTime = s.roundTripTime ∧ 0 < u.targetPlayoutDelay)
    (fun u a v ha hu hstep => ?_) hquiet ⟨rfl, hpos⟩
  obtain ⟨htime, hdelay⟩ := hstep.quiet ha hu.2
  exact ⟨htime.trans hu.1, hdelay⟩

/-- A report with the delay that is in force when it is processed. -/
theorem InRange.report (h : InRange delays s) {report : RtcpReportBlock}
    (hreport : s.onReceiverReport c report = .ok t) :
    InRange (delays ++ [s.targetPlayoutDelay]) t := by
  obtain rfl := onReceiverReport_eq_ok hreport
  have hnear := near_le_clampedMeasurement (c := c) h.delay_pos s.rtcpPacketArrivalTime report
  refine ⟨h.delay_pos, List.forall_mem_append.mpr ⟨h.delays_pos,
    List.forall_mem_singleton.mpr h.delay_pos⟩, by simp, fun _ => ?_, fun D hD hle => ?_⟩
  · exact le_smoothRoundTripTime h.zero_or_near hnear
  · have hmem := (smoothRoundTripTime_mem h.nonneg
      ((by decide : (0 : ℤ) ≤ kNearZeroRoundTripTime).trans hnear)).2
    have hbefore := h.le_of_forall D hD fun d hd => hle d (List.mem_append_left _ hd)
    have hcap : s.clampedMeasurement c s.rtcpPacketArrivalTime report ≤ toDuration D := by
      refine (min_le_right _ _).trans ?_
      have := hle s.targetPlayoutDelay (by simp)
      simp only [toDuration]
      omega
    exact hmem.trans (max_le hbefore hcap)

/-- One call: what it adds to the delays keeps the estimate in range. -/
theorem InRange.call (h : InRange delays s) {a : SenderOp × SenderOutput} (hcall : Calls c s a t) :
    InRange (delays ++ if (reportOf c s a.1).isSome then [s.targetPlayoutDelay] else []) t := by
  obtain ⟨u, v, hidle, hreport, hreaches⟩ := hcall.unfolds
  have hu := h.idle hidle
  suffices hv : InRange _ v from
    hv.congr (hreaches.roundTripTime hv.delay_pos).1 (hreaches.roundTripTime hv.delay_pos).2
  cases hop : reportOf c s a.1 with
  | none =>
    rw [hop] at hreport
    obtain rfl : v = u := hreport
    simpa using hu
  | some report =>
    rw [hop] at hreport
    have hv := hu.report hreport.2
    rw [hidle.targetPlayoutDelay] at hv
    simpa using hv

theorem InRange.calls (h : InRange delays s)
    {calls : List (SenderOp × SenderOutput)} (hrun : Run (Calls c) s calls t) :
    InRange (delays ++ reportDelays c s (calls.map Prod.fst)) t := by
  induction calls generalizing s delays with
  | nil =>
    generalize hl : ([] : List (SenderOp × SenderOutput)) = l at hrun
    cases hrun with
    | nil => simpa [reportDelays] using h
    | snoc => simp at hl
  | cons a calls ih =>
    obtain ⟨u, hcall, hrest⟩ := hrun.uncons
    have hstep : s.step c a.1 = .ok (a.2, u) := hcall
    have hu := ih (h.call hcall) hrest
    simpa only [List.map_cons, reportDelays, hstep, List.append_assoc] using hu

/-- The range of the estimate after the reports with `delays`. -/
def RoundTripRange (delays : List ℤ) (roundTripTime : ℤ) : Prop :=
  match delays.max? with
  | none => roundTripTime = 0
  | some D => kNearZeroRoundTripTime ≤ roundTripTime ∧ roundTripTime ≤ toDuration D

theorem InRange.roundTripRange (h : InRange delays s) : RoundTripRange delays s.roundTripTime := by
  unfold RoundTripRange
  cases hmax : delays.max? with
  | none => exact h.unknown (List.max?_eq_none_iff.mp hmax)
  | some D =>
    obtain ⟨hD, hle⟩ := List.max?_eq_some_iff.mp hmax
    exact ⟨h.known (List.ne_nil_of_mem hD),
      h.le_of_forall D (h.delays_pos D hD).le hle⟩

/-- What a call does to the estimate: nothing without a report, and otherwise a move to a value
between the estimate and the capped measurement. -/
def MovesRoundTripTime (c : SessionConfig) (s : Sender) (op : SenderOp) (t : Sender) : Prop :=
  match reportOf c s op with
  | none => t.roundTripTime = s.roundTripTime
  | some (arrivalTime, report) =>
    min s.roundTripTime (s.clampedMeasurement c arrivalTime report) ≤ t.roundTripTime ∧
      t.roundTripTime ≤ max s.roundTripTime (s.clampedMeasurement c arrivalTime report)

theorem InRange.moves (h : InRange delays s) {a : SenderOp × SenderOutput}
    (hcall : Calls c s a t) : MovesRoundTripTime c s a.1 t := by
  obtain ⟨u, v, hidle, hreport, hreaches⟩ := hcall.unfolds
  have hu := h.idle hidle
  unfold MovesRoundTripTime
  cases hop : reportOf c s a.1 with
  | none =>
    rw [hop] at hreport
    obtain rfl : v = u := hreport
    exact (hreaches.roundTripTime hu.delay_pos).1.trans hidle.roundTripTime
  | some report =>
    rw [hop] at hreport
    obtain ⟨harrival, hreport⟩ := hreport
    have hv := hu.report hreport
    rw [(hreaches.roundTripTime hv.delay_pos).1, onReceiverReport_eq_ok hreport]
    have hmeasure : s.clampedMeasurement c report.1 report.2 =
        u.clampedMeasurement c u.rtcpPacketArrivalTime report.2 := by
      simp only [clampedMeasurement, harrival, hidle.targetPlayoutDelay]
    dsimp only
    rw [hmeasure, ← hidle.roundTripTime]
    have hnear := near_le_clampedMeasurement (c := c) hu.delay_pos u.rtcpPacketArrivalTime report.2
    exact smoothRoundTripTime_mem hu.nonneg
      ((by decide : (0 : ℤ) ≤ kNearZeroRoundTripTime).trans hnear)

/-- **The round trip time stays in range.** After any calls it is zero when none of them
processed a receiver report, and between 75 µs and the largest target playout delay in force at a
report otherwise; the next call leaves it alone or moves it towards its measurement. -/
theorem roundTripTime_of_calls (c : SessionConfig) (packetizer : RtpPacketizer)
    {calls : List (SenderOp × SenderOutput)} {s : Sender}
    (h : Run (Calls c) (Sender.new c packetizer) calls s) :
    RoundTripRange (reportDelays c (Sender.new c packetizer) (calls.map Prod.fst))
        s.roundTripTime ∧
      ∀ a t, Calls c s a t → MovesRoundTripTime c s a.1 t := by
  have hrange := (inRange_new packetizer).calls h
  rw [List.nil_append] at hrange
  exact ⟨hrange.roundTripRange, fun a t hcall => hrange.moves hcall⟩

/-- The receiver reports the status report of the second 2208988802 at once. -/
def reportPacket : ByteView :=
  [0x81, 201, 0, 7, 0, 0, 0, 2, 0, 0, 0, 1, 0, 0, 0, 0, 0, 0, 0, 0, 0, 0, 0, 0,
    0x7e, 0x82, 0, 0, 0, 0, 0, 0]

theorem outcome_twoReports :
    Outcome (fun r => r.2.roundTripTime = 30000) (fun _ => False)
      (runOps exampleConfig (Sender.new exampleConfig examplePacketizer)
        [.onReceivedRtcpPacket 2208988802010000 reportPacket [],
          .onReceivedRtcpPacket 2208988802050000 reportPacket []]) := by
  decide +kernel

/-- Measurements of 10 ms and of 50 ms are smoothed to 30 ms. -/
theorem roundTripTime_twoReports :
    ∃ s calls, Run (Calls exampleConfig) (Sender.new exampleConfig examplePacketizer) calls s ∧
      s.roundTripTime = 30000 ∧
      RoundTripRange (reportDelays exampleConfig (Sender.new exampleConfig examplePacketizer)
        (calls.map Prod.fst)) s.roundTripTime := by
  obtain ⟨⟨calls, s⟩, hrun, htime⟩ := outcome_twoReports.exists_ok
  have hcalls : Run (Calls exampleConfig) (Sender.new exampleConfig examplePacketizer) calls s :=
    (run_of_runOps hrun (by decide)).mono fun _ _ _ hstep => hstep.2
  exact ⟨s, calls, hcalls, htime, (roundTripTime_of_calls _ _ hcalls).1⟩

end StreamerPlus.Sender
