import StreamerPlus.Streaming.PacketReceiveStats

/-!
# Packet loss statistics are exact

The tracker sees sequence numbers of 16 bits. Behind them stands an unbounded numbering of the
packets that were sent, of which the network loses, repeats and reorders some. `Observed` keeps the
true numbers of the packets that arrived, and of those that had arrived at the last report.

As long as no packet is further than 32767 from the greatest number so far, the tracker expands
every sequence number to the true one, up to the multiple of `2 ^ 16` by which the first was
truncated.

## Main results

* `PacketReceiveStatsTracker.Counts.step` : the tracker holds what was observed.
* `PacketReceiveStatsTracker.populateNextReport_runCalls` : each report states the losses exactly.
-/

namespace StreamerPlus.PacketReceiveStatsTracker

open ExpandedValue

/-! ### The true numbers -/

/-- The calls: a packet arrives, with its true number, or a report is to be sent. -/
inductive Call
  | arrival (number rtpTimestamp arrivalTime : ℤ)
  | report (block : RtcpReportBlock)

/-- The numbers of the packets that arrived, and of those before the last report. -/
structure Observed where
  arrivals : List ℤ := []
  reported : List ℤ := []

/-- The greatest number of a list. -/
def greatest : List ℤ → ℤ
  | [] => 0
  | n :: ns => ns.foldl max n

theorem greatest_append {ns : List ℤ} (h : ns ≠ []) (m : ℤ) :
    greatest (ns ++ [m]) = max (greatest ns) m := by
  obtain ⟨n, ns, rfl⟩ := List.exists_cons_of_ne_nil h
  simp [greatest]

namespace Observed

variable (o : Observed)

/-- The first arrival. -/
def first : ℤ := o.arrivals.headD 0

/-- What the truncation of the first number takes away. -/
def offset : ℤ := o.first - o.first % 2 ^ 16

/-- The greatest number at the last report, one before the first arrival if there was none. -/
def previous : ℤ := if o.reported = [] then o.first - 1 else greatest o.reported

/-- The packets that were sent since the last report, as far as the receiver can tell. -/
def expected : ℤ := greatest o.arrivals - o.previous

/-- The packets that arrived since the last report. -/
def received : ℤ := o.arrivals.length - o.reported.length

def observe : Call → Observed
  | .arrival number _ _ => { o with arrivals := o.arrivals ++ [number] }
  | .report _ => { o with reported := o.arrivals }

/-- An arrival is within 32767 of the greatest number so far. -/
def Near : Call → Prop
  | .arrival number _ _ => o.arrivals ≠ [] → |number - greatest o.arrivals| ≤ 32767
  | .report _ => True

/-- All arrivals are within 32767 of the greatest number before them. -/
def AllNear : Observed → List Call → Prop
  | _, [] => True
  | o, call :: calls => o.Near call ∧ AllNear (o.observe call) calls

end Observed

/-! ### What the tracker holds -/

variable {timebase : RtpTimebase} {o : Observed} {t : PacketReceiveStatsTracker}

/-- The tracker after a call, which sees only the low bits of a number. -/
def step (timebase : RtpTimebase) (t : PacketReceiveStatsTracker) : Call → PacketReceiveStatsTracker
  | .arrival number rtpTimestamp arrivalTime =>
    t.onReceivedValidRtpPacket timebase (lowerBits 16 number) rtpTimestamp arrivalTime
  | .report block => (t.populateNextReport timebase block).2

def runCalls (timebase : RtpTimebase) (t : PacketReceiveStatsTracker) (calls : List Call) :
    PacketReceiveStatsTracker := calls.foldl (step timebase) t

/-- The tracker holds what was observed, up to the offset. -/
structure Counts (o : Observed) (t : PacketReceiveStatsTracker) : Prop where
  received : t.numRtpPacketsReceived = o.arrivals.length
  unreported : o.arrivals = [] → o.reported = []
  previous_le : o.arrivals ≠ [] → o.previous ≤ greatest o.arrivals
  greatest : o.arrivals ≠ [] →
    t.greatestSequenceNumber = PacketReceiveStatsTracker.greatest o.arrivals - o.offset
  base : o.arrivals ≠ [] → t.baseSequenceNumber = o.first - 1 - o.offset
  receivedAtLast : o.arrivals ≠ [] → t.numRtpPacketsReceivedAtLastReport = o.reported.length
  greatestAtLast : o.arrivals ≠ [] → t.greatestSequenceNumberAtLastReport = o.previous - o.offset

theorem counts_new : Counts {} {} :=
  ⟨rfl, fun _ => rfl, by simp, by simp, by simp, by simp, by simp⟩

/-- The first arrival sets the offset. -/
theorem Counts.first_arrival (h : Counts o t) (hnil : o.arrivals = [])
    (number rtpTimestamp arrivalTime : ℤ) :
    Counts (o.observe (.arrival number rtpTimestamp arrivalTime))
      (step timebase t (.arrival number rtpTimestamp arrivalTime)) := by
  have hzero : t.numRtpPacketsReceived = 0 := by rw [h.received, hnil]; rfl
  have hreported := h.unreported hnil
  have hlow := cast_lowerBits 16 number
  simp only [step, onReceivedValidRtpPacket, if_pos hzero]
  constructor <;>
    simp [Observed.observe, Observed.previous, Observed.offset, Observed.first, hnil, hreported,
      PacketReceiveStatsTracker.greatest, hlow, hzero]

/-- A later arrival is expanded to its true number, up to the offset. -/
theorem Counts.expand_eq (h : Counts o t) (hne : o.arrivals ≠ []) {number : ℤ}
    (hnear : |number - PacketReceiveStatsTracker.greatest o.arrivals| ≤ 32767) :
    expand 16 t.greatestSequenceNumber (lowerBits 16 number) = number - o.offset := by
  -- the offset is a multiple of the period of the sequence numbers
  have hlow : lowerBits 16 number = lowerBits 16 (number - o.offset) := by
    unfold lowerBits Observed.offset
    omega
  rw [hlow]
  refine expand_lowerBits (le_trans (le_of_eq ?_) (hnear.trans (by decide)))
  rw [h.greatest hne]
  ring_nf

theorem Counts.later_arrival (h : Counts o t) (hne : o.arrivals ≠ [])
    {number rtpTimestamp arrivalTime : ℤ}
    (hnear : |number - PacketReceiveStatsTracker.greatest o.arrivals| ≤ 32767) :
    Counts (o.observe (.arrival number rtpTimestamp arrivalTime))
      (step timebase t (.arrival number rtpTimestamp arrivalTime)) := by
  have hpos : ¬t.numRtpPacketsReceived = 0 := by
    rw [h.received]
    simpa using hne
  have hfirst : (o.observe (.arrival number rtpTimestamp arrivalTime)).first = o.first := by
    simp [Observed.observe, Observed.first, List.headD_eq_head?_getD,
      List.head?_append_of_ne_nil _ hne]
  have hoffset : (o.observe (.arrival number rtpTimestamp arrivalTime)).offset = o.offset := by
    rw [Observed.offset, hfirst, Observed.offset]
  have hprevious :
      (o.observe (.arrival number rtpTimestamp arrivalTime)).previous = o.previous := by
    rw [Observed.previous, hfirst, Observed.previous]
    rfl
  have hgreatest := greatest_append hne number
  simp only [step, onReceivedValidRtpPacket, if_neg hpos, h.expand_eq hne hnear]
  refine ⟨by simp [Observed.observe, h.received], fun hnil => ?_, fun _ => ?_, fun _ => ?_,
    fun _ => ?_, fun _ => h.receivedAtLast hne, fun _ => ?_⟩
  · simp [Observed.observe] at hnil
  · rw [hprevious]
    exact (h.previous_le hne).trans (hgreatest ▸ le_max_left _ _)
  · rw [hoffset, h.greatest hne, max_sub_sub_right]
    exact congrArg (· - _) hgreatest.symm
  · rw [hfirst, hoffset]
    exact h.base hne
  · rw [hprevious, hoffset]
    exact h.greatestAtLast hne

theorem Counts.report (h : Counts o t) (block : RtcpReportBlock) :
    Counts (o.observe (.report block)) (step timebase t (.report block)) := by
  by_cases hnil : o.arrivals = []
  · have hstep : step timebase t (.report block) = t := by
      simp [step, populateNextReport, h.received, hnil]
    have hobserve : o.observe (.report block) = o := by
      rw [Observed.observe, hnil, ← h.unreported hnil]
      exact congrArg (Observed.mk · o.reported) ((h.unreported hnil).trans hnil.symm)
    rwa [hstep, hobserve]
  · have hpos : ¬t.numRtpPacketsReceived ≤ 0 := by
      rw [h.received]
      simpa using hnil
    have hprevious : (o.observe (.report block)).previous =
        PacketReceiveStatsTracker.greatest o.arrivals := if_neg hnil
    simp only [step, populateNextReport, if_neg hpos]
    exact ⟨h.received, fun hnil' => absurd hnil' hnil, fun _ => hprevious.le,
      fun _ => h.greatest hnil, fun _ => h.base hnil, fun _ => h.received,
      fun _ => hprevious ▸ h.greatest hnil⟩

/-- **What one call keeps.** -/
theorem Counts.step (h : Counts o t) {call : Call} (hnear : o.Near call) :
    Counts (o.observe call) (step timebase t call) := by
  cases call with
  | arrival number rtpTimestamp arrivalTime =>
    by_cases hnil : o.arrivals = []
    · exact h.first_arrival hnil number rtpTimestamp arrivalTime
    · exact h.later_arrival hnil (hnear hnil)
  | report block => exact h.report block

theorem Counts.runCalls {calls : List Call} (h : Counts o t) (hnear : o.AllNear calls) :
    Counts (calls.foldl Observed.observe o) (runCalls timebase t calls) := by
  induction calls generalizing o t with
  | nil => exact h
  | cons call calls ih => exact ih (h.step hnear.1) hnear.2

/-! ### The reports -/

/-- Rounding towards zero and rounding down agree once negative values are cut off. -/
theorem max_tdiv_zero (x : ℤ) {e : ℤ} (he : 0 < e) : max (x.tdiv e) 0 = max (x / e) 0 := by
  rcases le_or_gt 0 x with hx | hx
  · rw [Int.tdiv_eq_ediv_of_nonneg hx]
  · have hfloor : x / e < 0 := Int.ediv_neg_of_neg_of_pos hx he
    have htrunc : 0 ≤ (-x).tdiv e := Int.tdiv_nonneg (by omega) he.le
    rw [Int.neg_tdiv] at htrunc
    omega

/-- **Packet loss statistics are exact.** Whatever is lost, repeated and reordered, as long as each
arrival is within 32767 of the greatest number so far, a report states the greatest number up to the
offset, the packets lost since the first arrival, and the fraction lost since the last report, each
within the limits of its field. Nothing is reported before the first arrival. -/
theorem populateNextReport_runCalls (timebase : RtpTimebase) {calls : List Call}
    (hnear : Observed.AllNear {} calls) (block : RtcpReportBlock) :
    let o := calls.foldl Observed.observe {}
    let report := ((runCalls timebase {} calls).populateNextReport timebase block).1
    (o.arrivals = [] → report = block) ∧
      (o.arrivals ≠ [] →
        report.extendedHighSequenceNumber =
            UInt32.ofNat (lowerBits 32 (greatest o.arrivals - o.offset)) ∧
          (2 : ℤ) ^ 16 ∣ o.offset ∧
          report.cumulativePacketsLost =
            max 0 (min (2 ^ 24 - 1) (greatest o.arrivals - o.first + 1 - o.arrivals.length)) ∧
          report.packetFractionLostNumerator =
            if o.expected = 0 then 0
            else max 0 (min 255 (256 * (o.expected - o.received) / o.expected))) := by
  intro o report
  have h : Counts o (runCalls timebase {} calls) := counts_new.runCalls hnear
  refine ⟨fun hnil => ?_, fun hne => ?_⟩
  · simp [report, populateNextReport, h.received, hnil]
  · have hpos : ¬(o.arrivals.length : ℤ) ≤ 0 := by simpa using hne
    have hexpected : 0 ≤ o.expected := sub_nonneg.mpr (h.previous_le hne)
    have hsent : greatest o.arrivals - o.offset - (o.previous - o.offset) = o.expected := by
      rw [Observed.expected]
      ring
    have hreceived : (o.arrivals.length : ℤ) - o.reported.length = o.received := rfl
    simp only [report, populateNextReport, RtcpReportBlock.setCumulativePacketsLost,
      RtcpReportBlock.setPacketFractionLostNumerator, h.greatest hne, h.greatestAtLast hne,
      h.base hne, h.received, h.receivedAtLast hne, hsent, hreceived, if_neg hpos]
    refine ⟨trivial, ?_, ?_, ?_⟩
    · rw [Observed.offset]
      omega
    · omega
    · by_cases hzero : o.expected = 0
      · rw [if_pos hzero, if_pos hzero.le]
      · rw [if_neg hzero, if_neg (by omega), max_tdiv_zero _ (by omega), mul_comm]
        omega

/-- Two packets are lost around the wrap of the sequence number, and one comes late and twice. -/
theorem populateNextReport_wrapped :
    let calls : List Call := [.arrival 65533 0 0, .arrival 65535 0 0, .arrival 65538 0 0,
      .arrival 65534 0 0, .arrival 65534 0 0]
    let report := ((runCalls ⟨id, id⟩ {} calls).populateNextReport ⟨id, id⟩
      ⟨1, 0, 0, 0, 0, 0, 0⟩).1
    report.cumulativePacketsLost = 1 ∧ report.packetFractionLostNumerator = 42 := by
  intro calls report
  have hnear : Observed.AllNear {} calls := by
    simp [calls, Observed.AllNear, Observed.Near, Observed.observe, greatest]
  have h := (populateNextReport_runCalls ⟨id, id⟩ hnear ⟨1, 0, 0, 0, 0, 0, 0⟩).2
    (by simp [calls, Observed.observe])
  exact ⟨h.2.2.1, h.2.2.2⟩

end StreamerPlus.PacketReceiveStatsTracker
