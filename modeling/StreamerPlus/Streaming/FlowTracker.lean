import Mathlib

/-!
# `BandwidthEstimator::FlowTracker`

The estimator (`bandwidth_estimator.cc`) keeps a ring of 256 timeslices, each with the amount that
flowed during it. The window only moves forward, by whole timeslices, and the slices that it leaves
behind are set to zero and used again.

Seen from `tail_`, the ring is the list of the slices in the order of time: moving the window by `n`
slices moves this list by `n`, whether or not `n` is larger than the ring. So each slice holds what
was accumulated in its period, up to the largest value that it can hold.

## Main results

* `FlowTracker.Covers.step` : what one call keeps, with the times that were seen and the amounts
  that were accepted.
* `FlowTracker.sum_runCalls` : after any calls, `Sum()` is the windowed sum, and the window ends
  with the slice of the latest time.
-/

namespace StreamerPlus

local instance neZero256Ring : NeZero 256 := ⟨by decide⟩

/-- `saturate_cast<int32_t>(value)`. -/
def saturateInt32 (value : ℤ) : ℤ := min (max value (-2 ^ 31)) (2 ^ 31 - 1)

/-- `BandwidthEstimator::FlowTracker`. The index of the ring wraps around. -/
structure FlowTracker where
  timesliceDuration : ℤ
  beginTime : ℤ
  historyRing : Fin 256 → ℤ := fun _ => 0
  tail : Fin 256 := 0

namespace FlowTracker

variable (t : FlowTracker)

/-- `end_time()`. -/
def endTime : ℤ := t.beginTime + t.timesliceDuration * 256

/-- `history_ring_[tail_++] = 0`. -/
def shift : FlowTracker :=
  { t with historyRing := Function.update t.historyRing t.tail 0, tail := t.tail + 1 }

/-- `AdvanceToIncludeTime(until)`. -/
def advanceToIncludeTime (untilTime : ℤ) : FlowTracker :=
  if untilTime < t.endTime then t
  else
    let numPeriods := 1 + (untilTime - t.endTime).tdiv t.timesliceDuration
    shift^[(min numPeriods 256).toNat]
      { t with beginTime := t.beginTime + numPeriods * t.timesliceDuration }

/-- `Accumulate(amount, when)`. -/
def accumulate (amount time : ℤ) : FlowTracker :=
  if time < t.beginTime then t
  else
    let t := t.advanceToIncludeTime time
    let offsetFromFirst := (time - t.beginTime).tdiv t.timesliceDuration
    let ringIndex := t.tail + Fin.ofNat 256 offsetFromFirst.toNat
    { t with
      historyRing := Function.update t.historyRing ringIndex
        (saturateInt32 (t.historyRing ringIndex + amount)) }

/-- `Sum()`. -/
def sum : ℤ := saturateInt32 (∑ i, t.historyRing i)

/-- The calls that change a tracker. -/
inductive Call
  | accumulate (amount time : ℤ)
  | advanceToIncludeTime (untilTime : ℤ)
  deriving DecidableEq, Repr

/-- The time that a call is about. -/
def Call.time : Call → ℤ
  | .accumulate _ time => time
  | .advanceToIncludeTime untilTime => untilTime

/-- A tracker after one call. -/
def step : Call → FlowTracker
  | .accumulate amount time => t.accumulate amount time
  | .advanceToIncludeTime untilTime => t.advanceToIncludeTime untilTime

/-- A tracker after calls in any order, at any times: they need not be in the order of time. -/
def runCalls (calls : List Call) : FlowTracker := calls.foldl step t

/-! ### The windowed sum -/

/-- The amount that a call adds, with its time: none if it is before `begin_time()`. -/
def accepts : Call → List (ℤ × ℤ)
  | .accumulate amount time => if t.beginTime ≤ time then [(amount, time)] else []
  | .advanceToIncludeTime _ => []

/-- The amounts that were not before `begin_time()` when they were accumulated. -/
def accepted (t : FlowTracker) : List Call → List (ℤ × ℤ)
  | [] => []
  | call :: calls => t.accepts call ++ accepted (t.step call) calls

/-- The amounts of slice `k` of a window. -/
def sliceSum (amounts : List (ℤ × ℤ)) (duration beginTime : ℤ) (k : ℕ) : ℤ :=
  ((amounts.filter fun a => beginTime + k * duration ≤ a.2 ∧
    a.2 < beginTime + (k + 1) * duration).map Prod.fst).sum

/-- The sum of a window of 256 slices, saturating per slice and in total. -/
def windowSum (amounts : List (ℤ × ℤ)) (duration beginTime : ℤ) : ℤ :=
  min (2 ^ 31 - 1) (∑ k : Fin 256, min (2 ^ 31 - 1) (sliceSum amounts duration beginTime k))

section

variable {amounts : List (ℤ × ℤ)} {d b : ℤ} {k n : ℕ}

theorem sliceSum_nonneg (h : ∀ a ∈ amounts, 0 ≤ a.1) : 0 ≤ sliceSum amounts d b k := by
  refine List.sum_nonneg fun x hx => ?_
  obtain ⟨a, ha, rfl⟩ := List.mem_map.mp hx
  exact h a (List.mem_of_mem_filter ha)

/-- A window that has moved by `n` slices. -/
theorem sliceSum_add (amounts : List (ℤ × ℤ)) (d b : ℤ) (n k : ℕ) :
    sliceSum amounts d (b + n * d) k = sliceSum amounts d b (k + n) := by
  have hlo : b + n * d + k * d = b + (k + n : ℕ) * d := by push_cast; ring
  have hhi : b + n * d + (k + 1) * d = b + ((k + n : ℕ) + 1) * d := by push_cast; ring
  simp only [sliceSum, hlo, hhi]

/-- No amount is in a slice that begins after all of them. -/
theorem sliceSum_eq_zero (h : ∀ a ∈ amounts, a.2 < b + k * d) : sliceSum amounts d b k = 0 := by
  have hnil : (amounts.filter fun a => b + k * d ≤ a.2 ∧ a.2 < b + (k + 1) * d) = [] := by
    refine List.filter_eq_nil_iff.mpr fun a ha hslice => ?_
    have hle := (of_decide_eq_true hslice).1
    exact absurd (h a ha) (not_lt.mpr hle)
  rw [sliceSum, hnil]
  rfl

/-- One more amount is in one slice. -/
theorem sliceSum_append (hd : 0 < d) (amount time : ℤ) (hn : b + n * d ≤ time)
    (hn' : time < b + (n + 1) * d) :
    sliceSum (amounts ++ [(amount, time)]) d b k =
      sliceSum amounts d b k + if k = n then amount else 0 := by
  have hmem : (b + k * d ≤ time ∧ time < b + (k + 1) * d) ↔ k = n := by
    refine ⟨fun ⟨h₁, h₂⟩ => ?_, fun h => h ▸ ⟨hn, hn'⟩⟩
    have hle : (k : ℤ) < n + 1 := lt_of_mul_lt_mul_right (by linarith) hd.le
    have hge : (n : ℤ) < k + 1 := lt_of_mul_lt_mul_right (by linarith) hd.le
    omega
  rw [sliceSum, List.filter_append, List.map_append, List.sum_append, List.filter_singleton]
  simp only [hmem, sliceSum]
  split_ifs <;> simp_all

end

/-! ### The ring seen from its tail -/

variable {t : FlowTracker} {amounts : List (ℤ × ℤ)} {seen : List ℤ} {begin₀ : ℤ} {k n : ℕ}

/-- The slices in the order of time. -/
def slice (t : FlowTracker) (k : ℕ) : ℤ := t.historyRing (t.tail + Fin.ofNat 256 k)

theorem ofNat_inj {i j : ℕ} (hi : i < 256) (hj : j < 256) :
    Fin.ofNat 256 i = Fin.ofNat 256 j ↔ i = j := by
  simp [Fin.ext_iff, Fin.ofNat, Nat.mod_eq_of_lt hi, Nat.mod_eq_of_lt hj]

theorem window_shift (t : FlowTracker) (n : ℕ) :
    (shift^[n] t).beginTime = t.beginTime ∧
      (shift^[n] t).timesliceDuration = t.timesliceDuration := by
  induction n with
  | zero => exact ⟨rfl, rfl⟩
  | succ n ih => rwa [Function.iterate_succ_apply']

theorem timesliceDuration_advance (t : FlowTracker) (untilTime : ℤ) :
    (t.advanceToIncludeTime untilTime).timesliceDuration = t.timesliceDuration := by
  unfold advanceToIncludeTime
  split_ifs
  · rfl
  · exact (window_shift _ _).2

theorem timesliceDuration_runCalls (t : FlowTracker) (calls : List Call) :
    (t.runCalls calls).timesliceDuration = t.timesliceDuration := by
  induction calls generalizing t with
  | nil => rfl
  | cons call calls ih =>
    refine (ih (t.step call)).trans ?_
    cases call with
    | accumulate amount time =>
      change (t.accumulate amount time).timesliceDuration = t.timesliceDuration
      unfold accumulate
      split_ifs
      · rfl
      · exact timesliceDuration_advance t time
    | advanceToIncludeTime untilTime => exact timesliceDuration_advance t untilTime

theorem tail_shift (t : FlowTracker) (n : ℕ) : (shift^[n] t).tail = t.tail + Fin.ofNat 256 n := by
  induction n with
  | zero => simp
  | succ n ih =>
    rw [Function.iterate_succ_apply', shift, ih, add_assoc]
    ext
    simp [Fin.val_add, Fin.ofNat]

/-- Shifting clears the first slices. -/
theorem historyRing_shift (t : FlowTracker) (hn : n ≤ 256) (hk : k < 256) :
    (shift^[n] t).historyRing (t.tail + Fin.ofNat 256 k) = if k < n then 0 else t.slice k := by
  induction n with
  | zero => rfl
  | succ n ih =>
    rw [Function.iterate_succ_apply', shift, tail_shift]
    dsimp only
    simp only [Function.update_apply, add_right_inj, ofNat_inj hk hn, ih (Nat.le_of_succ_le hn)]
    split_ifs <;> first | rfl | omega

/-- The slices after `AdvanceToIncludeTime` has moved the window by `n` of them. -/
theorem slice_shift (t : FlowTracker) (n : ℕ) (hk : k < 256) :
    (shift^[min n 256] t).slice k = if k + n < 256 then t.slice (k + n) else 0 := by
  have hindex : t.tail + Fin.ofNat 256 (min n 256) + Fin.ofNat 256 k =
      t.tail + Fin.ofNat 256 ((min n 256 + k) % 256) := by
    rw [add_assoc]
    congr 1
    ext
    simp [Fin.val_add, Fin.ofNat]
  rw [slice, tail_shift, hindex, historyRing_shift t (by omega) (Nat.mod_lt _ (by decide))]
  by_cases hlt : k + n < 256
  · rw [if_neg (by omega), if_pos hlt]
    congr 1
    omega
  · rw [if_pos (by omega), if_neg hlt]

/-- The slice of a time. -/
theorem exists_slice {d offset : ℤ} (hd : 0 < d) (hoffset : 0 ≤ offset) :
    ∃ n : ℕ, offset.tdiv d = n ∧ n * d ≤ offset ∧ offset < (n + 1) * d := by
  have hnonneg := Int.ediv_nonneg hoffset hd.le
  refine ⟨(offset / d).toNat, ?_⟩
  rw [Int.tdiv_eq_ediv_of_nonneg hoffset, Int.toNat_of_nonneg hnonneg]
  exact ⟨rfl, Int.ediv_mul_le offset hd.ne', Int.lt_ediv_add_one_mul_self offset hd⟩

/-! ### What one call keeps -/

/-- The ring holds the amounts of its window, and the window ends with the slice of the latest time
that was seen, unless all of them are before the end of the first window. -/
structure Covers (begin₀ : ℤ) (seen : List ℤ) (amounts : List (ℤ × ℤ)) (t : FlowTracker) :
    Prop where
  duration_pos : 0 < t.timesliceDuration
  aligned : ∃ n : ℕ, t.beginTime = begin₀ + n * t.timesliceDuration
  lt_endTime : ∀ time ∈ seen, time < t.endTime
  latest : (t.beginTime = begin₀ ∧ ∀ time ∈ seen, time < t.endTime) ∨
    ∃ time ∈ seen, begin₀ + t.timesliceDuration * 256 ≤ time ∧
      t.endTime - t.timesliceDuration ≤ time ∧ ∀ other ∈ seen, other ≤ time
  nonneg : ∀ a ∈ amounts, 0 ≤ a.1
  times : ∀ a ∈ amounts, a.2 ∈ seen
  slices : ∀ k < 256,
    t.slice k = min (2 ^ 31 - 1) (sliceSum amounts t.timesliceDuration t.beginTime k)

theorem covers_new {duration : ℤ} (h : 0 < duration) (begin₀ : ℤ) :
    Covers begin₀ [] [] { timesliceDuration := duration, beginTime := begin₀ } where
  duration_pos := h
  aligned := ⟨0, by simp⟩
  lt_endTime := by simp
  latest := .inl ⟨rfl, by simp⟩
  nonneg := by simp
  times := by simp
  slices _ _ := rfl

section

variable (h : Covers begin₀ seen amounts t)
include h

/-- A time within the window may be seen. -/
theorem Covers.see {time : ℤ} (htime : time < t.endTime) :
    Covers begin₀ (seen ++ [time]) amounts t where
  duration_pos := h.duration_pos
  aligned := h.aligned
  lt_endTime := by simpa [or_imp, forall_and] using ⟨h.lt_endTime, htime⟩
  latest := by
    rcases h.latest with ⟨hbegin, hall⟩ | ⟨last, hlast, hfirst, hslice, hmax⟩
    · exact .inl ⟨hbegin, by simpa [or_imp, forall_and] using ⟨hall, htime⟩⟩
    · right
      rcases le_total time last with hle | hle
      · exact ⟨last, by simp [hlast], hfirst, hslice, by
          simpa [or_imp, forall_and] using ⟨hmax, hle⟩⟩
      · exact ⟨time, by simp, hfirst.trans hle, hslice.trans hle, by
          simpa [or_imp, forall_and] using fun other ho => (hmax other ho).trans hle⟩
  nonneg := h.nonneg
  times a ha := by simp [h.times a ha]
  slices := h.slices

/-- Moving the window to a time after its end. -/
theorem Covers.move {time : ℤ} (htime : t.endTime ≤ time) :
    Covers begin₀ (seen ++ [time]) amounts (t.advanceToIncludeTime time) := by
  have hd := h.duration_pos
  obtain ⟨m, hm⟩ := h.aligned
  -- the number of slices by which the window moves
  obtain ⟨n, hn, hslice, hlt⟩ := exists_slice hd (sub_nonneg.mpr htime)
  have hshift : t.advanceToIncludeTime time = shift^[min (n + 1) 256]
      { t with beginTime := t.beginTime + (n + 1 : ℕ) * t.timesliceDuration } := by
    have hcount : (min (1 + (n : ℤ)) 256).toNat = min (n + 1) 256 := by omega
    simp only [advanceToIncludeTime, if_neg (not_lt.mpr htime), hn, hcount]
    rw [add_comm 1 (n : ℤ), Nat.cast_succ]
  have hduration : (t.advanceToIncludeTime time).timesliceDuration = t.timesliceDuration := by
    rw [hshift, (window_shift _ _).2]
  have hbegin : (t.advanceToIncludeTime time).beginTime =
      t.beginTime + (n + 1 : ℕ) * t.timesliceDuration := by
    rw [hshift, (window_shift _ _).1]
  have hend : (t.advanceToIncludeTime time).endTime =
      t.endTime + (n + 1) * t.timesliceDuration := by
    rw [endTime, endTime, hduration, hbegin]
    push_cast
    ring
  rw [sub_lt_iff_lt_add'] at hlt
  refine ⟨hduration ▸ hd, ⟨m + (n + 1), ?_⟩, ?_, .inr ⟨time, by simp, ?_, ?_, ?_⟩, h.nonneg,
    fun a ha => by simp [h.times a ha], fun k hk => ?_⟩
  · rw [hduration, hbegin, hm]
    push_cast
    ring
  · rw [hend]
    exact List.forall_mem_append.mpr ⟨fun other hother => ((h.lt_endTime other hother).trans_le
      htime).trans hlt, List.forall_mem_singleton.mpr hlt⟩
  · rw [hduration]
    refine le_trans ?_ htime
    have hpos : 0 ≤ (m : ℤ) * t.timesliceDuration := by positivity
    rw [endTime, hm]
    linarith
  · rw [hend, hduration]
    linarith
  · exact List.forall_mem_append.mpr ⟨fun other hother => ((h.lt_endTime other hother).trans_le
      htime).le, List.forall_mem_singleton.mpr le_rfl⟩
  · rw [hduration, hbegin, sliceSum_add, hshift, slice_shift _ _ hk]
    generalize n + 1 = n
    by_cases hlt : k + n < 256
    · rw [if_pos hlt]
      exact h.slices (k + n) hlt
    · have hzero : sliceSum amounts t.timesliceDuration t.beginTime (k + n) = 0 := by
        refine sliceSum_eq_zero fun a ha => (h.lt_endTime _ (h.times a ha)).trans_le ?_
        have hle : (256 : ℤ) * t.timesliceDuration ≤ ((k + n : ℕ) : ℤ) * t.timesliceDuration :=
          mul_le_mul_of_nonneg_right (by omega) hd.le
        rw [endTime]
        linarith
      rw [if_neg hlt, hzero]
      rfl

theorem Covers.advanceToIncludeTime (untilTime : ℤ) :
    Covers begin₀ (seen ++ [untilTime]) amounts (t.advanceToIncludeTime untilTime) := by
  rcases lt_or_ge untilTime t.endTime with hlt | hge
  · rw [FlowTracker.advanceToIncludeTime, if_pos hlt]
    exact h.see hlt
  · exact h.move hge

/-- A time that is not before the window is in it after the advance. -/
theorem Covers.beginTime_le {time : ℤ}
    (hge : t.beginTime ≤ time) : (t.advanceToIncludeTime time).beginTime ≤ time := by
  rcases lt_or_ge time t.endTime with hlt | hend
  · rwa [FlowTracker.advanceToIncludeTime, if_pos hlt]
  · have hadvanced := h.move hend
    have hd := hadvanced.duration_pos
    obtain ⟨m, hm⟩ := h.aligned
    have hpos : 0 ≤ (m : ℤ) * t.timesliceDuration := mul_nonneg (by omega) h.duration_pos.le
    rcases hadvanced.latest with ⟨hbegin, -⟩ | ⟨last, hlast, -, hslice, hmax⟩
    · omega
    · -- all other times are before the old end
      obtain rfl : last = time := by
        rcases List.mem_append.mp hlast with hold | hnew
        · have hle := hmax time (by simp)
          have hlt := h.lt_endTime last hold
          omega
        · exact List.mem_singleton.mp hnew
      rw [endTime] at hslice
      linarith

/-- An amount is added to the slice of its time. -/
theorem Covers.add {amount time : ℤ} (hamount : 0 ≤ amount)
    (htime : time ∈ seen) (hge : t.beginTime ≤ time) :
    let ringIndex := t.tail + Fin.ofNat 256 ((time - t.beginTime).tdiv t.timesliceDuration).toNat
    Covers begin₀ seen (amounts ++ [(amount, time)]) { t with
      historyRing := Function.update t.historyRing ringIndex
        (saturateInt32 (t.historyRing ringIndex + amount)) } := by
  have hd := h.duration_pos
  have hend := h.lt_endTime time htime
  obtain ⟨n, hn, hlo, hhi⟩ := exists_slice hd (sub_nonneg.mpr hge)
  rw [le_sub_iff_add_le'] at hlo
  rw [sub_lt_iff_lt_add'] at hhi
  have hlt : n < 256 := by
    rw [endTime] at hend
    have hcast : (n : ℤ) < 256 := lt_of_mul_lt_mul_right (by linarith) hd.le
    exact_mod_cast hcast
  rw [hn, Int.toNat_natCast]
  refine ⟨hd, h.aligned, h.lt_endTime, h.latest, ?_, ?_, fun k hk => ?_⟩
  · exact List.forall_mem_append.mpr ⟨h.nonneg, List.forall_mem_singleton.mpr hamount⟩
  · exact List.forall_mem_append.mpr ⟨h.times, List.forall_mem_singleton.mpr htime⟩
  · have hsum := @sliceSum_append amounts _ _ k n hd amount time hlo hhi
    have hold := h.slices k hk
    have hnonneg := @sliceSum_nonneg amounts t.timesliceDuration t.beginTime k h.nonneg
    rw [slice] at hold
    simp only [slice, hsum, Function.update_apply, add_right_inj, ofNat_inj hk hlt]
    split_ifs with hkn
    · subst hkn
      rw [hold, saturateInt32]
      omega
    · rw [hold, add_zero]

theorem Covers.accumulate {amount : ℤ} (hamount : 0 ≤ amount) (time : ℤ) :
    Covers begin₀ (seen ++ [time]) (amounts ++ t.accepts (.accumulate amount time))
      (t.accumulate amount time) := by
  rcases lt_or_ge time t.beginTime with hlt | hge
  · have hend : time < t.endTime := by
      have hd := h.duration_pos
      rw [endTime]
      linarith
    rw [FlowTracker.accumulate, if_pos hlt, accepts, if_neg (not_le.mpr hlt), List.append_nil]
    exact h.see hend
  · rw [FlowTracker.accumulate, if_neg (not_lt.mpr hge), accepts, if_pos hge]
    exact (h.advanceToIncludeTime time).add hamount (by simp) (h.beginTime_le hge)

/-- **What one call keeps.** -/
theorem Covers.step {call : Call}
    (hcall : ∀ amount time, call = .accumulate amount time → 0 ≤ amount) :
    Covers begin₀ (seen ++ [call.time]) (amounts ++ t.accepts call) (t.step call) := by
  cases call with
  | accumulate amount time => exact h.accumulate (hcall amount time rfl) time
  | advanceToIncludeTime untilTime =>
    rw [accepts, List.append_nil]
    exact h.advanceToIncludeTime untilTime

end

/-! ### Whole runs -/

theorem Covers.runCalls {calls : List Call} (h : Covers begin₀ seen amounts t)
    (hcalls : ∀ amount time, .accumulate amount time ∈ calls → 0 ≤ amount) :
    Covers begin₀ (seen ++ calls.map Call.time) (amounts ++ t.accepted calls)
      (t.runCalls calls) := by
  induction calls generalizing seen amounts t with
  | nil => simpa [accepted, FlowTracker.runCalls] using h
  | cons call calls ih =>
    have hrest := ih
      (@h.step _ _ _ _ call fun amount time heq => hcalls amount time (by simp [heq]))
      fun amount time hmem => hcalls amount time (by simp [hmem])
    simpa [accepted, FlowTracker.runCalls, List.append_assoc] using hrest

/-- The slices hold the windowed sum. -/
theorem Covers.sum_eq (h : Covers begin₀ seen amounts t) :
    t.sum = windowSum amounts t.timesliceDuration t.beginTime := by
  have hreindex : ∑ i, t.historyRing i = ∑ k : Fin 256, t.slice k := by
    rw [← Equiv.sum_comp (Equiv.addLeft t.tail)]
    refine Finset.sum_congr rfl fun k _ => ?_
    simp [slice]
  have hslices : ∑ k : Fin 256, t.slice k =
      ∑ k : Fin 256, min (2 ^ 31 - 1) (sliceSum amounts t.timesliceDuration t.beginTime k) :=
    Finset.sum_congr rfl fun k _ => h.slices k k.isLt
  have hnonneg : 0 ≤ ∑ k : Fin 256,
      min (2 ^ 31 - 1) (sliceSum amounts t.timesliceDuration t.beginTime k) :=
    Finset.sum_nonneg fun k _ => le_min (by norm_num) (sliceSum_nonneg h.nonneg)
  rw [sum, hreindex, hslices, windowSum, saturateInt32]
  omega

/-- **The ring refines a time-windowed sum.** After any calls with amounts that are not negative,
at any times, `Sum()` is the sum over the window of the amounts that were accepted. The window has
moved by whole slices. All amounts are before its end, and it ends with the slice of the latest time
if that is not before the end of the first window. -/
theorem sum_runCalls {duration : ℤ} (hduration : 0 < duration) (begin₀ : ℤ) {calls : List Call}
    (hcalls : ∀ amount time, .accumulate amount time ∈ calls → 0 ≤ amount) :
    let new : FlowTracker := { timesliceDuration := duration, beginTime := begin₀ }
    let t := new.runCalls calls
    t.sum = windowSum (new.accepted calls) duration t.beginTime ∧
      (∃ n : ℕ, t.beginTime = begin₀ + n * duration) ∧
      t.endTime = t.beginTime + 256 * duration ∧
      (∀ a ∈ new.accepted calls, a.2 < t.endTime) ∧
      ((∀ call ∈ calls, call.time < new.endTime) ∧ t.beginTime = begin₀ ∨
        ∃ call ∈ calls, new.endTime ≤ call.time ∧ (∀ other ∈ calls, other.time ≤ call.time) ∧
          t.endTime - duration ≤ call.time ∧ call.time < t.endTime) := by
  intro new t
  have h : Covers begin₀ ([] ++ calls.map Call.time) ([] ++ new.accepted calls) t :=
    (covers_new hduration begin₀).runCalls hcalls
  have hd : t.timesliceDuration = duration := timesliceDuration_runCalls new calls
  obtain ⟨n, hn⟩ := h.aligned
  have hsum := h.sum_eq
  rw [hd] at hn hsum
  have hseen : ∀ time, (time ∈ [] ++ calls.map Call.time) ↔ ∃ call ∈ calls, call.time = time := by
    simp
  refine ⟨hsum, ⟨n, hn⟩, by rw [endTime, hd, mul_comm],
    fun a ha => h.lt_endTime _ (h.times a ha), ?_⟩
  rcases h.latest with ⟨hbegin, hall⟩ | ⟨last, hlast, hfirst, hslice, hmax⟩
  · refine .inl ⟨fun call hcall => ?_, hbegin⟩
    have hlt := hall call.time ((hseen _).mpr ⟨call, hcall, rfl⟩)
    rwa [endTime, hbegin, hd] at hlt
  · obtain ⟨call, hcall, rfl⟩ := (hseen last).mp hlast
    rw [hd] at hfirst hslice
    exact .inr ⟨call, hcall, hfirst, fun other hother =>
      hmax _ ((hseen _).mpr ⟨other, hother, rfl⟩), hslice, h.lt_endTime _ hlast⟩

/-- The window jumps by more than its length, and an amount that is too old is not counted. -/
theorem sum_runCalls_jump :
    let new : FlowTracker := { timesliceDuration := 10, beginTime := 0 }
    let calls : List Call :=
      [.accumulate 5 20, .accumulate 7 9000, .advanceToIncludeTime 100, .accumulate 3 8000,
        .accumulate 4 20]
    (new.runCalls calls).sum = windowSum (new.accepted calls) 10 (new.runCalls calls).beginTime :=
  (sum_runCalls (by decide) 0 (by rintro amount time h; simp at h; omega)).1

end FlowTracker

end StreamerPlus
