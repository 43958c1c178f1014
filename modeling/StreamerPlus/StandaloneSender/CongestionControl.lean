import Mathlib.Order.Iterate
import Mathlib.Tactic

/-!
# Congestion control of the desktop sender

`DesktopMediaSender::ControlForNetworkCongestion` (`streamer_plus/desktop_media_sender.cc`) sets the
target bit rate of the video encoder from the estimated bandwidth every 500 ms: at once when it has
to go down, and by at most a tenth when it may go up. The factors 0.8 and 1.1 are exact rationals
here, and the casts to `int` round towards zero. The bit rate of the Opus encoder, which is read
from the library, is a parameter.

## Main results

* `CongestionControl.Steady.control` : the encoder's target is the one that is counted, except that
  it is at least 1024.
* `CongestionControl.videoTarget_controlled` : the bounds of each tick, and convergence with a
  constant estimate.
-/

namespace StreamerPlus

/-- The bit rates of `ConnectionSettings`. -/
structure BitrateSettings where
  maxBitrate : ℤ := 0
  videoMaxBitrate : ℤ := 0
  deriving DecidableEq, Repr

/-- The `bit_rate_limits` that the receiver recommends; zero if there is none. -/
structure BitRateLimits where
  minimum : ℤ := 0
  maximum : ℤ := 0
  deriving DecidableEq, Repr

/-- What congestion control reads and writes of a `DesktopMediaSender`: `videoEncoder` is the target
bit rate of the encoder, if there is one. -/
structure CongestionControl where
  cliVideoCapBps : ℤ
  limits : BitRateLimits
  opusBitrate : ℤ
  videoEncoder : Option ℤ
  networkEstimateBps : ℤ := 0
  videoTargetBps : ℤ := 0
  deriving DecidableEq, Repr

namespace CongestionControl

/-- `kMinVideoBitrate`, and `kBytesPerKilobyte` of the encoder. -/
@[simp] def kMinVideoBitrate : ℤ := 1024

/-- `StreamingVpxEncoder::SetTargetBitrate(new_bitrate)`; a target of zero ends the encoder. -/
def setTargetBitrate (targetBitrate newBitrate : ℤ) : ℤ :=
  if targetBitrate > 0 then max newBitrate kMinVideoBitrate else targetBitrate

variable (settings : BitrateSettings)

/-- `cli_video_cap_bps_`. -/
def cliVideoCap : ℤ :=
  if settings.videoMaxBitrate > 0 then settings.videoMaxBitrate
  else if settings.maxBitrate > 0 then settings.maxBitrate
  else 8000000

/-- The constructor, for a sender with a video encoder. -/
def new (limits : BitRateLimits) (opusBitrate : ℤ) :
    CongestionControl where
  cliVideoCapBps := cliVideoCap settings
  limits
  opusBitrate
  videoEncoder := some (setTargetBitrate (2 <<< 20) (cliVideoCap settings))
  videoTargetBps := cliVideoCap settings

variable (s : CongestionControl)

/-- `available_video`. -/
def availableVideo (estimated : ℤ) : ℤ :=
  let usableTotal := (estimated * 4).tdiv 5
  let actualOpus := if s.opusBitrate > 0 then s.opusBitrate else 0
  max kMinVideoBitrate (usableTotal - actualOpus)

/-- `hard_video_cap`. -/
def hardVideoCap : ℤ :=
  let receiverVideoMax :=
    if s.limits.maximum > 0 then min s.cliVideoCapBps s.limits.maximum else s.cliVideoCapBps
  min s.cliVideoCapBps receiverVideoMax

/-- The new target, for an encoder with the target `targetBitrate`. -/
def newTarget (targetBitrate estimated : ℤ) : ℤ :=
  let available := s.availableVideo estimated
  let current := if s.videoTargetBps > 0 then s.videoTargetBps else targetBitrate
  let target :=
    if available < current then min available s.hardVideoCap
    else min (min available s.hardVideoCap) ((current * 11).tdiv 10)
  let target :=
    if s.limits.minimum > 0 then max target (min (min s.limits.minimum s.hardVideoCap) available)
    else target
  max kMinVideoBitrate target

/-- `ControlForNetworkCongestion()` with the estimate of the session. -/
def controlForNetworkCongestion (estimated : ℤ) : CongestionControl :=
  match s.videoEncoder with
  | none => s
  | some targetBitrate =>
    if estimated ≤ 0 then { s with networkEstimateBps := estimated }
    else
      { s with
        networkEstimateBps := estimated
        videoEncoder := some (setTargetBitrate targetBitrate (s.newTarget targetBitrate estimated))
        videoTargetBps := s.newTarget targetBitrate estimated }

/-- The video target: the target bit rate of the encoder. -/
def videoTarget : ℤ := s.videoEncoder.getD 0

/-- Where the target settles. -/
def settledTarget (estimated : ℤ) : ℤ :=
  max kMinVideoBitrate (min (s.availableVideo estimated) s.hardVideoCap)

/-! ### One tick -/

variable {s} {e : ℤ}

/-- The encoder's target is the one that is counted, but at least 1024. -/
structure Steady (s : CongestionControl) : Prop where
  counted_pos : 0 < s.videoTargetBps
  target : s.videoEncoder = some (max s.videoTargetBps kMinVideoBitrate)

theorem cliVideoCap_pos : 0 < cliVideoCap settings := by
  unfold cliVideoCap
  split_ifs <;> omega

theorem steady_new (limits : BitRateLimits) (opusBitrate : ℤ) :
    (new settings limits opusBitrate).Steady :=
  ⟨cliVideoCap_pos settings, rfl⟩

theorem Steady.videoTarget_eq (h : s.Steady) : s.videoTarget = max s.videoTargetBps 1024 := by
  rw [videoTarget, h.target]
  rfl

/-- A tick with a positive estimate. -/
theorem Steady.control_eq (h : s.Steady) (he : 0 < e) :
    s.controlForNetworkCongestion e =
      { s with
        networkEstimateBps := e
        videoEncoder := some (max (s.newTarget (max s.videoTargetBps kMinVideoBitrate) e)
          kMinVideoBitrate)
        videoTargetBps := s.newTarget (max s.videoTargetBps kMinVideoBitrate) e } := by
  simp only [controlForNetworkCongestion, h.target, if_neg (not_le.mpr he), setTargetBitrate]
  rw [if_pos (lt_max_of_lt_left h.counted_pos)]

theorem le_newTarget (targetBitrate : ℤ) : 1024 ≤ s.newTarget targetBitrate e := le_max_left _ _

/-- What a tick does to the counted target. -/
theorem Steady.newTarget_spec (h : s.Steady) (targetBitrate : ℤ) :
    s.newTarget targetBitrate e ≤ s.settledTarget e ∧
      (10 * s.newTarget targetBitrate e ≤ 11 * max s.videoTargetBps 1024 ∨
        s.newTarget targetBitrate e ≤ s.limits.minimum) ∧
      (s.newTarget targetBitrate e = s.settledTarget e ∨
        s.videoTargetBps * 11 / 10 ≤ s.newTarget targetBitrate e) := by
  have hpos := h.counted_pos
  have havailable : 1024 ≤ s.availableVideo e := le_max_left _ _
  have hgrowth : (s.videoTargetBps * 11).tdiv 10 = s.videoTargetBps * 11 / 10 :=
    Int.tdiv_eq_ediv_of_nonneg (by omega)
  simp only [newTarget, settledTarget, kMinVideoBitrate, if_pos hpos, hgrowth]
  generalize s.availableVideo e = available at *
  generalize s.hardVideoCap = cap
  split_ifs <;> omega

theorem Steady.control (h : s.Steady) (e : ℤ) : (s.controlForNetworkCongestion e).Steady := by
  rcases le_or_gt e 0 with he | he
  · have hidle : s.controlForNetworkCongestion e = { s with networkEstimateBps := e } := by
      simp [controlForNetworkCongestion, h.target, he]
    rw [hidle]
    exact ⟨h.counted_pos, h.target⟩
  · rw [h.control_eq he]
    have hle := @le_newTarget s e (max s.videoTargetBps kMinVideoBitrate)
    exact ⟨by dsimp only; omega, rfl⟩

/-! ### Whole runs -/

theorem Steady.run (h : s.Steady) (estimates : List ℤ) :
    (estimates.foldl controlForNetworkCongestion s).Steady := by
  induction estimates generalizing s with
  | nil => exact h
  | cons e estimates ih => exact ih (h.control e)

theorem limits_run (s : CongestionControl) (estimates : List ℤ) :
    (estimates.foldl controlForNetworkCongestion s).limits = s.limits := by
  induction estimates generalizing s with
  | nil => rfl
  | cons e estimates ih =>
    refine (ih (s.controlForNetworkCongestion e)).trans ?_
    unfold controlForNetworkCongestion
    split
    · rfl
    · split_ifs <;> rfl

theorem settledTarget_control (h : s.Steady) (he : 0 < e) (e' : ℤ) :
    (s.controlForNetworkCongestion e).settledTarget e' = s.settledTarget e' := by
  rw [h.control_eq he]
  rfl

/-- After the first tick every further one comes closer, until the target has settled. -/
theorem Steady.iterate_eq (h : s.Steady) (he : 0 < e) {k : ℕ} (hlow : 1024 ≤ s.videoTargetBps)
    (hhigh : s.videoTargetBps ≤ s.settledTarget e)
    (hk : s.settledTarget e - s.videoTargetBps ≤ k) :
    ((controlForNetworkCongestion · e)^[k] s).videoTarget = s.settledTarget e := by
  induction k generalizing s with
  | zero =>
    rw [Function.iterate_zero_apply, h.videoTarget_eq]
    omega
  | succ k ih =>
    have hsettled := settledTarget_control h he e
    have hnext : (s.controlForNetworkCongestion e).videoTargetBps =
        s.newTarget (max s.videoTargetBps kMinVideoBitrate) e := by
      rw [h.control_eq he]
    have hle := @le_newTarget s e (max s.videoTargetBps kMinVideoBitrate)
    obtain ⟨hbound, -, hprogress⟩ :=
      @Steady.newTarget_spec s e h (max s.videoTargetBps kMinVideoBitrate)
    rw [Function.iterate_succ_apply, ← hsettled]
    exact ih (h.control e) (by omega) (by omega) (by omega)

/-- **Congestion control is safe and convergent.** Whatever the settings, the recommendations and
the estimates so far, a tick with a positive estimate leaves a target between 1024 and the larger of
1024 and both caps. It is at most a tenth above the last target, or at most the recommended minimum,
and at most the available bandwidth. With a constant positive estimate the target settles at the
larger of 1024 and both caps. -/
theorem videoTarget_controlled (settings : BitrateSettings) (limits : BitRateLimits)
    (opusBitrate : ℤ) (estimates : List ℤ) (e : ℤ) (he : 0 < e) :
    let s := estimates.foldl controlForNetworkCongestion (new settings limits opusBitrate)
    let next := s.controlForNetworkCongestion e
    let settled := max 1024 (min (s.availableVideo e) s.hardVideoCap)
    (1024 ≤ next.videoTarget ∧ next.videoTarget ≤ settled) ∧
      (10 * next.videoTarget ≤ 11 * s.videoTarget ∨ next.videoTarget ≤ limits.minimum) ∧
      (s.availableVideo e < s.videoTarget → next.videoTarget ≤ s.availableVideo e) ∧
      next.videoTargetBps = next.videoTarget ∧
      ∃ n, ∀ m ≥ n, ((controlForNetworkCongestion · e)^[m] s).videoTarget = settled := by
  intro s next settled
  have h : s.Steady := (steady_new settings limits opusBitrate).run estimates
  have hlimits : s.limits = limits := limits_run _ estimates
  obtain ⟨hbound, hgrowth, -⟩ :=
    @Steady.newTarget_spec s e h (max s.videoTargetBps kMinVideoBitrate)
  have hlow := @le_newTarget s e (max s.videoTargetBps kMinVideoBitrate)
  have hnext : next.videoTargetBps = s.newTarget (max s.videoTargetBps kMinVideoBitrate) e := by
    simp only [next, h.control_eq he]
  have htarget : next.videoTarget = next.videoTargetBps := by
    rw [(h.control e).videoTarget_eq, hnext]
    omega
  have hsettled : next.settledTarget e = settled := settledTarget_control h he e
  have havailable : 1024 ≤ s.availableVideo e := le_max_left _ _
  have hcap : settled ≤ s.availableVideo e := max_le havailable (min_le_left _ _)
  rw [htarget, h.videoTarget_eq, hnext, ← hlimits]
  refine ⟨⟨hlow, hbound⟩, hgrowth, fun _ => hbound.trans hcap, rfl, ?_⟩
  -- the first tick brings the target below where it settles, the others come closer
  refine ⟨(settled - 1024).toNat + 1, fun m hm => ?_⟩
  obtain ⟨k, rfl⟩ : ∃ k, m = k + 1 := ⟨m - 1, by omega⟩
  have hlow' : 1024 ≤ next.videoTargetBps := hnext ▸ hlow
  have hhigh : next.videoTargetBps ≤ next.settledTarget e := by rwa [hnext, hsettled]
  have hk : next.settledTarget e - next.videoTargetBps ≤ k := by omega
  rw [Function.iterate_succ_apply]
  exact ((h.control e).iterate_eq he hlow' hhigh hk).trans hsettled

/-- An estimate that is too low is followed at once, and one that is high enough reaches the cap. -/
theorem videoTarget_recommended :
    let s := [3000000].foldl controlForNetworkCongestion
      (new { videoMaxBitrate := 5000000 } { minimum := 4000000 } 128000)
    s.videoTarget = 2272000 ∧ 0 < 9000000 ∧
      ∃ n, ∀ m ≥ n, ((controlForNetworkCongestion · 9000000)^[m] s).videoTarget = 5000000 :=
  ⟨by decide, by decide, (videoTarget_controlled { videoMaxBitrate := 5000000 }
    { minimum := 4000000 } 128000 [3000000] 9000000 (by decide)).2.2.2.2⟩

end CongestionControl

end StreamerPlus
