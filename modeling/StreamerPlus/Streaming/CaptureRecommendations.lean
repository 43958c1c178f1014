import StreamerPlus.Lib.Outcome
import StreamerPlus.Streaming.ReceiverConstraints

/-!
# Recommendations for capture

`GetRecommendations` (`public/capture_recommendations.cc`) derives from an ANSWER what the sender
should capture: first from the display of the receiver, then from its constraints, and last the
ranges are put in order. Products and conversions of doubles go to `int`; where one does not fit,
the result is undefined.

The display and the constraints are compared by their widths only. So the recommended maximum may be
higher than the display or than the constraint, and for a display that is very narrow or very wide
the recommended minimum may be zero, or not fit.

## Main results

* `respects_iff`: when the recommendations respect the display and the constraints.
-/

namespace StreamerPlus

open BinaryRounding Checked

@[simp] def kMinVideoWidth : ℤ := 320
@[simp] def kMinVideoHeight : ℤ := 240
@[simp] def kDefaultFrameRate : ℤ := 30
@[simp] def kDefaultAudioMaxBitRate : ℤ := 256000
@[simp] def kDefaultAudioChannels : ℤ := 2
@[simp] def kDefaultAudioSampleRate : ℤ := 48000

namespace CaptureRecommendations

/-- A value that does not fit in an `int`. -/
inductive RecommendationFault
  | overflow
  deriving DecidableEq, Repr

/-- The values of an `int`. -/
def FitsInt (n : ℤ) : Prop := -2 ^ 31 ≤ n ∧ n < 2 ^ 31

instance (n : ℤ) : Decidable (FitsInt n) := inferInstanceAs (Decidable (_ ∧ _))

/-- The conversion of a double to `int`. -/
def toInt (q : ℚ) : Except RecommendationFault ℤ :=
  if FitsInt (truncate q) then .ok (truncate q) else .error .overflow

/-- `BitRateLimits`. -/
structure BitRateLimits where
  minimum : ℤ
  maximum : ℤ
  deriving DecidableEq, Repr

/-- `Audio`. -/
structure Audio where
  bitRateLimits : BitRateLimits := ⟨kDefaultAudioMinBitRate, kDefaultAudioMaxBitRate⟩
  maxDelay : ℤ := 400
  maxChannels : ℤ := kDefaultAudioChannels
  maxSampleRate : ℤ := kDefaultAudioSampleRate
  minSampleRate : ℤ := 16000
  deriving DecidableEq, Repr

/-- `kDefaultMinResolution`. -/
def kDefaultMinResolution : Resolution := ⟨kMinVideoWidth, kMinVideoHeight⟩

/-- `kDefaultMaxResolution`. -/
def kDefaultMaxResolution : Dimensions := ⟨1920, 1080, ⟨kDefaultFrameRate, 1⟩⟩

/-- `Video`. The default limits are products of `kDefaultMaxResolution`. -/
structure Video where
  bitRateLimits : BitRateLimits := ⟨kDefaultVideoMinBitRate, 1920 * 1080 * 30⟩
  minimum : Resolution := kDefaultMinResolution
  maximum : Dimensions := kDefaultMaxResolution
  supportsScaling : Bool := false
  maxDelay : ℤ := 400
  maxPixelsPerSecond : ℤ := 1920 * 1080 * 30 / 8
  deriving DecidableEq, Repr

/-- `Recommendations`. -/
structure Recommendations where
  audio : Audio := {}
  video : Video := {}
  deriving DecidableEq, Repr

variable (d : Dimensions)

/-- `effective_bit_rate()`. -/
def effectiveBitRate : Except RecommendationFault ℤ := do
  require (FitsInt (d.width * d.height)) .overflow
  match d.frameRate.toDouble with
  | none => throw .overflow
  | some rate => toInt (roundDouble ((d.width * d.height : ℤ) * rate))

/-- `ApplyDisplay(description, recommendations)`. -/
def applyDisplay (description : DisplayDescription) (r : Recommendations) :
    Except RecommendationFault Recommendations := do
  let video := { r.video with
    supportsScaling := description.aspectRatioConstraint = some .variable }
  let video ← match description.dimensions with
    | none => pure video
    | some dimensions => do
      let maximum ← effectiveBitRate dimensions
      pure { video with
        maximum := dimensions
        bitRateLimits := { video.bitRateLimits with maximum }
        minimum := if dimensions.width < video.minimum.width then dimensions.toResolution
          else video.minimum }
  match description.aspectRatio, description.dimensions with
  | some ratio, _ => do
    let aspectRatio := roundDouble (ratio.width / ratio.height)
    let width ← toInt (roundDouble (video.maximum.height * aspectRatio))
    let minimumWidth ← toInt (roundDouble (video.minimum.height * aspectRatio))
    return { r with video := { video with
      maximum := { video.maximum with width }
      minimum := { video.minimum with width := minimumWidth } } }
  | none, some dimensions => do
    let aspectRatio := roundDouble (dimensions.width / dimensions.height)
    let width ← toInt (roundDouble (video.minimum.height * aspectRatio))
    return { r with video := { video with minimum := { video.minimum with width } } }
  | none, none => return { r with video }

/-- The part of `ApplyConstraints` for audio. -/
def applyAudioConstraints (c : AudioConstraints) (audio : Audio) : Audio :=
  { audio with
    maxDelay := c.maxDelay.getD audio.maxDelay
    maxChannels := c.maxChannels
    maxSampleRate := c.maxSampleRate
    bitRateLimits :=
      ⟨max c.minBitRate kDefaultAudioMinBitRate, max c.maxBitRate kDefaultAudioMinBitRate⟩ }

/-- The part of `ApplyConstraints` for video, other than the pixel rate. -/
def applyVideoConstraints (c : VideoConstraints) (video : Video) : Video :=
  { video with
    maxDelay := c.maxDelay.getD video.maxDelay
    bitRateLimits :=
      ⟨max c.minBitRate video.bitRateLimits.minimum, min c.maxBitRate video.bitRateLimits.maximum⟩
    maximum :=
      if c.maxDimensions.width ≤ kDefaultMinResolution.width then
        ⟨kDefaultMinResolution.width, kDefaultMinResolution.height, ⟨kDefaultFrameRate, 1⟩⟩
      else if c.maxDimensions.width < video.maximum.width then c.maxDimensions
      else video.maximum
    minimum :=
      match c.minResolution with
      | none => video.minimum
      | some minimum =>
        if kDefaultMinResolution.width < minimum.width then minimum.toResolution
        else video.minimum }

/-- `ApplyConstraints(constraints, recommendations)`. -/
def applyConstraints (constraints : Constraints) (r : Recommendations) :
    Except RecommendationFault Recommendations := do
  let maxPixelsPerSecond ← match constraints.video.maxPixelsPerSecond with
    | none => pure r.video.maxPixelsPerSecond
    | some rate => toInt rate
  return {
    audio := applyAudioConstraints constraints.audio r.audio
    video := { applyVideoConstraints constraints.video r.video with maxPixelsPerSecond } }

/-- `ClampVideoToWellOrderedRanges(video)`. -/
def clampVideoToWellOrderedRanges (video : Video) : Video :=
  { video with
    bitRateLimits := { video.bitRateLimits with
      minimum := min video.bitRateLimits.minimum video.bitRateLimits.maximum }
    minimum := ⟨min video.minimum.width video.maximum.width,
      min video.minimum.height video.maximum.height⟩ }

variable (answer : Answer)

/-- `GetRecommendations(answer)`. -/
def getRecommendations : Except RecommendationFault Recommendations := do
  let r ← match answer.display with
    | none => pure {}
    | some display => if display.isValid then applyDisplay display {} else pure {}
  let r ← match answer.constraints with
    | none => pure r
    | some constraints => if constraints.isValid then applyConstraints constraints r else pure r
  return { r with video := clampVideoToWellOrderedRanges r.video }

/-! ### What is recommended -/

/-- The dimensions of the display. -/
def displayDimensions : Option Dimensions := answer.display.bind (·.dimensions)

/-- The recommendations respect the limits of the receiver, and their ranges are in order. -/
structure Respects (r : Recommendations) : Prop where
  display : ∀ d ∈ displayDimensions answer,
    r.video.maximum.width ≤ d.width ∧ r.video.maximum.height ≤ d.height
  constraints : ∀ c ∈ answer.constraints,
    r.video.maximum.width ≤ max c.video.maxDimensions.width kMinVideoWidth ∧
      r.video.maximum.height ≤ max c.video.maxDimensions.height kMinVideoHeight
  width : 0 < r.video.minimum.width ∧ r.video.minimum.width ≤ r.video.maximum.width
  height : 0 < r.video.minimum.height ∧ r.video.minimum.height ≤ r.video.maximum.height
  videoBitRate : 0 < r.video.bitRateLimits.minimum ∧
    r.video.bitRateLimits.minimum ≤ r.video.bitRateLimits.maximum
  audioBitRate : 0 < r.audio.bitRateLimits.minimum ∧
    r.audio.bitRateLimits.minimum ≤ r.audio.bitRateLimits.maximum

/-- The bit rate for a display. -/
def displayBitRate : ℤ :=
  truncate (roundDouble ((d.width * d.height : ℤ) *
    roundDouble (d.frameRate.numerator / d.frameRate.denominator)))

/-- The height of the minimum for a display, and its width from the ratio of the display. -/
def displayMinimum : Resolution :=
  let height := if d.width < kMinVideoWidth then d.height else kMinVideoHeight
  ⟨truncate (roundDouble (height * roundDouble (d.width / d.height))), height⟩

/-- The display leaves room: its products fit, and there is something to capture. -/
structure DisplayFits : Prop where
  area : FitsInt (d.width * d.height)
  bitRate : FitsInt (displayBitRate d) ∧ 0 < displayBitRate d
  minimum : FitsInt (displayMinimum d).width

/-- The constraint and the display, or the default maximum, are in the same order in both
directions. -/
structure Agrees (c : Constraints) (display : Option Dimensions) : Prop where
  pixels : ∀ rate ∈ c.video.maxPixelsPerSecond, FitsInt (truncate rate)
  small : c.video.maxDimensions.width ≤ kMinVideoWidth →
    ∀ d ∈ display, kMinVideoWidth ≤ d.width ∧ kMinVideoHeight ≤ d.height
  narrower : kMinVideoWidth < c.video.maxDimensions.width → ∀ d ∈ display,
    c.video.maxDimensions.width < d.width → c.video.maxDimensions.height ≤ d.height
  wider : kMinVideoWidth < c.video.maxDimensions.width →
    (display.getD kDefaultMaxResolution).width ≤ c.video.maxDimensions.width →
    (display.getD kDefaultMaxResolution).height ≤ max c.video.maxDimensions.height kMinVideoHeight

/-- A minimum resolution of the constraints that replaces the one of the display. -/
def ReplacesMinimum (c : Constraints) : Prop :=
  ∃ minimum ∈ c.video.minResolution, kMinVideoWidth < minimum.width

/-- The condition on the whole ANSWER. -/
structure Within : Prop where
  display : ∀ d ∈ displayDimensions answer, DisplayFits d
  minimum : ∀ d ∈ displayDimensions answer,
    0 < (displayMinimum d).width ∨ ∃ c ∈ answer.constraints, ReplacesMinimum c
  constraints : ∀ c ∈ answer.constraints, Agrees c (displayDimensions answer)

/-! ### The parts -/

variable {answer : Answer} {Q : Recommendations → Prop}

theorem outcome_toInt {P : ℤ → Prop} {q : ℚ} :
    Outcome P (fun _ => False) (toInt q) ↔ FitsInt (truncate q) ∧ P (truncate q) := by
  unfold toInt
  split_ifs with h <;> simp [h]

theorem outcome_effectiveBitRate {P : ℤ → Prop} {d : Dimensions} (hd : d.isValid = true) :
    Outcome P (fun _ => False) (effectiveBitRate d) ↔
      FitsInt (d.width * d.height) ∧ FitsInt (displayBitRate d) ∧ P (displayBitRate d) := by
  have hdefined : d.frameRate.denominator ≠ 0 := by
    simp only [Dimensions.isValid, SimpleFraction.isPositive, Bool.and_eq_true, decide_eq_true_eq]
      at hd
    omega
  simp only [effectiveBitRate, SimpleFraction.toDouble, if_neg hdefined]
  by_cases harea : FitsInt (d.width * d.height)
  · rw [require_of harea, ok_bind, outcome_toInt, and_iff_right harea]
    rfl
  · simp [require, harea]

/-- The recommendations after the display was applied. -/
def displayed (description : DisplayDescription) : Recommendations where
  video :=
    { supportsScaling := description.aspectRatioConstraint = some .variable
      maximum := description.dimensions.getD kDefaultMaxResolution
      bitRateLimits := ⟨kDefaultVideoMinBitRate,
        (description.dimensions.map displayBitRate).getD (1920 * 1080 * 30)⟩
      minimum := (description.dimensions.map displayMinimum).getD kDefaultMinResolution }

/-- The products of the display fit. -/
def ProductsFit (d : Dimensions) : Prop :=
  FitsInt (d.width * d.height) ∧ FitsInt (displayBitRate d) ∧ FitsInt (displayMinimum d).width

theorem DisplayFits.products {d : Dimensions} (h : DisplayFits d) : ProductsFit d :=
  ⟨h.area, h.bitRate.1, h.minimum⟩

theorem ProductsFit.display {d : Dimensions} (h : ProductsFit d) (hrate : 0 < displayBitRate d) :
    DisplayFits d :=
  ⟨h.1, ⟨h.2.1, hrate⟩, h.2.2⟩

theorem outcome_applyDisplay {description : DisplayDescription}
    (hvalid : description.isValid = true) (hratio : description.aspectRatio = none) :
    Outcome Q (fun _ => False) (applyDisplay description {}) ↔
      (∀ d ∈ description.dimensions, ProductsFit d) ∧ Q (displayed description) := by
  unfold applyDisplay displayed ProductsFit
  rcases hdimensions : description.dimensions with _ | d
  · simp [hratio]
  · have hd : d.isValid = true := by
      simp only [DisplayDescription.isValid, hdimensions, Option.all_some] at hvalid
      by_contra hd
      simp [hd] at hvalid
    have hheight : (if d.width < kDefaultMinResolution.width then d.toResolution
        else kDefaultMinResolution).height = (displayMinimum d).height := by
      by_cases h : d.width < kMinVideoWidth
      · simp only [displayMinimum, if_pos h,
          if_pos (show d.width < kDefaultMinResolution.width from h)]
        rfl
      · simp only [displayMinimum, if_neg h,
          if_neg (show ¬d.width < kDefaultMinResolution.width from h)]
        rfl
    simp only [hratio, outcome_bind, outcome_effectiveBitRate hd, outcome_toInt, outcome_pure,
      hheight, Option.mem_def, Option.some.injEq, forall_eq', Option.map_some, Option.getD_some,
      and_assoc]
    exact Iff.rfl

/-- The recommendations after the display of the ANSWER, if it has one. -/
def shown (answer : Answer) : Recommendations := answer.display.elim {} displayed

variable {c : Constraints}

theorem outcome_applyConstraints {r : Recommendations} :
    Outcome Q (fun _ => False) (applyConstraints c r) ↔
      (∀ rate ∈ c.video.maxPixelsPerSecond, FitsInt (truncate rate)) ∧
        Q { audio := applyAudioConstraints c.audio r.audio
            video := { applyVideoConstraints c.video r.video with
              maxPixelsPerSecond :=
                (c.video.maxPixelsPerSecond.map truncate).getD r.video.maxPixelsPerSecond } } := by
  unfold applyConstraints
  rcases c.video.maxPixelsPerSecond with _ | rate
  · simp
  · simp [outcome_bind, outcome_toInt]

/-- **All of `GetRecommendations`** for a valid ANSWER without an explicit ratio: the display fits,
or there is none, and so do the constraints. -/
theorem outcome_getRecommendations (hvalid : answer.isValid = true)
    (hratio : ∀ d ∈ answer.display, d.aspectRatio = none) :
    Outcome Q (fun _ => False) (getRecommendations answer) ↔
      (∀ d ∈ displayDimensions answer, ProductsFit d) ∧
      (∀ c ∈ answer.constraints, ∀ rate ∈ c.video.maxPixelsPerSecond, FitsInt (truncate rate)) ∧
      Q (answer.constraints.elim
        { shown answer with video := clampVideoToWellOrderedRanges (shown answer).video }
        fun c =>
          { audio := applyAudioConstraints c.audio (shown answer).audio
            video := clampVideoToWellOrderedRanges
              { applyVideoConstraints c.video (shown answer).video with
                maxPixelsPerSecond := (c.video.maxPixelsPerSecond.map truncate).getD
                  (shown answer).video.maxPixelsPerSecond } }) := by
  simp only [Answer.isValid, Bool.and_eq_true] at hvalid
  obtain ⟨⟨⟨⟨-, hconstraints⟩, hdisplay⟩, -⟩, -⟩ := hvalid
  unfold getRecommendations displayDimensions shown
  rcases hd : answer.display with _ | d <;> rcases hc : answer.constraints with _ | c
  · simp
  · have hvalid : c.isValid = true := by simpa [hc] using hconstraints
    simp [outcome_bind, hvalid, outcome_applyConstraints]
  · have hvalid : d.isValid = true := by simpa [hd] using hdisplay
    simp only [outcome_bind, hvalid, ↓reduceIte, outcome_applyDisplay hvalid (hratio d hd),
      outcome_pure, Option.bind_some, Option.elim_some, Option.elim_none]
    simp
  · have hvalid : d.isValid = true := by simpa [hd] using hdisplay
    have hvalid' : c.isValid = true := by simpa [hc] using hconstraints
    simp only [outcome_bind, hvalid, hvalid', ↓reduceIte, outcome_applyDisplay hvalid (hratio d hd),
      outcome_applyConstraints, outcome_pure, Option.bind_some, Option.elim_some]
    simp

/-! ### When the limits are respected -/

variable {video : Video} {audio : Audio}

/-- What is left to be shown after the ranges were put in order. -/
theorem respects_clamp_iff (haudio : 0 < audio.bitRateLimits.minimum ∧
      audio.bitRateLimits.minimum ≤ audio.bitRateLimits.maximum)
    (hmaximum : 0 < video.maximum.width ∧ 0 < video.maximum.height)
    (hminimum : 0 < video.minimum.height) (hbitRate : 0 < video.bitRateLimits.minimum) :
    Respects answer { audio, video := clampVideoToWellOrderedRanges video } ↔
      (∀ d ∈ displayDimensions answer,
        video.maximum.width ≤ d.width ∧ video.maximum.height ≤ d.height) ∧
      (∀ c ∈ answer.constraints,
        video.maximum.width ≤ max c.video.maxDimensions.width kMinVideoWidth ∧
          video.maximum.height ≤ max c.video.maxDimensions.height kMinVideoHeight) ∧
      0 < video.minimum.width ∧ 0 < video.bitRateLimits.maximum := by
  constructor
  · rintro ⟨hdisplay, hconstraints, ⟨hwidth, -⟩, -, ⟨hrate, -⟩, -⟩
    exact ⟨hdisplay, hconstraints, (lt_min_iff.mp hwidth).1, (lt_min_iff.mp hrate).2⟩
  · rintro ⟨hdisplay, hconstraints, hwidth, hrate⟩
    exact ⟨hdisplay, hconstraints, ⟨lt_min hwidth hmaximum.1, min_le_right _ _⟩,
      ⟨lt_min hminimum hmaximum.2, min_le_right _ _⟩, ⟨lt_min hbitRate hrate, min_le_right _ _⟩,
      haudio⟩

theorem shown_video (answer : Answer) :
    (shown answer).audio = {} ∧
      (shown answer).video.maximum = (displayDimensions answer).getD kDefaultMaxResolution ∧
      (shown answer).video.minimum =
        ((displayDimensions answer).map displayMinimum).getD kDefaultMinResolution ∧
      (shown answer).video.bitRateLimits = ⟨kDefaultVideoMinBitRate,
        ((displayDimensions answer).map displayBitRate).getD (1920 * 1080 * 30)⟩ := by
  unfold shown displayDimensions
  rcases answer.display with _ | d
  · exact ⟨rfl, rfl, rfl, rfl⟩
  · exact ⟨rfl, rfl, rfl, rfl⟩

theorem pos_of_isValid {d : Dimensions} (h : d.isValid = true) : 0 < d.width ∧ 0 < d.height := by
  simp only [Dimensions.isValid, Bool.and_eq_true, decide_eq_true_eq] at h
  exact h.1

theorem isValid_displayDimensions (hvalid : answer.isValid = true) :
    ∀ d ∈ displayDimensions answer, d.isValid = true := by
  intro d hd
  obtain ⟨display, hdisplay, hd⟩ := Option.bind_eq_some_iff.mp hd
  have hall : display.isValid = true := by
    simp only [Answer.isValid, Bool.and_eq_true, hdisplay, Option.all_some] at hvalid
    exact hvalid.1.1.2
  by_contra hd'
  simp [DisplayDescription.isValid, hd, hd'] at hall

/-- What the display recommends at most, and at least. -/
theorem pos_shown (hvalid : answer.isValid = true) :
    (0 < (shown answer).video.maximum.width ∧ 0 < (shown answer).video.maximum.height) ∧
      0 < (shown answer).video.minimum.height := by
  obtain ⟨-, hmaximum, hminimum, -⟩ := shown_video answer
  rw [hmaximum, hminimum]
  rcases hd : displayDimensions answer with _ | d
  · decide
  · obtain ⟨hwidth, hheight⟩ := pos_of_isValid (isValid_displayDimensions hvalid d hd)
    refine ⟨⟨hwidth, hheight⟩, ?_⟩
    simp only [Option.map_some, Option.getD_some, displayMinimum]
    split_ifs
    · exact hheight
    · decide

/-- The conditions of `Agrees` on the order of the maxima. -/
def SameOrder (c : Constraints) (display : Option Dimensions) : Prop :=
  (c.video.maxDimensions.width ≤ kMinVideoWidth →
    ∀ d ∈ display, kMinVideoWidth ≤ d.width ∧ kMinVideoHeight ≤ d.height) ∧
  (kMinVideoWidth < c.video.maxDimensions.width → ∀ d ∈ display,
    c.video.maxDimensions.width < d.width → c.video.maxDimensions.height ≤ d.height) ∧
  (kMinVideoWidth < c.video.maxDimensions.width →
    (display.getD kDefaultMaxResolution).width ≤ c.video.maxDimensions.width →
    (display.getD kDefaultMaxResolution).height ≤ max c.video.maxDimensions.height kMinVideoHeight)

/-- **The order of the maxima.** Whether the maximum respects the display and the constraint. -/
theorem maximum_iff (display : Option Dimensions)
    (hmaximum : video.maximum = display.getD kDefaultMaxResolution) :
    ((∀ d ∈ display, (applyVideoConstraints c.video video).maximum.width ≤ d.width ∧
        (applyVideoConstraints c.video video).maximum.height ≤ d.height) ∧
      (applyVideoConstraints c.video video).maximum.width ≤
        max c.video.maxDimensions.width kMinVideoWidth ∧
      (applyVideoConstraints c.video video).maximum.height ≤
        max c.video.maxDimensions.height kMinVideoHeight) ↔ SameOrder c display := by
  have hshown : ∀ d ∈ display, display.getD kDefaultMaxResolution = d := fun d hd => by
    rw [Option.mem_def.mp hd, Option.getD_some]
  unfold SameOrder
  simp only [applyVideoConstraints, hmaximum, kDefaultMinResolution]
  split_ifs with hsmall hnarrow
  · -- the default minimum is the maximum
    refine ⟨fun h => ⟨fun _ => h.1, fun h' => absurd hsmall h'.not_ge, fun h' =>
      absurd hsmall h'.not_ge⟩, fun h => ⟨h.1 hsmall, le_max_right _ _, le_max_right _ _⟩⟩
  · -- the constraint is
    refine ⟨fun h => ⟨fun h' => absurd h' hsmall, fun _ d hd _ => (h.1 d hd).2, fun _ h' =>
      absurd hnarrow h'.not_gt⟩, fun h => ⟨fun d hd => ?_, le_max_left _ _, le_max_left _ _⟩⟩
    rw [hshown d hd] at hnarrow
    exact ⟨hnarrow.le, h.2.1 (not_le.mp hsmall) d hd hnarrow⟩
  · -- the display is, or the default maximum
    refine ⟨fun h => ⟨fun h' => absurd h' hsmall, fun _ d hd h' => ?_, fun _ _ => h.2.2⟩,
      fun h => ⟨fun d hd => ?_, le_max_of_le_left (not_lt.mp hnarrow),
        h.2.2 (not_le.mp hsmall) (not_lt.mp hnarrow)⟩⟩
    · rw [hshown d hd] at hnarrow
      exact absurd h' hnarrow
    · rw [hshown d hd]
      exact ⟨le_rfl, le_rfl⟩

theorem shown_minimum_pos_iff (answer : Answer) :
    0 < (shown answer).video.minimum.width ↔
      ∀ d ∈ displayDimensions answer, 0 < (displayMinimum d).width := by
  rw [(shown_video answer).2.2.1]
  rcases displayDimensions answer with _ | d
  · exact iff_of_true (by decide) nofun
  · simp only [Option.map_some, Option.getD_some, Option.mem_some_iff, forall_eq']

theorem shown_bitRate_pos_iff (answer : Answer) :
    0 < (shown answer).video.bitRateLimits.maximum ↔
      ∀ d ∈ displayDimensions answer, 0 < displayBitRate d := by
  rw [(shown_video answer).2.2.2]
  rcases displayDimensions answer with _ | d
  · exact iff_of_true (by decide) nofun
  · simp only [Option.map_some, Option.getD_some, Option.mem_some_iff, forall_eq']

/-- The minimum with constraints: their own, or that of the display. -/
theorem minimum_pos_iff : 0 < (applyVideoConstraints c.video video).minimum.width ↔
      ReplacesMinimum c ∨ 0 < video.minimum.width := by
  unfold applyVideoConstraints ReplacesMinimum
  rcases c.video.minResolution with _ | minimum
  · simp
  · simp only [Option.mem_some_iff, exists_eq_left']
    by_cases h : kDefaultMinResolution.width < minimum.width
    · rw [if_pos h]
      exact iff_of_true (lt_trans (show 0 < kMinVideoWidth by decide) h) (.inl h)
    · rw [if_neg h]
      exact (or_iff_right h).symm

theorem minimum_height_pos {c : VideoConstraints} (hvalid : c.isValid = true)
    (h : 0 < video.minimum.height) : 0 < (applyVideoConstraints c video).minimum.height := by
  have hminimum : ∀ minimum ∈ c.minResolution, minimum.isValid = true := by
    simp only [VideoConstraints.isValid, Bool.and_eq_true, Option.all_eq_true] at hvalid
    exact hvalid.1.2
  unfold applyVideoConstraints
  rcases hresolution : c.minResolution with _ | minimum
  · exact h
  · dsimp only
    split_ifs
    · exact (pos_of_isValid (hminimum minimum hresolution)).2
    · exact h

/-- The pixel rate is not limited. -/
theorem respects_pixels_iff (rate : ℤ) :
    Respects answer
      { audio
        video := clampVideoToWellOrderedRanges { video with maxPixelsPerSecond := rate } } ↔
    Respects answer { audio, video := clampVideoToWellOrderedRanges video } :=
  ⟨fun ⟨h₁, h₂, h₃, h₄, h₅, h₆⟩ => ⟨h₁, h₂, h₃, h₄, h₅, h₆⟩,
    fun ⟨h₁, h₂, h₃, h₄, h₅, h₆⟩ => ⟨h₁, h₂, h₃, h₄, h₅, h₆⟩⟩

theorem isValid_constraints (hvalid : answer.isValid = true)
    (hc : answer.constraints = some c) : c.audio.isValid = true ∧ c.video.isValid = true := by
  simp only [Answer.isValid, Bool.and_eq_true, hc, Option.all_some, Constraints.isValid] at hvalid
  exact hvalid.1.1.1.2

/-- The bit rates of valid constraints for audio are in order. -/
theorem audio_ordered {c : AudioConstraints} (hvalid : c.isValid = true) :
    0 < (applyAudioConstraints c audio).bitRateLimits.minimum ∧
      (applyAudioConstraints c audio).bitRateLimits.minimum ≤
        (applyAudioConstraints c audio).bitRateLimits.maximum := by
  simp only [AudioConstraints.isValid, Bool.and_eq_true, decide_eq_true_eq] at hvalid
  exact ⟨lt_max_of_lt_left hvalid.1.2, max_le_max_right _ hvalid.2⟩

/-- With valid constraints, the maximum stays positive. -/
theorem maximum_pos {c : VideoConstraints} (hvalid : c.isValid = true)
    (h : 0 < video.maximum.width ∧ 0 < video.maximum.height) :
    0 < (applyVideoConstraints c video).maximum.width ∧
      0 < (applyVideoConstraints c video).maximum.height := by
  have hdimensions : c.maxDimensions.isValid = true := by
    simp only [VideoConstraints.isValid, Bool.and_eq_true] at hvalid
    exact hvalid.1.1.2
  simp only [applyVideoConstraints]
  split_ifs
  · decide
  · exact pos_of_isValid hdimensions
  · exact h

theorem videoBitRates_pos {c : VideoConstraints} (hvalid : c.isValid = true) :
    0 < c.minBitRate ∧ 0 < c.maxBitRate := by
  simp only [VideoConstraints.isValid, Bool.and_eq_true, decide_eq_true_eq] at hvalid
  omega

/-- The recommendations without constraints. -/
theorem respects_shown_iff (hvalid : answer.isValid = true) (hc : answer.constraints = none) :
    Respects answer
      { shown answer with video := clampVideoToWellOrderedRanges (shown answer).video } ↔
      ∀ d ∈ displayDimensions answer, 0 < (displayMinimum d).width ∧ 0 < displayBitRate d := by
  obtain ⟨haudio, hmaximum, -, hlimits⟩ := shown_video answer
  obtain ⟨hpos, hheight⟩ := pos_shown hvalid
  have hdefault : 0 < (shown answer).video.bitRateLimits.minimum := by
    rw [hlimits]
    exact (by decide : 0 < kDefaultVideoMinBitRate)
  have hwithin : ∀ d ∈ displayDimensions answer, (shown answer).video.maximum.width ≤ d.width ∧
      (shown answer).video.maximum.height ≤ d.height := by
    intro d hd
    rw [hmaximum, Option.mem_def.mp hd]
    exact ⟨le_rfl, le_rfl⟩
  rw [respects_clamp_iff (by rw [haudio]; decide) hpos hheight hdefault, and_iff_right hwithin, hc,
    shown_minimum_pos_iff, shown_bitRate_pos_iff]
  simp [forall₂_and]

/-- The recommendations with constraints. -/
theorem respects_constrained_iff (hvalid : answer.isValid = true)
    (hc : answer.constraints = some c) :
    Respects answer
      { audio := applyAudioConstraints c.audio (shown answer).audio
        video :=
          clampVideoToWellOrderedRanges (applyVideoConstraints c.video (shown answer).video) } ↔
      ((∀ d ∈ displayDimensions answer, 0 < displayBitRate d) ∧
        (∀ d ∈ displayDimensions answer, 0 < (displayMinimum d).width ∨ ReplacesMinimum c)) ∧
      SameOrder c (displayDimensions answer) := by
  obtain ⟨haudioValid, hvideoValid⟩ := isValid_constraints hvalid hc
  obtain ⟨hminimum, hmaximum⟩ := videoBitRates_pos hvideoValid
  obtain ⟨hpos, hheight⟩ := pos_shown hvalid
  have hrate : 0 < (applyVideoConstraints c.video (shown answer).video).bitRateLimits.maximum ↔
      0 < (shown answer).video.bitRateLimits.maximum :=
    lt_min_iff.trans (and_iff_right hmaximum)
  have hreplaced : ReplacesMinimum c ∨ 0 < (shown answer).video.minimum.width ↔
      ∀ d ∈ displayDimensions answer, 0 < (displayMinimum d).width ∨ ReplacesMinimum c := by
    rw [shown_minimum_pos_iff]
    by_cases h : ReplacesMinimum c <;> simp [h]
  rw [respects_clamp_iff (audio_ordered haudioValid) (maximum_pos hvideoValid hpos)
    (minimum_height_pos hvideoValid hheight) (lt_max_of_lt_left hminimum), hrate, minimum_pos_iff,
    hreplaced, shown_bitRate_pos_iff, hc,
    ← maximum_iff (displayDimensions answer) (shown_video answer).2.1]
  simp only [Option.mem_some_iff, forall_eq']
  constructor
  · rintro ⟨hdisplay, hconstraints, hwidth, hbitRate⟩
    exact ⟨⟨hbitRate, hwidth⟩, hdisplay, hconstraints⟩
  · rintro ⟨⟨hbitRate, hwidth⟩, hdisplay, hconstraints⟩
    exact ⟨hdisplay, hconstraints, hwidth, hbitRate⟩

/-- **When the recommendations respect the receiver.** The ANSWER is valid and has no explicit
ratio: then the recommendations exist and respect the display and the constraints exactly if nothing
of the display overflows or vanishes, and the display and the constraint are in the same order in
both directions. -/
theorem respects_iff (hvalid : answer.isValid = true)
    (hratio : ∀ d ∈ answer.display, d.aspectRatio = none) :
    Outcome (Respects answer) (fun _ => False) (getRecommendations answer) ↔ Within answer := by
  rw [outcome_getRecommendations hvalid hratio]
  rcases hc : answer.constraints with _ | c
  · rw [Option.elim_none, respects_shown_iff hvalid hc]
    constructor
    · rintro ⟨hfits, -, hpos⟩
      refine ⟨fun d hd => (hfits d hd).display (hpos d hd).2, fun d hd => .inl (hpos d hd).1,
        fun c hc' => ?_⟩
      cases hc.symm.trans hc'
    · rintro ⟨hdisplay, hwidth, -⟩
      refine ⟨fun d hd => (hdisplay d hd).products, by simp,
        fun d hd => ⟨(hwidth d hd).resolve_right ?_, (hdisplay d hd).bitRate.2⟩⟩
      rintro ⟨c, hc', -⟩
      cases hc.symm.trans hc'
  · rw [Option.elim_some, respects_pixels_iff, respects_constrained_iff hvalid hc]
    constructor
    · rintro ⟨hfits, hpixels, ⟨hbitRate, hwidth⟩, hsmall, hnarrower, hwider⟩
      refine ⟨fun d hd => (hfits d hd).display (hbitRate d hd),
        fun d hd => (hwidth d hd).imp_right fun h => ⟨c, hc, h⟩, fun c' hc' => ?_⟩
      cases hc.symm.trans hc'
      exact ⟨hpixels c rfl, hsmall, hnarrower, hwider⟩
    · rintro ⟨hdisplay, hwidth, hconstraints⟩
      obtain ⟨hpixels, hsmall, hnarrower, hwider⟩ := hconstraints c hc
      refine ⟨fun d hd => (hdisplay d hd).products, fun c' hc' => ?_,
        ⟨fun d hd => (hdisplay d hd).bitRate.2, fun d hd => ?_⟩, hsmall, hnarrower, hwider⟩
      · cases hc'
        exact hpixels
      · refine (hwidth d hd).imp_right ?_
        rintro ⟨c', hc', h⟩
        cases hc.symm.trans hc'
        exact h

/-- Constraints with small bit rates. -/
def looseConstraints (maxDimensions : Dimensions) : Constraints where
  audio := { maxSampleRate := 1, maxChannels := 1, minBitRate := 1, maxBitRate := 1 }
  video := { maxPixelsPerSecond := some 1, maxDimensions, minBitRate := 1, maxBitRate := 2 }

/-- A display of 1280×720 pixels, and constraints of 1920×1080. -/
def displayAnswer : Answer where
  udpPort := 1
  sendIndexes := [0]
  ssrcs := [1]
  display := some { dimensions := some ⟨1280, 720, ⟨60, 1⟩⟩ }
  constraints := some (looseConstraints ⟨1920, 1080, ⟨30, 1⟩⟩)

/-- Both are respected. -/
theorem respects_displayAnswer :
    Outcome (Respects displayAnswer) (fun _ => False) (getRecommendations displayAnswer) := by
  refine (respects_iff (by decide +kernel) (fun d hd => ?_)).mpr
    ⟨fun d hd => ?_, fun d hd => .inl ?_, fun c hc => ?_⟩
  · cases hd
    rfl
  · cases hd
    exact ⟨by decide, by decide +kernel, by decide +kernel⟩
  · cases hd
    decide +kernel
  · cases hc
    exact ⟨by decide +kernel, by decide, by decide, by decide⟩

/-- Constraints of 2000×100 pixels, and no display. -/
def wideAnswer : Answer where
  udpPort := 1
  sendIndexes := [0]
  ssrcs := [1]
  constraints := some (looseConstraints ⟨2000, 100, ⟨30, 1⟩⟩)

/-- The maximum of 1920×1080 pixels is not reduced, because it is less wide. -/
theorem not_respects_wideAnswer : wideAnswer.isValid = true ∧ wideAnswer.display = none ∧
    ∃ r, getRecommendations wideAnswer = .ok r ∧ r.video.maximum = kDefaultMaxResolution ∧
      ¬Respects wideAnswer r := by
  refine ⟨by decide +kernel, rfl, _, rfl, rfl, fun h => ?_⟩
  have hheight := (h.constraints _ rfl).2
  revert hheight
  decide

end CaptureRecommendations

end StreamerPlus
