import StreamerPlus.Streaming.MessageFields

/-!
# ANSWER messages

`public/answer_messages.cc`: the body of an ANSWER with its constraints and its display, when it is
valid, and how it is written to JSON. Each `ToJson` starts with a check of validity, and the checks
of its parts follow from it. Validity does not relate the two lists of an ANSWER.
-/

namespace StreamerPlus

open Checked

/-- A field that is written only when there is a value for it. -/
def optionalField {α : Type} (key : String) (value : Option α) (toJson : α → Json) :
    List (String × Json) :=
  value.toList.map fun a => (key, toJson a)

@[simp] def kDefaultAudioMinBitRate : ℤ := 32000
@[simp] def kDefaultVideoMinBitRate : ℤ := 300000

/-! ### Constraints -/

/-- `AudioConstraints`. -/
structure AudioConstraints where
  maxSampleRate : ℤ := 0
  maxChannels : ℤ := 0
  minBitRate : ℤ := 0
  maxBitRate : ℤ := 0
  maxDelay : Option ℤ := none
  deriving DecidableEq, Repr

namespace AudioConstraints

/-- `IsValid()`. -/
def isValid (c : AudioConstraints) : Bool :=
  0 < c.maxSampleRate && 0 < c.maxChannels && 0 < c.minBitRate && c.minBitRate ≤ c.maxBitRate

/-- `ToJson()`. -/
def toJson (c : AudioConstraints) : Except SessionFault Json := do
  require (c.isValid = true) .invalidMessage
  return .object ([("maxSampleRate", .int c.maxSampleRate), ("maxChannels", .int c.maxChannels),
    ("minBitRate", .int c.minBitRate), ("maxBitRate", .int c.maxBitRate)] ++
    optionalField "maxDelay" c.maxDelay .int)

end AudioConstraints

/-- `VideoConstraints`. -/
structure VideoConstraints where
  maxPixelsPerSecond : Option ℚ := none
  minResolution : Option Dimensions := none
  maxDimensions : Dimensions := {}
  minBitRate : ℤ := 0
  maxBitRate : ℤ := 0
  maxDelay : Option ℤ := none
  deriving DecidableEq, Repr

namespace VideoConstraints

/-- `IsValid()`. No pixel rate is less than any. -/
def isValid (c : VideoConstraints) : Bool :=
  c.maxPixelsPerSecond.any (0 < ·.num) && 0 < c.minBitRate && c.minBitRate < c.maxBitRate &&
    c.maxDelay.all (0 < ·) && c.maxDimensions.isValid && c.minResolution.all (·.isValid) &&
    0 < c.maxDimensions.frameRate.numerator

/-- `ToJson()`. -/
def toJson (c : VideoConstraints) : Except SessionFault Json := do
  require (c.isValid = true) .invalidMessage
  let maxDimensions ← c.maxDimensions.toJson
  let minResolution ← c.minResolution.mapM Dimensions.toJson
  return .object ([("maxDimensions", maxDimensions), ("minBitRate", .int c.minBitRate),
    ("maxBitRate", .int c.maxBitRate)] ++
    optionalField "maxPixelsPerSecond" c.maxPixelsPerSecond .number ++
    optionalField "minResolution" minResolution id ++
    optionalField "maxDelay" c.maxDelay .int)

end VideoConstraints

/-- `Constraints`. -/
structure Constraints where
  audio : AudioConstraints := {}
  video : VideoConstraints := {}
  deriving DecidableEq, Repr

namespace Constraints

/-- `IsValid()`. -/
def isValid (c : Constraints) : Bool := c.audio.isValid && c.video.isValid

/-- `ToJson()`. -/
def toJson (c : Constraints) : Except SessionFault Json := do
  require (c.isValid = true) .invalidMessage
  let audio ← c.audio.toJson
  let video ← c.video.toJson
  return .object [("audio", audio), ("video", video)]

end Constraints

/-! ### The display -/

inductive AspectRatioConstraint
  | variable | fixed
  deriving DecidableEq, Repr

def kAspectRatioConstraintNames : List (String × AspectRatioConstraint) :=
  [("receiver", .variable), ("sender", .fixed)]

/-- `AspectRatio`. -/
structure AspectRatio where
  width : ℤ := 0
  height : ℤ := 0
  deriving DecidableEq, Repr

namespace AspectRatio

/-- `IsValid()`. -/
def isValid (r : AspectRatio) : Bool := 0 < r.width && 0 < r.height

/-- The text of a ratio, `A:B`. -/
def toText (r : AspectRatio) : String := toString r.width ++ ":" ++ toString r.height

end AspectRatio

/-- `DisplayDescription`. -/
structure DisplayDescription where
  dimensions : Option Dimensions := none
  aspectRatio : Option AspectRatio := none
  aspectRatioConstraint : Option AspectRatioConstraint := none
  deriving DecidableEq, Repr

namespace DisplayDescription

/-- `IsValid()`. -/
def isValid (d : DisplayDescription) : Bool :=
  if !d.aspectRatio.all (·.isValid) then false
  else if !d.dimensions.all (·.isValid) then false
  else if d.aspectRatioConstraint = some .fixed && d.dimensions.isNone && d.aspectRatio.isNone then
    false
  else d.aspectRatio.isSome || d.dimensions.isSome || d.aspectRatioConstraint.isSome

/-- `ToJson()`. -/
def toJson (d : DisplayDescription) : Except SessionFault Json := do
  require (d.isValid = true) .invalidMessage
  let dimensions ← d.dimensions.mapM Dimensions.toJson
  return .object (
    optionalField "aspectRatio" d.aspectRatio (.string ·.toText) ++
    optionalField "dimensions" dimensions id ++
    optionalField "scaling" d.aspectRatioConstraint
      (.string <| getEnumName kAspectRatioConstraintNames ·))

end DisplayDescription

/-! ### The ANSWER -/

/-- `Answer`. -/
structure Answer where
  udpPort : ℤ := 0
  sendIndexes : List ℤ := []
  ssrcs : List Ssrc := []
  constraints : Option Constraints := none
  display : Option DisplayDescription := none
  receiverRtcpEventLog : List ℤ := []
  receiverRtcpDscp : List ℤ := []
  rtpExtensions : List (List String) := []
  deriving DecidableEq, Repr

namespace Answer

/-- `IsValid()`. -/
def isValid (a : Answer) : Bool :=
  !a.ssrcs.isEmpty && !a.sendIndexes.isEmpty && a.sendIndexes.all (0 ≤ ·) &&
    a.constraints.all (·.isValid) && a.display.all (·.isValid) &&
    1 ≤ a.udpPort && a.udpPort ≤ 65535

/-- A list as an array, written only when it is not empty. -/
def arrayField {α : Type} (key : String) (items : List α) (toJson : α → Json) :
    List (String × Json) :=
  if items.isEmpty then [] else [(key, .array (items.map toJson))]

/-- `ToJson()`. -/
def toJson (a : Answer) : Except SessionFault Json := do
  require (a.isValid = true) .invalidMessage
  let constraints ← a.constraints.mapM Constraints.toJson
  let display ← a.display.mapM DisplayDescription.toJson
  return .object (
    optionalField "constraints" constraints id ++
    optionalField "display" display id ++
    [("udpPort", .int a.udpPort), ("sendIndexes", .array (a.sendIndexes.map .int)),
      ("ssrcs", .array (a.ssrcs.map fun ssrc => .int ssrc.toNat))] ++
    arrayField "receiverRtcpEventLog" a.receiverRtcpEventLog .int ++
    arrayField "receiverRtcpDscp" a.receiverRtcpDscp .int ++
    arrayField "rtpExtensions" a.rtpExtensions fun names => .array (names.map .string))

end Answer

/-! ### Valid messages can be written -/

/-- An optional part is written when it can be. -/
theorem exists_mapM_ok {ε α β : Type} {f : α → Except ε β} {o : Option α}
    (h : ∀ a, o = some a → ∃ b, f a = .ok b) : ∃ r, o.mapM f = .ok r := by
  cases o with
  | none => exact ⟨none, rfl⟩
  | some a =>
    obtain ⟨b, hb⟩ := h a rfl
    exact ⟨some b, by simp [hb]⟩

theorem Dimensions.exists_toJson {d : Dimensions} (h : d.isValid = true) :
    ∃ json, d.toJson = .ok json :=
  ⟨_, by rw [toJson, require_of h, ok_bind]; rfl⟩

theorem AudioConstraints.exists_toJson {c : AudioConstraints} (h : c.isValid = true) :
    ∃ json, c.toJson = .ok json :=
  ⟨_, by rw [toJson, require_of h, ok_bind]; rfl⟩

theorem VideoConstraints.exists_toJson {c : VideoConstraints} (h : c.isValid = true) :
    ∃ json, c.toJson = .ok json := by
  have hparts := h
  simp only [isValid, Bool.and_eq_true] at hparts
  obtain ⟨⟨⟨-, hmax⟩, hmin⟩, -⟩ := hparts
  obtain ⟨maxDimensions, hmax⟩ := Dimensions.exists_toJson hmax
  obtain ⟨minResolution, hmin⟩ : ∃ r, c.minResolution.mapM Dimensions.toJson = .ok r := by
    refine exists_mapM_ok fun d hd => Dimensions.exists_toJson ?_
    simpa [hd] using hmin
  exact ⟨_, by rw [toJson, require_of h, ok_bind, hmax, ok_bind, hmin, ok_bind]; rfl⟩

theorem Constraints.exists_toJson {c : Constraints} (h : c.isValid = true) :
    ∃ json, c.toJson = .ok json := by
  obtain ⟨haudio, hvideo⟩ := Bool.and_eq_true_iff.mp h
  obtain ⟨audio, haudio⟩ := AudioConstraints.exists_toJson haudio
  obtain ⟨video, hvideo⟩ := VideoConstraints.exists_toJson hvideo
  exact ⟨_, by rw [toJson, require_of h, ok_bind, haudio, ok_bind, hvideo, ok_bind]; rfl⟩

theorem DisplayDescription.exists_toJson {d : DisplayDescription} (h : d.isValid = true) :
    ∃ json, d.toJson = .ok json := by
  have hdimensions : d.dimensions.all (·.isValid) = true := by
    unfold isValid at h
    split_ifs at h with _ hdimensions
    simpa using hdimensions
  obtain ⟨dimensions, hdimensions⟩ : ∃ r, d.dimensions.mapM Dimensions.toJson = .ok r := by
    refine exists_mapM_ok fun x hx => Dimensions.exists_toJson ?_
    simpa [hx] using hdimensions
  exact ⟨_, by rw [toJson, require_of h, ok_bind, hdimensions, ok_bind]; rfl⟩

/-- **A valid ANSWER can be written**: the checks of its parts follow from its own. -/
theorem Answer.exists_toJson {a : Answer} (h : a.isValid = true) : ∃ json, a.toJson = .ok json := by
  have hparts := h
  simp only [isValid, Bool.and_eq_true] at hparts
  obtain ⟨⟨⟨⟨-, hconstraints⟩, hdisplay⟩, -⟩, -⟩ := hparts
  obtain ⟨constraints, hconstraints⟩ : ∃ r, a.constraints.mapM Constraints.toJson = .ok r := by
    refine exists_mapM_ok fun c hc => Constraints.exists_toJson ?_
    simpa [hc] using hconstraints
  obtain ⟨display, hdisplay⟩ : ∃ r, a.display.mapM DisplayDescription.toJson = .ok r := by
    refine exists_mapM_ok fun d hd => DisplayDescription.exists_toJson ?_
    simpa [hd] using hdisplay
  exact ⟨_, by rw [toJson, require_of h, ok_bind, hconstraints, ok_bind, hdisplay, ok_bind]; rfl⟩

end StreamerPlus
