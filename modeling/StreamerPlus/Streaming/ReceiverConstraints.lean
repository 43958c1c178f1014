import StreamerPlus.Lib.BinaryRounding
import StreamerPlus.Lib.KeyedEntries
import StreamerPlus.Streaming.AnswerMessages

/-!
# The constraints of a receiver

`ReceiverConstraints::IsSupersetOf` (`public/receiver_constraints.cc`) compares the constraints of
two receivers. The limits of the codecs are sorted, and compared in one pass over both lists in
which default limits stand for those that one list does not have.

The pass is a comparison for each codec, so that `IsSupersetOf` is a comparison of the numbers in
the constraints (`Includes`), and transitive. But dimensions are compared by the frame rate first,
and by width and height only if the frame rates are the same (`Dimensions.Covers`): a lower frame
rate makes up for any resolution. And a frame rate with the denominator zero is not a number, and so
not even equal to itself.

## Main results

* `exists_hasLessRestrictiveLimits`: the pass over the lists is a comparison for each codec.
* `isSupersetOf_eq_ok`: `IsSupersetOf` returns, and compares all numbers.
* `faithful_iff`: it is reflexive and each limit is within the other one exactly if the frame rates
  are defined and no lower frame rate makes up for a larger resolution.
* `not_respects_tinyLimits`: a frame rate that makes up for a resolution.
-/

namespace StreamerPlus

open BinaryRounding Checked KeyedEntries

/-! ### Resolutions and dimensions -/

/-- The conversion to `double`, which is not a number if the denominator is zero. -/
def SimpleFraction.toDouble (f : SimpleFraction) : Option ℚ :=
  if f.denominator = 0 then none else some (roundDouble (f.numerator / f.denominator))

/-- `!=` of doubles. -/
def doubleNe (a b : Option ℚ) : Bool := a.isNone || b.isNone || a != b

/-- `>=` of doubles. -/
def doubleGe (a b : Option ℚ) : Bool := a.any fun x => b.any fun y => y ≤ x

/-- `Resolution::IsSupersetOf(other)`. -/
def Resolution.isSupersetOf (r other : Resolution) : Bool :=
  other.width ≤ r.width && other.height ≤ r.height

theorem Resolution.isSupersetOf_iff {r other : Resolution} :
    r.isSupersetOf other = true ↔ other.width ≤ r.width ∧ other.height ≤ r.height := by
  simp [Resolution.isSupersetOf]

namespace Dimensions

/-- `ToResolution()`. -/
def toResolution (d : Dimensions) : Resolution := ⟨d.width, d.height⟩

/-- `Dimensions::IsSupersetOf(other)`. -/
def isSupersetOf (d other : Dimensions) : Bool :=
  if doubleNe d.frameRate.toDouble other.frameRate.toDouble then
    doubleGe d.frameRate.toDouble other.frameRate.toDouble
  else d.toResolution.isSupersetOf other.toResolution

/-- Both frame rates are numbers, and the first is greater, or they are the same and the resolution
decides. -/
def Covers (d other : Dimensions) : Prop :=
  ∃ x ∈ d.frameRate.toDouble, ∃ y ∈ other.frameRate.toDouble,
    y < x ∨ x = y ∧ other.width ≤ d.width ∧ other.height ≤ d.height

variable {a b c : Dimensions}

theorem isSupersetOf_iff : a.isSupersetOf b = true ↔ a.Covers b := by
  unfold isSupersetOf Covers
  rcases a.frameRate.toDouble with _ | x <;> rcases b.frameRate.toDouble with _ | y
  · simp [doubleNe, doubleGe]
  · simp [doubleNe, doubleGe]
  · simp [doubleNe, doubleGe]
  · by_cases h : x = y
    · simp [doubleNe, h, Resolution.isSupersetOf_iff, toResolution]
    · simp only [doubleNe, doubleGe, Option.isNone_some, Bool.or_self, Bool.false_or,
        Option.any_some]
      simp [h, le_iff_lt_or_eq, Ne.symm h]

theorem covers_self : a.Covers a ↔ a.frameRate.denominator ≠ 0 := by
  simp only [Covers, SimpleFraction.toDouble]
  split_ifs with h <;> simp [h]

theorem Covers.trans (hab : a.Covers b) (hbc : b.Covers c) : a.Covers c := by
  obtain ⟨x, hx, y, hy, hab⟩ := hab
  obtain ⟨y', hy', z, hz, hbc⟩ := hbc
  cases hy.symm.trans hy'
  refine ⟨x, hx, z, hz, ?_⟩
  rcases hab with hab | ⟨rfl, hab⟩ <;> rcases hbc with hbc | ⟨rfl, hbc⟩
  · exact .inl (hbc.trans hab)
  · exact .inl hab
  · exact .inl hbc
  · exact .inr ⟨rfl, hbc.1.trans hab.1, hbc.2.trans hab.2⟩

end Dimensions

/-! ### Limits -/

/-- `Display`. -/
structure Display where
  dimensions : Dimensions
  canScaleContent : Bool := false
  deriving DecidableEq, Repr

/-- `AudioLimits`. -/
structure AudioLimits where
  appliesToAllCodecs : Bool := false
  codec : AudioCodec
  maxSampleRate : ℤ := 48000
  maxChannels : ℤ := 2
  minBitRate : ℤ := kDefaultAudioMinBitRate
  maxBitRate : ℤ := 256000
  maxDelay : ℤ := 1500
  deriving DecidableEq, Repr

/-- `VideoLimits`. -/
structure VideoLimits where
  appliesToAllCodecs : Bool := false
  codec : VideoCodec
  maxPixelsPerSecond : ℤ := 1920 * 1080 * 30
  maxDimensions : Dimensions := ⟨1920, 1080, ⟨30, 1⟩⟩
  minBitRate : ℤ := kDefaultVideoMinBitRate
  maxBitRate : ℤ := 10000000
  maxDelay : ℤ := 1500
  deriving DecidableEq, Repr

/-- `RemotingConstraints`. -/
structure RemotingConstraints where
  supportsChromeAudioCodecs : Bool := false
  supports4k : Bool := false
  deriving DecidableEq, Repr

/-- `Display::IsSupersetOf(other)`. -/
def Display.isSupersetOf (d other : Display) : Bool :=
  d.dimensions.isSupersetOf other.dimensions && (d.canScaleContent || !other.canScaleContent)

/-- `AudioLimits::IsSupersetOf(second)`. -/
def AudioLimits.isSupersetOf (l second : AudioLimits) : Bool :=
  l.appliesToAllCodecs = second.appliesToAllCodecs &&
    (l.appliesToAllCodecs || l.codec = second.codec) &&
    second.maxSampleRate ≤ l.maxSampleRate && second.maxChannels ≤ l.maxChannels &&
    l.minBitRate ≤ second.minBitRate && second.maxBitRate ≤ l.maxBitRate &&
    second.maxDelay ≤ l.maxDelay

/-- `VideoLimits::IsSupersetOf(second)`. -/
def VideoLimits.isSupersetOf (l second : VideoLimits) : Bool :=
  l.appliesToAllCodecs = second.appliesToAllCodecs &&
    (l.appliesToAllCodecs || l.codec = second.codec) &&
    second.maxPixelsPerSecond ≤ l.maxPixelsPerSecond && l.minBitRate ≤ second.minBitRate &&
    second.maxBitRate ≤ l.maxBitRate && second.maxDelay ≤ l.maxDelay &&
    l.maxDimensions.isSupersetOf second.maxDimensions

/-- `RemotingConstraints::IsSupersetOf(other)`. -/
def RemotingConstraints.isSupersetOf (r other : RemotingConstraints) : Bool :=
  (r.supportsChromeAudioCodecs || !other.supportsChromeAudioCodecs) &&
    (r.supports4k || !other.supports4k)

/-- What the comparison of limits is generic in. The limits of a codec that a list does not have are
the default ones, `fake`, and so are those of all codecs, with the key `none`. -/
class CodecLimits (τ : Type) (κ : outParam Type) where
  appliesToAllCodecs : τ → Bool
  codec : τ → κ
  index : τ → ℕ
  fake : Option κ → τ
  isSupersetOf : τ → τ → Bool
  index_eq_iff : ∀ x y, index x = index y ↔ codec x = codec y
  key_fake : ∀ k, (if appliesToAllCodecs (fake k) then none else some (codec (fake k))) = k
  isSupersetOf_fake : ∀ k, isSupersetOf (fake k) (fake k) = true

instance : CodecLimits AudioLimits AudioCodec where
  appliesToAllCodecs := AudioLimits.appliesToAllCodecs
  codec := AudioLimits.codec
  index x := x.codec.ctorIdx
  fake k := { appliesToAllCodecs := k.isNone, codec := k.getD .aac }
  isSupersetOf := AudioLimits.isSupersetOf
  index_eq_iff x y := by cases x.codec <;> cases y.codec <;> decide
  key_fake k := by cases k <;> rfl
  isSupersetOf_fake k := by rcases k with _ | _ | _ | _ <;> decide

instance : CodecLimits VideoLimits VideoCodec where
  appliesToAllCodecs := VideoLimits.appliesToAllCodecs
  codec := VideoLimits.codec
  index x := x.codec.ctorIdx
  fake k := { appliesToAllCodecs := k.isNone, codec := k.getD .h264 }
  isSupersetOf := VideoLimits.isSupersetOf
  index_eq_iff x y := by cases x.codec <;> cases y.codec <;> decide
  key_fake k := by cases k <;> rfl
  isSupersetOf_fake k := by
    have hdimensions : (⟨1920, 1080, ⟨30, 1⟩⟩ : Dimensions).isSupersetOf ⟨1920, 1080, ⟨30, 1⟩⟩ :=
      Dimensions.isSupersetOf_iff.mpr (Dimensions.covers_self.mpr (by decide))
    simp [VideoLimits.isSupersetOf, hdimensions]

/-! ### The comparison of limits -/

/-- The assertions of the comparison. -/
inductive ConstraintFault
  | appliesToAllCodecs
  deriving DecidableEq, Repr

namespace CodecLimits

variable {τ κ : Type} [CodecLimits τ κ]

/-- What the limits are for: one codec, or all of them. -/
def key (x : τ) : Option κ := if appliesToAllCodecs x then none else some (codec x)

/-- The order in which limits are sorted. -/
def sorter (x y : τ) : Bool :=
  if appliesToAllCodecs x ≠ appliesToAllCodecs y then appliesToAllCodecs x
  else index x < index y

/-- The limits of one codec are compared, and then the rest. -/
def compareLimits (x y : τ) (rest : Except ConstraintFault Bool) : Except ConstraintFault Bool := do
  require (appliesToAllCodecs x = false) .appliesToAllCodecs
  require (appliesToAllCodecs y = false) .appliesToAllCodecs
  if isSupersetOf x y then rest else return false

/-- The loop over the limits of codecs. -/
def compareCodecs [DecidableEq κ] : List τ → List τ → Except ConstraintFault Bool
  | [], [] => .ok true
  | [], y :: ys => compareLimits (fake (some (codec y))) y (compareCodecs [] ys)
  | x :: xs, [] => compareLimits x (fake (some (codec x))) (compareCodecs xs [])
  | x :: xs, y :: ys =>
    -- `std::min` of the codecs
    let current := if index y < index x then codec y else codec x
    if codec x ≠ current then compareLimits (fake (some current)) y (compareCodecs (x :: xs) ys)
    else if codec y ≠ current then
      compareLimits x (fake (some current)) (compareCodecs xs (y :: ys))
    else compareLimits x y (compareCodecs xs ys)
termination_by xs ys => xs.length + ys.length

/-- The limits for all codecs, which stand in front, and the others. -/
def splitFront : List τ → τ × List τ
  | [] => (fake none, [])
  | x :: xs => if appliesToAllCodecs x then (x, xs) else (fake none, x :: xs)

/-- `HasLessRestrictiveLimits(first, second)`. -/
def hasLessRestrictiveLimits [DecidableEq κ] (first second : List τ) :
    Except ConstraintFault Bool :=
  let (firstAll, firstRest) := splitFront (first.mergeSort fun x y => !sorter y x)
  let (secondAll, secondRest) := splitFront (second.mergeSort fun x y => !sorter y x)
  if isSupersetOf firstAll secondAll then compareCodecs firstRest secondRest else .ok false

/-! ### The comparison is one for each codec -/

variable {x y : τ} {xs ys xs' ys' l : List τ} {c : κ}

theorem key_eq_some : key x = some c ↔ appliesToAllCodecs x = false ∧ codec x = c := by
  unfold key
  split_ifs with h <;> simp [h]

theorem key_eq_iff : key x = key y ↔ appliesToAllCodecs x = appliesToAllCodecs y ∧
    (appliesToAllCodecs x = true ∨ codec x = codec y) := by
  unfold key
  cases appliesToAllCodecs x <;> cases appliesToAllCodecs y <;> simp

/-- A sorted list of the limits of codecs. -/
structure Codecs (xs : List τ) : Prop where
  codec : ∀ x ∈ xs, appliesToAllCodecs x = false
  sorted : xs.Pairwise fun x y => index x < index y

theorem Codecs.tail (h : Codecs (x :: xs)) : Codecs xs :=
  ⟨fun y hy => h.codec y (List.mem_cons_of_mem x hy), (List.pairwise_cons.mp h.sorted).2⟩

theorem Codecs.key_head (h : Codecs (x :: xs)) : key x = some (CodecLimits.codec x) :=
  key_eq_some.mpr ⟨h.codec x List.mem_cons_self, rfl⟩

/-- The codecs that follow another one have other keys. -/
theorem key_ne_of_index (hlt : ∀ y ∈ xs, index x < index y) :
    ∀ y ∈ xs, key y ≠ some (CodecLimits.codec x) := by
  intro y hy heq
  have hcodec := (key_eq_some.mp heq).2
  exact (hlt y hy).ne ((index_eq_iff x y).mpr hcodec.symm)

/-- All codecs follow one that is before the first of them. -/
theorem Codecs.index_lt (h : Codecs (x :: xs)) (hlt : index y < index x) :
    ∀ z ∈ x :: xs, index y < index z := by
  intro z hz
  rcases List.mem_cons.mp hz with rfl | hz
  · exact hlt
  · exact hlt.trans ((List.pairwise_cons.mp h.sorted).1 z hz)

variable [DecidableEq κ]

/-- Each codec, or all codecs, have less restrictive limits in the first list. -/
def Covers (xs ys : List τ) : Prop :=
  ∀ k, isSupersetOf (entry key fake xs k) (entry key fake ys k) = true

theorem Codecs.entry_head (h : Codecs (x :: xs)) :
    entry key fake (x :: xs) (some (CodecLimits.codec x)) = x := by
  rw [entry_cons, if_pos h.key_head]

theorem Codecs.without_tail (h : Codecs (x :: xs)) :
    Without key fake (x :: xs) (some (CodecLimits.codec x)) xs :=
  KeyedEntries.without_tail h.key_head (key_ne_of_index (List.pairwise_cons.mp h.sorted).1)

/-- One round of the loop. -/
theorem exists_compareLimits {rest : Except ConstraintFault Bool}
    (hx : entry key fake xs (some c) = x) (hy : entry key fake ys (some c) = y)
    (hxs : Without key fake xs (some c) xs') (hys : Without key fake ys (some c) ys')
    (hrest : ∃ b, rest = .ok b ∧ (b = true ↔ Covers xs' ys')) :
    ∃ b, compareLimits x y rest = .ok b ∧ (b = true ↔ Covers xs ys) := by
  have hkey : ∀ l : List τ, key (entry key fake l (some c)) = some c := fun l => key_entry key_fake
  have hiff : Covers xs ys ↔ isSupersetOf x y = true ∧ Covers xs' ys' := by
    rw [← hx, ← hy]
    exact forall_entry_iff (R := fun a b => isSupersetOf a b = true) (isSupersetOf_fake _) hxs hys
  obtain ⟨b, rfl, hb⟩ := hrest
  rw [compareLimits, require_of (key_eq_some.mp (hx ▸ hkey xs)).1, ok_bind,
    require_of (key_eq_some.mp (hy ▸ hkey ys)).1, ok_bind, hiff]
  split_ifs with h
  · exact ⟨b, rfl, by rw [hb, and_iff_right h]⟩
  · exact ⟨false, rfl, by simp [h]⟩

/-- **The loop** compares the limits of each codec, and its assertions hold. -/
theorem exists_compareCodecs (hxs : Codecs xs) (hys : Codecs ys) :
    ∃ b, compareCodecs xs ys = .ok b ∧ (b = true ↔ Covers xs ys) := by
  fun_induction compareCodecs xs ys with
  | case1 => exact ⟨true, rfl, iff_of_true rfl isSupersetOf_fake⟩
  | case2 y ys ih =>
    exact exists_compareLimits rfl hys.entry_head (without_self nofun) hys.without_tail
      (ih hxs hys.tail)
  | case3 x xs ih =>
    exact exists_compareLimits hxs.entry_head rfl hxs.without_tail (without_self nofun)
      (ih hxs.tail hys)
  | case4 x xs y ys current h ih =>
    -- only the second list has limits for the next codec
    have hlt : index y < index x := by
      by_contra hge
      exact h (if_neg hge).symm
    rw [show current = codec y from if_pos hlt]
    have hne := key_ne_of_index (hxs.index_lt hlt)
    exact exists_compareLimits (entry_of_forall_ne hne) hys.entry_head (without_self hne)
      hys.without_tail
      (ih hxs hys.tail)
  | case5 x xs y ys current h h' ih =>
    -- only the first list has
    have hcurrent : codec x = current := not_not.mp h
    rw [← hcurrent] at h' ⊢
    have hlt : index x < index y := by
      refine lt_of_le_of_ne (not_lt.mp fun hlt => h' ?_) fun heq => h' ?_
      · exact (hcurrent.trans (if_pos hlt)).symm
      · exact ((index_eq_iff x y).mp heq).symm
    have hne := key_ne_of_index (hys.index_lt hlt)
    exact exists_compareLimits hxs.entry_head (entry_of_forall_ne hne) hxs.without_tail
      (without_self hne)
      (ih hxs.tail hys)
  | case6 x xs y ys current h h' ih =>
    have hcodec : codec y = codec x := (not_not.mp h').trans (not_not.mp h).symm
    have hy := hys.entry_head
    have hys' := hys.without_tail
    rw [hcodec] at hy hys'
    exact exists_compareLimits hxs.entry_head hy hxs.without_tail hys' (ih hxs.tail hys.tail)

/-- **The limits of a sorted list** are those for all codecs, and a sorted list of the others. -/
theorem exists_splitFront (hl : (l.map key).Nodup) :
    ∃ rest, splitFront (l.mergeSort fun x y => !sorter y x) = (entry key fake l none, rest) ∧
      Codecs rest ∧ Without key fake l none rest := by
  let s := l.mergeSort fun x y => !sorter y x
  have hperm : s.Perm l := List.mergeSort_perm l _
  have hs : (s.map key).Nodup := (hperm.map key).nodup_iff.mpr hl
  have hentry : entry key fake s = entry key fake l := entry_perm hperm hs
  suffices h : ∃ rest, splitFront s = (entry key fake s none, rest) ∧ Codecs rest ∧
      Without key fake s none rest by
    obtain ⟨rest, hsplit, hcodecs, hself, hother⟩ := h
    rw [hentry] at hsplit hother
    exact ⟨rest, hsplit, hcodecs, hself, hother⟩
  have hle : s.Pairwise fun x y => (!sorter y x) = true := by
    refine List.pairwise_mergeSort (fun a b c => ?_) (fun a b => ?_) l
    · simp only [sorter]
      cases appliesToAllCodecs a <;> cases appliesToAllCodecs b <;> cases appliesToAllCodecs c <;>
        simp <;> omega
    · simp only [sorter]
      cases appliesToAllCodecs a <;> cases appliesToAllCodecs b <;> simp <;> omega
  -- only the first may be for all codecs, as the keys are distinct
  have hlt : s.Pairwise fun x y => appliesToAllCodecs y = false ∧
      (appliesToAllCodecs x = false → index x < index y) := by
    refine hle.imp₂ (fun x y hxy hne => ?_) (List.pairwise_map.mp hs)
    simp only [sorter, key] at hxy hne
    cases hx : appliesToAllCodecs x <;> cases hy : appliesToAllCodecs y <;>
      simp only [hx, hy] at hxy hne
    · refine ⟨rfl, fun _ => lt_of_le_of_ne (by simpa using hxy) fun heq => hne ?_⟩
      simpa using (index_eq_iff x y).mp heq
    · simp at hxy
    · exact ⟨rfl, nofun⟩
    · simp at hne
  rcases s with _ | ⟨x, s⟩
  · exact ⟨[], rfl, ⟨nofun, .nil⟩, without_self nofun⟩
  · obtain ⟨hfirst, hrest⟩ := List.pairwise_cons.mp hlt
    have hcodec : ∀ y ∈ s, appliesToAllCodecs y = false := fun y hy => (hfirst y hy).1
    have hsorted : s.Pairwise fun x y => index x < index y :=
      hrest.imp_of_mem fun ha _ hab => hab.2 (hcodec _ ha)
    simp only [splitFront]
    split_ifs with hall
    · have hkey : key x = none := if_pos hall
      refine ⟨s, ?_, ⟨hcodec, hsorted⟩, without_tail hkey fun y hy heq => ?_⟩
      · rw [entry_cons, if_pos hkey]
      · simp [key, hcodec y hy] at heq
    · have hx : appliesToAllCodecs x = false := by simpa using hall
      have hnone : ∀ y ∈ x :: s, key y ≠ none := by
        intro y hy heq
        rcases List.mem_cons.mp hy with rfl | hy
        · simp [key, hx] at heq
        · simp [key, hcodec y hy] at heq
      refine ⟨x :: s, ?_, ⟨?_, ?_⟩, without_self hnone⟩
      · rw [entry_of_forall_ne hnone]
      · intro y hy
        rcases List.mem_cons.mp hy with rfl | hy
        · exact hx
        · exact hcodec y hy
      · exact List.pairwise_cons.mpr ⟨fun y hy => (hfirst y hy).2 hx, hsorted⟩

/-- **The comparison of two lists** is that of the limits of each codec and of all codecs. -/
theorem exists_hasLessRestrictiveLimits (hxs : (xs.map key).Nodup) (hys : (ys.map key).Nodup) :
    ∃ b, hasLessRestrictiveLimits xs ys = .ok b ∧ (b = true ↔ Covers xs ys) := by
  obtain ⟨xs', hx, hxs', hxentry⟩ := exists_splitFront hxs
  obtain ⟨ys', hy, hys', hyentry⟩ := exists_splitFront hys
  have hiff : Covers xs ys ↔
      isSupersetOf (entry key fake xs none) (entry key fake ys none) = true ∧ Covers xs' ys' :=
    forall_entry_iff (R := fun a b => isSupersetOf a b = true) (isSupersetOf_fake _) hxentry hyentry
  obtain ⟨b, hb, hcovers⟩ := exists_compareCodecs hxs' hys'
  simp only [hasLessRestrictiveLimits, hx, hy, hiff]
  split_ifs with h
  · exact ⟨b, hb, by rw [hcovers, and_iff_right h]⟩
  · exact ⟨false, rfl, by simp [h]⟩

end CodecLimits

open CodecLimits

/-! ### The parts of constraints -/

/-- The display has at least the dimensions, and can scale content if the other one can. -/
def Display.Covers (d other : Display) : Prop :=
  d.dimensions.Covers other.dimensions ∧ (other.canScaleContent → d.canScaleContent)

/-- Everything that the other one supports is supported. -/
def RemotingConstraints.Covers (r other : RemotingConstraints) : Prop :=
  (other.supportsChromeAudioCodecs → r.supportsChromeAudioCodecs) ∧
    (other.supports4k → r.supports4k)

/-- The limits of audio are within others. -/
structure AudioLimits.Within (second l : AudioLimits) : Prop where
  maxSampleRate : second.maxSampleRate ≤ l.maxSampleRate
  maxChannels : second.maxChannels ≤ l.maxChannels
  minBitRate : l.minBitRate ≤ second.minBitRate
  maxBitRate : second.maxBitRate ≤ l.maxBitRate
  maxDelay : second.maxDelay ≤ l.maxDelay

/-- The rates and the delay of limits of video are within others. -/
structure VideoLimits.WithinRates (second l : VideoLimits) : Prop where
  maxPixelsPerSecond : second.maxPixelsPerSecond ≤ l.maxPixelsPerSecond
  minBitRate : l.minBitRate ≤ second.minBitRate
  maxBitRate : second.maxBitRate ≤ l.maxBitRate
  maxDelay : second.maxDelay ≤ l.maxDelay

/-- The resolution is within the other one. -/
def VideoLimits.WithinResolution (second l : VideoLimits) : Prop :=
  second.maxDimensions.width ≤ l.maxDimensions.width ∧
    second.maxDimensions.height ≤ l.maxDimensions.height

/-- The frame rate, as a number, is within the other one. -/
def VideoLimits.WithinFrameRate (second l : VideoLimits) : Prop :=
  ∃ x ∈ l.maxDimensions.frameRate.toDouble, ∃ y ∈ second.maxDimensions.frameRate.toDouble, y ≤ x

/-- The frame rate, as a number, is lower than the other one. -/
def VideoLimits.HasLowerFrameRate (second l : VideoLimits) : Prop :=
  ∃ x ∈ l.maxDimensions.frameRate.toDouble, ∃ y ∈ second.maxDimensions.frameRate.toDouble, y < x

theorem Display.isSupersetOf_iff {d other : Display} :
    d.isSupersetOf other = true ↔ d.Covers other := by
  rw [isSupersetOf, Bool.and_eq_true, Dimensions.isSupersetOf_iff]
  refine and_congr_right fun _ => ?_
  cases d.canScaleContent <;> cases other.canScaleContent <;> decide

theorem Display.rel_trans {x y z : Option Display} (hxy : Option.Rel Covers x y)
    (hyz : Option.Rel Covers y z) : Option.Rel Covers x z := by
  cases hxy with
  | none => exact hyz
  | some h =>
    cases hyz with
    | some h' => exact .some ⟨h.1.trans h'.1, fun hscale => h.2 (h'.2 hscale)⟩

theorem RemotingConstraints.isSupersetOf_iff {r other : RemotingConstraints} :
    r.isSupersetOf other = true ↔ r.Covers other := by
  unfold isSupersetOf Covers
  rcases r with ⟨_ | _, _ | _⟩ <;> rcases other with ⟨_ | _, _ | _⟩ <;> decide

theorem AudioLimits.isSupersetOf_iff {l second : AudioLimits} (hkey : key l = key second) :
    l.isSupersetOf second = true ↔ second.Within l := by
  obtain ⟨hall, hcodec⟩ := key_eq_iff.mp hkey
  simp only [isSupersetOf, Bool.and_eq_true, Bool.or_eq_true, decide_eq_true_eq, and_assoc]
  exact ⟨fun ⟨_, _, h₁, h₂, h₃, h₄, h₅⟩ => ⟨h₁, h₂, h₃, h₄, h₅⟩, fun ⟨h₁, h₂, h₃, h₄, h₅⟩ =>
    ⟨hall, hcodec, h₁, h₂, h₃, h₄, h₅⟩⟩

theorem VideoLimits.isSupersetOf_iff {l second : VideoLimits} (hkey : key l = key second) :
    l.isSupersetOf second = true ↔ second.WithinRates l ∧
      l.maxDimensions.Covers second.maxDimensions := by
  obtain ⟨hall, hcodec⟩ := key_eq_iff.mp hkey
  simp only [isSupersetOf, Bool.and_eq_true, Bool.or_eq_true, decide_eq_true_eq, and_assoc,
    Dimensions.isSupersetOf_iff]
  exact ⟨fun ⟨_, _, h₁, h₂, h₃, h₄, h₅⟩ => ⟨⟨h₁, h₂, h₃, h₄⟩, h₅⟩,
    fun ⟨⟨h₁, h₂, h₃, h₄⟩, h₅⟩ => ⟨hall, hcodec, h₁, h₂, h₃, h₄, h₅⟩⟩

/-! ### Constraints -/

/-- `ReceiverConstraints`, the fields that are compared. A session accepts only some of them. -/
structure ComparedConstraints where
  videoCodecs : List VideoCodec := [.vp8, .h264]
  audioCodecs : List AudioCodec := [.opus, .aac]
  audioLimits : List AudioLimits := []
  videoLimits : List VideoLimits := []
  displayDescription : Option Display := none
  remoting : Option RemotingConstraints := none
  deriving DecidableEq, Repr

/-- `IsMissingCodecs(first, second)`. -/
def isMissingCodecs {κ : Type} [DecidableEq κ] (first second : List κ) : Bool :=
  first.length < second.length || second.any fun codec => !first.contains codec

namespace ComparedConstraints

/-- `IsSupersetOf(other)`. -/
def isSupersetOf (a other : ComparedConstraints) : Except ConstraintFault Bool := do
  if a.displayDescription.isSome ≠ other.displayDescription.isSome ∨
      (a.displayDescription.any fun d => other.displayDescription.any fun d' =>
        !d.isSupersetOf d') = true then
    return false
  else if (other.remoting.any fun r' => !a.remoting.any fun r => r.isSupersetOf r') = true then
    return false
  if isMissingCodecs a.videoCodecs other.videoCodecs ∨
      isMissingCodecs a.audioCodecs other.audioCodecs then
    return false
  if ← hasLessRestrictiveLimits a.videoLimits other.videoLimits then
    hasLessRestrictiveLimits a.audioLimits other.audioLimits
  else return false

/-- At most one entry for each codec, and one for all codecs. -/
structure WellFormed (a : ComparedConstraints) : Prop where
  audio : (a.audioLimits.map key).Nodup
  video : (a.videoLimits.map key).Nodup

instance (a : ComparedConstraints) : Decidable a.WellFormed :=
  decidable_of_iff ((a.audioLimits.map key).Nodup ∧ (a.videoLimits.map key).Nodup)
    ⟨fun h => ⟨h.1, h.2⟩, fun h => ⟨h.1, h.2⟩⟩

/-- The limits of video for one codec, or for all: the default ones where the list has none. -/
def videoLimitsFor (a : ComparedConstraints) (k : Option VideoCodec) : VideoLimits :=
  entry key fake a.videoLimits k

/-- The limits of audio for one codec, or for all: the default ones where the list has none. -/
def audioLimitsFor (a : ComparedConstraints) (k : Option AudioCodec) : AudioLimits :=
  entry key fake a.audioLimits k

/-- The numbers of `b` are within those of `a`, except that a resolution need not be where its frame
rate is the lower one. -/
structure Includes (a b : ComparedConstraints) : Prop where
  display : Option.Rel Display.Covers a.displayDescription b.displayDescription
  remoting : ∀ r' ∈ b.remoting, ∃ r ∈ a.remoting, RemotingConstraints.Covers r r'
  videoCodecs : b.videoCodecs.length ≤ a.videoCodecs.length ∧ b.videoCodecs ⊆ a.videoCodecs
  audioCodecs : b.audioCodecs.length ≤ a.audioCodecs.length ∧ b.audioCodecs ⊆ a.audioCodecs
  rates : ∀ k, (b.videoLimitsFor k).WithinRates (a.videoLimitsFor k)
  dimensions : ∀ k, (a.videoLimitsFor k).maxDimensions.Covers (b.videoLimitsFor k).maxDimensions
  audio : ∀ k, (b.audioLimitsFor k).Within (a.audioLimitsFor k)

variable {a b c : ComparedConstraints}

theorem isMissingCodecs_eq_false {κ : Type} [DecidableEq κ] {first second : List κ} :
    isMissingCodecs first second = false ↔ second.length ≤ first.length ∧ second ⊆ first := by
  simp [isMissingCodecs, List.subset_def]

theorem covers_videoLimits : Covers a.videoLimits b.videoLimits ↔
    ∀ k, (b.videoLimitsFor k).WithinRates (a.videoLimitsFor k) ∧
      (a.videoLimitsFor k).maxDimensions.Covers (b.videoLimitsFor k).maxDimensions :=
  forall_congr' fun _ => VideoLimits.isSupersetOf_iff
    ((key_entry key_fake).trans (key_entry key_fake).symm)

theorem covers_audioLimits : Covers a.audioLimits b.audioLimits ↔
    ∀ k, (b.audioLimitsFor k).Within (a.audioLimitsFor k) :=
  forall_congr' fun _ => AudioLimits.isSupersetOf_iff
    ((key_entry key_fake).trans (key_entry key_fake).symm)

/-- **`IsSupersetOf` returns**, and compares the numbers of all parts of the constraints. -/
theorem isSupersetOf_eq_ok (ha : a.WellFormed) (hb : b.WellFormed) :
    ∃ r, a.isSupersetOf b = .ok r ∧ (r = true ↔ a.Includes b) := by
  obtain ⟨v, hv, hvideo⟩ := exists_hasLessRestrictiveLimits ha.video hb.video
  obtain ⟨u, hu, haudio⟩ := exists_hasLessRestrictiveLimits ha.audio hb.audio
  rw [covers_videoLimits] at hvideo
  rw [covers_audioLimits] at haudio
  -- the display, what is remoted, and the codecs
  have hdisplay : (a.displayDescription.isSome ≠ b.displayDescription.isSome ∨
      (a.displayDescription.any fun d => b.displayDescription.any fun d' =>
        !d.isSupersetOf d') = true) ↔
      ¬Option.Rel Display.Covers a.displayDescription b.displayDescription := by
    cases a.displayDescription <;> cases b.displayDescription <;> simp [← Display.isSupersetOf_iff]
  have hremoting : (b.remoting.any fun r' => !a.remoting.any fun r => r.isSupersetOf r') = true ↔
      ¬∀ r' ∈ b.remoting, ∃ r ∈ a.remoting, RemotingConstraints.Covers r r' := by
    cases a.remoting <;> cases b.remoting <;> simp [← RemotingConstraints.isSupersetOf_iff]
  unfold isSupersetOf
  rw [hv, hu]
  split_ifs with hd hr hc
  · exact ⟨false, rfl, iff_of_false nofun fun h => hdisplay.mp hd h.display⟩
  · exact ⟨false, rfl, iff_of_false nofun fun h => hremoting.mp hr h.remoting⟩
  · refine ⟨false, rfl, iff_of_false nofun fun h => ?_⟩
    rw [isMissingCodecs_eq_false.mpr h.videoCodecs, isMissingCodecs_eq_false.mpr h.audioCodecs]
      at hc
    simp at hc
  · simp only [not_or, Bool.not_eq_true, isMissingCodecs_eq_false] at hc
    have hiff : a.Includes b ↔ v = true ∧ u = true := by
      rw [hvideo, haudio]
      exact ⟨fun h => ⟨fun k => ⟨h.rates k, h.dimensions k⟩, h.audio⟩, fun h =>
        ⟨not_not.mp (mt hdisplay.mpr hd), not_not.mp (mt hremoting.mpr hr), hc.1, hc.2,
          fun k => (h.1 k).1, fun k => (h.1 k).2, h.2⟩⟩
    rw [hiff]
    cases v with
    | false => exact ⟨false, rfl, by simp⟩
    | true => exact ⟨u, rfl, by simp⟩

theorem isSupersetOf_eq_true (ha : a.WellFormed) (hb : b.WellFormed) :
    a.isSupersetOf b = .ok true ↔ a.Includes b := by
  obtain ⟨r, hr, hiff⟩ := isSupersetOf_eq_ok ha hb
  rw [hr, ← hiff]
  exact Except.ok.injEq r true ▸ Iff.rfl

/-! ### A faithful preorder -/

/-- The codecs of `b` are codecs of `a`, and each limit of `b` is within the one of `a`. -/
structure Respects (b a : ComparedConstraints) : Prop where
  videoCodecs : b.videoCodecs ⊆ a.videoCodecs
  audioCodecs : b.audioCodecs ⊆ a.audioCodecs
  audio : ∀ k, (b.audioLimitsFor k).Within (a.audioLimitsFor k)
  rates : ∀ k, (b.videoLimitsFor k).WithinRates (a.videoLimitsFor k)
  frameRate : ∀ k, (b.videoLimitsFor k).WithinFrameRate (a.videoLimitsFor k)
  resolution : ∀ k, (b.videoLimitsFor k).WithinResolution (a.videoLimitsFor k)

/-- `IsSupersetOf` returns, is reflexive and transitive, and compares all limits. -/
structure Faithful (a b c : ComparedConstraints) : Prop where
  returns : ∃ r, a.isSupersetOf b = .ok r
  reflexive : a.isSupersetOf a = .ok true
  transitive : a.isSupersetOf b = .ok true → b.isSupersetOf c = .ok true →
    a.isSupersetOf c = .ok true
  respects : a.isSupersetOf b = .ok true → b.Respects a

/-- All frame rates are defined. -/
structure FrameRatesDefined (a : ComparedConstraints) : Prop where
  display : ∀ d ∈ a.displayDescription, d.dimensions.frameRate.denominator ≠ 0
  video : ∀ l ∈ a.videoLimits, l.maxDimensions.frameRate.denominator ≠ 0

/-- Where the frame rate of `b` is lower than that of `a`, its resolution is not larger. -/
def NoTradeOff (b a : ComparedConstraints) : Prop :=
  ∀ k, (b.videoLimitsFor k).HasLowerFrameRate (a.videoLimitsFor k) →
    (b.videoLimitsFor k).WithinResolution (a.videoLimitsFor k)

theorem Includes.trans (hab : a.Includes b) (hbc : b.Includes c) : a.Includes c where
  display := Display.rel_trans hab.display hbc.display
  remoting r'' hr'' := by
    obtain ⟨r', hr', h'⟩ := hbc.remoting r'' hr''
    obtain ⟨r, hr, h⟩ := hab.remoting r' hr'
    exact ⟨r, hr, fun hsupports => h.1 (h'.1 hsupports), fun hsupports => h.2 (h'.2 hsupports)⟩
  videoCodecs := ⟨hbc.videoCodecs.1.trans hab.videoCodecs.1,
    List.Subset.trans hbc.videoCodecs.2 hab.videoCodecs.2⟩
  audioCodecs := ⟨hbc.audioCodecs.1.trans hab.audioCodecs.1,
    List.Subset.trans hbc.audioCodecs.2 hab.audioCodecs.2⟩
  rates k := by
    have h := hab.rates k
    have h' := hbc.rates k
    exact ⟨h'.1.trans h.1, h.2.trans h'.2, h'.3.trans h.3, h'.4.trans h.4⟩
  dimensions k := (hab.dimensions k).trans (hbc.dimensions k)
  audio k := by
    have h := hab.audio k
    have h' := hbc.audio k
    exact ⟨h'.1.trans h.1, h'.2.trans h.2, h.3.trans h'.3, h'.4.trans h.4, h'.5.trans h.5⟩

theorem includes_self (ha : a.WellFormed) : a.Includes a ↔ a.FrameRatesDefined := by
  have hvideo : (∀ k, (a.videoLimitsFor k).maxDimensions.Covers
      (a.videoLimitsFor k).maxDimensions) ↔
      ∀ l ∈ a.videoLimits, l.maxDimensions.frameRate.denominator ≠ 0 := by
    simp only [Dimensions.covers_self]
    exact forall_entry (P := fun l : VideoLimits => l.maxDimensions.frameRate.denominator ≠ 0)
      ha.video fun k => Int.one_ne_zero
  constructor
  · intro h
    refine ⟨fun d hd => ?_, hvideo.mp h.dimensions⟩
    have hdisplay := h.display
    rw [hd] at hdisplay
    cases hdisplay with
    | some hself => exact Dimensions.covers_self.mp hself.1
  · intro h
    refine ⟨?_, fun r hr => ⟨r, hr, id, id⟩, ⟨le_rfl, List.Subset.refl _⟩,
      ⟨le_rfl, List.Subset.refl _⟩, fun _ => ⟨le_rfl, le_rfl, le_rfl, le_rfl⟩, hvideo.mpr h.video,
      fun _ => ⟨le_rfl, le_rfl, le_rfl, le_rfl, le_rfl⟩⟩
    cases hd : a.displayDescription with
    | none => exact .none
    | some d => exact .some ⟨Dimensions.covers_self.mpr (h.display d hd), id⟩

/-- **When `IsSupersetOf` is a faithful preorder.** The frame rates have to be defined and, where
the numbers of `b` are otherwise within those of `a`, no resolution of `b` may be larger than that
of `a` where its frame rate is lower: then the resolutions are not compared. -/
theorem faithful_iff (ha : a.WellFormed) (hb : b.WellFormed) (hc : c.WellFormed) :
    a.Faithful b c ↔ a.FrameRatesDefined ∧ (a.Includes b → b.NoTradeOff a) := by
  rw [← includes_self ha]
  constructor
  · intro h
    exact ⟨(isSupersetOf_eq_true ha ha).mp h.reflexive,
      fun hab k _ => (h.respects ((isSupersetOf_eq_true ha hb).mpr hab)).resolution k⟩
  · rintro ⟨hself, htrade⟩
    obtain ⟨r, hr, -⟩ := isSupersetOf_eq_ok ha hb
    refine ⟨⟨r, hr⟩, (isSupersetOf_eq_true ha ha).mpr hself, fun hab hbc => ?_, fun hab => ?_⟩
    · exact (isSupersetOf_eq_true ha hc).mpr (((isSupersetOf_eq_true ha hb).mp hab).trans
        ((isSupersetOf_eq_true hb hc).mp hbc))
    · have h := (isSupersetOf_eq_true ha hb).mp hab
      refine ⟨h.videoCodecs.2, h.audioCodecs.2, h.audio, h.rates, fun k => ?_, fun k => ?_⟩
      · obtain ⟨x, hx, y, hy, hxy⟩ := h.dimensions k
        exact ⟨x, hx, y, hy, hxy.elim le_of_lt fun h => h.1.ge⟩
      · obtain ⟨x, hx, y, hy, hlt | ⟨-, hresolution⟩⟩ := h.dimensions k
        · exact htrade h k ⟨x, hx, y, hy, hlt⟩
        · exact hresolution

/-- Constraints with limits of 1920×1080 pixels at some frame rate for one codec, and with limits
for all codecs of audio. -/
def sampleLimits (frameRate : ℤ) : ComparedConstraints where
  videoLimits := [{ codec := .vp8, maxDimensions := ⟨1920, 1080, ⟨frameRate, 1⟩⟩ }]
  audioLimits := [{ appliesToAllCodecs := true, codec := .aac, maxChannels := 6 }]

/-- They are compared faithfully: the lower frame rate has the same resolution. -/
theorem faithful_sampleLimits : (sampleLimits 60).Faithful (sampleLimits 30) (sampleLimits 15) := by
  refine (faithful_iff (by decide) (by decide) (by decide)).mpr ⟨⟨?_, ?_⟩, fun _ k _ => ?_⟩
  · rintro d ⟨⟩
  · simp [sampleLimits]
  · have hsame : ∀ frameRate, ((sampleLimits frameRate).videoLimitsFor k).maxDimensions.width =
        1920 ∧ ((sampleLimits frameRate).videoLimitsFor k).maxDimensions.height = 1080 := by
      intro frameRate
      simp only [videoLimitsFor, sampleLimits, entry_cons]
      split_ifs <;> exact ⟨rfl, rfl⟩
    unfold VideoLimits.WithinResolution
    simp [hsame]

/-- Constraints without limits. -/
def defaultConstraints : ComparedConstraints := {}

/-- Limits of 1×1 pixels at 60 frames per second. -/
def tinyLimits : ComparedConstraints where
  videoLimits := [{ codec := .vp8, maxDimensions := ⟨1, 1, ⟨60, 1⟩⟩ }]

/-- They include those of 1920×1080 pixels at 30 frames per second. -/
theorem not_respects_tinyLimits : tinyLimits.WellFormed ∧ defaultConstraints.WellFormed ∧
    tinyLimits.isSupersetOf defaultConstraints = .ok true ∧
    ¬defaultConstraints.Respects tinyLimits := by
  have hwell : defaultConstraints.WellFormed := by decide
  have htiny : tinyLimits.WellFormed := by decide
  have hself : defaultConstraints.Includes defaultConstraints :=
    (includes_self hwell).mpr ⟨nofun, nofun⟩
  -- the default limits but for one codec, which has another frame rate and resolution
  have hlimits : ∀ k, tinyLimits.videoLimitsFor k =
      if some .vp8 = k then { codec := .vp8, maxDimensions := ⟨1, 1, ⟨60, 1⟩⟩ }
      else defaultConstraints.videoLimitsFor k := fun k => entry_cons
  have hincludes : tinyLimits.Includes defaultConstraints := by
    refine { hself with rates := fun k => ?_, dimensions := fun k => ?_ }
    · rw [hlimits]
      split_ifs with h
      · subst h
        exact ⟨le_rfl, le_rfl, le_rfl, le_rfl⟩
      · exact hself.rates k
    · rw [hlimits]
      split_ifs with h
      · subst h
        refine Dimensions.isSupersetOf_iff.mp ?_
        decide +kernel
      · exact hself.dimensions k
  refine ⟨htiny, hwell, (isSupersetOf_eq_true htiny hwell).mpr hincludes, fun h => ?_⟩
  have hwidth := (h.resolution (some .vp8)).1
  revert hwidth
  decide

end ComparedConstraints

end StreamerPlus
