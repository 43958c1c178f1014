import Mathlib
import StreamerPlus.Discovery.MdnsTrackers
import StreamerPlus.Lib.Outcome
import StreamerPlus.Lib.Run

/-!
# The alarm of a record tracker

An `MdnsRecordTracker` asks again at four fractions of the TTL of its record, with a random
variation, and its record expires when all of the TTL has elapsed (`mdns_trackers.cc`). The number
of the next fraction is counted when an alarm is set, not when it runs, and alarms may run late.

The fractions are rational numbers, and delays are cut off to microseconds. The state also has the
times of the refresh rounds and of the expiration callbacks since the tracker was started, or
started again.

## Main results

* `timed_of_run`: at most four rounds between 80% of the TTL and the end of it, none for a goodbye
  record, one expiration callback, and the check of the number of attempts never fails.
-/

namespace StreamerPlus.Discovery

open Checked TransitionSystem

/-- `kTtlFractions`. -/
def kTtlFractions : List ℚ := [4 / 5, 17 / 20, 9 / 10, 19 / 20, 1]

/-- `std::chrono::duration_cast` of a number of microseconds, which rounds towards zero. -/
def durationCast (q : ℚ) : ℤ := if 0 ≤ q then ⌊q⌋ else ⌈q⌉

/-- The check of `GetNextSendTime`; and an alarm that is not due, which is not a step. -/
inductive TimerFault
  | attemptCount | notDue
  deriving DecidableEq, Repr

/-- A tracker with its alarm. It is `soon` if its record was a goodbye record, or was told to
expire. -/
structure RecordTimer where
  tracker : MdnsRecordTracker
  alarm : Option ℤ := none
  soon : Bool
  refreshes : List ℤ := []
  expirations : List ℤ := []

/-- What happens to a tracker; `variation` is what is added to the next fraction. -/
inductive TimerOp
  | update (now : ℤ) (record : MdnsRecord) (variation : ℚ)
  | expireSoon (now : ℤ)
  | fire (now : ℤ) (variation : ℚ)

namespace MdnsRecordTracker

/-- `GetNextSendTime()`. -/
def getNextSendTime (t : MdnsRecordTracker) (variation : ℚ) :
    Except TimerFault (ℤ × MdnsRecordTracker) := do
  require (t.attemptCount < kTtlFractions.length) .attemptCount
  let fraction := kTtlFractions.getD t.attemptCount 1
  let t := { t with attemptCount := t.attemptCount + 1 }
  let fraction := if t.attemptCount ≠ kTtlFractions.length then fraction + variation else fraction
  return (t.startTime + durationCast (t.record.ttl * fraction * microsPerSecond), t)

end MdnsRecordTracker

namespace RecordTimer

/-- `ScheduleFollowUpQuery()`. -/
def scheduleFollowUpQuery (s : RecordTimer) (variation : ℚ) : Except TimerFault RecordTimer := do
  let (due, tracker) ← s.tracker.getNextSendTime variation
  return { s with tracker, alarm := some due }

/-- The tracker is started, or started again. `MdnsRecordTracker` counts the alarm that is set here
already. -/
def restart (tracker : MdnsRecordTracker) (soon : Bool) (variation : ℚ) :
    Except TimerFault RecordTimer :=
  scheduleFollowUpQuery
    { tracker := { tracker with attemptCount := tracker.attemptCount - 1 }, soon } variation

/-- The constructor of a tracker. -/
def new (id : ℕ) (record : MdnsRecord) (dnsType : DnsType) (now : ℤ) (variation : ℚ)
    (fits : record.FitsTracker dnsType) : Except TimerFault RecordTimer :=
  restart ⟨id, record, dnsType, now, 1, fits⟩ record.isGoodbyeRecord variation

/-- One step. When the alarm runs, `SendQuery()` asks again, or reports that the record expired. -/
def step (s : RecordTimer) : TimerOp → Except TimerFault RecordTimer
  | .update now record variation =>
    match s.tracker.update now record with
    | none => .ok s
    | some (type, tracker) => restart tracker (type = .goodbye) variation
  | .expireSoon now => restart (s.tracker.expireSoon now) true 0
  | .fire now variation =>
    if s.alarm.any (· ≤ now) then
      if s.tracker.expirationTime ≤ now then
        .ok { s with alarm := none, expirations := s.expirations ++ [now] }
      else { s with refreshes := s.refreshes ++ [now] }.scheduleFollowUpQuery variation
    else .error .notDue

end RecordTimer

/-- The range of `GetRecordTtlVariation()`. -/
def IsVariation (variation : ℚ) : Prop := 0 ≤ variation ∧ variation ≤ 1 / 50

/-- The variation of a step is in its range. -/
def TimerOp.IsVaried : TimerOp → Prop
  | .update _ _ variation | .fire _ variation => IsVariation variation
  | .expireSoon _ => True

/-- An alarm that may have been set for a tracker. -/
structure MdnsRecordTracker.IsDue (t : MdnsRecordTracker) (due : ℤ) : Prop where
  lower : t.startTime + 800000 * t.record.ttl ≤ due ∨ t.expirationTime ≤ due
  upper : due ≤ max t.startTime t.expirationTime
  last : t.attemptCount = kTtlFractions.length → due = t.expirationTime

theorem le_durationCast {n : ℤ} {q : ℚ} (h : n ≤ q) : n ≤ durationCast q := by
  unfold durationCast
  split_ifs
  · exact Int.le_floor.mpr h
  · exact_mod_cast h.trans (Int.le_ceil q)

theorem durationCast_le {n : ℤ} {q : ℚ} (h : q ≤ n) : durationCast q ≤ n := by
  unfold durationCast
  split_ifs
  · exact_mod_cast (Int.floor_le q).trans h
  · exact Int.ceil_le.mpr h

/-- The next fraction, with its variation. -/
theorem fraction_mem {k : ℕ} {variation : ℚ} (hk : k < 5) (hvariation : IsVariation variation) :
    4 / 5 ≤ (if k + 1 ≠ 5 then kTtlFractions.getD k 1 + variation else kTtlFractions.getD k 1) ∧
      (if k + 1 ≠ 5 then kTtlFractions.getD k 1 + variation else kTtlFractions.getD k 1) ≤ 1 := by
  obtain ⟨hlow, hhigh⟩ := hvariation
  interval_cases k <;> norm_num [kTtlFractions] <;> constructor <;> linarith

/-- Between 80% and 100% of the TTL, if that is not negative. -/
theorem MdnsRecordTracker.isDue_of_fraction (t : MdnsRecordTracker) {fraction : ℚ}
    (hlow : 4 / 5 ≤ fraction) (hhigh : fraction ≤ 1)
    (hlast : t.attemptCount = kTtlFractions.length → fraction = 1) :
    t.IsDue (t.startTime + durationCast (t.record.ttl * fraction * microsPerSecond)) := by
  refine ⟨?_, ?_, fun hcount => ?_⟩
  · by_cases httl : 0 ≤ t.record.ttl
    · have httl' : (0 : ℚ) ≤ t.record.ttl := by exact_mod_cast httl
      refine .inl (add_le_add_right (le_durationCast ?_) _)
      push_cast [microsPerSecond]
      nlinarith
    · have httl' : (t.record.ttl : ℚ) ≤ 0 := by exact_mod_cast (not_le.mp httl).le
      refine .inr (add_le_add_right (le_durationCast ?_) _)
      push_cast [microsPerSecond]
      nlinarith
  · by_cases httl : 0 ≤ t.record.ttl
    · have httl' : (0 : ℚ) ≤ t.record.ttl := by exact_mod_cast httl
      refine le_max_of_le_right (add_le_add_right (durationCast_le ?_) _)
      push_cast [microsPerSecond]
      nlinarith
    · have httl' : (t.record.ttl : ℚ) ≤ 0 := by exact_mod_cast (not_le.mp httl).le
      refine le_max_of_le_left (add_le_of_nonpos_right (durationCast_le ?_))
      push_cast [microsPerSecond]
      nlinarith
  · rw [hlast hcount, mul_one]
    have hexact : ((t.record.ttl * microsPerSecond : ℤ) : ℚ) = t.record.ttl * microsPerSecond := by
      push_cast
      rfl
    exact congrArg (t.startTime + ·)
      (le_antisymm (durationCast_le hexact.ge) (le_durationCast hexact.le))

namespace RecordTimer

variable {s t : RecordTimer} {variation : ℚ}

/-- Setting the alarm. -/
theorem exists_scheduleFollowUpQuery (hcount : s.tracker.attemptCount < 5)
    (hvariation : IsVariation variation) :
    ∃ due, s.scheduleFollowUpQuery variation = .ok { s with
        tracker := { s.tracker with attemptCount := s.tracker.attemptCount + 1 }
        alarm := some due } ∧
      { s.tracker with attemptCount := s.tracker.attemptCount + 1 }.IsDue due := by
  refine ⟨_, ?_, MdnsRecordTracker.isDue_of_fraction _ (fraction_mem hcount hvariation).1
    (fraction_mem hcount hvariation).2 fun hlast => ?_⟩
  · rw [scheduleFollowUpQuery, MdnsRecordTracker.getNextSendTime,
      require_of (show s.tracker.attemptCount < kTtlFractions.length from hcount)]
    rfl
  · have hfour : s.tracker.attemptCount = 4 := Nat.succ.inj hlast
    rw [hfour]
    norm_num [kTtlFractions]

/-! ### What the steps keep -/

/-- **The timing of a tracker** since it was started: at most four rounds, from 80% of the TTL on
and before the end of it, none for a goodbye record, and at most one callback, at the end of the TTL
or later; until then the alarm is set, and afterwards it is not. -/
structure Timed (s : RecordTimer) : Prop where
  rounds : s.refreshes.length ≤ 4
  window : ∀ time ∈ s.refreshes, s.tracker.startTime + 800000 * s.tracker.record.ttl ≤ time ∧
    time < s.tracker.expirationTime
  soon : s.soon = true → s.refreshes = []
  expired : s.expirations.length ≤ 1 ∧ ∀ time ∈ s.expirations, s.tracker.expirationTime ≤ time
  pending : s.expirations = [] → ∃ due ∈ s.alarm,
    due ≤ max s.tracker.startTime s.tracker.expirationTime
  done : s.expirations ≠ [] → s.alarm = none

/-- The number of attempts is that of the rounds, or more, and the alarm is set for it. -/
structure Invariant (s : RecordTimer) : Prop extends Timed s where
  due : ∀ due ∈ s.alarm, s.tracker.IsDue due
  count : s.refreshes.length + 1 ≤ s.tracker.attemptCount
  count_le : s.tracker.attemptCount ≤ 5
  last : s.soon = true → s.tracker.attemptCount = 5 ∨ s.tracker.record.ttl ≤ 0

/-- A start of the tracker. -/
theorem exists_restart (tracker : MdnsRecordTracker) (soon : Bool)
    (hvariation : IsVariation variation)
    (hcount : 1 ≤ tracker.attemptCount ∧ tracker.attemptCount ≤ 5)
    (hsoon : soon = true → tracker.attemptCount = 5 ∨ tracker.record.ttl ≤ 0) :
    ∃ t, restart tracker soon variation = .ok t ∧ t.Invariant := by
  have hsub : tracker.attemptCount - 1 + 1 = tracker.attemptCount := by omega
  have hlt : tracker.attemptCount - 1 < 5 := by omega
  let s : RecordTimer :=
    { tracker := { tracker with attemptCount := tracker.attemptCount - 1 }, soon }
  obtain ⟨due, heq, hdue⟩ := exists_scheduleFollowUpQuery (s := s) hlt hvariation
  simp only [s, hsub] at heq hdue
  refine ⟨_, heq, ⟨by simp, nofun, fun _ => rfl, ⟨by simp, nofun⟩, fun _ => ⟨due, rfl, hdue.upper⟩,
    fun h => absurd rfl h⟩, fun due' hdue' => ?_, hcount.1, hcount.2, hsoon⟩
  cases hdue'
  exact hdue

/-- **One step** keeps the invariant, and no check fails. -/
theorem Invariant.step {op : TimerOp} (h : s.Invariant) (hop : op.IsVaried) :
    Outcome Invariant (fun e => e = .notDue) (s.step op) := by
  cases op with
  | update now record variation =>
    rcases hupdate : s.tracker.update now record with _ | ⟨type, tracker⟩
    · simp only [RecordTimer.step, hupdate]
      exact h
    · simp only [RecordTimer.step, hupdate]
      -- a goodbye record has the last fraction next, any other record the first one
      have hcount : tracker.attemptCount = if type = .goodbye then 5 else 1 := by
        unfold MdnsRecordTracker.update at hupdate
        split_ifs at hupdate with _ _ _ _ hgoodbye hsame
        all_goals
          obtain ⟨rfl, rfl⟩ := Prod.mk.inj (Option.some.inj hupdate)
          rfl
      obtain ⟨t, ht, hinv⟩ := exists_restart tracker (decide (type = .goodbye)) hop
        (by rw [hcount]; split_ifs <;> decide) fun hsoon => by
          rw [hcount, if_pos (of_decide_eq_true hsoon)]
          exact .inl rfl
      rw [ht]
      exact hinv
  | expireSoon now =>
    have hzero : IsVariation 0 := ⟨le_rfl, by norm_num⟩
    obtain ⟨t, ht, hinv⟩ := exists_restart (s.tracker.expireSoon now) true hzero
      ⟨by simp [MdnsRecordTracker.expireSoon], le_rfl⟩ fun _ => .inl rfl
    change Outcome _ _ (restart _ _ _)
    rw [ht]
    exact hinv
  | fire now variation =>
    simp only [RecordTimer.step]
    split_ifs with hdue hexpired
    · -- the record expires
      obtain ⟨due, hsome, hle⟩ := (Option.any_eq_true _ _).mp hdue
      have hnone : s.expirations = [] := by
        by_contra hne
        rw [h.done hne] at hsome
        cases hsome
      refine ⟨⟨h.rounds, h.window, h.soon, ?_, fun hnil => ?_, fun _ => rfl⟩, by rintro _ ⟨⟩,
        h.count, h.count_le, h.last⟩
      · rw [hnone]
        exact ⟨le_rfl, fun time htime => by rwa [List.mem_singleton.mp htime]⟩
      · rw [hnone] at hnil
        cases hnil
    · -- another round
      obtain ⟨due, hsome, hle⟩ := (Option.any_eq_true _ _).mp hdue
      replace hle : due ≤ now := of_decide_eq_true hle
      have hisDue := h.due due hsome
      have hcount : s.tracker.attemptCount < 5 := by
        refine lt_of_le_of_ne h.count_le fun hlast => hexpired ?_
        rw [← hisDue.last hlast]
        exact hle
      have hlower : s.tracker.startTime + 800000 * s.tracker.record.ttl ≤ now := by
        rcases hisDue.lower with hlower | hlower <;> omega
      have hsoon : s.soon = false := by
        rw [← Bool.not_eq_true]
        intro hsoon
        rcases h.last hsoon with hlast | httl
        · omega
        · simp only [MdnsRecordTracker.expirationTime, microsPerSecond] at hexpired
          omega
      have hnone : s.expirations = [] := by
        by_contra hne
        rw [h.done hne] at hsome
        cases hsome
      obtain ⟨due', heq, hdue'⟩ := exists_scheduleFollowUpQuery
        (s := { s with refreshes := s.refreshes ++ [now] }) hcount hop
      rw [heq]
      have hrounds := h.count
      refine ⟨⟨?_, List.forall_mem_append.mpr ⟨h.window, List.forall_mem_singleton.mpr
        ⟨hlower, not_le.mp hexpired⟩⟩, fun htrue => ?_, h.expired, fun _ =>
        ⟨due', rfl, hdue'.upper⟩, fun hne => absurd hnone hne⟩, fun due'' hdue'' => ?_, ?_, ?_,
        fun htrue => ?_⟩
      · simp only [List.length_append, List.length_singleton]
        omega
      · cases hsoon.symm.trans htrue
      · cases hdue''
        exact hdue'
      · simp only [List.length_append, List.length_singleton]
        omega
      · exact hcount
      · cases hsoon.symm.trans htrue
    · exact rfl

/-! ### Runs -/

/-- **The refresh and expiry of a record.** The tracker of a record can be constructed, and in every
run of updates, requests to expire and alarms that are due, its timing is kept since it was last
started, no next step fails the check of the attempts, and when its alarm runs there is another
round before the end of the TTL, and the callback from then on. -/
theorem timed_of_run (id : ℕ) (record : MdnsRecord) (dnsType : DnsType) (now : ℤ)
    (fits : record.FitsTracker dnsType) (hvariation : IsVariation variation) :
    ∃ s₀, new id record dnsType now variation fits = .ok s₀ ∧ ∀ ops s,
      Run (fun s op t => RecordTimer.step s op = .ok t) s₀ ops s → (∀ op ∈ ops, op.IsVaried) →
      s.Timed ∧ (∀ op, op.IsVaried → s.step op ≠ .error .attemptCount) ∧
      ∀ now variation t, s.step (.fire now variation) = .ok t →
        if s.tracker.expirationTime ≤ now then t.expirations = [now] ∧ t.refreshes = s.refreshes
        else t.expirations = [] ∧ t.refreshes = s.refreshes ++ [now] := by
  obtain ⟨s₀, hnew, hinv⟩ := exists_restart ⟨id, record, dnsType, now, 1, fits⟩
    record.isGoodbyeRecord hvariation ⟨le_rfl, by norm_num⟩ fun hgoodbye =>
      .inr (of_decide_eq_true hgoodbye).le
  refine ⟨s₀, hnew, fun ops s hrun hops => ?_⟩
  have h : s.Invariant := hrun.invariant_of_forall
    (fun s op t hop hs hstep => (hs.step hop).of_ok hstep) hops hinv
  refine ⟨h.toTimed, fun op hop herror => ?_, fun now variation t hfire => ?_⟩
  · cases (h.step hop).of_error herror
  · have hnone : s.alarm.any (· ≤ now) = true → s.expirations = [] := by
      intro hany
      by_contra hne
      rw [h.done hne] at hany
      cases hany
    simp only [RecordTimer.step] at hfire
    split_ifs at hfire with hdue hexpired
    · cases hfire
      rw [if_pos hexpired, hnone hdue]
      exact ⟨rfl, rfl⟩
    · rw [if_neg hexpired]
      obtain ⟨⟨due, tracker⟩, -, hfire⟩ := bind_eq_ok.mp hfire
      cases hfire
      exact ⟨hnone hdue, rfl⟩

/-- A record with a TTL of two minutes. -/
def hostRecord : MdnsRecord := sampleRecord 1

/-- It is tracked from 0 s on, and its first round is at 96 s. -/
theorem timed_hostRecord :
    ∃ s₀ t, new 0 hostRecord .kA 0 0 (.inl rfl) = .ok s₀ ∧
      s₀.step (.fire 96000000 0) = .ok t ∧ t.Timed ∧ t.refreshes = [96000000] := by
  have hzero : IsVariation 0 := ⟨le_rfl, by norm_num⟩
  obtain ⟨s₀, hnew, hruns⟩ := timed_of_run 0 hostRecord .kA 0 (.inl rfl) hzero
  have hdue : s₀.alarm.any (· ≤ 96000000) = true ∧ ¬s₀.tracker.expirationTime ≤ 96000000 ∧
      s₀.tracker.attemptCount < 5 ∧ s₀.refreshes = [] := by
    cases hnew
    decide +kernel
  obtain ⟨due, heq, -⟩ := exists_scheduleFollowUpQuery
    (s := { s₀ with refreshes := s₀.refreshes ++ [96000000] }) hdue.2.2.1 hzero
  obtain ⟨t, hstep⟩ : ∃ t, s₀.step (.fire 96000000 0) = .ok t := by
    rw [RecordTimer.step, if_pos hdue.1, if_neg hdue.2.1]
    exact ⟨_, heq⟩
  have hround := (hruns [] s₀ .nil fun _ h => absurd h List.not_mem_nil).2.2 96000000 0 t hstep
  rw [if_neg hdue.2.1, hdue.2.2.2] at hround
  exact ⟨s₀, t, hnew, hstep, (hruns [.fire 96000000 0] t (.single hstep)
    (List.forall_mem_singleton.mpr hzero)).1, hround.2⟩

end RecordTimer

end StreamerPlus.Discovery
