import Mathlib
import StreamerPlus.Streaming.SenderReport

/-!
# Which report a report id stands for

A report id is the middle 32 bits of the NTP timestamp of a sender report.
`GetRecentReportTime` (`impl/sender_report_builder.cc`) completes it to the latest timestamp that is
not after a given time. `ntpTicks` is the NTP time as a number that does not wrap: the timestamps
are its values modulo `2 ^ 64`, and the id leaves out the lower 16 bits.

Two things can go wrong. The bits that are left out make the report up to 15 microseconds older, so
that a report from the end of the window of `2 ^ 48` ticks is taken for one after it. And
`ToLocalTime` puts all seconds into the era that starts one second after the Unix epoch.

## Main results

* `SenderReportBuilder.recentReportTime_iff`: when the time that is found is that of the report.
-/

namespace StreamerPlus

open Checked

namespace NtpTimeConverter

variable {c : NtpTimeConverter} {timePoint : ℤ}

/-- The NTP time in units of `2 ^ -32` seconds, as a number that does not wrap. -/
def ntpTicks (c : NtpTimeConverter) (timePoint : ℤ) : ℤ :=
  c.sinceNtpEpoch * 0x100000000 + (timePoint - c.startTime) * 0x100000000 / 1000000

/-- The seconds of the time are in the era that `ToLocalTime` puts all timestamps into. -/
def InEra (c : NtpTimeConverter) (timePoint : ℤ) : Prop :=
  kTimeBetweenNtpEpochAndUnixEpoch < c.sinceNtpEpoch + (timePoint - c.startTime) / 1000000 ∧
    c.sinceNtpEpoch + (timePoint - c.startTime) / 1000000 ≤
      kTimeBetweenNtpEpochAndUnixEpoch + 0x100000000

instance : Decidable (c.InEra timePoint) := inferInstanceAs (Decidable (_ ∧ _))

/-- The whole seconds and the rest of a time are converted one by one. -/
theorem ntpTicks_parts (c : NtpTimeConverter) (timePoint : ℤ) :
    c.ntpTicks timePoint =
        (c.sinceNtpEpoch + (timePoint - c.startTime) / 1000000) * 0x100000000 +
          (timePoint - c.startTime) % 1000000 * 0x100000000 / 1000000 ∧
      0 ≤ (timePoint - c.startTime) % 1000000 * 0x100000000 / 1000000 ∧
      (timePoint - c.startTime) % 1000000 * 0x100000000 / 1000000 < 0x100000000 := by
  unfold ntpTicks
  omega

/-- A timestamp is the number of ticks, cut to 64 bits. -/
theorem toNtpTimestamp_eq (h : c.startTime ≤ timePoint) :
    (c.toNtpTimestamp timePoint : ℤ) = c.ntpTicks timePoint % 0x10000000000000000 := by
  have hsince : 0 ≤ timePoint - c.startTime := by omega
  have hrest : timePoint - c.startTime - (timePoint - c.startTime) / 1000000 * 1000000 =
      (timePoint - c.startTime) % 1000000 := by omega
  have hfraction : 0 ≤ (timePoint - c.startTime) % 1000000 * 0x100000000 := by omega
  obtain ⟨hparts, hbound⟩ := ntpTicks_parts c timePoint
  simp only [toNtpTimestamp, assembleNtpTimestamp, Int.tdiv_eq_ediv_of_nonneg hsince, hrest,
    Int.tdiv_eq_ediv_of_nonneg hfraction, hparts]
  generalize (timePoint - c.startTime) % 1000000 * 0x100000000 / 1000000 = fraction at hbound ⊢
  generalize (timePoint - c.startTime) / 1000000 = seconds
  omega

/-- The local time of a timestamp, in terms of the ticks that it stands for. -/
theorem toLocalTime_eq {timestamp : ℕ} {ticks : ℤ}
    (h : (timestamp : ℤ) = ticks % 0x10000000000000000) :
    c.toLocalTime timestamp =
      ((ticks / 0x100000000 - kTimeBetweenNtpEpochAndUnixEpoch - 1) % 0x100000000 +
        kTimeBetweenNtpEpochAndUnixEpoch + 1 - c.sinceNtpEpoch) * 1000000 + c.startTime +
        ticks % 0x100000000 * 1000000 / 0x100000000 := by
  have hfraction : ((timestamp % 0x100000000 : ℕ) : ℤ) = ticks % 0x100000000 := by omega
  have hseconds : (timestamp : ℤ) / 0x100000000 = ticks / 0x100000000 % 0x100000000 := by omega
  simp only [toLocalTime, hfraction, hseconds, kTimeBetweenNtpEpochAndUnixEpoch]
  split_ifs <;> omega

end NtpTimeConverter

namespace SenderReportBuilder

open NtpTimeConverter

variable {session : RtcpSession} {report : RtcpSenderReport} {bufferSize reportId : ℕ}
  {packet : ByteView} {t : ℤ}

theorem reportId_eq (h : buildPacket session report bufferSize = .ok (packet, reportId)) :
    reportId = toStatusReportId (session.ntpConverter.toNtpTimestamp report.referenceTime) := by
  simp only [buildPacket, bind_eq_ok] at h
  obtain ⟨-, -, _, -, _, -, hresult⟩ := h
  cases hblock : report.reportBlock with
  | none =>
    rw [hblock] at hresult
    exact (Prod.mk.inj (Except.ok.inj hresult)).2.symm
  | some block =>
    simp only [hblock, bind_eq_ok] at hresult
    obtain ⟨_, -, hresult⟩ := hresult
    exact (Prod.mk.inj (Except.ok.inj hresult)).2.symm

/-- The ticks of a report without the bits that its id leaves out. -/
def reportTicks (session : RtcpSession) (referenceTime : ℤ) : ℤ :=
  session.ntpConverter.ntpTicks referenceTime -
    session.ntpConverter.ntpTicks referenceTime % 0x10000

/-- The two branches of the reconstruction find the ticks of the report, or those of the report one
window later. -/
theorem reconstructed_eq {timestamp maxTimestamp : ℕ} {ticks latest : ℤ}
    (htimestamp : (timestamp : ℤ) = ticks % 0x10000000000000000)
    (hmax : (maxTimestamp : ℤ) = latest % 0x10000000000000000) (hle : ticks ≤ latest)
    (hlt : latest - ticks < 0x1000000000000) :
    ((if maxTimestamp / 0x1000000000000 * 0x1000000000000 +
          toStatusReportId timestamp * 0x10000 > maxTimestamp then
        (maxTimestamp / 0x1000000000000 * 0x1000000000000 +
          toStatusReportId timestamp * 0x10000 + 0x10000000000000000 - 0x1000000000000) %
            0x10000000000000000
      else maxTimestamp / 0x1000000000000 * 0x1000000000000 +
        toStatusReportId timestamp * 0x10000 : ℕ) : ℤ) =
    (ticks - ticks % 0x10000 +
      if latest - (ticks - ticks % 0x10000) < 0x1000000000000 then 0 else 0x1000000000000) %
        0x10000000000000000 := by
  unfold toStatusReportId
  split_ifs <;> omega

/-- The seconds and the fraction of the ticks that an id keeps. -/
theorem reportTicks_parts (session : RtcpSession) (referenceTime : ℤ) :
    let since := referenceTime - session.ntpConverter.startTime
    let fraction := since % 1000000 * 0x100000000 / 1000000
    reportTicks session referenceTime =
        (session.ntpConverter.sinceNtpEpoch + since / 1000000) * 0x100000000 +
          (fraction - fraction % 0x10000) ∧
      0 ≤ fraction - fraction % 0x10000 ∧ fraction - fraction % 0x10000 < 0x100000000 ∧
      since % 1000000 - 16 ≤ (fraction - fraction % 0x10000) * 1000000 / 0x100000000 ∧
      (fraction - fraction % 0x10000) * 1000000 / 0x100000000 ≤ since % 1000000 := by
  simp only [reportTicks, ntpTicks]
  omega

/-- The ticks grow by less than a window in less than 65536 seconds. -/
theorem ntpTicks_window {c : NtpTimeConverter} {t₀ : ℤ} (hle : t₀ ≤ t)
    (hlt : t < t₀ + 65536 * 1000000) :
    c.ntpTicks t₀ ≤ c.ntpTicks t ∧ c.ntpTicks t - c.ntpTicks t₀ < 0x1000000000000 := by
  unfold ntpTicks
  omega

/-- The local time of ticks with the seconds of a time and nearly its fraction is near that time
exactly if the seconds are in the era, and the ticks are not a window later. -/
theorem localTime_near_iff {epoch start seconds rest fraction : ℤ} (later : Prop) [Decidable later]
    (hnonneg : 0 ≤ fraction) (hsmall : fraction < 0x100000000)
    (hlower : rest - 16 ≤ fraction * 1000000 / 0x100000000)
    (hupper : fraction * 1000000 / 0x100000000 ≤ rest) :
    let ticks := (epoch + seconds) * 0x100000000 + fraction + if later then 0x1000000000000 else 0
    let time := ((ticks / 0x100000000 - kTimeBetweenNtpEpochAndUnixEpoch - 1) % 0x100000000 +
        kTimeBetweenNtpEpochAndUnixEpoch + 1 - epoch) * 1000000 + start +
        ticks % 0x100000000 * 1000000 / 0x100000000
    (start + seconds * 1000000 + rest - 17 ≤ time ∧ time ≤ start + seconds * 1000000 + rest) ↔
      (kTimeBetweenNtpEpochAndUnixEpoch < epoch + seconds ∧
        epoch + seconds ≤ kTimeBetweenNtpEpochAndUnixEpoch + 0x100000000) ∧ ¬ later := by
  intro ticks time
  have hfraction : ticks % 0x100000000 = fraction := by
    simp only [ticks]
    split_ifs <;> omega
  have hseconds : ticks / 0x100000000 = epoch + seconds + if later then 65536 else 0 := by
    simp only [ticks]
    split_ifs <;> omega
  simp only [time, hfraction, hseconds, kTimeBetweenNtpEpochAndUnixEpoch]
  generalize fraction * 1000000 / 0x100000000 = micros at hlower hupper ⊢
  by_cases hlater : later
  · simp only [hlater, if_true, not_true_eq_false, and_false, iff_false]
    omega
  · simp only [hlater, if_false, not_false_eq_true, and_true]
    omega

/-- **The time of a recent report.** Less than 65536 seconds after a report was built, its id gives
a time at most 17 microseconds before that of the report exactly if the seconds of the report are
in the era of `ToLocalTime`, and the time is within a window after the ticks that the id keeps. -/
theorem recentReportTime_iff
    (hbuild : buildPacket session report bufferSize = .ok (packet, reportId))
    (hstart : session.ntpConverter.startTime ≤ report.referenceTime)
    (hle : report.referenceTime ≤ t) (hlt : t < report.referenceTime + 65536 * 1000000) :
    (report.referenceTime - 17 ≤ getRecentReportTime session reportId t ∧
        getRecentReportTime session reportId t ≤ report.referenceTime) ↔
      session.ntpConverter.InEra report.referenceTime ∧
        session.ntpConverter.ntpTicks t - reportTicks session report.referenceTime <
          0x1000000000000 := by
  obtain ⟨hticks, hwindow⟩ := @ntpTicks_window t session.ntpConverter _ hle hlt
  have hlocal := @toLocalTime_eq session.ntpConverter _ _ (reconstructed_eq
    (toNtpTimestamp_eq hstart) (toNtpTimestamp_eq (hstart.trans hle)) hticks hwindow)
  obtain ⟨hparts, hnonneg, hsmall, hlower, hupper⟩ :=
    reportTicks_parts session report.referenceTime
  rw [reportId_eq hbuild, getRecentReportTime, hlocal]
  have hsame : session.ntpConverter.startTime +
      (report.referenceTime - session.ntpConverter.startTime) / 1000000 * 1000000 +
        (report.referenceTime - session.ntpConverter.startTime) % 1000000 =
      report.referenceTime := by omega
  have hnear := @localTime_near_iff session.ntpConverter.sinceNtpEpoch
    session.ntpConverter.startTime
    ((report.referenceTime - session.ntpConverter.startTime) / 1000000) _ _
    (¬ session.ntpConverter.ntpTicks t - reportTicks session report.referenceTime <
      0x1000000000000) _ hnonneg hsmall hlower hupper
  rw [ite_not, ← hparts, hsame, not_not] at hnear
  exact hnear

/-- A session that starts at time 0 of its clock. -/
def sessionAt (sinceNtpEpoch : ℤ) : RtcpSession :=
  { exampleSession with ntpConverter := ⟨0, sinceNtpEpoch⟩ }

/-- Half a second before the seconds wrap around in 2036, a report is built and asked for. -/
theorem recentReportTime_iff_wrapped :
    ∃ packet reportId,
      buildPacket (sessionAt 0xffffffff) { referenceTime := 500000 } kRequiredBufferSize =
        .ok (packet, reportId) ∧
      499983 ≤ getRecentReportTime (sessionAt 0xffffffff) reportId 2500000 ∧
      getRecentReportTime (sessionAt 0xffffffff) reportId 2500000 ≤ 500000 := by
  obtain ⟨⟨packet, reportId⟩, hbuild⟩ : ∃ built, buildPacket (sessionAt 0xffffffff)
      { referenceTime := 500000 } kRequiredBufferSize = .ok built := ⟨_, rfl⟩
  exact ⟨packet, reportId, hbuild, (recentReportTime_iff hbuild (by decide) (by decide)
    (by decide)).mpr ⟨by decide +kernel, by decide +kernel⟩⟩

/-- **Reports that are dated wrongly.** In the last microsecond of the 65536 seconds after a report,
its id is taken for one from the end of that time; and at the Unix epoch, a report is dated into the
era after 2106. -/
theorem not_recentReportTime :
    (∃ packet reportId,
      buildPacket (sessionAt 3988000000) { referenceTime := 15 } kRequiredBufferSize =
        .ok (packet, reportId) ∧
      getRecentReportTime (sessionAt 3988000000) reportId (15 + 65536 * 1000000 - 1) =
        65536 * 1000000) ∧
    ∃ packet reportId,
      buildPacket (sessionAt kTimeBetweenNtpEpochAndUnixEpoch) { referenceTime := 0 }
        kRequiredBufferSize = .ok (packet, reportId) ∧
      getRecentReportTime (sessionAt kTimeBetweenNtpEpochAndUnixEpoch) reportId 0 =
        0x100000000 * 1000000 := by
  obtain ⟨⟨late, lateId⟩, hlate⟩ : ∃ built, buildPacket (sessionAt 3988000000)
      { referenceTime := 15 } kRequiredBufferSize = .ok built := ⟨_, rfl⟩
  obtain ⟨⟨early, earlyId⟩, hearly⟩ : ∃ built,
      buildPacket (sessionAt kTimeBetweenNtpEpochAndUnixEpoch) { referenceTime := 0 }
        kRequiredBufferSize = .ok built := ⟨_, rfl⟩
  refine ⟨⟨late, lateId, hlate, ?_⟩, early, earlyId, hearly, ?_⟩
  · rw [reportId_eq hlate]
    decide +kernel
  · rw [reportId_eq hearly]
    decide +kernel

end SenderReportBuilder

end StreamerPlus
