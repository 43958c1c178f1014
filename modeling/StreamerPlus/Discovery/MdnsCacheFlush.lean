import Mathlib
import StreamerPlus.Discovery.MdnsQuerier

/-!
# Unique records flush the cache

A unique record says that its name has no other records of its type and class: after
`ProcessRecord` the cache should have a tracker with the record, and every other tracker of the
name, type and class should be about to expire (`IsFlushed`). There are three cases in the code, by
how many trackers `Find` returns.

## Main results

* `processRecord_isFlushed_iff` : the cache is flushed exactly if `Find` returns nothing, one
  tracker of the record's class, or several of which one has the record's rdata and another has not.
* `not_isFlushed_thirdAddress` : a unique record with a third address leaves no trace in the cache.
-/

namespace StreamerPlus.Discovery

open Checked MdnsRecordTracker RecordTrackerLruCache

namespace MdnsRecordTracker

variable {t t' : MdnsRecordTracker} {r : MdnsRecord} {now : ℤ}

/-- The tracker is for the name, type and class of the record. -/
def HasKeyOf (t : MdnsRecordTracker) (r : MdnsRecord) : Prop :=
  t.record.name.key = r.name.key ∧ t.dnsType = r.dnsType ∧ t.record.dnsClass = r.dnsClass

instance : Decidable (t.HasKeyOf r) := inferInstanceAs (Decidable (_ ∧ _))

/-- A record of the tracker's type with the tracker's rdata is not told apart from its record by
the type. -/
theorem hasSameRdata_of_same (hr : r.dnsType ≠ .kNSEC) (htype : t.dnsType = r.dnsType)
    (hsame : t.record.rdata.same r.rdata) : t.hasSameRdata r := by
  rcases t.fits with hfits | ⟨-, hnsec⟩
  · simp [hasSameRdata, hfits, htype, hsame]
  · -- the rdata of the record would be that of an NSEC record
    have htyped := r.valid.2
    revert hnsec hsame htyped
    cases t.record.rdata <;> cases r.rdata <;>
      simp [Rdata.same, Rdata.nsecTypes?, Rdata.HasType, hr]

/-- A record that is not a goodbye updates every tracker of its key. -/
theorem update_of_hasKeyOf (now : ℤ) (hr : r.dnsType ≠ .kNSEC) (httl : 0 < r.ttl)
    (hkey : t.HasKeyOf r) :
    ∃ t', t.update now r = some (if t.hasSameRdata r then .ttlOnly else .rdata, t') ∧
      t'.record = r ∧ t'.id = t.id ∧ t'.dnsType = t.dnsType := by
  have hgoodbye : ¬ r.isGoodbyeRecord := by simp [MdnsRecord.isGoodbyeRecord, httl.ne']
  have hfits : r.FitsTracker t.dnsType := .inl hkey.2.1.symm
  refine ⟨{ t with record := r, startTime := now, attemptCount := 1, fits := hfits }, ?_,
    rfl, rfl, rfl⟩
  simp [update, hkey.1, hkey.2.1, hkey.2.2, hr, hgoodbye]
  exact .inl rfl

/-- A record of another class does not update a tracker. -/
theorem update_of_dnsClass_ne (h : t.record.dnsClass ≠ r.dnsClass) : t.update now r = none := by
  simp [update, h]

theorem expiresSoon_expireSoon : (t.expireSoon now).ExpiresSoon now :=
  ⟨rfl, by simp [expirationTime, expireSoon, MdnsRecord.withGoodbyeTtl]⟩

instance : Decidable (t.ExpiresSoon now) := inferInstanceAs (Decidable (_ ∧ _))

end MdnsRecordTracker

namespace MdnsQuerier

variable {respond : Clients} {limit : ℕ} {config : QuerierConfig} {q : MdnsQuerier} {r : MdnsRecord}
  {t : MdnsRecordTracker}

/-- The cache has a tracker with the record, and every other tracker for its name, type and class
expires within a second. -/
def IsFlushed (r : MdnsRecord) (q : MdnsQuerier) : Prop :=
  ∃ t ∈ q.records.records, t.HasKeyOf r ∧ t.record = r ∧
    ∀ t' ∈ q.records.records, t'.HasKeyOf r → t'.id ≠ t.id → t'.ExpiresSoon q.now

instance : Decidable (IsFlushed r q) := inferInstanceAs (Decidable (∃ t ∈ _, _))

/-- The trackers for the name, type and class of a record, with its rdata and with another one. -/
def sameTrackers (q : MdnsQuerier) (r : MdnsRecord) : List MdnsRecordTracker :=
  q.records.records.filter fun t => t.HasKeyOf r ∧ t.record.rdata.same r.rdata
def otherTrackers (q : MdnsQuerier) (r : MdnsRecord) : List MdnsRecordTracker :=
  q.records.records.filter fun t => t.HasKeyOf r ∧ ¬ t.record.rdata.same r.rdata

/-- When a unique record flushes the cache, by what `Find` returns for it. -/
def Flushable (q : MdnsQuerier) (r : MdnsRecord) : Prop :=
  match q.records.find r.name r.dnsType r.dnsClass with
  | [] => True
  | [t] => t.record.dnsClass = r.dnsClass
  | _ => (q.sameTrackers r).length = 1 ∧ 1 ≤ (q.otherTrackers r).length

instance (q : MdnsQuerier) (r : MdnsRecord) : Decidable (q.Flushable r) := by
  unfold Flushable
  split <;> infer_instance

theorem mem_find_of_hasKeyOf (ht : t ∈ q.records.records) (hkey : t.HasKeyOf r) :
    t ∈ q.records.find r.name r.dnsType r.dnsClass := by
  refine List.mem_filter.mpr ⟨ht, ?_⟩
  simp [finds, hkey.1, hkey.2.1, hkey.2.2]

theorem hasKeyOf_of_mem_find (htype : r.dnsType ≠ .kANY)
    (ht : t ∈ q.records.find r.name r.dnsType r.dnsClass)
    (hclass : t.record.dnsClass = r.dnsClass) : t.HasKeyOf r := by
  have hfinds := (List.mem_filter.mp ht).2
  simp only [finds, htype, Bool.and_eq_true, decide_eq_true_eq, decide_false,
    Bool.false_or] at hfinds
  exact ⟨hfinds.1.1, hfinds.1.2.symm, hclass⟩

/-! ### No tracker -/

theorem outcome_addRecord {type : DnsType} (h : r.FitsTracker type) :
    Outcome
      (fun q' => ∃ records : RecordTrackerLruCache, records.records.Sublist q.records.records ∧
        q'.records = records.emplace r type q.now h ∧ q'.now = q.now)
      (fun e => e.OfClients ∨ ¬ (type ≠ .kNSEC ∧ type ≠ .kANY))
      (q.addRecord respond limit config r type h) := by
  refine ((outcome_makeRoom _ q).mono (fun _ => id) fun _ => .inl).bind fun q' hq' => ?_
  refine Outcome.require_bind .inr fun _ => ?_
  exact ⟨q'.records, hq'.1, by rw [hq'.2], hq'.2⟩

/-- Where there is no tracker, a new one is all there is. -/
theorem isFlushed_of_find_eq_nil (hnone : ∀ t ∈ q.records.records, ¬ t.HasKeyOf r)
    (htype : r.dnsType ≠ .kNSEC ∧ r.dnsType ≠ .kANY) (h : r.FitsTracker r.dnsType) :
    Outcome (IsFlushed r) Fault.OfClients
      (q.createRecord respond limit config r r.dnsType h) := by
  refine ((outcome_addRecord h).mono (fun _ => id) fun _ he =>
    he.resolve_right (not_not.mpr htype)).bind
    fun q' ⟨records, hsub, hrecords, hnow⟩ => ?_
  rw [if_pos htype.1]
  refine (outcome_processCallbacks r .created).mono (fun q'' hq'' => ?_) fun _ => id
  rw [IsFlushed, hq''.1, hrecords]
  refine ⟨_, List.mem_append_right _ (List.mem_singleton.mpr rfl), ⟨rfl, rfl, rfl⟩, rfl,
    fun t' ht' hkey hne => ?_⟩
  rcases List.mem_append.mp ht' with ht' | ht'
  · exact absurd hkey (hnone t' (hsub.subset ht'))
  · exact absurd (by rw [List.mem_singleton.mp ht']) hne

/-! ### One tracker -/

/-- The one tracker is updated if it is of the record's class, and an assertion fails otherwise. -/
theorem outcome_processSinglyTracked_iff (htype : r.dnsType ≠ .kNSEC ∧ r.dnsType ≠ .kANY)
    (httl : 0 < r.ttl) (hfind : q.records.find r.name r.dnsType r.dnsClass = [t]) :
    Outcome (IsFlushed r) Fault.OfClients (q.processSinglyTrackedUniqueRecord respond limit r t) ↔
      t.record.dnsClass = r.dnsClass := by
  have hmem : t ∈ q.records.find r.name r.dnsType r.dnsClass := hfind ▸ List.mem_singleton_self t
  have ht := (List.mem_filter.mp hmem).1
  have hupdates := updates_of_id q.now r ht
  unfold processSinglyTrackedUniqueRecord
  by_cases hclass : t.record.dnsClass = r.dnsClass
  · have hkey := hasKeyOf_of_mem_find htype.2 hmem hclass
    obtain ⟨t', hupdate, hrecord, hid, htype'⟩ :=
      update_of_hasKeyOf q.now htype.1 httl hkey
    have hupdated : updated? q.now r (fun t' => t'.id = t.id) t =
        some (if t.hasSameRdata r then .ttlOnly else .rdata, t') := by
      simp only [updated?, hkey.1, hupdate]
      split_ifs <;> simp_all
    -- what the callback is called for is after the update
    have hflushed : ∀ q' : MdnsQuerier, SameCache
        { q with records := (q.records.update q.now r fun t' => t'.id = t.id).1 } q' →
        IsFlushed r q' := by
      intro q' hq'
      rw [IsFlushed, hq'.1]
      refine ⟨t', List.mem_map.mpr ⟨t, ht, afterUpdate_of_some hupdated⟩,
        ⟨hrecord ▸ rfl, htype'.trans hkey.2.1, hrecord ▸ rfl⟩, hrecord, fun x hx hxkey hne => ?_⟩
      obtain ⟨y, hy, rfl⟩ := List.mem_map.mp hx
      have hyne : y.id ≠ t.id := by simpa [hid] using hne
      rw [afterUpdate_of_none (by simp [updated?, hyne])] at hxkey
      have hfound := mem_find_of_hasKeyOf hy hxkey
      rw [hfind, List.mem_singleton] at hfound
      exact absurd (congrArg MdnsRecordTracker.id hfound) hyne
    refine iff_of_true (Outcome.bind (Q := IsFlushed r) ?_ fun q' hq' => ?_) hclass
    · split_ifs
      · exact (outcome_onRdataChange r t).mono hflushed fun _ => id
      · exact hflushed _ ⟨rfl, rfl⟩
    · have hlength : (q.records.update q.now r fun t' => t'.id = t.id).2.length = 1 := by
        rw [hupdates, hupdated]
        rfl
      exact Outcome.require_bind (fun hne => absurd hlength hne) fun _ => hq'
  · refine iff_of_false (fun h => ?_) hclass
    have hnil : (q.records.update q.now r fun t' => t'.id = t.id).2 = [] := by
      rw [hupdates, updated?, update_of_dnsClass_ne hclass]
      simp
    -- no tracker is updated, and nobody is called
    simp [hnil, require, Outcome, Fault.OfClients] at h

section Several

variable (hr : r.dnsType ≠ .kNSEC) (httl : 0 < r.ttl)
include hr httl

/-- A tracker with the record's rdata takes the record, any other stays as it is. -/
theorem updated?_updateCheck (now : ℤ) (t : MdnsRecordTracker) :
    if t.HasKeyOf r ∧ t.record.rdata.same r.rdata then
      ∃ t', updated? now r (updateCheck r r.dnsType) t = some (.ttlOnly, t') ∧ t'.record = r ∧
        t'.HasKeyOf r ∧
        t'.id = t.id
    else updated? now r (updateCheck r r.dnsType) t = none := by
  split_ifs with h
  · obtain ⟨hkey, hsame⟩ := h
    obtain ⟨t', hupdate, hrecord, hid, htype⟩ := update_of_hasKeyOf now hr httl hkey
    rw [if_pos (hasSameRdata_of_same hr hkey.2.1 hsame)] at hupdate
    refine ⟨t', ?_, hrecord, ⟨hrecord ▸ rfl, htype.trans hkey.2.1, hrecord ▸ rfl⟩, hid⟩
    simp [updated?, updateCheck, hkey.1, hkey.2.1, hkey.2.2, hsame, hupdate]
  · rw [updated?, if_neg]
    simp only [updateCheck, Bool.and_eq_true, decide_eq_true_eq]
    rintro ⟨hname, ⟨htype, hclass⟩, hsame⟩
    exact h ⟨⟨hname, htype, hclass⟩, hsame⟩

/-- What is counted as updated are the trackers with the record's rdata. -/
theorem updates_updateCheck :
    (q.records.update q.now r (updateCheck r r.dnsType)).2 =
      (q.sameTrackers r).map fun _ => .ttlOnly := by
  rw [RecordTrackerLruCache.update, sameTrackers]
  simp only
  induction q.records.records with
  | nil => rfl
  | cons t l ih =>
    have ht := updated?_updateCheck hr httl q.now t
    split_ifs at ht with h
    · obtain ⟨t', ht', -⟩ := ht
      rw [List.filterMap_cons_some ht', List.filter_cons_of_pos (by simpa using h), List.map_cons,
        List.map_cons, ih]
    · rw [List.filterMap_cons_none ht, List.filter_cons_of_neg (by simpa using h), ih]

/-- What is made to expire are the trackers with another rdata. -/
theorem expire_afterUpdate (now : ℤ) (t : MdnsRecordTracker) :
    let t' := afterUpdate now r (updateCheck r r.dnsType) t
    (t'.record.name.key = r.name.key && expireCheck r r.dnsType t') =
      decide (t.HasKeyOf r ∧ ¬ t.record.rdata.same r.rdata) := by
  have ht := updated?_updateCheck hr httl now t
  split_ifs at ht with h
  · obtain ⟨t', ht', hrecord, -⟩ := ht
    simp [afterUpdate_of_some ht', hrecord, expireCheck, h]
  · simp only [afterUpdate_of_none ht, expireCheck]
    rw [Bool.eq_iff_iff]
    simp [HasKeyOf, and_assoc]

/-- The cache after the updates and the expirations. -/
private def flushedCache (q : MdnsQuerier) (r : MdnsRecord) : RecordTrackerLruCache × ℕ :=
  (q.records.update q.now r (updateCheck r r.dnsType)).1.expireSoon q.now r.name
    (expireCheck r r.dnsType)

theorem expireCount_flushedCache : (flushedCache q r).2 = (q.otherTrackers r).length := by
  change ((q.records.records.map _).filter _).length = _
  rw [← List.countP_eq_length_filter, List.countP_map, otherTrackers,
    ← List.countP_eq_length_filter]
  exact List.countP_congr fun t _ => by
    rw [← expire_afterUpdate hr httl q.now t]
    rfl

/-- Every tracker is updated, and then made to expire if it has another rdata. -/
theorem records_flushedCache :
    (flushedCache q r).1.records = q.records.records.map fun t =>
      if t.HasKeyOf r ∧ ¬ t.record.rdata.same r.rdata then
        (afterUpdate q.now r (updateCheck r r.dnsType) t).expireSoon q.now
      else afterUpdate q.now r (updateCheck r r.dnsType) t := by
  change (q.records.records.map _).map _ = _
  rw [List.map_map]
  refine List.map_congr_left fun t _ => ?_
  have hexpire := expire_afterUpdate hr httl q.now t
  simp only [Function.comp_apply] at hexpire ⊢
  exact if_congr (by rw [hexpire, decide_eq_true_eq]) rfl rfl

/-- The trackers of the cache after the updates and the expirations, by what they were. -/
theorem mem_flushedCache {t' : MdnsRecordTracker} (ht' : t' ∈ (flushedCache q r).1.records) :
    ∃ t ∈ q.records.records, t'.id = t.id ∧
      ((t.HasKeyOf r ∧ t.record.rdata.same r.rdata) ∨
        (t.HasKeyOf r ∧ ¬ t.record.rdata.same r.rdata ∧ t' = t.expireSoon q.now) ∨
        (¬ t.HasKeyOf r ∧ t' = t)) := by
  rw [records_flushedCache hr httl] at ht'
  obtain ⟨t, ht, rfl⟩ := List.mem_map.mp ht'
  have hupdated := updated?_updateCheck hr httl q.now t
  refine ⟨t, ht, by split_ifs <;> simp [MdnsRecordTracker.expireSoon], ?_⟩
  by_cases hsame : t.HasKeyOf r ∧ t.record.rdata.same r.rdata
  · exact .inl hsame
  · rw [if_neg hsame] at hupdated
    rw [afterUpdate_of_none hupdated]
    by_cases hkey : t.HasKeyOf r
    · have hother : ¬ t.record.rdata.same r.rdata := fun h => hsame ⟨hkey, h⟩
      exact .inr (.inl ⟨hkey, hother, if_pos ⟨hkey, hother⟩⟩)
    · exact .inr (.inr ⟨hkey, if_neg fun h => hkey h.1⟩)

/-- A tracker with the record's rdata has the record afterwards. -/
theorem exists_mem_flushedCache (ht : t ∈ q.sameTrackers r) :
    ∃ t' ∈ (flushedCache q r).1.records, t'.record = r ∧ t'.HasKeyOf r ∧ t'.id = t.id := by
  obtain ⟨hmem, h⟩ := List.mem_filter.mp ht
  have h : t.HasKeyOf r ∧ t.record.rdata.same r.rdata := by simpa using h
  have hupdated := updated?_updateCheck hr httl q.now t
  rw [if_pos h] at hupdated
  obtain ⟨t', ht', hrecord, hkey, hid⟩ := hupdated
  rw [records_flushedCache hr httl]
  refine ⟨t', List.mem_map.mpr ⟨t, hmem, ?_⟩, hrecord, hkey, hid⟩
  rw [if_neg fun h' => h'.2 h.2, afterUpdate_of_some ht']

/-- The cache is flushed exactly if one of the trackers had the record's rdata. -/
theorem isFlushed_flushedCache_iff (hlength : (q.sameTrackers r).length ≤ 1) :
    IsFlushed r { q with records := (flushedCache q r).1 } ↔ (q.sameTrackers r).length = 1 := by
  refine ⟨fun ⟨t', ht', hkey, hrecord, _⟩ => ?_, fun hone => ?_⟩
  · obtain ⟨t, ht, -, hsame | ⟨-, hother, rfl⟩ | ⟨hne, rfl⟩⟩ := mem_flushedCache hr httl ht'
    · have hmem : t ∈ q.sameTrackers r := List.mem_filter.mpr ⟨ht, by simpa using hsame⟩
      exact le_antisymm hlength (List.length_pos_of_mem hmem)
    · -- an expiring tracker keeps its rdata
      refine absurd ?_ hother
      change (t.expireSoon q.now).record.rdata.same r.rdata
      rw [hrecord]
      exact Rdata.same_self r.rdata
    · exact absurd hkey hne
  · obtain ⟨t, ht⟩ := List.length_eq_one_iff.mp hone
    obtain ⟨t', ht', hrecord, hkey, hid⟩ :=
      exists_mem_flushedCache hr httl (ht ▸ List.mem_singleton_self t)
    refine ⟨t', ht', hkey, hrecord, fun x hx hxkey hne => ?_⟩
    obtain ⟨y, hy, hxid, hsame | ⟨-, -, rfl⟩ | ⟨hykey, rfl⟩⟩ := mem_flushedCache hr httl hx
    · have hmem : y ∈ q.sameTrackers r := List.mem_filter.mpr ⟨hy, by simpa using hsame⟩
      rw [ht, List.mem_singleton] at hmem
      exact absurd (by rw [hxid, hid, hmem]) hne
    · exact expiresSoon_expireSoon
    · exact absurd hxkey hykey

/-- Among several trackers, the record is taken if exactly one has its rdata; an assertion fails if
more have it, or if none has another. -/
theorem outcome_processMultiTracked_iff (h : r.FitsTracker r.dnsType) :
    Outcome (IsFlushed r) Fault.OfClients
        (q.processMultiTrackedUniqueRecord respond limit config r r.dnsType h) ↔
      (q.sameTrackers r).length = 1 ∧ 1 ≤ (q.otherTrackers r).length := by
  have hupdates := updates_updateCheck (q := q) hr httl
  have hexpire := expireCount_flushedCache (q := q) hr httl
  have hrdata : UpdateType.rdata ∉ (q.records.update q.now r (updateCheck r r.dnsType)).2 := by
    rw [hupdates]
    simp
  have hlength : (q.records.update q.now r (updateCheck r r.dnsType)).2.length =
      (q.sameTrackers r).length := by
    rw [hupdates, List.length_map]
  rw [flushedCache] at hexpire
  simp only [processMultiTrackedUniqueRecord, require_of hrdata, hlength, hexpire, ok_bind]
  by_cases hle : (q.sameTrackers r).length ≤ 1
  · by_cases hge : 1 ≤ (q.otherTrackers r).length
    · have hne : ¬ ((q.sameTrackers r).length = 0 ∧ (q.otherTrackers r).length = 0) := by omega
      rw [require_of hle, require_of hge, ok_bind, ok_bind, if_neg hne, outcome_pure]
      exact (isFlushed_flushedCache_iff hr httl hle).trans (and_iff_left hge).symm
    · refine iff_of_false ?_ fun h => hge h.2
      simp [require, hle, hge, Outcome, Fault.OfClients]
  · refine iff_of_false ?_ fun h => hle h.1.le
    simp [require, hle, Outcome, Fault.OfClients]

end Several

/-! ### Every case -/

/-- **A unique record flushes the cache** exactly if `Find` returns no tracker for its name, type
and class, or one of its class, or several of which one has its rdata and another has not. -/
theorem processRecord_isFlushed_iff (hunique : r.recordType = .unique)
    (hprocessed : canBeProcessed r.dnsType) (hr : r.dnsType ≠ .kNSEC) (httl : 0 < r.ttl) :
    Outcome (IsFlushed r) Fault.OfClients (q.processRecord respond limit config r) ↔
      q.Flushable r := by
  have htype : r.dnsType ≠ .kNSEC ∧ r.dnsType ≠ .kANY := by
    refine ⟨hr, fun h => ?_⟩
    rw [h] at hprocessed
    exact absurd hprocessed (by decide)
  have hfits : r.FitsTracker r.dnsType := .inl rfl
  have hprocess : q.processRecord respond limit config r =
      q.processUniqueRecord respond limit config r r.dnsType hfits := by
    simp only [processRecord, hprocessed, hr, typesOf, processRecordAs, hfits, hunique,
      Bool.not_true, decide_false, Bool.and_false, Bool.false_eq_true, if_false, ok_bind,
      List.foldlM_cons, dif_pos,
      List.foldlM_nil]
    exact bind_pure _
  rw [hprocess, processUniqueRecord, Flushable]
  rcases hfind : q.records.find r.name r.dnsType r.dnsClass with _ | ⟨t, _ | ⟨t', rest⟩⟩
  · refine iff_of_true (isFlushed_of_find_eq_nil (fun t ht hkey => ?_) htype hfits) trivial
    exact List.not_mem_nil (hfind ▸ mem_find_of_hasKeyOf ht hkey)
  · exact outcome_processSinglyTracked_iff htype httl hfind
  · exact outcome_processMultiTracked_iff hr httl hfits

/-- A host is known with two addresses, from shared records. -/
def twoAddresses : List Op :=
  [.processRecord (exampleAddress .shared .kIN 1), .processRecord (exampleAddress .shared .kIN 2)]

/-- A unique record with the first address makes the other expire. -/
theorem processRecord_isFlushed_iff_twoAddresses :
    ∃ q, run listeners 0 exampleConfig twoAddresses = .ok q ∧
      Outcome (IsFlushed (exampleAddress .unique .kIN 1)) Fault.OfClients
        (q.processRecord listeners 0 exampleConfig (exampleAddress .unique .kIN 1)) := by
  have h : Outcome (fun q => q.Flushable (exampleAddress .unique .kIN 1)) (fun _ => False)
      (run listeners 0 exampleConfig twoAddresses) := by
    decide +kernel
  obtain ⟨q, hq, hflushable⟩ := h.exists_ok
  exact ⟨q, hq,
    (processRecord_isFlushed_iff rfl (by decide) (by decide) (by decide)).mpr hflushable⟩

theorem outcome_processRecord_thirdAddress :
    Outcome
      (fun q => Outcome (fun q' => ¬ IsFlushed (exampleAddress .unique .kIN 3) q') (fun _ => False)
        (q.processRecord listeners 0 exampleConfig (exampleAddress .unique .kIN 3)))
      (fun _ => False) (run listeners 0 exampleConfig twoAddresses) := by
  decide +kernel

/-- A unique record with a third address makes both others expire, and is not added. -/
theorem not_isFlushed_thirdAddress :
    ∃ q q', run listeners 0 exampleConfig twoAddresses = .ok q ∧
      q.processRecord listeners 0 exampleConfig (exampleAddress .unique .kIN 3) = .ok q' ∧
      ¬ IsFlushed (exampleAddress .unique .kIN 3) q' := by
  obtain ⟨q, hq, hprocess⟩ := outcome_processRecord_thirdAddress.exists_ok
  obtain ⟨q', hq', hflushed⟩ := hprocess.exists_ok
  exact ⟨q, q', hq, hq', hflushed⟩

end MdnsQuerier

end StreamerPlus.Discovery
