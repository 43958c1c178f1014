import StreamerPlus.Discovery.MdnsCacheFlush
import StreamerPlus.Discovery.MdnsReader

/-!
# The update of a singly tracked record

`ProcessSinglyTrackedUniqueRecord` asserts that `Update` succeeds on the one tracker that `Find`
returned for a unique record. `MdnsRecordTracker::Update` rejects a record of another name, class or
type, and a goodbye with other rdata than the record that it takes back. The name and the type
always match, since the tracker was found by them; the class and the rdata are the sender's choice.

## Main results

* `updatedCount_iff` : whenever the function runs, the update succeeds and the assertion holds
  exactly if the tracker accepts the record (`Accepts`).
* `run_otherGoodbye` : two datagrams with which any host on the link makes the assertion fail.
-/

namespace StreamerPlus.Discovery

open Checked MdnsRecordTracker RecordTrackerLruCache

namespace MdnsRecordTracker

variable {t : MdnsRecordTracker} {r : MdnsRecord}

/-- The record is of the tracker's class, and does not say goodbye to a record with other rdata. -/
def Accepts (t : MdnsRecordTracker) (r : MdnsRecord) : Prop :=
  t.record.dnsClass = r.dnsClass ∧
    (r.isGoodbyeRecord → r.dnsType = .kNSEC ∨ t.isNegativeResponse ∨ t.hasSameRdata r)

instance : Decidable (t.Accepts r) := inferInstanceAs (Decidable (_ ∧ _))

/-- A record is processed for the tracker's type: its own, or one that it denies. -/
def Concerns (r : MdnsRecord) (dnsType : DnsType) : Prop :=
  (r.dnsType ≠ .kNSEC → r.dnsType = dnsType) ∧
    (r.dnsType = .kNSEC → r.isNegativeResponseForType dnsType ∧ r.rdata.nsecTypes?.isSome)

theorem Concerns.fitsTracker {dnsType : DnsType} (h : Concerns r dnsType) :
    r.FitsTracker dnsType := by
  by_cases hnsec : r.dnsType = .kNSEC
  · exact .inr ⟨hnsec, (h.2 hnsec).2⟩
  · exact .inl (h.1 hnsec)

/-- Of the conditions of `Update`, those on the class and on goodbyes remain. -/
theorem isSome_update_iff (now : ℤ) (hname : t.record.name.key = r.name.key)
    (h : Concerns r t.dnsType) :
    (t.update now r).isSome ↔ t.Accepts r := by
  have htype : ¬ ((r.dnsType ≠ .kNSEC ∧ r.dnsType ≠ t.dnsType) ∨
      (r.dnsType = .kNSEC ∧ ¬ r.isNegativeResponseForType t.dnsType)) := by
    rintro (⟨hnsec, hne⟩ | ⟨hnsec, hnegative⟩)
    · exact hne (h.1 hnsec)
    · exact hnegative (h.2 hnsec).1
  have hfits : r.FitsTracker t.dnsType := h.fitsTracker
  by_cases hclass : t.record.dnsClass = r.dnsClass
  · have hwrong : ¬ (t.record.dnsClass ≠ r.dnsClass ∨ t.record.name.key ≠ r.name.key) := by
      simp [hclass, hname]
    rw [update, if_neg hwrong, if_neg htype, dif_pos hfits, Accepts]
    by_cases hgoodbye : r.isGoodbyeRecord
    · by_cases hother : r.dnsType ≠ .kNSEC ∧ ¬ t.isNegativeResponse ∧ ¬ t.hasSameRdata r
      · rw [if_pos ⟨hother.1, hother.2.1, hgoodbye, hother.2.2⟩]
        refine iff_of_false (by simp) fun haccepts => ?_
        rcases haccepts.2 hgoodbye with hnsec | hnegative | hsame
        · exact hother.1 hnsec
        · exact hother.2.1 hnegative
        · exact hother.2.2 hsame
      · rw [if_neg fun h => hother ⟨h.1, h.2.1, h.2.2.2⟩, if_pos hgoodbye]
        refine iff_of_true rfl ⟨hclass, fun _ => ?_⟩
        by_contra hnone
        push Not at hnone
        exact hother ⟨hnone.1, hnone.2.1, hnone.2.2⟩
    · rw [if_neg fun h => hgoodbye h.2.2.1, if_neg hgoodbye]
      exact iff_of_true rfl ⟨hclass, fun h => absurd h hgoodbye⟩
  · rw [update_of_dnsClass_ne hclass]
    exact iff_of_false (by simp) fun haccepts => hclass haccepts.1

end MdnsRecordTracker

namespace MdnsQuerier

variable {q : MdnsQuerier} {r : MdnsRecord}
  {t : MdnsRecordTracker} {type : DnsType} {types : List DnsType}

/-- The types of `ProcessRecord` are those that the record concerns, and none is ANY. -/
theorem concerns_of_mem_typesOf (hprocessed : canBeProcessed r.dnsType)
    (htypes : typesOf r = .ok types) (htype : type ∈ types) : Concerns r type ∧ type ≠ .kANY := by
  rw [typesOf] at htypes
  by_cases hnsec : r.dnsType = .kNSEC
  · rw [if_pos hnsec] at htypes
    cases hdenied : r.rdata.nsecTypes? with
    | none => simp [hdenied] at htypes
    | some denied =>
      simp only [hdenied, Except.ok.injEq] at htypes
      have hsome : r.rdata.nsecTypes?.isSome := by simp [hdenied]
      refine ⟨⟨fun h => absurd hnsec h, fun _ => ⟨?_, hsome⟩⟩, fun hany => ?_⟩
      · -- NSEC of type ANY denies every type
        simp only [MdnsRecord.isNegativeResponseForType, hnsec, hdenied, decide_true, Bool.true_and,
          Option.getD_some, List.any_eq_true, Bool.or_eq_true, decide_eq_true_eq]
        by_cases hall : DnsType.kANY ∈ denied
        · exact ⟨.kANY, hall, .inr rfl⟩
        · rw [if_neg hall] at htypes
          exact ⟨type, htypes ▸ htype, .inl rfl⟩
      · subst hany
        by_cases hall : DnsType.kANY ∈ denied
        · rw [if_pos hall] at htypes
          rw [← htypes] at htype
          exact absurd htype (by decide)
        · rw [if_neg hall] at htypes
          exact hall (htypes ▸ htype)
  · rw [if_neg hnsec] at htypes
    obtain rfl : type = r.dnsType := by
      rw [← Except.ok.inj htypes] at htype
      exact List.mem_singleton.mp htype
    refine ⟨⟨fun _ => rfl, fun h => absurd h hnsec⟩, fun hany => ?_⟩
    rw [hany] at hprocessed
    exact absurd hprocessed (by decide)

/-- **When a singly tracked unique record updates its tracker.** Whenever `ProcessRecord` comes to
`ProcessSinglyTrackedUniqueRecord` with a record and the one tracker that `Find` returned, `Update`
counts one update exactly if the tracker accepts the record, and otherwise the assertion on the
count fails. The tracker accepts every record of its class, except for a goodbye with other rdata
than its own. -/
theorem updatedCount_iff (respond : Clients) (limit : ℕ) (hprocessed : canBeProcessed r.dnsType)
    (htypes : typesOf r = .ok types) (htype : type ∈ types)
    (hfind : q.records.find r.name type r.dnsClass = [t]) :
    ((q.records.update q.now r fun t' => t'.id = t.id).2.length = 1 ↔ t.Accepts r) ∧
      (q.processSinglyTrackedUniqueRecord respond limit r t ≠ .error .updatedCount ↔
        t.Accepts r) := by
  obtain ⟨hconcerns, hany⟩ := concerns_of_mem_typesOf hprocessed htypes htype
  have hmem : t ∈ q.records.find r.name type r.dnsClass := hfind ▸ List.mem_singleton_self t
  obtain ⟨ht, hfinds⟩ := List.mem_filter.mp hmem
  simp only [finds, hany, Bool.and_eq_true, decide_eq_true_eq, decide_false,
    Bool.false_or] at hfinds
  have haccepts : (updated? q.now r (fun t' => t'.id = t.id) t).isSome ↔ t.Accepts r := by
    rw [← isSome_update_iff q.now hfinds.1.1 (hfinds.1.2 ▸ hconcerns), updated?,
      if_pos ⟨hfinds.1.1, decide_eq_true rfl⟩]
    rcases t.update q.now r with _ | ⟨_ | _ | _, t'⟩ <;> rfl
  have hcount : (q.records.update q.now r fun t' => t'.id = t.id).2.length = 1 ↔ t.Accepts r := by
    rw [updates_of_id q.now r ht, ← haccepts]
    cases updated? q.now r (fun t' => t'.id = t.id) t <;> simp
  refine ⟨hcount, ?_⟩
  rw [← hcount, processSinglyTrackedUniqueRecord]
  by_cases hone : (q.records.update q.now r fun t' => t'.id = t.id).2.length = 1
  · -- only the clients can be to blame, for what they do when they are called
    have houtcome : Outcome (fun _ => True) Fault.OfClients
        (q.processSinglyTrackedUniqueRecord respond limit r t) := by
      refine Outcome.bind (Q := fun _ => True) ?_ fun q' _ => ?_
      · split_ifs
        · exact (outcome_onRdataChange r t).mono (fun _ _ => trivial) fun _ => id
        · trivial
      · exact Outcome.require_bind (fun hne => absurd hone hne) fun _ => trivial
    refine iff_of_true (fun herror => ?_) hone
    rw [processSinglyTrackedUniqueRecord, herror] at houtcome
    rcases houtcome with h | h | h <;> exact Fault.noConfusion h
  · refine iff_of_false (not_not_intro ?_) hone
    have hnil : (q.records.update q.now r fun t' => t'.id = t.id).2 = [] := by
      rw [updates_of_id q.now r ht] at hone ⊢
      cases hupdated : updated? q.now r (fun t' => t'.id = t.id) t with
      | none => rfl
      | some result => simp [hupdated] at hone
    simp [hnil, require]

/-- The one tracker of a host's address takes the same address again. -/
theorem updatedCount_iff_sameAddress :
    let r := exampleAddress .unique .kIN 1
    let q := { initial with records := RecordTrackerLruCache.empty.emplace r .kA 0 (.inl rfl) }
    let t : MdnsRecordTracker := ⟨0, r, .kA, 0, 1, .inl rfl⟩
    (q.records.update q.now r fun t' => t'.id = t.id).2.length = 1 :=
  have htypes : typesOf (exampleAddress .unique .kIN 1) = .ok [.kA] := rfl
  (updatedCount_iff listeners 0 (by decide) htypes (List.mem_singleton_self _)
    (by decide)).1.mpr (by decide)

/-! ### A goodbye with another address -/

/-- A response with a unique record for the address `192.168.0.address` of the host. -/
def addressResponse (ttl address : UInt8) : MdnsReader where
  buffer :=
    [0, 0, 0x84, 0, 0, 0, 0, 1, 0, 0, 0, 0,
      1, 104, 0, 0, 1, 0x80, 1, 0, 0, 0, ttl, 0, 4, 192, 168, 0, address]
  kMaximumAllowedRdataSize := 1300

/-- The answers that `MdnsReader` finds in a datagram. -/
def answersOf (reader : MdnsReader) : List MdnsRecord :=
  match reader.readMessage 0 with
  | .ok (.ok message, _) => message.answers
  | _ => []

/-- A client asks for the host's address. A response gives one, and the next response takes back
another one: each has one record that the reader accepts and that answers the question, so that it
is processed, and the querier stops at the assertion. -/
theorem run_otherGoodbye :
    (answersOf (addressResponse 120 1)).length = 1 ∧ (answersOf (addressResponse 0 2)).length = 1 ∧
      Outcome (fun _ => False) (· = .updatedCount) (run listeners 0 exampleConfig
        (.startQuery exampleHost .kA .kIN 0 ::
          (answersOf (addressResponse 120 1) ++ answersOf (addressResponse 0 2)).map
            .processRecord)) := by
  refine ⟨by decide +kernel, by decide +kernel, by decide +kernel⟩

end MdnsQuerier

end StreamerPlus.Discovery
