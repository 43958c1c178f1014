import StreamerPlus.Discovery.MdnsCacheFlush

/-!
# Events mirror the cache

What a callback has heard since its `StartQuery` should be what is in the cache: the records that
were created and have not expired are as many as the trackers with a record that it is registered
for (`Mirrors`).

The proof keeps books. Between a change of the cache and the calls that report it, the two sides
differ by what the record in question counts for a callback (`weight`); `Balanced off` says that
they differ by `off`. Each change of the cache and each round of calls moves `off` by the weight of
its record, and the operations put the changes and the calls together so that `off` is zero again.

## Main results

* `events_mirror_cache` : in a run in which no goodbye turns a record into a negative response or
  back, and no client starts the query for a record that expires, the events mirror the cache.
* `not_mirrors_goodbyes` : the two ways in which a goodbye does, and a client that starts a query.
-/

namespace StreamerPlus.Discovery

open Checked MdnsRecordTracker RecordTrackerLruCache

namespace MdnsQuerier

/-- The number of calls for an event that a callback has got since its `StartQuery`. -/
def heard (q : MdnsQuerier) (info : CallbackInfo) (event : RecordChangedEvent) : ℕ :=
  q.calls.countP fun call => call.registration = info.registration && call.event = event

/-- The tracker has a record, and the callback is registered for it. -/
def counts (info : CallbackInfo) (t : MdnsRecordTracker) : Bool :=
  !t.isNegativeResponse && info.hears t.record

/-- The number of trackers with a record that a callback is registered for. -/
def live (q : MdnsQuerier) (info : CallbackInfo) : ℕ := q.records.records.countP (counts info)

/-- Every callback has heard of what is in the cache. -/
def Mirrors (q : MdnsQuerier) : Prop :=
  ∀ info ∈ q.callbacks, q.heard info .created = q.heard info .expired + q.live info

/-! ### Books -/

/-- What a record counts for a callback. -/
def weight (record : MdnsRecord) (info : CallbackInfo) : ℤ := if info.hears record then 1 else 0

/-- How an event changes what a callback has heard. -/
def eventSign : RecordChangedEvent → ℤ
  | .created => 1
  | .updated => 0
  | .expired => -1

/-- The registrations have numbers of their own, and what a callback has heard differs by `off` from
what is in the cache. -/
structure Balanced (off : CallbackInfo → ℤ) (q : MdnsQuerier) : Prop where
  nodup : (q.callbacks.map (·.registration)).Nodup
  fresh : ∀ info ∈ q.callbacks, info.registration < q.nextRegistration
  called : ∀ call ∈ q.calls, call.registration < q.nextRegistration
  equal : ∀ info ∈ q.callbacks,
    (q.heard info .created : ℤ) - q.heard info .expired = q.live info + off info

variable {respond : Clients} {limit : ℕ} {config : QuerierConfig} {q q' : MdnsQuerier}
  {r : MdnsRecord} {t t' : MdnsRecordTracker} {off off' : CallbackInfo → ℤ} {info : CallbackInfo}
  {event : RecordChangedEvent} {type : DnsType}

theorem balanced_initial : Balanced 0 initial :=
  ⟨List.nodup_nil, nofun, nofun, nofun⟩

theorem Balanced.mirrors (h : Balanced 0 q) : q.Mirrors := by
  intro info hinfo
  have := h.equal info hinfo
  simp only [Pi.zero_apply] at this
  omega

/-- Another cache is another offset. -/
theorem Balanced.withRecords (h : Balanced off q) {records : RecordTrackerLruCache}
    (hoff : ∀ info, (q.live info : ℤ) + off info =
      records.records.countP (counts info) + off' info) :
    Balanced off' { q with records := records } :=
  ⟨h.nodup, h.fresh, h.called, fun info hinfo => (h.equal info hinfo).trans (hoff info)⟩

/-! ### Calls -/

/-- How often a callback is among those that are called for a record. -/
theorem countP_registration (h : Balanced off q) (hinfo : info ∈ q.callbacks) (r : MdnsRecord) :
    ((q.callbacks.filter (·.hears r)).countP fun i => i.registration = info.registration : ℤ) =
      weight r info := by
  have hnodup : ((q.callbacks.filter (·.hears r)).map (·.registration)).Nodup :=
    h.nodup.sublist (List.filter_sublist.map _)
  have hcount : (q.callbacks.filter (·.hears r)).countP
        (fun i => i.registration = info.registration) =
      ((q.callbacks.filter (·.hears r)).map (·.registration)).count info.registration := by
    rw [List.count, List.countP_map]
    rfl
  rw [hcount, List.Nodup.count hnodup, weight]
  have hmem : info.registration ∈ (q.callbacks.filter (·.hears r)).map (·.registration) ↔
      info.hears r := by
    refine ⟨fun hmem => ?_, fun hhears => ?_⟩
    · obtain ⟨i, hi, hreg⟩ := List.mem_map.mp hmem
      obtain ⟨hi, hhears⟩ := List.mem_filter.mp hi
      rwa [← List.inj_on_of_nodup_map h.nodup hi hinfo hreg]
    · exact List.mem_map.mpr ⟨info, List.mem_filter.mpr ⟨hinfo, hhears⟩, rfl⟩
  simp only [hmem]
  split_ifs <;> rfl

/-- A round of calls for a record moves the offset by the weight of the record. -/
theorem Balanced.callAll (h : Balanced off q) (respond : Clients) (r : MdnsRecord)
    (event : RecordChangedEvent) :
    Balanced (fun info => off info + eventSign event * weight r info)
      (callAll respond event ((q.callbacks.filter (·.hears r)).map fun info => (info, r)) q).1 := by
  rw [calls_callAll]
  refine ⟨h.nodup, h.fresh, fun call hcall => ?_, fun info hinfo => ?_⟩
  · rcases List.mem_append.mp hcall with hcall | hcall
    · exact h.called call hcall
    · obtain ⟨c, hc, rfl⟩ := List.mem_map.mp hcall
      obtain ⟨i, hi, rfl⟩ := List.mem_map.mp hc
      exact h.fresh i (List.mem_of_mem_filter hi)
  · have hequal := h.equal info hinfo
    have hcount := countP_registration h hinfo r
    cases event <;>
      simp [heard, List.countP_append, List.countP_map, Function.comp_def, live,
        eventSign] at hequal hcount ⊢ <;> omega

/-! ### Queries -/

/-- `Find` and the callbacks agree on which trackers with a record are meant. -/
theorem hears_eq_finds (h : ¬ t.isNegativeResponse) :
    info.hears t.record = finds info.name info.dnsType info.dnsClass t := by
  have htype : t.record.dnsType = t.dnsType :=
    t.fits.resolve_right fun hnsec => h (by simp [isNegativeResponse, hnsec.1])
  rw [CallbackInfo.hears, finds, htype, decide_eq_decide.mpr (eq_comm (a := info.name.key)),
    decide_eq_decide.mpr (eq_comm (a := t.dnsType)),
    decide_eq_decide.mpr (eq_comm (a := t.record.dnsClass))]

/-- The computation keeps the books at an offset, if no assertion fails. -/
abbrev Balances (off : CallbackInfo → ℤ) (x : Except Fault MdnsQuerier) : Prop :=
  Outcome (Balanced off) (fun _ => True) x

/-- A new callback that the offset does not count hears of what is in the cache. -/
theorem Balanced.addCallback (h : Balanced off q) {name : DomainName} {dnsType : DnsType}
    {dnsClass : DnsClass} {callback : ℕ}
    (hnew : off ⟨q.nextRegistration, name, callback, dnsType, dnsClass⟩ = 0) :
    Balanced off (q.addCallback respond name dnsType dnsClass callback).1 := by
  simp only [MdnsQuerier.addCallback, calls_callAll]
  refine ⟨?_, List.forall_mem_append.mpr ⟨fun info hinfo => (h.fresh info hinfo).trans
    (Nat.lt_succ_self _), List.forall_mem_singleton.mpr (Nat.lt_succ_self _)⟩, fun call hcall => ?_,
    fun info hinfo => ?_⟩
  · rw [List.map_append, List.map_singleton, ← List.concat_eq_append, List.nodup_concat]
    refine ⟨fun hmem => ?_, h.nodup⟩
    obtain ⟨info, hinfo, hreg⟩ := List.mem_map.mp hmem
    exact (h.fresh info hinfo).ne hreg
  · rcases List.mem_append.mp hcall with hcall | hcall
    · exact (h.called call hcall).trans (Nat.lt_succ_self _)
    · obtain ⟨c, hc, rfl⟩ := List.mem_map.mp hcall
      obtain ⟨t, -, rfl⟩ := List.mem_map.mp hc
      exact Nat.lt_succ_self _
  · rcases List.mem_append.mp hinfo with hinfo | hinfo
    · -- the calls are for the new registration only
      have hne : q.nextRegistration ≠ info.registration := (h.fresh info hinfo).ne'
      have hequal := h.equal info hinfo
      simpa [heard, live, List.countP_append, List.countP_map, Function.comp_def, hne] using
        hequal
    · -- before, nobody was called for the new registration
      rw [List.mem_singleton.mp hinfo, hnew]
      have hnone : ∀ event, q.calls.countP (fun call =>
          call.registration = q.nextRegistration && call.event = event) = 0 := fun event => by
        refine List.countP_eq_zero.mpr fun call hcall => ?_
        simp [(h.called call hcall).ne]
      have hcounts : q.records.records.countP
          (counts ⟨q.nextRegistration, name, callback, dnsType, dnsClass⟩) =
            ((q.records.find name dnsType dnsClass).filter (!·.isNegativeResponse)).length := by
        rw [find, List.filter_filter, ← List.countP_eq_length_filter]
        refine List.countP_congr fun t _ => ?_
        by_cases hneg : t.isNegativeResponse
        · simp [counts, hneg]
        · simp [counts, hneg, hears_eq_finds hneg]
      simp [heard, live, List.countP_append, List.countP_map, Function.comp_def, hnone, hcounts]

theorem Balanced.stopQuery (h : Balanced off q) (name : DomainName) (dnsType : DnsType)
    (dnsClass : DnsClass) (callback : ℕ) :
    Balances off (q.stopQuery name dnsType dnsClass callback) := by
  unfold MdnsQuerier.stopQuery
  split_ifs
  · refine Outcome.require_bind (fun _ => trivial) fun _ => ?_
    exact ⟨h.nodup.sublist (List.filter_sublist.map _),
      fun info hinfo => h.fresh info (List.mem_of_mem_filter hinfo), h.called,
      fun info hinfo => h.equal info (List.mem_of_mem_filter hinfo)⟩
  · exact h

/-- What clients answer to a round of calls. -/
theorem pending_callAll {A : MdnsRecord → PendingQueryChange → Prop}
    (hA : ∀ calls call, call.event = event →
      ∀ change ∈ respond (calls ++ [call]), A call.record change)
    (l : List (CallbackInfo × MdnsRecord)) (q : MdnsQuerier) :
    ∀ change ∈ (callAll respond event l q).2, ∃ c ∈ l, A c.2 change := by
  induction l generalizing q with
  | nil => nofun
  | cons c l ih =>
    intro change hchange
    rcases List.mem_append.mp hchange with hchange | hchange
    · exact ⟨c, List.mem_cons_self, hA q.calls _ rfl change hchange⟩
    · obtain ⟨c', hc', hA'⟩ := ih _ change hchange
      exact ⟨c', List.mem_cons_of_mem _ hc', hA'⟩

/-- The change starts a query that does not hear of the record, if it starts one. -/
def Misses (r : MdnsRecord) (change : PendingQueryChange) : Prop :=
  change.isStart → ∀ registration, CallbackInfo.hears
    ⟨registration, change.name, change.callback, change.dnsType, change.dnsClass⟩ r = false

/-- No client starts a query in answer to the event. -/
def StartsNothing (respond : Clients) (event : RecordChangedEvent) : Prop :=
  ∀ calls call, call.event = event → ∀ change ∈ respond (calls ++ [call]), ¬ change.isStart

theorem StartsNothing.callAll (h : StartsNothing respond event)
    (l : List (CallbackInfo × MdnsRecord)) (q : MdnsQuerier) :
    ∀ change ∈ (callAll respond event l q).2, ¬ change.isStart := fun change hchange =>
  (pending_callAll (A := fun _ change => ¬ change.isStart) h l q change hchange).elim
    fun _ hc => hc.2

/-- Changes keep the books if nothing is missing in them, or if what is missing does not concern
the queries that are started and these bring no further ones. -/
theorem Balanced.applyPendingChanges (h : Balanced off q) {pending : List PendingQueryChange}
    (hpending : ∀ change ∈ pending, change.isStart → off = 0 ∨ StartsNothing respond .created ∧
      ∀ registration, off ⟨registration, change.name, change.callback, change.dnsType,
        change.dnsClass⟩ = 0) :
    Balances off (MdnsQuerier.applyPendingChanges respond limit pending q) := by
  induction limit generalizing pending q with
  | zero => cases pending <;> first | exact h | trivial
  | succ limit ih =>
    cases pending with
    | nil => exact h
    | cons first rest =>
      refine Outcome.foldlM h fun q' change hchange hq' => ?_
      unfold applyPendingChangeWith
      split_ifs with hstart
      · refine Outcome.require_bind (fun _ => trivial) fun _ => ?_
        split_ifs
        · exact hq'
        · rcases hpending change hchange hstart with rfl | ⟨hnothing, hnew⟩
          · exact ih (hq'.addCallback rfl) fun _ _ _ => .inl rfl
          · exact ih (hq'.addCallback (hnew _)) fun next hnext hstart =>
              absurd hstart (hnothing.callAll _ _ next hnext)
      · exact hq'.stopQuery _ _ _ _

theorem Balanced.startQuery (h : Balanced 0 q) (name : DomainName) (dnsType : DnsType)
    (dnsClass : DnsClass) (callback : ℕ) :
    Balances 0 (q.startQuery respond limit name dnsType dnsClass callback) := by
  refine Outcome.require_bind (fun _ => trivial) fun _ => ?_
  split_ifs
  · exact h
  · exact (h.addCallback rfl).applyPendingChanges fun _ _ _ => .inl rfl

/-- A report of a record that the books lack makes up for it. -/
theorem Balanced.processCallbacks (h : Balanced off q) (r : MdnsRecord) (event : RecordChangedEvent)
    (hoff : ∀ info, off info + eventSign event * weight r info = 0) :
    Balances 0 (q.processCallbacks respond limit r event) := by
  have hcall := h.callAll respond r event
  rw [funext hoff] at hcall
  exact hcall.applyPendingChanges fun _ _ _ => .inl rfl

/-! ### Updates -/

/-- For every callback the two trackers count the same. -/
def CountsSame (t t' : MdnsRecordTracker) : Prop := ∀ info, counts info t' = counts info t

/-- A cache in which every tracker counts as before keeps the books. -/
theorem Balanced.mapRecords (h : Balanced off q) {f : MdnsRecordTracker → MdnsRecordTracker}
    {records : RecordTrackerLruCache} (hmap : records.records = q.records.records.map f)
    (hsame : ∀ t ∈ q.records.records, CountsSame t (f t)) :
    Balanced off { q with records := records } := by
  refine h.withRecords fun info => ?_
  have hcount : q.records.records.countP (counts info ∘ f) = q.live info :=
    List.countP_congr fun t ht => by rw [Function.comp_apply, hsame t ht info]
  rw [hmap, List.countP_map, hcount]

/-- The record of an update counts as the tracker's own if it is one as much as the other. -/
theorem countsSame_of_updated {u : UpdateType} (h : Updated t q.now r u t')
    (hkind : t.isNegativeResponse ↔ r.dnsType = .kNSEC) : CountsSame t t' := by
  have hkey : t'.record.name.key = r.name.key ∧ t'.record.dnsType = r.dnsType ∧
      t'.record.dnsClass = r.dnsClass := by
    rw [h.record]
    split_ifs <;> exact ⟨rfl, rfl, rfl⟩
  intro info
  by_cases hnsec : r.dnsType = .kNSEC
  · have hneg' : t'.isNegativeResponse := by simp [isNegativeResponse, hkey.2.1, hnsec]
    simp [counts, hkind.mpr hnsec, hneg']
  · have hneg : ¬ t.isNegativeResponse := fun hneg => hnsec (hkind.mp hneg)
    have htype : t.record.dnsType = r.dnsType := by
      have hfits := t.fits.resolve_right fun hn => hneg (by simp [isNegativeResponse, hn.1])
      rw [hfits, h.type.resolve_left hnsec]
    simp [counts, isNegativeResponse, CallbackInfo.hears, hkey, hnsec, htype, h.name, h.dnsClass]

/-- A tracker with the record's rdata is a negative response if and only if the record is. -/
theorem isNegativeResponse_iff_of_same (hfits : r.FitsTracker type) (htype : t.dnsType = type)
    (hsame : t.record.rdata.same r.rdata) : t.isNegativeResponse ↔ r.dnsType = .kNSEC := by
  by_cases hnsec : r.dnsType = .kNSEC
  · refine iff_of_true ?_ hnsec
    rcases hfits with hfits | ⟨-, hrdata⟩
    · -- a tracker of the type NSEC
      rcases t.fits with ht | ht
      · simp [isNegativeResponse, ht, htype, ← hfits, hnsec]
      · simp [isNegativeResponse, ht.1]
    · have htyped := t.record.valid.2
      revert hrdata hsame htyped
      cases t.record.rdata <;> cases r.rdata <;>
        simp +contextual [Rdata.same, Rdata.nsecTypes?, Rdata.HasType, isNegativeResponse]
  · have hfits := hfits.resolve_right fun h => hnsec h.1
    have hrdata := hasSameRdata_of_same hnsec (htype.trans hfits.symm) hsame
    simp only [hasSameRdata, Bool.and_eq_true, decide_eq_true_eq] at hrdata
    simp [isNegativeResponse, hrdata.1]

/-- An update of trackers that are what the record is keeps the books. -/
theorem Balanced.update (h : Balanced off q) {check : MdnsRecordTracker → Bool}
    (hcheck : ∀ t ∈ q.records.records, t.record.name.key = r.name.key → check t → ∀ u t',
      Updated t q.now r u t' → (t.isNegativeResponse ↔ r.dnsType = .kNSEC)) :
    Balanced off { q with records := (q.records.update q.now r check).1 } := by
  refine h.mapRecords rfl fun t ht => ?_
  cases hupdated : updated? q.now r check t with
  | none =>
    rw [afterUpdate_of_none hupdated]
    exact fun _ => rfl
  | some result =>
    obtain ⟨hname, hcheck', hu⟩ := updated?_eq_some hupdated
    rw [afterUpdate_of_some hupdated]
    exact countsSame_of_updated hu (hcheck t ht hname hcheck' _ _ hu)

theorem Balanced.expireSoon (h : Balanced off q) (domain : DomainName)
    (check : MdnsRecordTracker → Bool) :
    Balanced off { q with records := (q.records.expireSoon q.now domain check).1 } := by
  refine h.mapRecords rfl fun t _ info => ?_
  split_ifs <;> rfl

/-! ### Unique records -/

/-- A unique goodbye record finds only trackers that are what it is: an NSEC record negative
responses, any other record trackers with a record. -/
def KeepsKind (q : MdnsQuerier) (r : MdnsRecord) (type : DnsType) : Prop :=
  r.recordType = .unique → r.isGoodbyeRecord → ∀ t ∈ q.records.find r.name type r.dnsClass,
    t.record.dnsClass = r.dnsClass → (t.isNegativeResponse ↔ r.dnsType = .kNSEC)

/-- So it does for each type that it is processed for. -/
def GoodbyeKeepsKind (q : MdnsQuerier) (r : MdnsRecord) : Prop :=
  ∀ types, typesOf r = .ok types → ∀ type ∈ types, q.KeepsKind r type

/-- The callback of a singly tracked record reports what the update has changed. -/
theorem Balanced.onRdataChange (h : Balanced off q)
    (hname : t.record.name.key = r.name.key)
    (hoff : ∀ info, off info =
      if t.isNegativeResponse then (if r.dnsType = .kNSEC then 0 else -weight r info)
      else if r.dnsType = .kNSEC then weight t.record info else 0) :
    Outcome (Balanced 0) (fun _ => True) (q.onRdataChange respond limit r t) := by
  have hweight : ∀ info, weight { t.record with name := r.name } info = weight t.record info := by
    intro info
    simp [weight, CallbackInfo.hears, hname]
  by_cases hneg : t.isNegativeResponse <;> by_cases hnsec : r.dnsType = .kNSEC <;>
    simp only [hneg, hnsec, if_true, if_false, Bool.false_eq_true] at hoff <;>
    simp only [MdnsQuerier.onRdataChange, changeEvent, hneg, hnsec, ne_eq, not_true_eq_false,
      not_false_eq_true, decide_true, decide_false, Bool.not_true, Bool.not_false, Bool.and_self,
      Bool.and_false, if_true, if_false, Bool.false_eq_true]
  · rw [show off = 0 from funext hoff] at h
    exact h
  · exact h.processCallbacks r .created fun info => by rw [hoff]; simp [eventSign]
  · exact h.processCallbacks _ .expired fun info => by rw [hoff, hweight]; simp [eventSign]
  · exact h.processCallbacks r .updated fun info => by rw [hoff]; simp [eventSign]

/-- The update of one tracker moves the offset by what the tracker counts less than before. -/
theorem Balanced.update_one (h : Balanced 0 q) (ht : t ∈ q.records.records) {u : UpdateType}
    (hupdated : updated? q.now r (fun t' => t'.id = t.id) t = some (u, t')) :
    Balanced (fun info => (if counts info t then 1 else 0) - if counts info t' then 1 else 0)
      { q with records := (q.records.update q.now r fun t' => t'.id = t.id).1 } := by
  refine h.withRecords fun info => ?_
  have hafter : (q.records.update q.now r fun t' => t'.id = t.id).1.records.countP (counts info) =
      (if counts info t' then 1 else 0) +
        (q.records.records.filter (·.id ≠ t.id)).countP (counts info) := by
    change (q.records.records.map _).countP (counts info) = _
    rw [List.countP_map, countP_eq_add ht, Function.comp_apply, afterUpdate_of_some hupdated]
    congr 1
    refine List.countP_congr fun x hx => ?_
    have hne : x.id ≠ t.id := by simpa using (List.mem_filter.mp hx).2
    rw [Function.comp_apply, afterUpdate_of_none (by simp [updated?, hne])]
  rw [hafter, live, countP_eq_add ht]
  push_cast
  simp only [Pi.zero_apply]
  ring

/-- A change that is not one of the rdata keeps the kind of the tracker. -/
theorem isNegativeResponse_iff_of_updated {u : UpdateType}
    (hkind : r.isGoodbyeRecord → t.record.dnsClass = r.dnsClass →
      (t.isNegativeResponse ↔ r.dnsType = .kNSEC))
    (hu : Updated t q.now r u t') (hrdata : u ≠ .rdata) :
    t.isNegativeResponse ↔ r.dnsType = .kNSEC := by
  cases u with
  | goodbye => exact hkind (hu.goodbye.mp rfl) hu.dnsClass
  | ttlOnly =>
    have hsame := (hu.ttlOnly.mp rfl).2
    simp only [hasSameRdata, Bool.and_eq_true, decide_eq_true_eq] at hsame
    simp [isNegativeResponse, hsame.1]
  | rdata => exact absurd rfl hrdata

theorem Balanced.processSinglyTracked (h : Balanced 0 q) (ht : t ∈ q.records.records)
    (hkind : r.isGoodbyeRecord → t.record.dnsClass = r.dnsClass →
      (t.isNegativeResponse ↔ r.dnsType = .kNSEC)) :
    Balances 0 (q.processSinglyTrackedUniqueRecord respond limit r t) := by
  refine Outcome.bind (Q := Balanced 0) ?_ fun q' hq' =>
    Outcome.require_bind (fun _ => trivial) fun _ => hq'
  have hupdates := updates_of_id q.now r ht
  cases hupdated : updated? q.now r (fun t' => t'.id = t.id) t with
  | none =>
    -- the tracker refuses the record, and no other is looked at
    have hnone : ∀ x ∈ q.records.records, afterUpdate q.now r (fun t' => t'.id = t.id) x = x := by
      intro x hx
      by_cases hid : x.id = t.id
      · rw [eq_of_id_eq hx ht hid, afterUpdate_of_none hupdated]
      · exact afterUpdate_of_none (by simp [updated?, hid])
    have hnil : (q.records.update q.now r fun t' => t'.id = t.id).2 = [] := by
      rw [hupdates, hupdated]
      rfl
    rw [hnil, if_neg List.not_mem_nil]
    exact h.mapRecords rfl fun x hx info => by rw [hnone x hx]
  | some result =>
    obtain ⟨u, t'⟩ := result
    have hu := (updated?_eq_some hupdated).2.2
    have hbalanced := h.update_one ht hupdated
    have hu' : (q.records.update q.now r fun t' => t'.id = t.id).2 = [u] := by
      rw [hupdates, hupdated]
      rfl
    rw [hu']
    split_ifs with hrdata
    · have hrdata := List.mem_singleton.mp hrdata
      refine hbalanced.onRdataChange hu.name fun info => ?_
      have hrecord : t'.record = r := by rw [hu.record, if_neg (by simp [← hrdata])]
      by_cases hkind : t.isNegativeResponse ↔ r.dnsType = .kNSEC
      · rw [countsSame_of_updated hu hkind info, sub_self]
        by_cases hneg : t.isNegativeResponse
        · rw [if_pos hneg, if_pos (hkind.mp hneg)]
        · rw [if_neg hneg, if_neg fun hnsec => hneg (hkind.mpr hnsec)]
      · -- the tracker goes from a record to a negative response or back
        by_cases hneg : t.isNegativeResponse <;> by_cases hnsec : r.dnsType = .kNSEC
        · exact absurd (iff_of_true hneg hnsec) hkind
        · have hneg' : t'.isNegativeResponse = false := by simp [isNegativeResponse, hrecord, hnsec]
          simp [counts, hneg, hneg', hrecord, hnsec, weight]
        · have hneg' : t'.isNegativeResponse = true := by simp [isNegativeResponse, hrecord, hnsec]
          simp [counts, hneg, hneg', hnsec, weight]
        · exact absurd (iff_of_false hneg hnsec) hkind
    · have hkind := isNegativeResponse_iff_of_updated hkind hu fun h =>
        hrdata (List.mem_singleton.mpr h.symm)
      have hsame := countsSame_of_updated hu hkind
      simp only [hsame _, sub_self] at hbalanced
      exact hbalanced

section Records

variable {P : MdnsRecordTracker → Prop} (hexpire : ∀ t now, P t → P (t.expireSoon now))
  (hr : ∀ t : MdnsRecordTracker, t.record.dnsType = r.dnsType → P t)

include hr

theorem createRecord_forall (h : ∀ t ∈ q.records.records, P t) (hfits : r.FitsTracker type) :
    Outcome (fun q' => ∀ t ∈ q'.records.records, P t) (fun _ => True)
      (q.createRecord respond limit config r type hfits) := by
  refine ((outcome_addRecord hfits).mono (fun _ => id) fun _ _ => trivial).bind
    fun q' ⟨records, hsub, hrecords, _⟩ => ?_
  have hq' : ∀ t ∈ q'.records.records, P t := by
    rw [hrecords]
    intro t ht
    rcases List.mem_append.mp ht with ht | ht
    · exact h t (hsub.subset ht)
    · exact hr t (by rw [List.mem_singleton.mp ht])
  split_ifs
  · exact (outcome_processCallbacks r .created).mono (fun q'' hsame => hsame.1 ▸ hq')
      fun _ _ => trivial
  · exact hq'

theorem update_forall (h : ∀ t ∈ q.records.records, P t) (check : MdnsRecordTracker → Bool) :
    ∀ t ∈ (q.records.update q.now r check).1.records, P t := by
  intro t' ht'
  obtain ⟨t, ht, rfl⟩ := List.mem_map.mp ht'
  cases hupdated : updated? q.now r check t with
  | none =>
    rw [afterUpdate_of_none hupdated]
    exact h t ht
  | some result =>
    rw [afterUpdate_of_some hupdated]
    refine hr _ ?_
    rw [(updated?_eq_some hupdated).2.2.record]
    split_ifs <;> rfl

include hexpire

omit hr in
theorem expireSoon_forall {records : RecordTrackerLruCache} (h : ∀ t ∈ records.records, P t)
    (now : ℤ) (domain : DomainName) (check : MdnsRecordTracker → Bool) :
    ∀ t ∈ (records.expireSoon now domain check).1.records, P t := by
  intro t' ht'
  obtain ⟨t, ht, rfl⟩ := List.mem_map.mp ht'
  split_ifs
  · exact hexpire _ _ (h t ht)
  · exact h t ht

/-- A unique record brings only itself into the cache. -/
theorem processUniqueRecord_forall (h : ∀ t ∈ q.records.records, P t)
    (hfits : r.FitsTracker type) :
    Outcome (fun q' => ∀ t ∈ q'.records.records, P t) (fun _ => True)
      (q.processUniqueRecord respond limit config r type hfits) := by
  unfold MdnsQuerier.processUniqueRecord
  rcases q.records.find r.name type r.dnsClass with _ | ⟨t, _ | ⟨t', rest⟩⟩
  · exact createRecord_forall hr h hfits
  · refine Outcome.bind (Q := fun q' => ∀ t ∈ q'.records.records, P t) ?_ fun q' hq' =>
      Outcome.require_bind (fun _ => trivial) fun _ => outcome_pure.mpr hq'
    have hupdate := update_forall hr h fun t' => t'.id = t.id
    split_ifs
    · exact (outcome_onRdataChange r t).mono (fun q'' hsame => hsame.1 ▸ hupdate) fun _ _ => trivial
    · exact hupdate
  · have hexpired := expireSoon_forall hexpire (update_forall hr h (updateCheck r type)) q.now
      r.name (expireCheck r type)
    refine Outcome.require_bind (fun _ => trivial) fun _ => ?_
    refine Outcome.require_bind (fun _ => trivial) fun _ => ?_
    refine Outcome.require_bind (fun _ => trivial) fun _ => ?_
    split_ifs
    · exact createRecord_forall (q := { q with records := _ }) hr hexpired hfits
    · exact hexpired

end Records

/-- An NSEC record that keeps the kind of the trackers for its types keeps it for the next. -/
theorem KeepsKind.processRecordAs (hnsec : r.dnsType = .kNSEC) {types : List DnsType}
    (h : ∀ type ∈ types, q.KeepsKind r type) (type : DnsType) :
    Outcome (fun q' => ∀ type ∈ types, q'.KeepsKind r type) (fun _ => True)
      (q.processRecordAs respond limit config r type) := by
  by_cases hgoodbye : r.recordType = .unique ∧ r.isGoodbyeRecord
  · unfold MdnsQuerier.processRecordAs
    split_ifs with hfits
    · rw [hgoodbye.1]
      refine (processUniqueRecord_forall (P := fun t => ∀ type ∈ types,
        finds r.name type r.dnsClass t → t.record.dnsClass = r.dnsClass → t.isNegativeResponse)
        (fun _ _ ht => ht) (fun t ht _ _ _ _ => by simp [isNegativeResponse, ht, hnsec])
        (fun t ht type htype hfinds hclass => ?_) hfits).mono
        (fun q' hq' type htype _ _ t ht hclass => ?_) fun _ _ => trivial
      · exact (h type htype hgoodbye.1 hgoodbye.2 t (List.mem_filter.mpr ⟨ht, hfinds⟩)
          hclass).mpr hnsec
      · obtain ⟨ht, hfinds⟩ := List.mem_filter.mp ht
        exact iff_of_true (hq' t ht type htype hfinds hclass) hnsec
    · trivial
  · exact outcome_true.mono (fun q' _ _ _ hunique hzero => absurd ⟨hunique, hzero⟩ hgoodbye)
      fun _ => id

/-! ### Clients that do not start the query for a record that expires -/

/-- Clients start no query in answer to `kExpired`, or they start queries in answer to nothing else
and not for the record that expires. -/
def Quiet (respond : Clients) : Prop :=
  StartsNothing respond .expired ∨ ∀ calls call, ∀ change ∈ respond (calls ++ [call]),
    (change.isStart → call.event = .expired) ∧ Misses call.record change

theorem Balanced.processCallbacks_expired (hquiet : Quiet respond) (h : Balanced 0 q)
    (r : MdnsRecord) :
    Balances (fun info => -weight r info) (q.processCallbacks respond limit r .expired) := by
  have hcall := h.callAll respond r .expired
  simp only [eventSign, Pi.zero_apply, zero_add, neg_one_mul] at hcall
  refine hcall.applyPendingChanges fun change hchange hstart => ?_
  rcases hquiet with hnothing | hothers
  · exact absurd hstart (hnothing.callAll _ _ change hchange)
  · refine .inr ⟨fun calls call hcreated other hother hstart' => ?_, fun registration => ?_⟩
    · cases hcreated.symm.trans ((hothers calls call other hother).1 hstart')
    · obtain ⟨c, hc, hmisses⟩ := pending_callAll (A := Misses)
        (fun calls call _ other hother => (hothers calls call other hother).2) _ _ change hchange
      obtain ⟨info, -, rfl⟩ := List.mem_map.mp hc
      simp [weight, hmisses hstart registration]

/-! ### What the operations keep -/

theorem mem_of_back? {c : RecordTrackerLruCache} (h : c.back? = some t) : t ∈ c.records := by
  obtain ⟨number, -, hfind⟩ := Option.bind_eq_some_iff.mp h
  exact List.mem_of_find?_eq_some hfind

section Operations

variable (hquiet : Quiet respond) (h : Balanced 0 q)
include hquiet h

/-- The expiration of a tracker is reported before the tracker goes. -/
theorem Balanced.onRecordExpired
    (ht : t ∈ q.records.records) :
    Balances 0 (q.onRecordExpired respond limit t) := by
  have hlive : ∀ info, (q.live info : ℤ) =
      (q.records.erase t.id).records.countP (counts info) + if counts info t then 1 else 0 := by
    intro info
    rw [live, countP_eq_add ht, erase]
    push_cast
    rw [add_comm]
  by_cases hneg : t.isNegativeResponse
  · simp only [MdnsQuerier.onRecordExpired, hneg, if_true]
    refine h.withRecords fun info => ?_
    rw [hlive info]
    simp [counts, hneg]
  · simp only [MdnsQuerier.onRecordExpired, hneg]
    refine ((h.processCallbacks_expired hquiet t.record).and
      (outcome_processCallbacks t.record .expired)).mono (fun _ => id) (fun _ _ => trivial)
      |>.bind fun q' ⟨hq', hsame⟩ => ?_
    refine hq'.withRecords fun info => ?_
    rw [live, hsame.1]
    have := hlive info
    rw [live] at this
    simp only [counts, hneg, Bool.not_false, Bool.true_and] at this
    simp [weight]
    omega

theorem Balanced.makeRoom (count : ℕ) :
    Balances 0 (makeRoom respond limit config count q) := by
  induction count generalizing q with
  | zero => exact h
  | succ count ih =>
    unfold MdnsQuerier.makeRoom
    split_ifs
    · exact h
    · split
      · exact h
      · rename_i t ht
        exact (h.onRecordExpired hquiet (mem_of_back? ht)).bind fun q' hq' => ih hq'

/-- A new tracker with a record is reported after it is added, a negative response not at all. -/
theorem Balanced.createRecord
    (hfits : r.FitsTracker type) :
    Balances 0 (q.createRecord respond limit config r type hfits) := by
  refine Outcome.bind (Q := Balanced fun info => if r.dnsType = .kNSEC then 0 else -weight r info)
    ?_ fun q' hq' => ?_
  · refine (h.makeRoom hquiet _).bind fun q' hq' => ?_
    refine Outcome.require_bind (fun _ => trivial) fun _ => hq'.withRecords fun info => ?_
    simp only [emplace, List.countP_append, List.countP_singleton, counts, isNegativeResponse, live,
      weight, Pi.zero_apply]
    by_cases hnsec : r.dnsType = .kNSEC <;> by_cases hhears : info.hears r <;>
      simp [hnsec, hhears]
  · by_cases hnsec : r.dnsType = .kNSEC
    · rw [if_neg (not_not.mpr hnsec)]
      simp only [hnsec, if_true] at hq'
      exact hq'
    · rw [if_pos hnsec]
      refine hq'.processCallbacks r .created fun info => ?_
      simp [hnsec, eventSign]

theorem Balanced.processSharedRecord
    (hfits : r.FitsTracker type) :
    Balances 0 (q.processSharedRecord respond limit config r type hfits) := by
  unfold MdnsQuerier.processSharedRecord
  split_ifs with hnsec
  · exact h
  · have hupdate : Balanced 0 { q with
        records := (q.records.update q.now r fun t =>
          r.dnsType = t.dnsType && r.dnsClass = t.record.dnsClass &&
            r.rdata.same t.record.rdata).1 } := by
      refine h.update fun t _ _ hcheck _ _ _ => ?_
      simp only [Bool.and_eq_true, decide_eq_true_eq] at hcheck
      exact isNegativeResponse_iff_of_same (.inl rfl) hcheck.1.1.symm
        (Rdata.same_comm _ _ ▸ hcheck.2)
    simp only
    split_ifs
    · exact hupdate.createRecord hquiet hfits
    · exact hupdate

theorem Balanced.processMultiTracked
    (hfits : r.FitsTracker type) :
    Balances 0 (q.processMultiTrackedUniqueRecord respond limit config r type hfits) := by
  have hupdate : Balanced 0 { q with
      records := (q.records.update q.now r (updateCheck r type)).1 } := by
    refine h.update fun t _ _ hcheck _ _ _ => ?_
    simp only [updateCheck, Bool.and_eq_true, decide_eq_true_eq] at hcheck
    exact isNegativeResponse_iff_of_same hfits hcheck.1.1 hcheck.2
  have hexpire := hupdate.expireSoon r.name (expireCheck r type)
  refine Outcome.require_bind (fun _ => trivial) fun _ => ?_
  refine Outcome.require_bind (fun _ => trivial) fun _ => ?_
  refine Outcome.require_bind (fun _ => trivial) fun _ => ?_
  split_ifs
  · exact hexpire.createRecord hquiet hfits
  · exact hexpire

theorem Balanced.processRecordAs {type : DnsType} (hkind : q.KeepsKind r type) :
    Balances 0 (q.processRecordAs respond limit config r type) := by
  unfold MdnsQuerier.processRecordAs
  split_ifs with hfits
  · cases htype : r.recordType with
    | shared => exact h.processSharedRecord hquiet hfits
    | unique =>
      simp only [processUniqueRecord]
      rcases hfind : q.records.find r.name type r.dnsClass with _ | ⟨t, _ | ⟨t', rest⟩⟩
      · exact h.createRecord hquiet hfits
      · have ht : t ∈ q.records.find r.name type r.dnsClass := hfind ▸ List.mem_singleton_self t
        exact h.processSinglyTracked (List.mem_of_mem_filter ht) fun hgoodbye =>
          hkind htype hgoodbye t ht
      · exact h.processMultiTracked hquiet hfits
  · trivial

theorem Balanced.processRecord
    (hkinds : canBeProcessed r.dnsType → q.GoodbyeKeepsKind r) :
    Balances 0 (q.processRecord respond limit config r) := by
  unfold MdnsQuerier.processRecord
  split_ifs with hprocess
  · exact h
  · exact h
  · cases htypes : typesOf r with
    | error => trivial
    | ok types =>
      have hkinds := hkinds (by simpa using hprocess) types htypes
      rw [ok_bind]
      by_cases hnsec : r.dnsType = .kNSEC
      · have hfold := Outcome.foldlM (E := fun _ => True)
          (P := fun q' => Balanced 0 q' ∧ ∀ type ∈ types, q'.KeepsKind r type) (l := types)
          (f := fun q type => q.processRecordAs respond limit config r type) ⟨h, hkinds⟩
          fun q' type htype hq' => ((hq'.1.processRecordAs hquiet (hq'.2 type htype)).and
            (KeepsKind.processRecordAs hnsec hq'.2 type)).mono (fun _ => id) fun _ _ => trivial
        exact hfold.mono (fun _ hq' => hq'.1) fun _ => id
      · rw [typesOf, if_neg hnsec] at htypes
        cases htypes
        exact (h.processRecordAs hquiet (hkinds _ List.mem_cons_self)).bind fun q' hq' => hq'

theorem Balanced.onAlarm (ht : t ∈ q.records.records) :
    Balances 0 (q.onAlarm respond limit t) := by
  unfold MdnsQuerier.onAlarm
  split_ifs
  · refine Outcome.require_bind (fun _ => trivial) fun _ => h.mapRecords rfl fun x _ info => ?_
    split_ifs <;> rfl
  · exact h.onRecordExpired hquiet ht

/-- The records that an operation may bring. -/
def Tame (q : MdnsQuerier) : Op → Prop
  | .processRecord record => canBeProcessed record.dnsType → q.GoodbyeKeepsKind record
  | _ => True

theorem Balanced.step {op : Op} (htame : q.Tame op) :
    Balances 0 (step respond limit config q op) := by
  cases op with
  | startQuery name dnsType dnsClass callback =>
    exact h.startQuery name dnsType dnsClass callback
  | stopQuery name dnsType dnsClass callback =>
    exact h.stopQuery name dnsType dnsClass callback
  | processRecord record => exact h.processRecord hquiet htame
  | advance time => exact { h with }
  | alarm number =>
    simp only [MdnsQuerier.step]
    split
    · rename_i t ht
      split_ifs
      · exact h
      · exact h.onAlarm hquiet (List.mem_of_find?_eq_some ht)
    · exact h

end Operations

/-- **Events mirror the cache.** In every run with clients that do not start the query for a record
when it expires, and in which no unique goodbye record finds a tracker of the other kind, every
callback has heard of what is in the cache. -/
theorem events_mirror_cache (hquiet : Quiet respond) {ops : List Op}
    (hops : Along (step respond limit config) Tame initial ops)
    (hrun : run respond limit config ops = .ok q) : q.Mirrors :=
  ((Outcome.foldlM_along balanced_initial hops fun _ _ hq htame => hq.step hquiet htame).of_ok
    hrun).mirrors

/-! ### Goodbyes of the other kind -/

/-- An NSEC record that says that the host has no address. -/
def exampleNsec (ttl : ℤ) (h : ttl ≤ 2 ^ 32 - 1) : MdnsRecord :=
  ⟨exampleHost, .kNSEC, .kIN, .unique, ttl, .nsec exampleHost [.kA], h, rfl⟩

/-- The goodbye of the address of the host. -/
def exampleGoodbye : MdnsRecord :=
  ⟨exampleHost, .kA, .kIN, .unique, 0, .a ⟨[192, 168, 0, 1], rfl⟩ 0, by norm_num, rfl⟩

/-- A callback hears of the address of the host, and of its expiration after two minutes. -/
def addressExpires : List Op :=
  [.startQuery exampleHost .kA .kIN 7, .processRecord (exampleAddress .unique .kIN 1),
    .advance 120000000, .alarm 0]

theorem events_mirror_cache_addressExpires :
    ∃ q, run listeners 0 exampleConfig addressExpires = .ok q ∧ q.Mirrors := by
  have heval : Outcome (fun _ => True) (fun _ => False)
      (run listeners 0 exampleConfig addressExpires) := by
    decide +kernel
  obtain ⟨q, hq, -⟩ := heval.exists_ok
  have hops : Along (step listeners 0 exampleConfig) Tame initial addressExpires :=
    ⟨trivial, fun _ _ => ⟨fun _ _ _ _ _ _ hgoodbye => absurd hgoodbye (by decide), fun _ _ =>
      ⟨trivial, fun _ _ => ⟨trivial, fun _ _ => trivial⟩⟩⟩⟩
  exact ⟨q, hq, events_mirror_cache (.inl fun _ _ _ _ hchange => by cases hchange) hops hq⟩

instance : Decidable q.Mirrors := inferInstanceAs (Decidable (∀ info ∈ _, _))

/-- The address is replaced by a negative response with TTL 0. -/
def nsecGoodbye : List Op :=
  [.startQuery exampleHost .kA .kIN 7, .processRecord (exampleAddress .unique .kIN 1),
    .processRecord (exampleNsec 0 (by norm_num))]

/-- A negative response is replaced by the goodbye of an address, which then expires. -/
def addressGoodbye : List Op :=
  [.startQuery exampleHost .kA .kIN 7, .processRecord (exampleNsec 120 (by norm_num)),
    .processRecord exampleGoodbye, .advance 1000000, .alarm 0]

theorem outcome_run_nsecGoodbye :
    Outcome (fun q => ¬ q.Mirrors) (fun _ => False)
      (run listeners 0 exampleConfig nsecGoodbye) := by
  decide +kernel

theorem outcome_run_addressGoodbye :
    Outcome (fun q => q.calls.map (·.event) = [.expired]) (fun _ => False)
      (run listeners 0 exampleConfig addressGoodbye) := by
  decide +kernel

/-- A client that answers an expiration by starting the query again, for another callback. -/
def restarting : Clients := fun calls =>
  match calls.getLast? with
  | some ⟨_, _, record, .expired⟩ => [⟨record.name, .kA, .kIN, 8, true⟩]
  | _ => []

theorem outcome_run_restarting :
    Outcome (fun q => ¬ q.Mirrors) (fun _ => False)
      (run restarting 5 exampleConfig addressExpires) := by
  decide +kernel

/-- An NSEC record with TTL 0 takes a record from the cache that no callback hears of; the goodbye
of a record that is known not to exist brings a `kExpired` without a `kCreated`; and a callback that
is registered while a record expires hears of the record, but not of its expiration. -/
theorem not_mirrors_goodbyes :
    (∃ q, run listeners 0 exampleConfig nsecGoodbye = .ok q ∧ ¬ q.Mirrors) ∧
      (∃ q, run listeners 0 exampleConfig addressGoodbye = .ok q ∧
        q.calls.map (·.event) = [.expired]) ∧
      ∃ q, run restarting 5 exampleConfig addressExpires = .ok q ∧ ¬ q.Mirrors :=
  ⟨outcome_run_nsecGoodbye.exists_ok, outcome_run_addressGoodbye.exists_ok,
    outcome_run_restarting.exists_ok⟩

end MdnsQuerier

end StreamerPlus.Discovery
