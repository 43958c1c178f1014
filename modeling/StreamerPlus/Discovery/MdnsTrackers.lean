import Mathlib.Data.List.Perm.Basic
import Mathlib.Data.List.Nodup
import StreamerPlus.Discovery.MdnsRecords

/-!
# Trackers of received records

An `MdnsRecordTracker` holds one received record, or an NSEC record that says that there is none,
and the time at which it expires (`mdns_trackers.cc`). The querier keeps its trackers in a cache of
bounded size in the order of their last use (`MdnsQuerier::RecordTrackerLruCache`).

A tracker is an object with an identity: it has a number here. The source keeps the trackers in the
list of the order and iterators to them in a multimap by name; here `records` has the trackers in
the order of their insertion, which is the order of the multimap among those of one name, and
`lruOrder` has their numbers. Times are in microseconds.
-/

namespace StreamerPlus.Discovery

/-! ### Trackers -/

/-- A second of the clock. -/
@[simp] def microsPerSecond : ℤ := 1000000

/-- `countof(kTtlFractions)`: a tracker asks again at four fractions of the TTL, and expires at the
fifth. -/
@[simp] def ttlFractionCount : ℕ := 5

variable (r : MdnsRecord)

/-- What a tracker of a type may hold: a record of the type, or an NSEC record. -/
def MdnsRecord.FitsTracker (dnsType : DnsType) : Prop :=
  r.dnsType = dnsType ∨ r.dnsType = .kNSEC ∧ r.rdata.nsecTypes?.isSome

instance (dnsType : DnsType) : Decidable (r.FitsTracker dnsType) :=
  inferInstanceAs (Decidable (_ ∨ _))

/-- `MdnsRecordTracker`. `attemptCount` is the number of alarms set since the record was received,
the last one included. -/
structure MdnsRecordTracker where
  id : ℕ
  record : MdnsRecord
  dnsType : DnsType
  startTime : ℤ
  attemptCount : ℕ
  fits : record.FitsTracker dnsType
  deriving DecidableEq

/-- `IsGoodbyeRecord(record)`. -/
def MdnsRecord.isGoodbyeRecord : Bool := r.ttl = 0

/-- `IsNegativeResponseForType(record, dns_type)`. -/
def MdnsRecord.isNegativeResponseForType (dnsType : DnsType) : Bool :=
  r.dnsType = .kNSEC && (r.rdata.nsecTypes?.getD []).any fun type => type = dnsType || type = .kANY

/-- A record with `kGoodbyeRecordTtl`. -/
def MdnsRecord.withGoodbyeTtl : MdnsRecord :=
  { r with ttl := 1, valid := ⟨by norm_num, r.valid.2⟩ }

namespace MdnsRecordTracker

variable (t : MdnsRecordTracker)

/-- `is_negative_response()`. -/
def isNegativeResponse : Bool := t.record.dnsType = .kNSEC

/-- When the record expires. -/
def expirationTime : ℤ := t.startTime + t.record.ttl * microsPerSecond

/-- The alarm is set for the expiration, at most a second from now. -/
def ExpiresSoon (now : ℤ) : Prop :=
  t.attemptCount = ttlFractionCount ∧ t.expirationTime ≤ now + microsPerSecond

/-- `UpdateType`. -/
inductive UpdateType
  | goodbye | ttlOnly | rdata
  deriving DecidableEq, Repr

/-- `has_same_rdata`. -/
def hasSameRdata (new : MdnsRecord) : Bool :=
  t.record.dnsType = new.dnsType && t.record.rdata.same new.rdata

/-- `ExpireSoon()`. -/
def expireSoon (now : ℤ) : MdnsRecordTracker :=
  { t with record := t.record.withGoodbyeTtl, startTime := now, attemptCount := ttlFractionCount }

/-- `Update(new_record)`: nothing if it is an error. A record that passes the check of its type fits
the tracker. -/
def update (now : ℤ) (new : MdnsRecord) : Option (UpdateType × MdnsRecordTracker) :=
  -- the new record has been passed to a wrong tracker
  if t.record.dnsClass ≠ new.dnsClass ∨ t.record.name.key ≠ new.name.key then none
  else if (new.dnsType ≠ .kNSEC ∧ new.dnsType ≠ t.dnsType) ∨
      (new.dnsType = .kNSEC ∧ ¬ new.isNegativeResponseForType t.dnsType) then none
  -- goodbye records must have the same RDATA
  else if new.dnsType ≠ .kNSEC ∧ ¬ t.isNegativeResponse ∧ new.isGoodbyeRecord ∧
      ¬ t.hasSameRdata new then none
  else if h : new.FitsTracker t.dnsType then
    if new.isGoodbyeRecord then
      some (.goodbye, { t with
        record := new.withGoodbyeTtl
        startTime := now
        attemptCount := ttlFractionCount
        fits := h })
    else
      some (if t.hasSameRdata new then .ttlOnly else .rdata, { t with
        record := new
        startTime := now
        attemptCount := 1
        fits := h })
  else none

end MdnsRecordTracker

/-! ### The cache -/

variable (order : List ℕ)

/-- The order after `MoveToBeginning` and `MoveToEnd`. -/
def moveToBeginning (id : ℕ) : List ℕ :=
  order.filter (· = id) ++ order.filter (· ≠ id)
def moveToEnd (id : ℕ) : List ℕ :=
  order.filter (· ≠ id) ++ order.filter (· = id)

theorem moveToBeginning_perm (id : ℕ) : (moveToBeginning order id).Perm order := by
  simpa [moveToBeginning] using List.filter_append_perm (· = id) order

theorem moveToEnd_perm (id : ℕ) : (moveToEnd order id).Perm order :=
  List.perm_append_comm.trans (moveToBeginning_perm order id)

/-- `RecordTrackerLruCache`. -/
structure RecordTrackerLruCache where
  records : List MdnsRecordTracker
  lruOrder : List ℕ
  nextId : ℕ
  perm : lruOrder.Perm (records.map (·.id))
  nodup : (records.map (·.id)).Nodup
  fresh : ∀ t ∈ records, t.id < nextId

namespace RecordTrackerLruCache

open MdnsRecordTracker

/-- The cache as it is constructed. -/
def empty : RecordTrackerLruCache :=
  ⟨[], [], 0, .refl _, List.nodup_nil, fun _ ht => absurd ht List.not_mem_nil⟩

variable (c : RecordTrackerLruCache)

/-- Whether a tracker is among those that `Find(name, dns_type, dns_class)` returns. -/
def finds (name : DomainName) (dnsType : DnsType) (dnsClass : DnsClass) (t : MdnsRecordTracker) :
    Bool :=
  t.record.name.key = name.key && (dnsType = .kANY || dnsType = t.dnsType) &&
    (dnsClass = .kANY || dnsClass = t.record.dnsClass)

/-- `Find(name, dns_type, dns_class)`. -/
def find (name : DomainName) (dnsType : DnsType) (dnsClass : DnsClass) : List MdnsRecordTracker :=
  c.records.filter (finds name dnsType dnsClass)

/-- Puts new trackers in the place of old ones, and lists them in a new order. -/
def replace (f : MdnsRecordTracker → MdnsRecordTracker) (order : List ℕ)
    (hf : ∀ t, (f t).id = t.id) (horder : order.Perm c.lruOrder) : RecordTrackerLruCache :=
  have hids : (c.records.map f).map (·.id) = c.records.map (·.id) := by
    rw [List.map_map]
    exact List.map_congr_left fun t _ => hf t
  { c with
    records := c.records.map f
    lruOrder := order
    perm := hids ▸ horder.trans c.perm
    nodup := hids ▸ c.nodup
    fresh := fun t ht => by
      obtain ⟨t', ht', rfl⟩ := List.mem_map.mp ht
      exact hf t' ▸ c.fresh t' ht' }

/-- `Erase(domain, check)` of one tracker. -/
def erase (id : ℕ) : RecordTrackerLruCache :=
  have hids : (c.records.filter (·.id ≠ id)).map (·.id) =
      (c.records.map (·.id)).filter (· ≠ id) := by
    rw [List.filter_map]
    rfl
  { c with
    records := c.records.filter (·.id ≠ id)
    lruOrder := c.lruOrder.filter (· ≠ id)
    perm := hids ▸ c.perm.filter _
    nodup := hids ▸ c.nodup.filter _
    fresh := fun t ht => c.fresh t (List.mem_of_mem_filter ht) }

/-- The end of `StartTracking(record, dns_type)`: the new tracker is at the front of the order. -/
def emplace (record : MdnsRecord) (dnsType : DnsType) (now : ℤ) (h : record.FitsTracker dnsType) :
    RecordTrackerLruCache where
  records := c.records ++ [⟨c.nextId, record, dnsType, now, 1, h⟩]
  lruOrder := c.nextId :: c.lruOrder
  nextId := c.nextId + 1
  perm := by
    rw [List.map_append, List.map_singleton]
    exact ((c.perm.cons _).trans (List.perm_append_singleton _ _).symm)
  nodup := by
    rw [List.map_append, List.map_singleton, ← List.concat_eq_append, List.nodup_concat]
    refine ⟨fun hmem => ?_, c.nodup⟩
    obtain ⟨t, ht, hid⟩ := List.mem_map.mp hmem
    exact (c.fresh t ht).ne hid
  fresh := List.forall_mem_append.mpr ⟨fun t ht => (c.fresh t ht).trans (Nat.lt_succ_self _),
    List.forall_mem_singleton.mpr (Nat.lt_succ_self _)⟩

/-- What becomes of a tracker that `Update(record, check, …)` comes to, if the update succeeds. -/
def updated? (now : ℤ) (record : MdnsRecord) (check : MdnsRecordTracker → Bool)
    (t : MdnsRecordTracker) : Option (UpdateType × MdnsRecordTracker) :=
  if t.record.name.key = record.name.key ∧ check t then
    match t.update now record with
    | some (.goodbye, t') => some (.goodbye, t'.expireSoon now)
    | result => result
  else none

end RecordTrackerLruCache

namespace MdnsRecordTracker

variable {t t' : MdnsRecordTracker} {now : ℤ} {new : MdnsRecord} {u : UpdateType}

/-- What a successful update leaves of a tracker, and what it takes from the record. -/
structure Updated (t : MdnsRecordTracker) (now : ℤ) (new : MdnsRecord) (u : UpdateType)
    (t' : MdnsRecordTracker) : Prop where
  id : t'.id = t.id
  dnsType : t'.dnsType = t.dnsType
  record : t'.record = if u = .goodbye then new.withGoodbyeTtl else new
  goodbye : u = .goodbye ↔ new.isGoodbyeRecord
  ttlOnly : u = .ttlOnly ↔ ¬ new.isGoodbyeRecord ∧ t.hasSameRdata new
  dnsClass : t.record.dnsClass = new.dnsClass
  name : t.record.name.key = new.name.key
  type : new.dnsType = .kNSEC ∨ new.dnsType = t.dnsType
  same : new.isGoodbyeRecord → t.hasSameRdata new ∨ new.dnsType = .kNSEC ∨ t.isNegativeResponse

theorem updated_of_update (h : t.update now new = some (u, t')) : Updated t now new u t' := by
  unfold update at h
  split_ifs at h with hwrong htype hgoodbye hfits hzero hsame <;>
    simp only [Option.some.injEq, Prod.mk.injEq] at h <;> obtain ⟨rfl, rfl⟩ := h <;>
    push Not at hwrong htype hgoodbye <;>
    have htype' := or_iff_not_imp_left.mpr htype.1
  · refine ⟨rfl, rfl, rfl, by simp [hzero], by simp [hzero], hwrong.1, hwrong.2, htype',
      fun h => ?_⟩
    grind
  · exact ⟨rfl, rfl, rfl, by simp [hzero], by simp [hzero, hsame], hwrong.1, hwrong.2, htype',
      fun h => absurd h hzero⟩
  · exact ⟨rfl, rfl, rfl, by simp [hzero], by simp [hzero, hsame], hwrong.1, hwrong.2, htype',
      fun h => absurd h hzero⟩

end MdnsRecordTracker

namespace RecordTrackerLruCache

open MdnsRecordTracker

variable {c : RecordTrackerLruCache} {t t' : MdnsRecordTracker} {now : ℤ} {record : MdnsRecord}
  {check : MdnsRecordTracker → Bool} {u : UpdateType}

theorem updated?_eq_some (h : updated? now record check t = some (u, t')) :
    t.record.name.key = record.name.key ∧ check t ∧ Updated t now record u t' := by
  unfold updated? at h
  split_ifs at h with hcheck
  refine ⟨hcheck.1, hcheck.2, ?_⟩
  split at h
  · -- a goodbye record has its TTL already when the tracker is told to expire
    rename_i t'' hupdate
    obtain ⟨rfl, rfl⟩ := Prod.mk.inj (Option.some.inj h)
    have hu := updated_of_update hupdate
    exact { hu with record := by simp [expireSoon, hu.record, MdnsRecord.withGoodbyeTtl] }
  · exact updated_of_update h

/-- The tracker in the place of `t` after an update. -/
def afterUpdate (now : ℤ) (record : MdnsRecord) (check : MdnsRecordTracker → Bool)
    (t : MdnsRecordTracker) : MdnsRecordTracker :=
  ((updated? now record check t).map Prod.snd).getD t

theorem afterUpdate_of_some (h : updated? now record check t = some (u, t')) :
    afterUpdate now record check t = t' := by
  rw [afterUpdate, h]
  rfl

theorem afterUpdate_of_none (h : updated? now record check t = none) :
    afterUpdate now record check t = t := by
  rw [afterUpdate, h]
  rfl

@[simp] theorem afterUpdate_id : (afterUpdate now record check t).id = t.id := by
  cases h : updated? now record check t with
  | none => rw [afterUpdate_of_none h]
  | some result => rw [afterUpdate_of_some h, (updated?_eq_some h).2.2.id]

/-- Steps that keep the elements of a list keep them altogether. -/
theorem foldl_perm {α : Type*} {f : List ℕ → α → List ℕ} (hf : ∀ l a, (f l a).Perm l) (as : List α)
    (l : List ℕ) : (as.foldl f l).Perm l := by
  induction as generalizing l with
  | nil => exact .refl l
  | cons a as ih => exact (ih _).trans (hf l a)

variable (c)

/-- `Update(record, check, on_rdata_update)`, with the outcomes of the updates that succeed. The
callback is for those of `UpdateType.rdata`. -/
def update (now : ℤ) (record : MdnsRecord) (check : MdnsRecordTracker → Bool) :
    RecordTrackerLruCache × List UpdateType :=
  let hits := c.records.filterMap (updated? now record check)
  let move (order : List ℕ) (hit : UpdateType × MdnsRecordTracker) : List ℕ :=
    if hit.1 = .goodbye then moveToEnd order hit.2.id else moveToBeginning order hit.2.id
  have hmove : ∀ order hit, (move order hit).Perm order := fun order hit => by
    unfold move
    split_ifs
    · exact moveToEnd_perm order hit.2.id
    · exact moveToBeginning_perm order hit.2.id
  (c.replace (afterUpdate now record check) (hits.foldl move c.lruOrder) (fun _ => afterUpdate_id)
    (foldl_perm hmove hits c.lruOrder), hits.map Prod.fst)

/-- `ExpireSoon(domain, check)`, with the number of trackers that it comes to. -/
def expireSoon (now : ℤ) (domain : DomainName) (check : MdnsRecordTracker → Bool) :
    RecordTrackerLruCache × ℕ :=
  let hit (t : MdnsRecordTracker) : Bool := t.record.name.key = domain.key && check t
  let hits := c.records.filter hit
  (c.replace (fun t => if hit t then t.expireSoon now else t)
    (hits.foldl (fun order t => moveToEnd order t.id) c.lruOrder)
    (fun t => by split_ifs <;> rfl) (foldl_perm (fun order t => moveToEnd_perm order t.id) hits _),
    hits.length)

/-- `lru_order_.back()`. -/
def back? : Option MdnsRecordTracker :=
  c.lruOrder.getLast?.bind fun id => c.records.find? (·.id = id)

variable {c}

theorem eq_of_id_eq (ht : t ∈ c.records) (ht' : t' ∈ c.records) (h : t.id = t'.id) : t = t' :=
  List.inj_on_of_nodup_map c.nodup ht ht' h

/-- What is defined at one element of a list only is what that element gives. -/
theorem filterMap_eq_toList {α β : Type*} {f : α → Option β} {l : List α} {a : α} (ha : a ∈ l)
    (hl : l.Nodup) (h : ∀ b ∈ l, b ≠ a → f b = none) : l.filterMap f = (f a).toList := by
  induction l with
  | nil => simp at ha
  | cons b l ih =>
    obtain ⟨hb, hl⟩ := List.nodup_cons.mp hl
    by_cases hab : b = a
    · subst hab
      have hrest : l.filterMap f = [] := List.filterMap_eq_nil_iff.mpr fun x hx =>
        h x (List.mem_cons_of_mem b hx) fun hxb => hb (hxb ▸ hx)
      cases hfb : f b <;> simp [hfb, hrest]
    · have ha : a ∈ l := (List.mem_cons.mp ha).resolve_left (Ne.symm hab)
      rw [List.filterMap_cons_none (h b List.mem_cons_self hab)]
      exact ih ha hl fun x hx => h x (List.mem_cons_of_mem b hx)

/-- The outcome of an update of one tracker. -/
theorem updates_of_id (now : ℤ) (record : MdnsRecord) (ht : t ∈ c.records) :
    (c.update now record fun t' => t'.id = t.id).2 =
      ((updated? now record (fun t' => t'.id = t.id) t).map Prod.fst).toList := by
  have hhits : c.records.filterMap (updated? now record fun t' => t'.id = t.id) =
      (updated? now record (fun t' => t'.id = t.id) t).toList :=
    filterMap_eq_toList ht (List.Nodup.of_map _ c.nodup) fun x hx hne => by
      have hid : x.id ≠ t.id := fun hid => hne (eq_of_id_eq hx ht hid)
      simp [updated?, hid]
  rw [update]
  simp only [hhits]
  cases updated? now record (fun t' => t'.id = t.id) t <;> rfl

/-- A count over the trackers, with one of them apart. -/
theorem countP_eq_add (ht : t ∈ c.records) (p : MdnsRecordTracker → Bool) :
    c.records.countP p =
      (if p t then 1 else 0) + (c.records.filter (·.id ≠ t.id)).countP p := by
  have hfilter : c.records.filter (·.id = t.id) = [t] := by
    rw [← List.filterMap_eq_filter]
    refine (filterMap_eq_toList ht (List.Nodup.of_map _ c.nodup) fun x hx hne => ?_).trans ?_
    · have hid : x.id ≠ t.id := fun hid => hne (eq_of_id_eq hx ht hid)
      simp [Option.guard, hid]
    · simp [Option.guard]
  have hcount := List.countP_eq_countP_filter_add c.records p (·.id = t.id)
  rw [hfilter, List.countP_singleton] at hcount
  simpa using hcount

end RecordTrackerLruCache

end StreamerPlus.Discovery
