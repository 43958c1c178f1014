import StreamerPlus.Discovery.MdnsTrackers
import StreamerPlus.Lib.Outcome

/-!
# `MdnsQuerier`

The querier caches the records that answer its questions, and tells the callbacks of `StartQuery`
when a record is created, updated or expired (`mdns_querier.cc`).

The callbacks are clients of any kind: `respond` is what the last of a sequence of calls returns,
which may depend on all calls before it. Each `StartQuery` that registers a callback has a number of
its own, with which its calls are logged; the log is not read by the querier. The questions, which
decide what is sent and which answers are looked at, are left out: records are processed in any
order, relevant or not.
-/

namespace StreamerPlus.Discovery

open Checked MdnsRecordTracker

/-- `CanBeQueried(type)`. -/
def canBeQueried (type : DnsType) : Bool :=
  type ∈ [DnsType.kA, .kAAAA, .kPTR, .kTXT, .kSRV, .kANY]

/-- `CanBeProcessed(type)`. -/
def canBeProcessed (type : DnsType) : Bool :=
  type ∈ [DnsType.kA, .kAAAA, .kPTR, .kTXT, .kSRV, .kNSEC]

/-- `kTranslatedNsecAnyQueryTypes`. -/
def kTranslatedNsecAnyQueryTypes : List DnsType := [.kA, .kPTR, .kTXT, .kAAAA, .kSRV]

/-- `CallbackInfo`, with the name that it is registered for. -/
structure CallbackInfo where
  registration : ℕ
  name : DomainName
  callback : ℕ
  dnsType : DnsType
  dnsClass : DnsClass
  deriving DecidableEq

/-- Whether a callback is registered for a record: the condition of `ProcessCallbacks`. -/
def CallbackInfo.hears (info : CallbackInfo) (record : MdnsRecord) : Bool :=
  info.name.key = record.name.key && (info.dnsType = .kANY || record.dnsType = info.dnsType) &&
    (info.dnsClass = .kANY || record.dnsClass = info.dnsClass)

/-- A call of `OnRecordChanged(record, event)`. -/
structure Call where
  registration : ℕ
  callback : ℕ
  record : MdnsRecord
  event : RecordChangedEvent
  deriving DecidableEq

/-- `PendingQueryChange`. -/
structure PendingQueryChange where
  name : DomainName
  dnsType : DnsType
  dnsClass : DnsClass
  callback : ℕ
  isStart : Bool
  deriving DecidableEq

/-- The options of `Config` that the querier reads. -/
structure QuerierConfig where
  querierMaxRecordsCached : ℕ
  ignoreNsecResponses : Bool
  positive : 0 < querierMaxRecordsCached

/-- The state of an `MdnsQuerier`, and the time of its clock. -/
structure MdnsQuerier where
  records : RecordTrackerLruCache
  callbacks : List CallbackInfo
  nextRegistration : ℕ
  calls : List Call
  now : ℤ

/-- What the clients return: to the last of these calls. -/
abbrev Clients := List Call → List PendingQueryChange

namespace MdnsQuerier

/-- Where the querier stops. `noProgress` is a loop that never ends; the others are its assertions
and a `std::get` of another alternative. The first three come from what the clients ask for. -/
inductive Fault
  | cannotBeQueried
  | noProgress
  | recursionLimit
  | badVariantAccess
  | trackerType
  | updatedCount
  | updateCount
  | expireCount
  | notReached
  | attemptCount
  deriving DecidableEq, Repr

/-- A fault that comes from what the clients ask for. -/
def Fault.OfClients (e : Fault) : Prop :=
  e = .cannotBeQueried ∨ e = .noProgress ∨ e = .recursionLimit

/-- A querier as it is constructed. -/
def initial : MdnsQuerier := ⟨.empty, [], 0, [], 0⟩

/-! ### Callbacks -/

variable (respond : Clients) (q : MdnsQuerier)

/-- Calls a callback. -/
def call (info : CallbackInfo) (record : MdnsRecord) (event : RecordChangedEvent) : MdnsQuerier :=
  { q with calls := q.calls ++ [⟨info.registration, info.callback, record, event⟩] }

/-- Calls a callback after another, and collects the changes that they return. -/
def callAll (event : RecordChangedEvent) :
    List (CallbackInfo × MdnsRecord) → MdnsQuerier → MdnsQuerier × List PendingQueryChange
  | [], q => (q, [])
  | (info, record) :: rest, q =>
    let q := q.call info record event
    let (q', pending) := callAll event rest q
    (q', respond q.calls ++ pending)

/-- Registers a callback, which hears of the records that are cached. -/
def addCallback (name : DomainName) (dnsType : DnsType) (dnsClass : DnsClass) (callback : ℕ) :
    MdnsQuerier × List PendingQueryChange :=
  let info : CallbackInfo := ⟨q.nextRegistration, name, callback, dnsType, dnsClass⟩
  let trackers := (q.records.find name dnsType dnsClass).filter (!·.isNegativeResponse)
  callAll respond .created (trackers.map fun t => (info, { t.record with name := name })) { q with
    callbacks := q.callbacks ++ [info]
    nextRegistration := q.nextRegistration + 1 }

/-- `StartQuery(name, dns_type, dns_class, callback)`. `apply` is `ApplyPendingChanges`. -/
def startQueryWith (apply : List PendingQueryChange → MdnsQuerier → Except Fault MdnsQuerier)
    (name : DomainName) (dnsType : DnsType) (dnsClass : DnsClass) (callback : ℕ) :
    Except Fault MdnsQuerier := do
  require (canBeQueried dnsType) .cannotBeQueried
  if q.callbacks.any fun info => info.name.key = name.key && info.dnsType = dnsType &&
      info.dnsClass = dnsClass && info.callback = callback then pure q
  else
    let (q, pending) := q.addCallback respond name dnsType dnsClass callback
    apply pending q

/-- `StopQuery(name, dns_type, dns_class, callback)`. The loop does not advance over a callback of
the same name that is registered for another type or class. -/
def stopQuery (name : DomainName) (dnsType : DnsType) (dnsClass : DnsClass) (callback : ℕ) :
    Except Fault MdnsQuerier := do
  if canBeQueried dnsType then
    let forKey (info : CallbackInfo) : Bool := info.dnsType = dnsType && info.dnsClass = dnsClass
    require (∀ info ∈ q.callbacks, info.name.key = name.key → forKey info) .noProgress
    pure { q with
      callbacks := q.callbacks.filter fun info =>
        !(info.name.key = name.key && info.callback = callback) }
  else pure q

/-- The body of the loop of `ApplyPendingChanges`. -/
def applyPendingChangeWith
    (apply : List PendingQueryChange → MdnsQuerier → Except Fault MdnsQuerier)
    (change : PendingQueryChange) : Except Fault MdnsQuerier :=
  if change.isStart then
    q.startQueryWith respond apply change.name change.dnsType change.dnsClass change.callback
  else q.stopQuery change.name change.dnsType change.dnsClass change.callback

/-- `ApplyPendingChanges(pending_changes)`. A query that is started may bring further changes; the
depth of this recursion is bounded by `limit`. -/
def applyPendingChanges : ℕ → List PendingQueryChange → MdnsQuerier → Except Fault MdnsQuerier
  | _, [], q => .ok q
  | 0, _ :: _, _ => .error .recursionLimit
  | limit + 1, pending, q =>
    pending.foldlM (fun q change =>
      q.applyPendingChangeWith respond (applyPendingChanges limit) change) q

variable (limit : ℕ)

/-- `StartQuery(name, dns_type, dns_class, callback)`, called by a client. -/
def startQuery (name : DomainName) (dnsType : DnsType) (dnsClass : DnsClass) (callback : ℕ) :
    Except Fault MdnsQuerier :=
  q.startQueryWith respond (applyPendingChanges respond limit) name dnsType dnsClass callback

/-- `ProcessCallbacks(record, event)`. -/
def processCallbacks (record : MdnsRecord) (event : RecordChangedEvent) :
    Except Fault MdnsQuerier :=
  let (q, pending) := callAll respond event
    ((q.callbacks.filter (·.hears record)).map fun info => (info, record)) q
  applyPendingChanges respond limit pending q

/-! ### The cache -/

/-- `OnRecordExpired(tracker, record)`, with the record of the tracker. -/
def onRecordExpired (t : MdnsRecordTracker) : Except Fault MdnsQuerier := do
  let q ← (if t.isNegativeResponse then pure q
    else q.processCallbacks respond limit t.record .expired)
  pure { q with records := q.records.erase t.id }

variable (config : QuerierConfig)

/-- The loop of `StartTracking`, which expires trackers from the back of the order until there is
room for another. It ends at the latest when there is no tracker left. -/
def makeRoom : ℕ → MdnsQuerier → Except Fault MdnsQuerier
  | 0, q => .ok q
  | count + 1, q =>
    if q.records.lruOrder.length < config.querierMaxRecordsCached then .ok q
    else
      match q.records.back? with
      | none => .ok q
      | some t => do
        let q ← q.onRecordExpired respond limit t
        makeRoom count q

variable (record : MdnsRecord)

/-- `AddRecord(record, type)`. -/
def addRecord (type : DnsType) (h : record.FitsTracker type) :
    Except Fault MdnsQuerier := do
  let q ← makeRoom respond limit config q.records.lruOrder.length q
  -- a tracker cannot be created for the types NSEC and ANY
  require (type ≠ .kNSEC ∧ type ≠ .kANY) .trackerType
  pure { q with records := q.records.emplace record type q.now h }

/-- `AddRecord(record, type)` and then `ProcessCallbacks` unless the record is an NSEC record. -/
def createRecord (type : DnsType) (h : record.FitsTracker type) :
    Except Fault MdnsQuerier := do
  let q ← q.addRecord respond limit config record type h
  if record.dnsType ≠ .kNSEC then q.processCallbacks respond limit record .created else pure q

/-! ### Processing a record -/

/-- `ProcessSharedRecord(record, dns_type)`. -/
def processSharedRecord (type : DnsType) (h : record.FitsTracker type) : Except Fault MdnsQuerier :=
  if record.dnsType = .kNSEC then .ok q
  else
    let update := q.records.update q.now record fun t =>
      record.dnsType = t.dnsType && record.dnsClass = t.record.dnsClass &&
        record.rdata.same t.record.rdata
    let q := { q with records := update.1 }
    if update.2 = [] then q.createRecord respond limit config record type h else .ok q

/-- The event that a change of a tracker's rdata is, if it is one. -/
def changeEvent (existedPreviously willExist : Bool) : Option RecordChangedEvent :=
  match existedPreviously, willExist with
  | true, true => some .updated
  | true, false => some .expired
  | false, true => some .created
  | false, false => none

/-- `on_rdata_change` of `ProcessSinglyTrackedUniqueRecord`, for the tracker as it was. -/
def onRdataChange (t : MdnsRecordTracker) : Except Fault MdnsQuerier :=
  let existedPreviously := !t.isNegativeResponse
  let willExist : Bool := record.dnsType ≠ .kNSEC
  let recordForCallback :=
    if existedPreviously && !willExist then { t.record with name := record.name } else record
  match changeEvent existedPreviously willExist with
  | some event => q.processCallbacks respond limit recordForCallback event
  | none => .ok q

/-- `ProcessSinglyTrackedUniqueRecord(record, tracker)`. -/
def processSinglyTrackedUniqueRecord (t : MdnsRecordTracker) :
    Except Fault MdnsQuerier := do
  let update := q.records.update q.now record fun t' => t'.id = t.id
  let q := { q with records := update.1 }
  let q ← (if UpdateType.rdata ∈ update.2 then q.onRdataChange respond limit record t else pure q)
  require (update.2.length = 1) .updatedCount
  pure q

/-- `update_check` and `expire_check` of `ProcessMultiTrackedUniqueRecord`. -/
def updateCheck (type : DnsType) (t : MdnsRecordTracker) : Bool :=
  t.dnsType = type && t.record.dnsClass = record.dnsClass && t.record.rdata.same record.rdata
def expireCheck (type : DnsType) (t : MdnsRecordTracker) : Bool :=
  t.dnsType = type && t.record.dnsClass = record.dnsClass && !t.record.rdata.same record.rdata

/-- `ProcessMultiTrackedUniqueRecord(record, dns_type)`. -/
def processMultiTrackedUniqueRecord (type : DnsType)
    (h : record.FitsTracker type) : Except Fault MdnsQuerier := do
  let update := q.records.update q.now record (updateCheck record type)
  require (UpdateType.rdata ∉ update.2) .notReached
  require (update.2.length ≤ 1) .updateCount
  let expire := update.1.expireSoon q.now record.name (expireCheck record type)
  require (1 ≤ expire.2) .expireCount
  let q := { q with records := expire.1 }
  if update.2.length = 0 ∧ expire.2 = 0 then q.createRecord respond limit config record type h
  else pure q

/-- `ProcessUniqueRecord(record, dns_type)`. -/
def processUniqueRecord (type : DnsType) (h : record.FitsTracker type) : Except Fault MdnsQuerier :=
  match q.records.find record.name type record.dnsClass with
  | [] => q.createRecord respond limit config record type h
  | [t] => q.processSinglyTrackedUniqueRecord respond limit record t
  | _ => q.processMultiTrackedUniqueRecord respond limit config record type h

/-- The body of the loop of `ProcessRecord`. -/
def processRecordAs (type : DnsType) : Except Fault MdnsQuerier :=
  if h : record.FitsTracker type then
    match record.recordType with
    | .shared => q.processSharedRecord respond limit config record type h
    | .unique => q.processUniqueRecord respond limit config record type h
  else .error .badVariantAccess

/-- The types that a record is processed for, as `ProcessRecord(record)` finds them. -/
def typesOf : Except Fault (List DnsType) :=
  if record.dnsType = .kNSEC then
    match record.rdata.nsecTypes? with
    | none => .error .badVariantAccess
    | some types => .ok (if .kANY ∈ types then kTranslatedNsecAnyQueryTypes else types)
  else .ok [record.dnsType]

/-- `ProcessRecord(record)`. -/
def processRecord : Except Fault MdnsQuerier :=
  if !canBeProcessed record.dnsType then .ok q
  else if config.ignoreNsecResponses && record.dnsType = .kNSEC then .ok q
  else do
    let types ← typesOf record
    types.foldlM (fun q type => q.processRecordAs respond limit config record type) q

/-! ### Time -/

/-- The alarm of a tracker: `SendQuery()` and what follows it. Before the record expires the alarm
is set again. -/
def onAlarm (t : MdnsRecordTracker) : Except Fault MdnsQuerier :=
  if q.now < t.expirationTime then do
    require (t.attemptCount < ttlFractionCount) .attemptCount
    pure { q with
      records := q.records.replace
        (fun t' => if t'.id = t.id then { t' with attemptCount := t'.attemptCount + 1 } else t')
        q.records.lruOrder (fun t' => by split_ifs <;> rfl) (.refl _) }
  else q.onRecordExpired respond limit t

/-! ### Runs -/

/-- What happens to a querier. The alarm is that of the tracker with a number, if it is still there
and not only due later; the clients call `StartQuery` and `StopQuery` at any time. -/
inductive Op
  | startQuery (name : DomainName) (dnsType : DnsType) (dnsClass : DnsClass) (callback : ℕ)
  | stopQuery (name : DomainName) (dnsType : DnsType) (dnsClass : DnsClass) (callback : ℕ)
  | processRecord (record : MdnsRecord)
  | advance (time : ℕ)
  | alarm (number : ℕ)

/-- One step. -/
def step (q : MdnsQuerier) : Op → Except Fault MdnsQuerier
  | .startQuery name dnsType dnsClass callback =>
    q.startQuery respond limit name dnsType dnsClass callback
  | .stopQuery name dnsType dnsClass callback => q.stopQuery name dnsType dnsClass callback
  | .processRecord record => q.processRecord respond limit config record
  | .advance time => .ok { q with now := q.now + time }
  | .alarm number =>
    match q.records.records.find? (·.id = number) with
    | some t =>
      -- the last alarm is set for the time of the expiration
      if t.attemptCount = ttlFractionCount ∧ q.now < t.expirationTime then .ok q
      else q.onAlarm respond limit t
    | none => .ok q

/-- A run from the start. -/
def run (ops : List Op) : Except Fault MdnsQuerier :=
  ops.foldlM (step respond limit config) initial

/-! ### What the clients leave alone -/

variable {respond limit config} {q q' : MdnsQuerier} {event : RecordChangedEvent}

theorem calls_callAll (event : RecordChangedEvent) (l : List (CallbackInfo × MdnsRecord))
    (q : MdnsQuerier) :
    (callAll respond event l q).1 = { q with
      calls := q.calls ++ l.map fun c => ⟨c.1.registration, c.1.callback, c.2, event⟩ } := by
  induction l generalizing q with
  | nil => simp [callAll]
  | cons c l ih =>
    obtain ⟨info, record⟩ := c
    simp [callAll, ih, call]

/-- The cache and the clock are as they were. -/
def SameCache (q q' : MdnsQuerier) : Prop := q'.records = q.records ∧ q'.now = q.now

theorem SameCache.trans {q'' : MdnsQuerier} (h : SameCache q q') (h' : SameCache q' q'') :
    SameCache q q'' :=
  ⟨h'.1.trans h.1, h'.2.trans h.2⟩

theorem outcome_startQueryWith
    {apply : List PendingQueryChange → MdnsQuerier → Except Fault MdnsQuerier}
    (happly : ∀ pending q, Outcome (SameCache q) Fault.OfClients (apply pending q))
    (name : DomainName) (dnsType : DnsType) (dnsClass : DnsClass) (callback : ℕ) :
    Outcome (SameCache q) Fault.OfClients
      (q.startQueryWith respond apply name dnsType dnsClass callback) := by
  refine Outcome.require_bind (fun _ => .inl rfl) fun _ => ?_
  split_ifs
  · exact ⟨rfl, rfl⟩
  · have hcalls : SameCache q (q.addCallback respond name dnsType dnsClass callback).1 := by
      rw [addCallback, calls_callAll]
      exact ⟨rfl, rfl⟩
    exact (happly _ _).mono (fun _ => hcalls.trans) fun _ => id

theorem outcome_stopQuery (name : DomainName) (dnsType : DnsType) (dnsClass : DnsClass)
    (callback : ℕ) :
    Outcome (SameCache q) Fault.OfClients (q.stopQuery name dnsType dnsClass callback) := by
  unfold stopQuery
  split_ifs
  · exact Outcome.require_bind (fun _ => .inr (.inl rfl)) fun _ => ⟨rfl, rfl⟩
  · exact ⟨rfl, rfl⟩

theorem outcome_applyPendingChangeWith
    {apply : List PendingQueryChange → MdnsQuerier → Except Fault MdnsQuerier}
    (happly : ∀ pending q, Outcome (SameCache q) Fault.OfClients (apply pending q))
    (change : PendingQueryChange) :
    Outcome (SameCache q) Fault.OfClients (q.applyPendingChangeWith respond apply change) := by
  unfold applyPendingChangeWith
  split_ifs
  · exact outcome_startQueryWith happly change.name change.dnsType change.dnsClass change.callback
  · exact outcome_stopQuery change.name change.dnsType change.dnsClass change.callback

/-- Whatever the clients ask for, the cache stays as it is, and only they are to blame for a
fault. -/
theorem outcome_applyPendingChanges (pending : List PendingQueryChange) (q : MdnsQuerier) :
    Outcome (SameCache q) Fault.OfClients (applyPendingChanges respond limit pending q) := by
  induction limit generalizing pending q with
  | zero =>
    cases pending with
    | nil => exact ⟨rfl, rfl⟩
    | cons => exact .inr (.inr rfl)
  | succ limit ih =>
    cases pending with
    | nil => exact ⟨rfl, rfl⟩
    | cons change rest =>
      refine Outcome.foldlM ⟨rfl, rfl⟩ fun q' change _ hq' => ?_
      exact (outcome_applyPendingChangeWith ih change).mono (fun _ => hq'.trans) fun _ => id

theorem outcome_processCallbacks (event : RecordChangedEvent) :
    Outcome (SameCache q) Fault.OfClients (q.processCallbacks respond limit record event) := by
  refine (outcome_applyPendingChanges _ _).mono (fun q' h => ?_) fun _ => id
  rwa [calls_callAll] at h

theorem outcome_onRdataChange (t : MdnsRecordTracker) :
    Outcome (SameCache q) Fault.OfClients (q.onRdataChange respond limit record t) := by
  simp only [onRdataChange]
  cases changeEvent (!t.isNegativeResponse) (record.dnsType ≠ .kNSEC) with
  | none => exact ⟨rfl, rfl⟩
  | some event => exact outcome_processCallbacks _ event

theorem outcome_onRecordExpired (t : MdnsRecordTracker) :
    Outcome (fun q' => q'.records = q.records.erase t.id ∧ q'.now = q.now) Fault.OfClients
      (q.onRecordExpired respond limit t) := by
  refine Outcome.bind (Q := SameCache q) ?_ fun q' hq' => ?_
  · split_ifs
    · exact ⟨rfl, rfl⟩
    · exact outcome_processCallbacks t.record .expired
  · exact ⟨by rw [hq'.1], hq'.2⟩

/-- Making room only takes trackers away. -/
theorem outcome_makeRoom (count : ℕ) (q : MdnsQuerier) :
    Outcome (fun q' => q'.records.records.Sublist q.records.records ∧ q'.now = q.now)
      Fault.OfClients (makeRoom respond limit config count q) := by
  induction count generalizing q with
  | zero => exact ⟨.refl _, rfl⟩
  | succ count ih =>
    unfold makeRoom
    split_ifs
    · exact ⟨.refl _, rfl⟩
    · split
      · exact ⟨.refl _, rfl⟩
      · refine (outcome_onRecordExpired _).bind fun q' hq' => ?_
        refine (ih q').mono (fun q'' h => ⟨h.1.trans ?_, h.2.trans hq'.2⟩) fun _ => id
        rw [hq'.1]
        exact List.filter_sublist

/-! ### Records of a host -/

/-- A host, and a record with an address of it. -/
def exampleHost : DomainName := sampleHost
def exampleAddress (recordType : RecordType) (dnsClass : DnsClass) (n : UInt8) : MdnsRecord :=
  ⟨exampleHost, .kA, dnsClass, recordType, 120, .a ⟨[192, 168, 0, n], rfl⟩ 0, by norm_num, rfl⟩

/-- The question of a client that asks for everything about the host. -/
def hostQuestion : MdnsQuestion := sampleQuestion

/-- Clients that only listen, and a cache for ten records. -/
def listeners : Clients := fun _ => []
def exampleConfig : QuerierConfig := ⟨10, false, by norm_num⟩

end MdnsQuerier

end StreamerPlus.Discovery
