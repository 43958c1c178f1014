import StreamerPlus.Discovery.MdnsStopQuery
import StreamerPlus.Discovery.MdnsUniqueUpdate
import StreamerPlus.Lib.Bipartite

/-!
# Questions and the records that answer them

The trackers of the questions and of the records of a querier are nodes of a graph: the records
that answer a question are its known answers, and a record that is to expire is asked for with its
questions (`mdns_trackers.cc`). `MdnsQuerier::AddQuestion` connects a new question with the records
that `Find` returns for it, and `MdnsQuerier::AddRecord` a new record with the questions that it is
relevant to (`mdns_querier.cc`). A wildcard counts for `Find` if it is the question's, and for
`AddRecord` if it is the record's.

A question tracker is named by its question, of which there is one, and a record tracker by its
number. The operations are those that the querier's functions are made of, in any order.

## Main results

* `associated_iff` : the trackers are connected as they should be throughout a run exactly if no
  record is added for which a wildcard of a question counts.
-/

namespace StreamerPlus.Discovery

open RecordTrackerLruCache

/-- The type may be tracked. -/
def DnsType.IsTrackable (type : DnsType) : Prop := type ≠ .kNSEC ∧ type ≠ .kANY

theorem RecordTrackerLruCache.afterUpdate_dnsType {t : MdnsRecordTracker} {now : ℤ}
    {record : MdnsRecord} {check : MdnsRecordTracker → Bool} :
    (afterUpdate now record check t).dnsType = t.dnsType := by
  cases h : updated? now record check t with
  | none => rw [afterUpdate_of_none h]
  | some result => rw [afterUpdate_of_some h, (updated?_eq_some h).2.2.dnsType]

variable (question : MdnsQuestion)

/-- The question matches the record of a tracker. -/
def MdnsQuestion.Matches (type : DnsType) (dnsClass : DnsClass) : Prop :=
  (question.dnsType = type ∨ question.dnsType = .kANY) ∧
    (question.dnsClass = dnsClass ∨ question.dnsClass = .kANY)

instance (type : DnsType) (dnsClass : DnsClass) :
    Decidable (question.Matches type dnsClass) :=
  inferInstanceAs (Decidable (_ ∧ _))

/-- `is_relevant_type` and `is_relevant_class` of `AddRecord`. -/
def MdnsQuestion.isRelevant (query : MdnsQuestion) (type : DnsType) (dnsClass : DnsClass) : Bool :=
  (type = .kANY || type = query.dnsType) && (dnsClass = .kANY || dnsClass = query.dnsClass)

/-- No wildcard makes a difference: the question is not for any type, unless it is for another
class, and of a question and a record of the same type both or none are for any class. -/
def MdnsQuestion.Explicit (type : DnsType) (dnsClass : DnsClass) : Prop :=
  (question.dnsType = .kANY → question.dnsClass ≠ dnsClass ∧ question.dnsClass ≠ .kANY) ∧
    (question.dnsType = type → (question.dnsClass = .kANY ↔ dnsClass = .kANY))

/-- The test of `AddRecord` is the right one exactly if no wildcard makes a difference. -/
theorem MdnsQuestion.isRelevant_iff_matches {question : MdnsQuestion} {type : DnsType}
    {dnsClass : DnsClass} (htype : type ≠ .kANY) :
    (question.isRelevant type dnsClass ↔ question.Matches type dnsClass) ↔
      question.Explicit type dnsClass := by
  simp only [isRelevant, Matches, Explicit, Bool.and_eq_true, Bool.or_eq_true, decide_eq_true_eq]
  grind

namespace MdnsQueries

/-- `callbacks_.erase(name)` and `questions_.erase(name)`. -/
def eraseName (s : MdnsQueries) (name : DomainName) : MdnsQueries where
  callbacks := s.callbacks.filter (·.name.key ≠ name.key)
  questions := s.questions.filter (·.name.key ≠ name.key)
  nextRegistration := s.nextRegistration
  queryable info hinfo := s.queryable info (List.mem_of_mem_filter hinfo)
  asked question hquestion := s.asked question (List.mem_of_mem_filter hquestion)
  distinct := s.distinct.filter _

theorem questions_of_stopQuery {q q' : MdnsQueries} {name : DomainName}
    {dnsType : DnsType} {dnsClass : DnsClass} {callback n : ℕ}
    (h : q.stopQuery name dnsType dnsClass callback n = some q') : q'.questions ⊆ q.questions := by
  unfold stopQuery at h
  split_ifs at h
  · obtain ⟨l, -, rfl⟩ := Option.map_eq_some_iff.mp h
    unfold stopFinish
    simp only
    split_ifs
    · exact List.Subset.refl _
    · exact List.eraseP_subset
  · cases h
    exact List.Subset.refl _

/-- `StartQuery` adds at most one question, which is not there yet. -/
theorem questions_of_startQuery {q q' : MdnsQueries} {name : DomainName}
    {dnsType : DnsType} {dnsClass : DnsClass} {callback : ℕ}
    (h : q.startQuery name dnsType dnsClass callback = some q') :
    q'.questions = q.questions ∨
      ∃ question, question ∉ q.questions ∧ q'.questions = q.questions ++ [question] := by
  simp only [startQuery] at h
  split_ifs at h with hqueryable hknown htracked hname
  · cases h
    exact .inl rfl
  · cases h
    exact .inl rfl
  · cases h
    refine .inr ⟨_, fun hmem => htracked (List.any_eq_true.mpr ⟨_, hmem, ?_⟩), rfl⟩
    simp [MdnsQuestion.isFor]

end MdnsQueries

namespace RecordTrackerLruCache

/-- `Erase(domain, check)` of all trackers of a name. -/
def eraseName (c : RecordTrackerLruCache) (name : DomainName) : RecordTrackerLruCache :=
  ((c.records.filter (·.record.name.key = name.key)).map (·.id)).foldl erase c

theorem records_eraseName (c : RecordTrackerLruCache) (name : DomainName) :
    (c.eraseName name).records ⊆ c.records := by
  unfold eraseName
  generalize (c.records.filter (·.record.name.key = name.key)).map (·.id) = ids
  induction ids generalizing c with
  | nil => exact List.Subset.refl _
  | cons id ids ih => exact List.Subset.trans (ih (c.erase id)) (List.filter_subset_self _)

theorem mem_find_iff {c : RecordTrackerLruCache} {question : MdnsQuestion} {t : MdnsRecordTracker}
    (ht : t ∈ c.records) (hname : t.record.name.key = question.name.key) :
    t ∈ c.find question.name question.dnsType question.dnsClass ↔
      question.Matches t.dnsType t.record.dnsClass := by
  simp [find, finds, MdnsQuestion.Matches, ht, hname, or_comm]

variable {now : ℤ} {record : MdnsRecord} {check : MdnsRecordTracker → Bool} {t : MdnsRecordTracker}

theorem afterUpdate_dnsClass :
    (afterUpdate now record check t).record.dnsClass = t.record.dnsClass := by
  cases h : updated? now record check t with
  | none => rw [afterUpdate_of_none h]
  | some result =>
    obtain ⟨-, -, hupdated⟩ := updated?_eq_some h
    rw [afterUpdate_of_some h, hupdated.record, hupdated.dnsClass]
    split_ifs <;> rfl

theorem afterUpdate_name :
    (afterUpdate now record check t).record.name.key = t.record.name.key := by
  cases h : updated? now record check t with
  | none => rw [afterUpdate_of_none h]
  | some result =>
    obtain ⟨-, -, hupdated⟩ := updated?_eq_some h
    rw [afterUpdate_of_some h, hupdated.record, hupdated.name]
    split_ifs <;> rfl

end RecordTrackerLruCache

/-! ### The graph -/

/-- The maps of a querier, and the `adjacent_nodes_` of its trackers. -/
structure MdnsAssociations where
  queries : MdnsQueries
  records : RecordTrackerLruCache
  adjacent : Bipartite MdnsQuestion ℕ

namespace MdnsAssociations

/-- The maps as they are constructed. -/
def initial : MdnsAssociations := ⟨.empty, .empty, .empty⟩

variable (s : MdnsAssociations)

/-- `AddQuestion(question)`, for a question that is in the map. -/
def addQuestion (question : MdnsQuestion) : MdnsAssociations :=
  let trackers := s.records.find question.name question.dnsType question.dnsClass
  { s with adjacent := s.adjacent.connectAll (trackers.map fun t => (question, t.id)) }

/-- `StartQuery(name, dns_type, dns_class, callback)`. The new question, if there is one, is the
last of the map. -/
def startQuery (name : DomainName) (dnsType : DnsType) (dnsClass : DnsClass) (callback : ℕ) :
    Option MdnsAssociations := do
  let queries ← s.queries.startQuery name dnsType dnsClass callback
  return (queries.questions.drop s.queries.questions.length).foldl addQuestion { s with queries }

/-- Other queries take the place of the present ones; the trackers of the questions that are gone
are destroyed. -/
def withQueries (queries : MdnsQueries) : MdnsAssociations :=
  { s with
    queries
    adjacent := s.adjacent.removeLefts (s.queries.questions.filter (· ∉ queries.questions)) }

/-- `StopQuery(name, dns_type, dns_class, callback)`, if it ends within `n` iterations. -/
def stopQuery (name : DomainName) (dnsType : DnsType) (dnsClass : DnsClass) (callback n : ℕ) :
    Option MdnsAssociations :=
  (s.queries.stopQuery name dnsType dnsClass callback n).map s.withQueries

/-- Other records take the place of the present ones; the trackers of those that are gone are
destroyed. -/
def withRecords (records : RecordTrackerLruCache) : MdnsAssociations :=
  { s with
    records
    adjacent := s.adjacent.removeRights
      ((s.records.records.map (·.id)).filter (· ∉ records.records.map (·.id))) }

/-- `ReinitializeQueries(name)`. -/
def reinitializeQueries (name : DomainName) : Option MdnsAssociations :=
  (s.queries.callbacksOf name).foldlM
    (fun s info => s.startQuery name info.dnsType info.dnsClass info.callback)
    ((s.withQueries (s.queries.eraseName name)).withRecords (s.records.eraseName name))

/-- `AddRecord(record, type)`, when there is room for another tracker. -/
def addRecord (record : MdnsRecord) (type : DnsType) (h : record.FitsTracker type) (now : ℤ) :
    MdnsAssociations :=
  let queries := s.queries.questions.filter fun query =>
    query.name.key = record.name.key && query.isRelevant type record.dnsClass
  { s with
    records := s.records.emplace record type now h
    adjacent := s.adjacent.connectAll (queries.map fun query => (query, s.records.nextId)) }

/-- What a querier does with the maps. A record is only added for a type that may be tracked. -/
inductive Op
  | startQuery (name : DomainName) (dnsType : DnsType) (dnsClass : DnsClass) (callback : ℕ)
  | stopQuery (name : DomainName) (dnsType : DnsType) (dnsClass : DnsClass) (callback n : ℕ)
  | reinitializeQueries (name : DomainName)
  | addRecord (record : MdnsRecord) (type : DnsType) (h : record.FitsTracker type)
      (htype : type.IsTrackable) (now : ℤ)
  | update (now : ℤ) (record : MdnsRecord) (check : MdnsRecordTracker → Bool)
  | expireSoon (now : ℤ) (domain : DomainName) (check : MdnsRecordTracker → Bool)
  | sendQuery (number : ℕ)
  | expire (number : ℕ)

/-- One step. -/
def step : Op → Option MdnsAssociations
  | .startQuery name dnsType dnsClass callback => s.startQuery name dnsType dnsClass callback
  | .stopQuery name dnsType dnsClass callback n => s.stopQuery name dnsType dnsClass callback n
  | .reinitializeQueries name => s.reinitializeQueries name
  | .addRecord record type h _ now => some (s.addRecord record type h now)
  | .update now record check => some { s with records := (s.records.update now record check).1 }
  | .expireSoon now domain check =>
    some { s with records := (s.records.expireSoon now domain check).1 }
  | .sendQuery number => some { s with
      records := s.records.replace
        (fun t => if t.id = number then { t with attemptCount := t.attemptCount + 1 } else t)
        s.records.lruOrder (fun t => by split_ifs <;> rfl) (.refl _) }
  | .expire number => some (s.withRecords (s.records.erase number))

/-- A run from the start. -/
def run (ops : List Op) : Option MdnsAssociations := ops.foldlM step initial

/-! ### How trackers should be connected -/

/-- A question and a record of the same name are neighbours exactly if they match. -/
def Associated : Prop :=
  ∀ question ∈ s.queries.questions, ∀ t ∈ s.records.records,
    t.record.name.key = question.name.key →
      (s.adjacent.Adj question t.id ↔ question.Matches t.dnsType t.record.dnsClass)

instance : Decidable s.Associated :=
  inferInstanceAs (Decidable (∀ question ∈ _, ∀ t ∈ _, _ → (_ ↔ _)))

/-- Only trackers that exist are neighbours. -/
def Live : Prop :=
  ∀ question id, s.adjacent.Adj question id →
    question ∈ s.queries.questions ∧ id ∈ s.records.records.map (·.id)

/-- No wildcard makes a difference when the record is added. -/
def Explicit : Op → Prop
  | .addRecord record type _ _ _ => ∀ question ∈ s.queries.questions,
      question.name.key = record.name.key → question.Explicit type record.dnsClass
  | _ => True

variable {s} {s' : MdnsAssociations}

theorem live_initial : initial.Live := fun question id hadj =>
  absurd hadj (Bipartite.not_adj_empty question id)

theorem associated_initial : initial.Associated :=
  fun _ hquestion => absurd hquestion List.not_mem_nil

/-! ### Trackers that go away -/

/-- Questions and records go away, and their neighbours lose them. -/
structure Shrinks (s s' : MdnsAssociations) : Prop where
  questions : s'.queries.questions ⊆ s.queries.questions
  records : ∀ t' ∈ s'.records.records, ∃ t ∈ s.records.records, t'.id = t.id ∧
    t'.dnsType = t.dnsType ∧ t'.record.dnsClass = t.record.dnsClass ∧
    t'.record.name.key = t.record.name.key
  adj_iff : ∀ question id, s'.adjacent.Adj question id ↔ s.adjacent.Adj question id ∧
    question ∈ s'.queries.questions ∧ id ∈ s'.records.records.map (·.id)

theorem Shrinks.live (h : Shrinks s s') : s'.Live :=
  fun question id hadj => ((h.adj_iff question id).mp hadj).2

theorem Shrinks.associated (h : Shrinks s s') (hs : s.Associated) : s'.Associated := by
  intro question hquestion t' ht' hname
  obtain ⟨t, ht, hid, htype, hclass, hkey⟩ := h.records t' ht'
  have hold := hs question (h.questions hquestion) t ht (hkey ▸ hname)
  have hmem : t'.id ∈ s'.records.records.map (·.id) := List.mem_map_of_mem ht'
  rw [h.adj_iff, htype, hclass, ← hold, hid]
  simp [hquestion, ← hid, hmem]

theorem shrinks_withQueries (hlive : s.Live) {queries : MdnsQueries}
    (h : queries.questions ⊆ s.queries.questions) : Shrinks s (s.withQueries queries) where
  questions := h
  records t ht := ⟨t, ht, rfl, rfl, rfl, rfl⟩
  adj_iff question id := by
    simp only [withQueries, Bipartite.adj_removeLefts]
    refine and_congr_right fun hadj => ?_
    obtain ⟨hquestion, hid⟩ := hlive question id hadj
    simp [hquestion, hid]

theorem shrinks_withRecords (hlive : s.Live) {records : RecordTrackerLruCache}
    (h : records.records ⊆ s.records.records) : Shrinks s (s.withRecords records) where
  questions := List.Subset.refl _
  records t ht := ⟨t, h ht, rfl, rfl, rfl, rfl⟩
  adj_iff question id := by
    simp only [withRecords, Bipartite.adj_removeRights]
    refine and_congr_right fun hadj => ?_
    obtain ⟨hquestion, hid⟩ := hlive question id hadj
    rw [List.mem_filter]
    simp [hquestion, hid]

/-- Trackers that get other records for their name, type and class are the same. -/
theorem shrinks_map (hlive : s.Live) {records : RecordTrackerLruCache}
    {f : MdnsRecordTracker → MdnsRecordTracker} (h : records.records = s.records.records.map f)
    (hf : ∀ t, (f t).id = t.id ∧ (f t).dnsType = t.dnsType ∧
      (f t).record.dnsClass = t.record.dnsClass ∧ (f t).record.name.key = t.record.name.key) :
    Shrinks s { s with records } where
  questions := List.Subset.refl _
  records t' ht' := by
    rw [h] at ht'
    obtain ⟨t, ht, rfl⟩ := List.mem_map.mp ht'
    exact ⟨t, ht, hf t⟩
  adj_iff question id := by
    have hids : records.records.map (·.id) = s.records.records.map (·.id) := by
      rw [h, List.map_map]
      exact List.map_congr_left fun t _ => (hf t).1
    simp only [hids]
    exact ⟨fun hadj => ⟨hadj, hlive question id hadj⟩, fun h => h.1⟩

/-! ### New questions -/

theorem adj_addQuestion {question question' : MdnsQuestion} {id : ℕ} :
    (s.addQuestion question).adjacent.Adj question' id ↔ s.adjacent.Adj question' id ∨
      question' = question ∧
        ∃ t ∈ s.records.find question.name question.dnsType question.dnsClass, t.id = id := by
  simp only [addQuestion, Bipartite.adj_connectAll, List.mem_map, Prod.mk.injEq]
  grind

variable {question : MdnsQuestion}

/-- A new question is connected with the records that it matches. -/
theorem adj_addQuestion_self {t : MdnsRecordTracker}
    (hnew : ¬s.adjacent.Adj question t.id) (ht : t ∈ s.records.records)
    (hname : t.record.name.key = question.name.key) :
    (s.addQuestion question).adjacent.Adj question t.id ↔
      question.Matches t.dnsType t.record.dnsClass := by
  rw [adj_addQuestion, ← mem_find_iff ht hname]
  constructor
  · rintro (hadj | ⟨-, t', ht', hid⟩)
    · exact absurd hadj hnew
    · exact eq_of_id_eq (List.mem_of_mem_filter ht') ht hid ▸ ht'
  · exact fun hfind => .inr ⟨rfl, t, hfind, rfl⟩

theorem live_addQuestion (hquestion : question ∈ s.queries.questions)
    (hlive : s.Live) : (s.addQuestion question).Live := by
  intro question' id hadj
  rcases adj_addQuestion.mp hadj with hadj | ⟨rfl, t, ht, rfl⟩
  · exact hlive question' id hadj
  · exact ⟨hquestion, List.mem_map_of_mem (List.mem_of_mem_filter ht)⟩

/-- `StartQuery` connects its question with the records that it matches. -/
theorem associated_startQuery {name : DomainName} {dnsType : DnsType} {dnsClass : DnsClass}
    {callback : ℕ} (h : s.startQuery name dnsType dnsClass callback = some s') (hlive : s.Live)
    (hs : s.Associated) : s'.Live ∧ s'.Associated := by
  obtain ⟨queries, hqueries, h⟩ := Option.bind_eq_some_iff.mp h
  cases h
  rcases MdnsQueries.questions_of_startQuery hqueries with hsame | ⟨question, hnew, hadded⟩
  · rw [hsame, List.drop_length]
    refine ⟨fun q id hadj => ?_, fun q hq => ?_⟩
    · exact hsame ▸ hlive q id hadj
    · exact hs q (hsame ▸ hq)
  · rw [hadded, List.drop_left]
    simp only [List.foldl_cons, List.foldl_nil]
    refine ⟨live_addQuestion (by simp [hadded]) fun q id hadj => ?_, fun q hq t ht hname => ?_⟩
    · obtain ⟨hq, hid⟩ := hlive q id hadj
      simp [hadded, hq, hid]
    · rcases List.mem_append.mp (hadded ▸ hq) with hq | hq
      · have hne : q ≠ question := fun heq => hnew (heq ▸ hq)
        rw [adj_addQuestion, ← hs q hq t ht hname]
        simp [hne]
      · obtain rfl := List.mem_singleton.mp hq
        exact adj_addQuestion_self (fun hadj => hnew (hlive q t.id hadj).1) ht hname

/-- `ReinitializeQueries` connects the questions that it starts again with nothing but what they
match. -/
theorem associated_reinitializeQueries {name : DomainName}
    (h : s.reinitializeQueries name = some s') (hlive : s.Live) (hs : s.Associated) :
    s'.Live ∧ s'.Associated := by
  have hqueries : Shrinks s (s.withQueries (s.queries.eraseName name)) :=
    shrinks_withQueries hlive (List.filter_subset_self _)
  have hrecords := shrinks_withRecords hqueries.live (records_eraseName s.records name)
  unfold reinitializeQueries at h
  have hstart := And.intro hrecords.live (hrecords.associated (hqueries.associated hs))
  generalize (s.withQueries (s.queries.eraseName name)).withRecords (s.records.eraseName name) =
    start at h hstart
  generalize s.queries.callbacksOf name = infos at h
  induction infos generalizing start with
  | nil =>
    cases h
    exact hstart
  | cons info infos ih =>
    rw [List.foldlM_cons] at h
    obtain ⟨next, hnext, h⟩ := Option.bind_eq_some_iff.mp h
    exact ih next (associated_startQuery hnext hstart.1 hstart.2) h

/-! ### New records -/

variable {record : MdnsRecord} {type : DnsType}

theorem adj_addRecord {h : record.FitsTracker type} {now : ℤ} {id : ℕ} :
    (s.addRecord record type h now).adjacent.Adj question id ↔ s.adjacent.Adj question id ∨
      id = s.records.nextId ∧ question ∈ s.queries.questions ∧
        question.name.key = record.name.key ∧ question.isRelevant type record.dnsClass := by
  simp only [addRecord, Bipartite.adj_connectAll, List.mem_map, Prod.mk.injEq, List.mem_filter,
    Bool.and_eq_true, decide_eq_true_eq]
  grind

theorem live_addRecord (h : record.FitsTracker type) (now : ℤ)
    (hlive : s.Live) : (s.addRecord record type h now).Live := by
  intro question id hadj
  simp only [addRecord, RecordTrackerLruCache.emplace, List.map_append, List.mem_append]
  rcases adj_addRecord.mp hadj with hadj | ⟨rfl, hquestion, -⟩
  · exact ⟨(hlive question id hadj).1, .inl (hlive question id hadj).2⟩
  · exact ⟨hquestion, .inr List.mem_cons_self⟩

/-- The number of the next tracker is not that of a neighbour. -/
theorem not_adj_nextId (hlive : s.Live) (question : MdnsQuestion) :
    ¬s.adjacent.Adj question s.records.nextId := by
  intro hadj
  obtain ⟨t, ht, hid⟩ := List.mem_map.mp (hlive question _ hadj).2
  exact (s.records.fresh t ht).ne hid

/-- A new record is connected as it should be exactly if no wildcard makes a difference. -/
theorem associated_addRecord_iff (h : record.FitsTracker type)
    (htype : type.IsTrackable) (now : ℤ) (hlive : s.Live) (hs : s.Associated) :
    (s.addRecord record type h now).Associated ↔
      s.Explicit (.addRecord record type h htype now) := by
  have hnew : ∀ question ∈ s.queries.questions, question.name.key = record.name.key →
      ((s.addRecord record type h now).adjacent.Adj question s.records.nextId ↔
        question.isRelevant type record.dnsClass) := by
    intro question hquestion hname
    rw [adj_addRecord]
    simp [not_adj_nextId hlive, hquestion, hname]
  constructor
  · intro hassociated question hquestion hname
    rw [← MdnsQuestion.isRelevant_iff_matches htype.2, ← hnew question hquestion hname]
    exact hassociated question hquestion ⟨s.records.nextId, record, type, now, 1, h⟩
      (List.mem_append_right _ List.mem_cons_self) hname.symm
  · intro hexplicit question hquestion t ht hname
    rcases List.mem_append.mp ht with ht | ht
    · have hid : t.id ≠ s.records.nextId := (s.records.fresh t ht).ne
      rw [adj_addRecord, ← hs question hquestion t ht hname]
      simp [hid]
    · obtain rfl := List.mem_singleton.mp ht
      exact (hnew question hquestion hname.symm).trans
        ((MdnsQuestion.isRelevant_iff_matches htype.2).mpr
          (hexplicit question hquestion hname.symm))

/-! ### Runs -/

/-- A step that adds no record, or one for which no wildcard makes a difference, keeps the trackers
connected as they should be. -/
theorem associated_step {op : Op} (hs' : s.step op = some s') (hlive : s.Live) (hs : s.Associated)
    (hexplicit : s.Explicit op) : s'.Live ∧ s'.Associated := by
  have hshrinks {s' : MdnsAssociations} (h : Shrinks s s') : s'.Live ∧ s'.Associated :=
    ⟨h.live, h.associated hs⟩
  cases op with
  | startQuery name dnsType dnsClass callback => exact associated_startQuery hs' hlive hs
  | stopQuery name dnsType dnsClass callback n =>
    obtain ⟨queries, hqueries, rfl⟩ := Option.map_eq_some_iff.mp hs'
    exact hshrinks (shrinks_withQueries hlive (MdnsQueries.questions_of_stopQuery hqueries))
  | reinitializeQueries name => exact associated_reinitializeQueries hs' hlive hs
  | addRecord record type h htype now =>
    cases hs'
    exact ⟨live_addRecord h now hlive,
      (associated_addRecord_iff h htype now hlive hs).mpr hexplicit⟩
  | update now record check =>
    cases hs'
    exact hshrinks (shrinks_map hlive rfl fun t =>
      ⟨afterUpdate_id, afterUpdate_dnsType, afterUpdate_dnsClass, afterUpdate_name⟩)
  | expireSoon now domain check =>
    cases hs'
    exact hshrinks (shrinks_map hlive rfl fun t => by split_ifs <;> exact ⟨rfl, rfl, rfl, rfl⟩)
  | sendQuery number =>
    cases hs'
    exact hshrinks (shrinks_map hlive rfl fun t => by split_ifs <;> exact ⟨rfl, rfl, rfl, rfl⟩)
  | expire number =>
    cases hs'
    exact hshrinks (shrinks_withRecords hlive (List.filter_subset_self _))

theorem run_append_singleton {ops : List Op} {op : Op} :
    run (ops ++ [op]) = (run ops).bind (·.step op) := by
  simp [run, List.foldlM_append]

theorem live_step {op : Op} (hs' : s.step op = some s') (hlive : s.Live) (hs : s.Associated) :
    s'.Live := by
  cases op with
  | addRecord record type h htype now =>
    cases hs'
    exact live_addRecord h now hlive
  | _ => exact (associated_step hs' hlive hs trivial).1

/-- **The trackers are connected as they should be throughout a run exactly if no wildcard makes a
difference for any of the records that are added.** -/
theorem associated_iff (ops : List Op) :
    (∀ before, before <+: ops → ∀ s, run before = some s → s.Associated) ↔
      ∀ before op, before ++ [op] <+: ops → ∀ s, run before = some s → s.Explicit op := by
  constructor
  · intro hassociated
    have hlive : ∀ before, before <+: ops → ∀ s, run before = some s → s.Live := by
      intro before
      induction before using List.reverseRecOn with
      | nil =>
        rintro - s hs
        cases hs
        exact live_initial
      | append_singleton before op ih =>
        intro hprefix s' hs'
        rw [run_append_singleton] at hs'
        obtain ⟨s, hs, hs'⟩ := Option.bind_eq_some_iff.mp hs'
        have hbefore : before <+: ops := (List.prefix_append _ _).trans hprefix
        exact live_step hs' (ih hbefore s hs) (hassociated before hbefore s hs)
    intro before op hprefix s hs
    have hbefore : before <+: ops := (List.prefix_append _ _).trans hprefix
    cases op with
    | addRecord record type h htype now =>
      refine (associated_addRecord_iff h htype now (hlive before hbefore s hs)
        (hassociated before hbefore s hs)).mp ?_
      exact hassociated _ hprefix _ (by rw [run_append_singleton, hs]; rfl)
    | _ => trivial
  · intro hexplicit before hprefix s hs
    suffices h : s.Live ∧ s.Associated from h.2
    induction before using List.reverseRecOn generalizing s with
    | nil =>
      cases hs
      exact ⟨live_initial, associated_initial⟩
    | append_singleton before op ih =>
      rw [run_append_singleton] at hs
      obtain ⟨s₀, hs₀, hs⟩ := Option.bind_eq_some_iff.mp hs
      obtain ⟨hlive, hassociated⟩ := ih ((List.prefix_append _ _).trans hprefix) s₀ hs₀
      exact associated_step hs hlive hassociated (hexplicit before op hprefix s₀ hs₀)

/-! ### A question for any type -/

/-- A client asks for everything about a host, and an address of the host is received. -/
def askForHost : Op := .startQuery MdnsQuerier.exampleHost .kANY .kIN 0
def receiveAddress : Op :=
  .addRecord (MdnsQuerier.exampleAddress .unique .kIN 1) .kA (by decide) ⟨by decide, by decide⟩ 0

/-- The question and the address are neighbours if the address comes first, and not if the question
does. -/
theorem not_associated_askForHost :
    (∃ s, run [receiveAddress, askForHost] = some s ∧
      s.adjacent.Adj MdnsQuerier.hostQuestion 0 ∧ s.Associated) ∧
    ∃ s, run [askForHost, receiveAddress] = some s ∧ ¬s.Associated := by
  have hrecord : (run [receiveAddress, askForHost]).any fun s =>
      s.adjacent.Adj MdnsQuerier.hostQuestion 0 ∧ s.Associated := by
    decide +kernel
  have hquestion : (run [askForHost, receiveAddress]).any fun s => ¬s.Associated := by
    decide +kernel
  simpa only [Option.any_eq_true, decide_eq_true_eq] using And.intro hrecord hquestion

end MdnsAssociations

end StreamerPlus.Discovery
